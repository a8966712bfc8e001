/-!
# Dictionaries in ascending order of names

A dictionary keeps its entries strictly ascending by name, so equal contents are
equal dictionaries and every listing is in order. `get?_insert` says what a
lookup finds after an insertion.
-/

namespace Localizable

/-- Values under distinct names, strictly ascending in the order of code points. -/
structure Dictionary (α : Type) where
  entries : List (String × α)
  ascending : entries.Pairwise (fun left right => left.1 < right.1)
deriving DecidableEq

namespace Dictionary

variable {α β : Type}

instance [Repr α] : Repr (Dictionary α) := ⟨fun dictionary precedence => reprPrec dictionary.entries precedence⟩

def empty : Dictionary α := ⟨[], .nil⟩

instance : EmptyCollection (Dictionary α) := ⟨empty⟩
instance : Inhabited (Dictionary α) := ⟨empty⟩

/-- The value filed under a name. -/
def find (name : String) : List (String × α) → Option α
  | [] => none
  | (key, value) :: rest => if key = name then some value else find name rest

/-- Files a value at its place, replacing what stood there under the same name. -/
def place (name : String) (value : α) : List (String × α) → List (String × α)
  | [] => [(name, value)]
  | (key, old) :: rest =>
    if name < key then (name, value) :: (key, old) :: rest
    else if name = key then (name, value) :: rest
    else (key, old) :: place name value rest

theorem mem_place {name : String} {value : α} {entry : String × α} {entries : List (String × α)}
    (member : entry ∈ place name value entries) : entry = (name, value) ∨ entry ∈ entries := by
  induction entries with
  | nil => simpa [place] using member
  | cons head rest ih =>
    obtain ⟨key, old⟩ := head
    rw [place] at member
    split at member
    · simpa using member
    · split at member <;> grind

theorem place_ascending (name : String) (value : α) {entries : List (String × α)}
    (ascending : entries.Pairwise (fun left right => left.1 < right.1)) :
    (place name value entries).Pairwise (fun left right => left.1 < right.1) := by
  induction entries with
  | nil => simp [place]
  | cons head rest ih =>
    obtain ⟨key, old⟩ := head
    rw [List.pairwise_cons] at ascending
    rw [place]
    split
    next before =>
      refine List.pairwise_cons.2 ⟨fun entry member => ?_, List.pairwise_cons.2 ascending⟩
      rcases List.mem_cons.1 member with rfl | later
      · exact before
      · exact String.lt_trans before (ascending.1 entry later)
    next notBefore =>
      split
      next same => subst same; exact List.pairwise_cons.2 ascending
      next different =>
        refine List.pairwise_cons.2 ⟨fun entry member => ?_, ih ascending.2⟩
        rcases mem_place member with rfl | later
        · exact String.not_le.1 fun atMost => different (String.le_antisymm atMost (String.not_lt.1 notBefore))
        · exact ascending.1 entry later

theorem find_place (name wanted : String) (value : α) (entries : List (String × α)) :
    find wanted (place name value entries) = if wanted = name then some value else find wanted entries := by
  induction entries with
  | nil => simp only [place, find]; grind
  | cons head rest ih =>
    obtain ⟨key, old⟩ := head
    rw [place]
    split
    · simp only [find]; grind
    · split
      · simp only [find]; grind
      · simp only [find, ih]; grind

/-! ## Operations -/

/-- The value under a name, if there is one. -/
def get? (dictionary : Dictionary α) (name : String) : Option α := find name dictionary.entries

/-- Files a value, replacing an earlier one of the same name. -/
def insert (dictionary : Dictionary α) (name : String) (value : α) : Dictionary α :=
  ⟨place name value dictionary.entries, place_ascending name value dictionary.ascending⟩

def contains (dictionary : Dictionary α) (name : String) : Bool := (dictionary.get? name).isSome

/-- The names, strictly ascending. -/
def names (dictionary : Dictionary α) : List String := dictionary.entries.map (·.1)

def isEmpty (dictionary : Dictionary α) : Bool := dictionary.entries.isEmpty

/-- Files the entries from the left, so the last one of a name stays. -/
def ofList (entries : List (String × α)) : Dictionary α :=
  entries.foldl (fun dictionary entry => dictionary.insert entry.1 entry.2) empty

/-- Files the entries of the second dictionary over those of the first. -/
def overlay (base top : Dictionary α) : Dictionary α :=
  top.entries.foldl (fun dictionary entry => dictionary.insert entry.1 entry.2) base

/-- The same names with changed values. -/
def map (change : α → β) (dictionary : Dictionary α) : Dictionary β :=
  ⟨dictionary.entries.map (fun entry => (entry.1, change entry.2)),
    List.pairwise_map.2 dictionary.ascending⟩

/-- The same names with values computed in ascending order of names; the first error stands. -/
def mapExcept {ε : Type} (change : α → Except ε β) (dictionary : Dictionary α) : Except ε (Dictionary β) :=
  (dictionary.entries.mapM fun entry => (change entry.2).map fun value => (entry.1, value)).map ofList

theorem get?_insert (dictionary : Dictionary α) (name wanted : String) (value : α) :
    (dictionary.insert name value).get? wanted = if wanted = name then some value else dictionary.get? wanted :=
  find_place name wanted value dictionary.entries

theorem get?_empty (name : String) : (empty : Dictionary α).get? name = none := rfl

end Dictionary
end Localizable
