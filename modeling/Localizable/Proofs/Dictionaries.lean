import Localizable.Dictionary

/-!
# What a dictionary holds

A dictionary is its lookups: the entries are what lookups find, the names are those
that something is found under, and two dictionaries in which every lookup finds the
same are one (`Dictionary.ext_get?`). Names are listed in the order of their bytes
(`Dictionary.names_bytes_ascending`).
-/

namespace Localizable

/-- Where each step of a run enters a value or leaves what is observed as it was, the value that was entered last is
observed, or else what was there at the start. -/
theorem observe_foldl {State Event Value : Type} {step : State → Event → State} (observe : State → Option Value)
    {Enters : Event → Prop} [DecidablePred Enters] {value : Event → Value}
    (each : ∀ state event, observe (step state event) = if Enters event then some (value event) else observe state)
    (events : List Event) (start : State) :
    observe (events.foldl step start) =
      ((events.reverse.find? fun event => Enters event).map value).or (observe start) := by
  induction events generalizing start with
  | nil => rfl
  | cons event rest ih =>
    rw [List.foldl_cons, ih, each, List.reverse_cons, List.find?_append, Option.map_or, Option.or_assoc]
    by_cases own : Enters event
    · simp [own]
    · simp [own]

/-! ## The order of names -/

theorem sextets (n : Nat) :
    n = 262144 * (n / 262144) + 4096 * (n / 4096 % 64) + 64 * (n / 64 % 64) + n % 64 := by omega

/-- The first byte in which the codes of two characters differ is less for the lesser character. -/
theorem utf8EncodeChar_append_lt {left right : Char} (before : left < right) (behind later : List UInt8) :
    String.utf8EncodeChar left ++ behind < String.utf8EncodeChar right ++ later := by
  have less : left.val.toNat < right.val.toNat := before
  have bound : right.val.toNat < 1114112 := by
    rcases right.valid with low | ⟨_, high⟩
    · exact Nat.lt_trans low (by decide)
    · exact high
  unfold String.utf8EncodeChar
  generalize left.val.toNat = l at *
  generalize right.val.toNat = r at *
  have lower := sextets l
  have upper := sextets r
  dsimp only
  -- of codes of different lengths the lead bytes differ, and codes of one length are compared sextet by sextet
  (repeat' split) <;> simp (disch := omega) only [List.cons_append, List.nil_append, List.cons_lt_cons_iff,
    UInt8.lt_iff_toNat_lt, ← UInt8.toNat_inj, UInt8.toNat_ofNat', Nat.reducePow, Nat.mod_eq_of_lt] <;> omega

theorem flatMap_utf8EncodeChar_lt {left right : List Char} (before : left < right) :
    left.flatMap String.utf8EncodeChar < right.flatMap String.utf8EncodeChar := by
  induction before with
  | @nil c rest =>
    have coded : String.utf8EncodeChar c ≠ [] := String.utf8EncodeChar_ne_nil
    obtain ⟨first, others, coded⟩ := List.exists_cons_of_ne_nil coded
    rw [List.flatMap_cons, coded]
    exact List.nil_lt_cons ..
  | rel less => exact utf8EncodeChar_append_lt less ..
  | cons _ ih => exact List.append_left_lt ih

/-- The order of texts by their characters is the order by their bytes. -/
theorem toUTF8_lt {left right : String} (before : left < right) :
    left.toUTF8.data.toList < right.toUTF8.data.toList := by
  have bytes : ∀ text : String, text.toUTF8.data.toList = text.toList.flatMap String.utf8EncodeChar := by
    intro text
    rw [String.toUTF8_eq_toByteArray, ← String.utf8Encode_toList, List.utf8Encode]
    simp
  rw [bytes, bytes]
  exact flatMap_utf8EncodeChar_lt (String.lt_iff.1 before)

namespace Dictionary

variable {α β : Type}

/-! ## Entries -/

theorem find_eq_some_iff {name : String} {value : α} {entries : List (String × α)}
    (ascending : entries.Pairwise (fun left right => left.1 < right.1)) :
    find name entries = some value ↔ (name, value) ∈ entries := by
  induction entries with
  | nil => simp [find]
  | cons head rest ih =>
    obtain ⟨key, held⟩ := head
    obtain ⟨below, others⟩ := List.pairwise_cons.1 ascending
    by_cases own : key = name
    · subst own
      have unlisted : (key, value) ∉ rest := by
        intro later
        exact String.lt_irrefl key (below (key, value) later)
      simp [find, unlisted, eq_comm]
    · have different : (name, value) ≠ (key, held) := fun same => own (congrArg Prod.fst same).symm
      simp [find, own, different, ih others]

theorem get?_eq_some_iff {dictionary : Dictionary α} {name : String} {value : α} :
    dictionary.get? name = some value ↔ (name, value) ∈ dictionary.entries :=
  find_eq_some_iff dictionary.ascending

theorem entries_nodup (dictionary : Dictionary α) : dictionary.entries.Nodup := by
  refine dictionary.ascending.imp ?_
  rintro first second before rfl
  exact String.lt_irrefl _ before

/-- Dictionaries with the same lookups are equal, since entries stand in one order only. -/
theorem ext_get? {left right : Dictionary α} (same : ∀ name, left.get? name = right.get? name) : left = right := by
  have members : ∀ entry, entry ∈ left.entries ↔ entry ∈ right.entries := by
    rintro ⟨name, value⟩
    rw [← get?_eq_some_iff, ← get?_eq_some_iff, same name]
  have permuted : left.entries.Perm right.entries :=
    (List.perm_ext_iff_of_nodup left.entries_nodup right.entries_nodup).2 members
  have entries : left.entries = right.entries := by
    refine permuted.eq_of_pairwise ?_ left.ascending right.ascending
    intro first second _ _ before after
    exact absurd (String.lt_trans before after) (String.lt_irrefl _)
  obtain ⟨leftEntries, _⟩ := left
  obtain ⟨rightEntries, _⟩ := right
  cases entries
  rfl

/-- Of the entries that are filed under one name the last one is found. -/
theorem get?_foldl_insert (entries : List (String × α)) (base : Dictionary α) (name : String) :
    (entries.foldl (fun dictionary entry => dictionary.insert entry.1 entry.2) base).get? name =
      (entries.reverse.lookup name).or (base.get? name) := by
  induction entries generalizing base with
  | nil => rfl
  | cons entry rest ih =>
    obtain ⟨key, value⟩ := entry
    rw [List.foldl_cons, ih, get?_insert, List.reverse_cons, List.lookup_append, Option.or_assoc]
    by_cases own : name = key
    · simp [own]
    · simp [own, List.lookup_cons, beq_false_of_ne own]

theorem get?_ofList (entries : List (String × α)) (name : String) :
    (ofList entries).get? name = entries.reverse.lookup name := by
  rw [ofList, get?_foldl_insert, get?_empty, Option.or_none]

/-- The entries hold one value for a name, so it is found from either end. -/
theorem lookup_reverse_entries (dictionary : Dictionary α) (name : String) :
    dictionary.entries.reverse.lookup name = dictionary.get? name := by
  cases found : dictionary.entries.reverse.lookup name with
  | none =>
    refine (Option.eq_none_iff_forall_ne_some.2 fun value held => ?_).symm
    have listed : (name, value) ∈ dictionary.entries.reverse := List.mem_reverse.2 (get?_eq_some_iff.1 held)
    simpa using List.lookup_eq_none_iff.1 found _ listed
  | some value =>
    obtain ⟨before, after, split, _⟩ := List.lookup_eq_some_iff.1 found
    have listed : (name, value) ∈ dictionary.entries.reverse := by
      rw [split]
      exact List.mem_append_right _ List.mem_cons_self
    exact (get?_eq_some_iff.2 (List.mem_reverse.1 listed)).symm

theorem get?_overlay (base top : Dictionary α) (name : String) :
    (base.overlay top).get? name = (top.get? name).or (base.get? name) := by
  rw [overlay, get?_foldl_insert, lookup_reverse_entries]

/-- A dictionary is filed again from its entries. -/
theorem ofList_entries (dictionary : Dictionary α) : ofList dictionary.entries = dictionary :=
  ext_get? fun name => by rw [get?_ofList, lookup_reverse_entries]

section
variable {ε : Type} {change : α → Except ε β}

theorem lookup_mapM {entries : List (String × α)} {changed : List (String × β)}
    (mapped : (entries.mapM fun entry => (change entry.2).map fun value => (entry.1, value)) = .ok changed)
    (name : String) : (entries.reverse.lookup name).map change = (changed.reverse.lookup name).map .ok := by
  induction entries generalizing changed with
  | nil =>
    cases mapped
    rfl
  | cons entry rest ih =>
    obtain ⟨key, item⟩ := entry
    rw [List.mapM_cons] at mapped
    cases own : change item with
    | error error =>
      rw [own] at mapped
      cases mapped
    | ok value =>
      cases others : rest.mapM fun entry => (change entry.2).map fun value => (entry.1, value) with
      | error error =>
        rw [own, others] at mapped
        cases mapped
      | ok later =>
        rw [own, others] at mapped
        cases mapped
        rw [List.reverse_cons, List.reverse_cons, List.lookup_append, List.lookup_append, Option.map_or, Option.map_or,
          ih others, List.lookup_cons, List.lookup_cons]
        cases name == key with
        | true => simp [own]
        | false => rfl

theorem exists_mapM {entries : List (String × α)} (computes : ∀ entry ∈ entries, ∃ value, change entry.2 = .ok value) :
    ∃ changed, (entries.mapM fun entry => (change entry.2).map fun value => (entry.1, value)) = .ok changed := by
  induction entries with
  | nil => exact ⟨[], rfl⟩
  | cons entry rest ih =>
    obtain ⟨⟨value, own⟩, others⟩ := List.forall_mem_cons.1 computes
    obtain ⟨changed, later⟩ := ih others
    refine ⟨(entry.1, value) :: changed, ?_⟩
    rw [List.mapM_cons, own, later]
    rfl

theorem exists_mapExcept {dictionary : Dictionary α}
    (computes : ∀ name item, dictionary.get? name = some item → ∃ value, change item = .ok value) :
    ∃ result, dictionary.mapExcept change = .ok result := by
  obtain ⟨changed, mapped⟩ := exists_mapM fun entry member => computes entry.1 entry.2 (get?_eq_some_iff.2 member)
  refine ⟨ofList changed, ?_⟩
  rw [mapExcept, mapped]
  rfl

/-- Values are computed name by name. -/
theorem mapExcept_eq_ok_iff {dictionary : Dictionary α} {result : Dictionary β} :
    dictionary.mapExcept change = .ok result ↔
      ∀ name, (dictionary.get? name).map change = (result.get? name).map .ok := by
  have found : ∀ other, dictionary.mapExcept change = .ok other →
      ∀ name, (dictionary.get? name).map change = (other.get? name).map .ok := by
    intro other mapped name
    rw [mapExcept] at mapped
    cases changed : dictionary.entries.mapM fun entry => (change entry.2).map fun value => (entry.1, value) with
    | error error =>
      rw [changed] at mapped
      cases mapped
    | ok entries =>
      rw [changed] at mapped
      cases mapped
      rw [← lookup_reverse_entries, get?_ofList]
      exact lookup_mapM changed name
  refine ⟨found result, fun same => ?_⟩
  have computes : ∀ name item, dictionary.get? name = some item → ∃ value, change item = .ok value := by
    intro name item held
    have computed := same name
    rw [held, Option.map_some] at computed
    obtain ⟨value, _, computed⟩ := Option.map_eq_some_iff.1 computed.symm
    exact ⟨value, computed.symm⟩
  obtain ⟨other, outcome⟩ := exists_mapExcept computes
  have unique : other = result := by
    refine ext_get? fun name => ?_
    have alike := (found _ outcome name).symm.trans (same name)
    exact Option.map_injective (fun _ _ => Except.ok.inj) alike
  rw [outcome, unique]

end

theorem mem_names {dictionary : Dictionary α} {name : String} :
    name ∈ dictionary.names ↔ dictionary.get? name ≠ none := by
  rw [names, List.mem_map, Option.ne_none_iff_exists']
  constructor
  · rintro ⟨⟨key, value⟩, member, rfl⟩
    exact ⟨value, get?_eq_some_iff.2 member⟩
  · rintro ⟨value, found⟩
    exact ⟨(name, value), get?_eq_some_iff.1 found, rfl⟩

theorem names_ascending (dictionary : Dictionary α) : dictionary.names.Pairwise (· < ·) :=
  List.pairwise_map.2 dictionary.ascending

theorem names_bytes_ascending (dictionary : Dictionary α) :
    dictionary.names.Pairwise fun left right => left.toUTF8.data.toList < right.toUTF8.data.toList :=
  dictionary.names_ascending.imp toUTF8_lt

@[simp] theorem names_map (change : α → β) (dictionary : Dictionary α) :
    (dictionary.map change).names = dictionary.names := by
  simp [names, map]

theorem mem_names_insert {dictionary : Dictionary α} {key name : String} {value : α} :
    name ∈ (dictionary.insert key value).names ↔ name = key ∨ name ∈ dictionary.names := by
  rw [mem_names, mem_names, get?_insert]
  by_cases own : name = key
  · simp [own]
  · simp [own]

/-- The names of two dictionaries laid over one another are those of either. -/
theorem mem_names_overlay {base top : Dictionary α} {name : String} :
    name ∈ (base.overlay top).names ↔ name ∈ base.names ∨ name ∈ top.names := by
  rw [mem_names, mem_names, mem_names, get?_overlay]
  cases top.get? name <;> simp

end Dictionary
end Localizable
