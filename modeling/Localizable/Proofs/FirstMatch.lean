import Localizable.Proofs.WellFormed
import Localizable.Proofs.MessageOfLayout
import Localizable.Selection
import Mathlib.Data.List.Forall2

/-!
# The variant that is selected

The keys of the variants and the values of the selectors make rows of answers. Rows
are tried from the first one, and answers in a row from the left, up to one that is
not yes. So the first variant that fits is selected, unless an answer fails before
(`Scope.select_first_match`). What fails among the selectors themselves comes before all rows.
-/

namespace Localizable

/-- The answer stands at a place and only yes stands before it. -/
def Reached (answers : List (Except FormatError Bool)) (answer : Except FormatError Bool) (place : Nat) : Prop :=
  answers[place]? = some answer ∧ ∀ earlier < place, answers[earlier]? = some (.ok true)

theorem reached_cons {first answer : Except FormatError Bool} {rest : List (Except FormatError Bool)}
    (other : answer ≠ .ok true) :
    (∃ place, Reached (first :: rest) answer place) ↔
      first = answer ∨ first = .ok true ∧ ∃ place, Reached rest answer place := by
  constructor
  · rintro ⟨place, stands, before⟩
    cases place with
    | zero => exact .inl (by simpa using stands)
    | succ place =>
      refine .inr ⟨by simpa using before 0 (Nat.succ_pos place), place, by simpa using stands, fun earlier less => ?_⟩
      simpa using before (earlier + 1) (Nat.succ_lt_succ less)
  · rintro (rfl | ⟨rfl, place, stands, before⟩)
    · exact ⟨0, rfl, fun earlier less => absurd less (Nat.not_lt_zero earlier)⟩
    · refine ⟨place + 1, stands, fun earlier less => ?_⟩
      cases earlier with
      | zero => rfl
      | succ earlier => exact before earlier (Nat.lt_of_succ_lt_succ less)

theorem not_reached_nil {answer : Except FormatError Bool} : ¬ ∃ place, Reached [] answer place := by
  rintro ⟨place, stands, _⟩
  simp at stands

variable [Host]

/-- What the keys of a variant answer for the values at their places. -/
def Variant.answers (variant : Variant) (surroundings : Surroundings) (values : List Value) :
    List (Except FormatError Bool) :=
  List.zipWith (fun key value => key.names surroundings value) variant.keys values

/-- All keys name the values at their places. -/
def Variant.Fits (variant : Variant) (surroundings : Surroundings) (values : List Value) : Prop :=
  ∀ answer ∈ variant.answers surroundings values, answer = .ok true

/-- A key does not name its value, and all keys before it do. -/
def Variant.Misses (variant : Variant) (surroundings : Surroundings) (values : List Value) : Prop :=
  ∃ place, Reached (variant.answers surroundings values) (.ok false) place

/-- A key cannot be compared with its value, and all keys before it name theirs. -/
def Variant.Fails (variant : Variant) (surroundings : Surroundings) (values : List Value) (error : FormatError) : Prop :=
  ∃ place, Reached (variant.answers surroundings values) (.error error) place

/-- The keys are tried up to the first answer that is not yes. -/
theorem keysName_eq_iff {surroundings : Surroundings} {keys : List Key} {values : List Value} {answer : Except FormatError Bool}
    (other : answer ≠ .ok true) : keysName surroundings keys values = answer ↔
      ∃ place, Reached (List.zipWith (fun key value => key.names surroundings value) keys values) answer place := by
  induction keys generalizing values with
  | nil => simpa [keysName, not_reached_nil] using other.symm
  | cons key keys ih =>
    cases values with
    | nil => simpa [keysName, not_reached_nil] using other.symm
    | cons value values =>
      rw [List.zipWith_cons_cons, reached_cons other, ← ih, keysName]
      rcases key.names surroundings value with error | _ | _
      · simp
      · simp
      · simp [other.symm]

theorem keysName_eq_true_iff {surroundings : Surroundings} {keys : List Key} {values : List Value} :
    keysName surroundings keys values = .ok true ↔
      ∀ answer ∈ List.zipWith (fun key value => key.names surroundings value) keys values, answer = .ok true := by
  induction keys generalizing values with
  | nil => simp [keysName]
  | cons key keys ih =>
    cases values with
    | nil => simp [keysName]
    | cons value values =>
      rw [List.zipWith_cons_cons, List.forall_mem_cons, ← ih, keysName]
      rcases key.names surroundings value with error | _ | _ <;> simp

/-- Keys name values wherever each value is compared with keys alike. -/
theorem keysName_congr {left right : Surroundings} {values : List Value}
    (alike : ∀ value ∈ values, ∀ key, value.isMatchedBy left key = value.isMatchedBy right key) (keys : List Key) :
    keysName left keys values = keysName right keys values := by
  induction keys generalizing values with
  | nil => simp [keysName]
  | cons key keys ih =>
    cases values with
    | nil => simp [keysName]
    | cons value values =>
      obtain ⟨first, others⟩ := List.forall_mem_cons.1 alike
      have own : key.names left value = key.names right value := by
        cases key with
        | any => rfl
        | literal text => exact first text
      rw [keysName, keysName, own, ih others]

theorem selectFrom_congr {left right : Surroundings} {values : List Value}
    (alike : ∀ value ∈ values, ∀ key, value.isMatchedBy left key = value.isMatchedBy right key) (index : Nat)
    (variants : List Variant) : selectFrom left values index variants = selectFrom right values index variants := by
  induction variants generalizing index with
  | nil => rfl
  | cons variant rest ih => rw [selectFrom, selectFrom, keysName_congr alike, ih]

/-- What fails of keys is one of them. -/
theorem exists_names_of_keysName {surroundings : Surroundings} {keys : List Key} {values : List Value} {error : FormatError}
    (failed : keysName surroundings keys values = .error error) :
    ∃ key, ∃ value ∈ values, Key.names key surroundings value = .error error := by
  obtain ⟨place, stands, _⟩ := (keysName_eq_iff (by simp)).1 failed
  obtain ⟨key, value, _, held, answered⟩ := List.getElem?_zipWith_eq_some.1 stands
  exact ⟨key, value, List.mem_of_getElem? held, answered⟩

/-! ## Rows in order -/

def Selection.behind (selection : Selection) (count : Nat) : Selection :=
  { selection with index := count + selection.index }

/-- The variant stands at the index and fits, and all variants before it miss. -/
def Chooses (variants : List Variant) (surroundings : Surroundings) (values : List Value) (selection : Selection) : Prop :=
  variants[selection.index]? = some selection.variant ∧ selection.variant.Fits surroundings values ∧
    ∀ earlier < selection.index, ∃ variant, variants[earlier]? = some variant ∧ variant.Misses surroundings values

/-- A variant fails with the error, and all variants before it miss. -/
def Breaks (variants : List Variant) (surroundings : Surroundings) (values : List Value) (error : FormatError) : Prop :=
  ∃ (index : Nat) (variant : Variant), variants[index]? = some variant ∧ variant.Fails surroundings values error ∧
    ∀ earlier < index, ∃ missed, variants[earlier]? = some missed ∧ missed.Misses surroundings values

section
variable {surroundings : Surroundings} {values : List Value} {variant : Variant} {rest : List Variant}

/-- A variant fits, misses or fails, as its keys are found to. -/
theorem Variant.fits_iff : variant.Fits surroundings values ↔ keysName surroundings variant.keys values = .ok true :=
  keysName_eq_true_iff.symm

theorem Variant.misses_iff : variant.Misses surroundings values ↔ keysName surroundings variant.keys values = .ok false :=
  (keysName_eq_iff (by simp)).symm

theorem Variant.fails_iff {error : FormatError} :
    variant.Fails surroundings values error ↔ keysName surroundings variant.keys values = .error error :=
  (keysName_eq_iff (by simp)).symm

/-- The variants before a place in a list all miss if the first one does and those behind it do. -/
theorem missed_before_succ {index : Nat} :
    (∀ earlier < index + 1, ∃ missed, (variant :: rest)[earlier]? = some missed ∧ missed.Misses surroundings values) ↔
      variant.Misses surroundings values ∧
        ∀ earlier < index, ∃ missed, rest[earlier]? = some missed ∧ missed.Misses surroundings values := by
  constructor
  · intro before
    refine ⟨by simpa using before 0 (Nat.succ_pos index), fun earlier less => ?_⟩
    simpa using before (earlier + 1) (Nat.succ_lt_succ less)
  · rintro ⟨first, later⟩ earlier less
    cases earlier with
    | zero => exact ⟨variant, rfl, first⟩
    | succ earlier => exact later earlier (Nat.lt_of_succ_lt_succ less)

theorem chooses_cons {selection : Selection} : Chooses (variant :: rest) surroundings values selection ↔
    variant.Fits surroundings values ∧ selection = ⟨0, variant⟩ ∨
      variant.Misses surroundings values ∧ ∃ later, Chooses rest surroundings values later ∧ later.behind 1 = selection := by
  obtain ⟨index, selected⟩ := selection
  unfold Chooses
  cases index with
  | zero =>
    constructor
    · rintro ⟨stands, fits, _⟩
      obtain rfl : variant = selected := by simpa using stands
      exact .inl ⟨fits, rfl⟩
    · rintro (⟨fits, same⟩ | ⟨_, ⟨later, _⟩, _, moved⟩)
      · obtain ⟨_, rfl⟩ := Selection.mk.inj same
        exact ⟨rfl, fits, fun earlier less => absurd less (Nat.not_lt_zero earlier)⟩
      · have positive := congrArg Selection.index moved
        simp [Selection.behind] at positive
  | succ index =>
    rw [missed_before_succ]
    constructor
    · rintro ⟨stands, fits, missed, before⟩
      refine .inr ⟨missed, ⟨index, selected⟩, ⟨by simpa using stands, fits, before⟩, ?_⟩
      simp [Selection.behind, Nat.add_comm]
    · rintro (⟨_, same⟩ | ⟨missed, ⟨later, item⟩, ⟨stands, fits, before⟩, moved⟩)
      · cases same
      · simp only [Selection.behind, Selection.mk.injEq] at moved
        obtain ⟨place, rfl⟩ := moved
        obtain rfl : later = index := by omega
        exact ⟨by simpa using stands, fits, missed, before⟩

theorem breaks_cons {error : FormatError} : Breaks (variant :: rest) surroundings values error ↔
    variant.Fails surroundings values error ∨ variant.Misses surroundings values ∧ Breaks rest surroundings values error := by
  unfold Breaks
  constructor
  · rintro ⟨index, failing, stands, fails, before⟩
    cases index with
    | zero =>
      obtain rfl : variant = failing := by simpa using stands
      exact .inl fails
    | succ index =>
      obtain ⟨missed, others⟩ := missed_before_succ.1 before
      exact .inr ⟨missed, index, failing, by simpa using stands, fails, others⟩
  · rintro (fails | ⟨missed, index, failing, stands, fails, before⟩)
    · exact ⟨0, variant, rfl, fails, fun earlier less => absurd less (Nat.not_lt_zero earlier)⟩
    · exact ⟨index + 1, failing, by simpa using stands, fails, missed_before_succ.2 ⟨missed, before⟩⟩

/-- Where the counting starts plays no part in what is selected. -/
theorem selectFrom_eq_behind (start : Nat) (variants : List Variant) :
    selectFrom surroundings values start variants = (selectFrom surroundings values 0 variants).map (·.behind start) := by
  induction variants generalizing start with
  | nil => rfl
  | cons variant rest ih =>
    rw [selectFrom, selectFrom]
    rcases keysName surroundings variant.keys values with error | _ | _
    · rfl
    · dsimp only
      rw [ih (start + 1), ih (0 + 1)]
      cases selectFrom surroundings values 0 rest with
      | error error => rfl
      | ok selection => simp [Except.map, Selection.behind, Nat.add_assoc]
    · rfl

/-- The first variant that does not miss is selected, or fails, and there may be none. -/
theorem selectFrom_spec (variants : List Variant) :
    (∀ selection, selectFrom surroundings values 0 variants = .ok selection ↔ Chooses variants surroundings values selection) ∧
      (∀ error, selectFrom surroundings values 0 variants = .error error ↔ Breaks variants surroundings values error ∨
        error = .noVariantMatched ∧ ∀ variant ∈ variants, variant.Misses surroundings values) ∧
      ((∀ variant ∈ variants, variant.Misses surroundings values) → ∀ error, ¬ Breaks variants surroundings values error) := by
  induction variants with
  | nil =>
    refine ⟨fun selection => ?_, fun error => ?_, fun _ error => ?_⟩
    · simp [selectFrom, Chooses]
    · simp [selectFrom, Breaks, eq_comm]
    · simp [Breaks]
  | cons variant rest ih =>
    -- the first variant fails, fits or misses, and only if it misses the rest has a say
    obtain ⟨chosen, broken, apart⟩ := ih
    simp only [chooses_cons, breaks_cons, List.forall_mem_cons, selectFrom, selectFrom_eq_behind (0 + 1),
      @Variant.fits_iff _ _ _ variant, @Variant.misses_iff _ _ _ variant, Variant.fails_iff]
    cases named : keysName surroundings variant.keys values with
    | error error => simp
    | ok fits =>
      cases fits with
      | true => simp [eq_comm]
      | false =>
        refine ⟨fun selection => ?_, fun error => ?_, fun missed error => ?_⟩
        · cases later : selectFrom surroundings values 0 rest with
          | error error => simp [Except.map, ← chosen, later]
          | ok first => simp [Except.map, ← chosen, later]
        · have behind : (selectFrom surroundings values 0 rest).map (·.behind (0 + 1)) = .error error ↔
              selectFrom surroundings values 0 rest = .error error := by
            cases selectFrom surroundings values 0 rest <;> simp [Except.map]
          simp [behind, broken]
        · simpa using apart missed.2 error

/-- Variants behind others that all miss are tried as if they stood alone. -/
theorem selectFrom_append_of_missed {variants : List Variant} (added : List Variant)
    (missed : ∀ variant ∈ variants, variant.Misses surroundings values) :
    selectFrom surroundings values 0 (variants ++ added) =
      (selectFrom surroundings values 0 added).map (·.behind variants.length) := by
  induction variants with
  | nil => cases found : selectFrom surroundings values 0 added <;> simp [Except.map, Selection.behind, found]
  | cons variant rest ih =>
    obtain ⟨first, others⟩ := List.forall_mem_cons.1 missed
    rw [List.cons_append, selectFrom, Variant.misses_iff.1 first]
    dsimp only
    rw [selectFrom_eq_behind, ih others]
    cases selectFrom surroundings values 0 added with
    | error error => rfl
    | ok selection =>
      -- the count of the variants grows by the one that misses
      simp only [Except.map, Selection.behind, List.length_cons, Except.ok.injEq, Selection.mk.injEq, and_true]
      omega

/-- Variants behind one that does not miss are not tried. -/
theorem selectFrom_append_of_not_missed {variants : List Variant} (added : List Variant)
    (stops : ∃ variant ∈ variants, ¬ variant.Misses surroundings values) :
    selectFrom surroundings values 0 (variants ++ added) = selectFrom surroundings values 0 variants := by
  induction variants with
  | nil =>
    obtain ⟨_, member, _⟩ := stops
    cases member
  | cons variant rest ih =>
    rw [List.cons_append, selectFrom, selectFrom]
    cases named : keysName surroundings variant.keys values with
    | error error => rfl
    | ok fits =>
      cases fits with
      | true => rfl
      | false =>
        obtain ⟨stopping, member, stands⟩ := stops
        rcases List.mem_cons.1 member with rfl | later
        · exact absurd (Variant.misses_iff.2 named) stands
        · dsimp only
          rw [selectFrom_eq_behind, selectFrom_eq_behind (0 + 1) rest, ih ⟨stopping, later, stands⟩]

theorem Variant.fits_of_any (wild : ∀ key ∈ variant.keys, key = .any) : variant.Fits surroundings values := by
  intro answer member
  obtain ⟨place, inside, rfl⟩ := List.getElem_of_mem member
  have keyed : place < variant.keys.length := by
    simp only [answers, List.length_zipWith] at inside
    omega
  have any : variant.keys[place] = .any := wild _ (List.getElem_mem keyed)
  simp [answers, any, Key.names]

end

/-! ## Selectors -/

namespace Scope

/-- The selector resolves to a value that can select. -/
def SelectsOn (scope : Scope) (selector : Expression) (value : Value) : Prop :=
  scope.resolve .matcher selector = .ok value ∧ value.isMatchable = true

/-- The selector has no value that can select. -/
inductive Refuses (scope : Scope) (selector : Expression) : FormatError → Prop
  | unresolved {error : FormatError} (fails : scope.resolve .matcher selector = .error error) :
      Refuses scope selector error
  | unmatchable {value : Value} (resolves : scope.resolve .matcher selector = .ok value)
      (cannot : value.isMatchable = false) : Refuses scope selector (.notMatchable value.typeName)

/-- Of the selectors that are refused the first one is refused with the error. -/
def FirstRefuses (scope : Scope) (selectors : List Expression) (error : FormatError) : Prop :=
  ∃ before selector after, selectors = before ++ selector :: after ∧
    (∀ earlier ∈ before, ∃ value, scope.SelectsOn earlier value) ∧ scope.Refuses selector error

variable {scope : Scope}

theorem resolveSelector_eq_ok {selector : Expression} {value : Value} :
    scope.resolveSelector selector = .ok value ↔ scope.SelectsOn selector value := by
  unfold resolveSelector SelectsOn
  cases resolved : scope.resolve .matcher selector with
  | error error => simp
  | ok found =>
    cases able : found.isMatchable with
    | true =>
      simp only [able, if_true, Except.ok.injEq]
      constructor
      · rintro rfl
        exact ⟨rfl, able⟩
      · exact And.left
    | false =>
      simp only [able, Except.ok.injEq]
      constructor
      · rintro ⟨⟩
      · rintro ⟨rfl, can⟩
        rw [able] at can
        cases can

theorem resolveSelector_eq_error {selector : Expression} {error : FormatError} :
    scope.resolveSelector selector = .error error ↔ scope.Refuses selector error := by
  unfold resolveSelector
  constructor
  · intro failed
    cases resolved : scope.resolve .matcher selector with
    | error other =>
      rw [resolved] at failed
      cases failed
      exact .unresolved resolved
    | ok found =>
      cases able : found.isMatchable with
      | true => simp [resolved, able] at failed
      | false =>
        simp only [resolved, able] at failed
        cases failed
        exact .unmatchable resolved able
  · rintro (fails | ⟨resolves, cannot⟩)
    · rw [fails]
    · simp [resolves, cannot]

theorem firstRefuses_cons {selector : Expression} {rest : List Expression} {error : FormatError} :
    scope.FirstRefuses (selector :: rest) error ↔
      scope.Refuses selector error ∨ (∃ value, scope.SelectsOn selector value) ∧ scope.FirstRefuses rest error := by
  constructor
  · rintro ⟨before, refused, after, split, earlier, refuses⟩
    cases before with
    | nil =>
      obtain ⟨rfl, rfl⟩ := List.cons.inj split
      exact .inl refuses
    | cons first others =>
      obtain ⟨rfl, rfl⟩ := List.cons.inj split
      obtain ⟨own, later⟩ := List.forall_mem_cons.1 earlier
      exact .inr ⟨own, others, refused, after, rfl, later, refuses⟩
  · rintro (refuses | ⟨own, before, refused, after, rfl, earlier, refuses⟩)
    · exact ⟨[], selector, rest, rfl, by simp, refuses⟩
    · exact ⟨selector :: before, refused, after, rfl, List.forall_mem_cons.2 ⟨own, earlier⟩, refuses⟩

/-- The selectors are resolved in order, up to the first one that is refused. -/
theorem mapM_resolveSelector (selectors : List Expression) :
    (∀ values, selectors.mapM scope.resolveSelector = .ok values ↔ List.Forall₂ scope.SelectsOn selectors values) ∧
      ∀ error, selectors.mapM scope.resolveSelector = .error error ↔ scope.FirstRefuses selectors error := by
  induction selectors with
  | nil =>
    refine ⟨fun values => ?_, fun error => ?_⟩
    · simp [pure, Except.pure, eq_comm]
    · simp [pure, Except.pure, FirstRefuses]
  | cons selector rest ih =>
    obtain ⟨resolved, refused⟩ := ih
    simp only [List.mapM_cons, firstRefuses_cons, List.forall₂_cons_left_iff, ← resolved, ← refused,
      ← resolveSelector_eq_ok, ← resolveSelector_eq_error]
    cases scope.resolveSelector selector with
    | error error => simp [Bind.bind, Except.bind]
    | ok value => cases rest.mapM scope.resolveSelector <;> simp [Bind.bind, Except.bind, pure, Except.pure, eq_comm]

section
variable {declarations : List Declaration} {selectors : List Expression} {variants : List Variant}

theorem select_of_refuses {error : FormatError} (refuses : scope.FirstRefuses selectors error) :
    scope.select ⟨declarations, selectors, variants⟩ = .error error := by
  rw [select, ((mapM_resolveSelector selectors).2 error).2 refuses]
  rfl

theorem select_of_resolved {values : List Value} (resolved : List.Forall₂ scope.SelectsOn selectors values) :
    scope.select ⟨declarations, selectors, variants⟩ = selectFrom scope.surroundings values 0 variants := by
  rw [select, ((mapM_resolveSelector selectors).1 values).2 resolved]
  rfl

end

theorem refuses_or_resolved (scope : Scope) (selectors : List Expression) :
    (∃ error, scope.FirstRefuses selectors error) ∨ ∃ values, List.Forall₂ scope.SelectsOn selectors values := by
  cases found : selectors.mapM scope.resolveSelector with
  | error error => exact .inl ⟨error, ((mapM_resolveSelector selectors).2 error).1 found⟩
  | ok values => exact .inr ⟨values, ((mapM_resolveSelector selectors).1 values).1 found⟩

section
variable {message : Message} {values : List Value} (resolved : List.Forall₂ scope.SelectsOn message.selectors values)
include resolved

/-- Variants that are added behind are tried where all others miss. -/
theorem select_append_of_missed (added : List Variant)
    (missed : ∀ variant ∈ message.variants, variant.Misses scope.surroundings values) :
    scope.select { message with variants := message.variants ++ added } =
      (scope.select { message with variants := added }).map (·.behind message.variants.length) := by
  rw [select_of_resolved resolved, select_of_resolved resolved]
  exact selectFrom_append_of_missed added missed

theorem select_append_of_not_missed (added : List Variant)
    (stops : ∃ variant ∈ message.variants, ¬ variant.Misses scope.surroundings values) :
    scope.select { message with variants := message.variants ++ added } = scope.select message := by
  obtain ⟨declarations, selectors, variants⟩ := message
  rw [select_of_resolved resolved, select_of_resolved resolved]
  exact selectFrom_append_of_not_missed added stops

/-- A variant that has only wildcards is selected where all others miss. -/
theorem select_append_any {variant : Variant} (wild : ∀ key ∈ variant.keys, key = .any)
    (missed : ∀ variant ∈ message.variants, variant.Misses scope.surroundings values) :
    scope.select { message with variants := message.variants ++ [variant] } = .ok ⟨message.variants.length, variant⟩ := by
  have own : scope.select { message with variants := [variant] } = .ok ⟨0, variant⟩ := by
    rw [select_of_resolved resolved, selectFrom, Variant.fits_iff.1 (Variant.fits_of_any wild)]
  rw [select_append_of_missed resolved _ missed, own]
  rfl

end

/-- The selectors are resolved in order, and the first one that is refused decides the outcome whatever the variants.
Otherwise the first variant decides it that does not miss: it is selected if it fits, and its error stands if it
fails. Variants that are added count only where all others miss, and a plain message has one variant to select. -/
theorem select_first_match (scope : Scope) (message : Message) :
    ((∃ error, scope.FirstRefuses message.selectors error) ∨
        ∃ values, List.Forall₂ scope.SelectsOn message.selectors values) ∧
      (∀ error, scope.FirstRefuses message.selectors error →
        ∀ variants, scope.select { message with variants := variants } = .error error) ∧
      (∀ values, List.Forall₂ scope.SelectsOn message.selectors values →
        (∀ selection, scope.select message = .ok selection ↔
          Chooses message.variants scope.surroundings values selection) ∧
        (∀ error, scope.select message = .error error ↔ Breaks message.variants scope.surroundings values error ∨
          error = .noVariantMatched ∧ ∀ variant ∈ message.variants, variant.Misses scope.surroundings values) ∧
        ((∀ variant ∈ message.variants, variant.Misses scope.surroundings values) →
          ∀ error, ¬ Breaks message.variants scope.surroundings values error) ∧
        (∀ added, (∀ variant ∈ message.variants, variant.Misses scope.surroundings values) →
          scope.select { message with variants := message.variants ++ added } =
            (scope.select { message with variants := added }).map (·.behind message.variants.length)) ∧
        (∀ added, (∃ variant ∈ message.variants, ¬ variant.Misses scope.surroundings values) →
          scope.select { message with variants := message.variants ++ added } = scope.select message) ∧
        ∀ wildcards : Variant, (∀ key ∈ wildcards.keys, key = .any) →
          (∀ variant ∈ message.variants, variant.Misses scope.surroundings values) →
          scope.select { message with variants := message.variants ++ [wildcards] } =
            .ok ⟨message.variants.length, wildcards⟩) ∧
      ∀ source, Message.parse source = .ok message → message.isPlain = true →
        ∃ variant, message.variants = [variant] ∧ scope.select message = .ok ⟨0, variant⟩ := by
  refine ⟨scope.refuses_or_resolved message.selectors, ?_, ?_, ?_⟩
  · intro error refuses variants
    exact select_of_refuses refuses
  · intro values resolved
    obtain ⟨chosen, broken, apart⟩ := @selectFrom_spec _ scope.surroundings values message.variants
    rw [← select_of_resolved resolved] at chosen broken
    exact ⟨chosen, broken, apart, select_append_of_missed resolved, select_append_of_not_missed resolved,
      fun _ wild => select_append_any resolved wild⟩
  · intro source parsed plain
    have none : message.selectors = [] := List.isEmpty_iff.1 plain
    obtain ⟨layout, _, unbroken, rfl⟩ := Message.exists_layout_of_parse parsed
    obtain ⟨pattern, only⟩ := (Layout.message_wellFormed unbroken).plain none
    refine ⟨⟨[], pattern⟩, only, ?_⟩
    rw [select, none, only]
    rfl

end Scope
end Localizable
