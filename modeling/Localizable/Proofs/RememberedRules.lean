import Localizable.Plural.Selection
import Mathlib.Data.List.Nodup

/-!
# Remembered rules

Rules are found once for each locale and type and remembered for the next number.
Nothing of this shows in the answers: each one is what it would be with nothing
remembered (`PluralMemory.transparent`). The reason is that a memory stays faithful:
it has no key twice, and beside each key the rules that are found for it. What one
question does to a faithful memory is said once (`PluralMemory.Comes`).
-/

namespace Localizable

/-- The category of a number in a locale is asked for. -/
structure PluralQuestion where
  locale : String
  type : PluralType
  input : PluralInput
deriving DecidableEq, Repr

namespace PluralQuestion

/-- What the rules for the question are remembered under. -/
def key (question : PluralQuestion) : String × PluralType := (question.locale, question.type)

/-- The answer where nothing is ever remembered. -/
def answer (question : PluralQuestion) : Except FormatError PluralCategory :=
  pluralCategory question.locale question.type question.input

end PluralQuestion

namespace PluralMemory

def ask (memory : PluralMemory) (question : PluralQuestion) : Except FormatError PluralCategory × PluralMemory :=
  memory.category question.locale question.type question.input

/-- The answers to questions that are asked one after the other. -/
def answers : PluralMemory → List PluralQuestion → List (Except FormatError PluralCategory)
  | _, [] => []
  | memory, question :: rest => (memory.ask question).1 :: answers (memory.ask question).2 rest

/-- What is remembered after the questions. -/
def after (memory : PluralMemory) (questions : List PluralQuestion) : PluralMemory :=
  questions.foldl (fun memory question => (memory.ask question).2) memory

def keys (memory : PluralMemory) : List (String × PluralType) := memory.map (·.1)

theorem keys_append (memory : PluralMemory) (key : String × PluralType) (rules : List PluralRule) :
    keys (memory ++ [(key, rules)]) = memory.keys ++ [key] := List.map_append

/-- No key is there twice, and beside each are the rules that are found for it. -/
structure Faithful (memory : PluralMemory) : Prop where
  distinct : memory.keys.Nodup
  rules : ∀ entry ∈ memory, pluralRulesOf entry.1.1 entry.1.2 = .ok entry.2

/-- What a question comes to. It fails and changes nothing, or its rules are remembered already, or they are found and
remembered behind all others. -/
inductive Comes (memory : PluralMemory) (question : PluralQuestion) :
    Except FormatError PluralCategory × PluralMemory → Prop
  | failed {error : FormatError} (fails : question.answer = .error error) : Comes memory question (.error error, memory)
  | known {category : PluralCategory} (holds : question.answer = .ok category) (old : question.key ∈ memory.keys) :
      Comes memory question (.ok category, memory)
  | learned {category : PluralCategory} {rules : List PluralRule} (holds : question.answer = .ok category)
      (new : question.key ∉ memory.keys) (found : pluralRulesOf question.locale question.type = .ok rules) :
      Comes memory question (.ok category, memory ++ [(question.key, rules)])

theorem remembered?_eq_some {memory : PluralMemory} {locale : String} {type : PluralType} {rules : List PluralRule}
    (found : memory.remembered? locale type = some rules) : ((locale, type), rules) ∈ memory := by
  obtain ⟨⟨key, value⟩, first, rfl⟩ := Option.map_eq_some_iff.1 found
  have same := List.find?_some first
  rw [beq_iff_eq] at same
  subst same
  exact List.mem_of_find?_eq_some first

theorem remembered?_eq_none {memory : PluralMemory} {locale : String} {type : PluralType}
    (missing : memory.remembered? locale type = none) : (locale, type) ∉ memory.keys := by
  intro member
  obtain ⟨entry, held, same⟩ := List.mem_map.1 member
  have other := List.find?_eq_none.1 (Option.map_eq_none_iff.1 missing) entry held
  exact other (beq_iff_eq.2 same)

/-- Rules are only remembered for a locale that has some, so a question that is answered from memory has the same answer
without it. -/
theorem Faithful.comes {memory : PluralMemory} (faithful : memory.Faithful) (question : PluralQuestion) :
    Comes memory question (memory.ask question) := by
  have without : question.answer = pluralCategory question.locale question.type question.input := rfl
  unfold pluralCategory at without
  unfold ask category
  cases read : question.input.operands with
  | error error =>
    rw [read] at without
    exact .failed without
  | ok operands =>
    rw [read] at without
    cases remembered : memory.remembered? question.locale question.type with
    | some rules =>
      have member := remembered?_eq_some remembered
      have found : pluralRulesOf question.locale question.type = .ok rules :=
        faithful.rules ((question.locale, question.type), rules) member
      rw [found] at without
      exact .known without (List.mem_map_of_mem member)
    | none =>
      cases found : pluralRulesOf question.locale question.type with
      | error error =>
        rw [found] at without
        exact .failed without
      | ok rules =>
        rw [found] at without
        exact .learned without (remembered?_eq_none remembered) found

theorem Comes.answer {memory : PluralMemory} {question : PluralQuestion}
    {outcome : Except FormatError PluralCategory × PluralMemory} (comes : Comes memory question outcome) :
    outcome.1 = question.answer := by
  cases comes with
  | failed fails => exact fails.symm
  | known holds old => exact holds.symm
  | learned holds new found => exact holds.symm

theorem Comes.faithful {memory : PluralMemory} {question : PluralQuestion}
    {outcome : Except FormatError PluralCategory × PluralMemory} (comes : Comes memory question outcome)
    (faithful : memory.Faithful) : outcome.2.Faithful := by
  cases comes with
  | failed fails => exact faithful
  | known holds old => exact faithful
  | @learned _ rules holds new found =>
    constructor
    · rw [keys_append, ← List.concat_eq_append]
      exact faithful.distinct.concat new
    · intro entry member
      rcases List.mem_append.1 member with old | last
      · exact faithful.rules entry old
      · cases List.mem_singleton.1 last
        exact found

/-- What is remembered stays as it is and where it is. -/
theorem Comes.kept {memory : PluralMemory} {question : PluralQuestion}
    {outcome : Except FormatError PluralCategory × PluralMemory} (comes : Comes memory question outcome) :
    memory <+: outcome.2 := by
  cases comes with
  | failed fails => exact List.prefix_refl _
  | known holds old => exact List.prefix_refl _
  | learned holds new found => exact List.prefix_append _ _

theorem Comes.mem_keys {memory : PluralMemory} {question : PluralQuestion}
    {outcome : Except FormatError PluralCategory × PluralMemory} (comes : Comes memory question outcome)
    {key : String × PluralType} :
    key ∈ outcome.2.keys ↔ key ∈ memory.keys ∨ question.key = key ∧ ∃ category, question.answer = .ok category := by
  cases comes with
  | failed fails => simp [fails]
  | known holds old =>
    constructor
    · exact .inl
    · rintro (member | ⟨rfl, _⟩)
      · exact member
      · exact old
  | @learned _ rules holds new found =>
    simp only [keys_append, holds, List.mem_append, List.mem_singleton, Except.ok.injEq, exists_eq', and_true, eq_comm]

/-! ## Any number of questions -/

theorem faithful_empty : Faithful [] := ⟨List.nodup_nil, fun _ member => nomatch member⟩

theorem after_append (memory : PluralMemory) (before later : List PluralQuestion) :
    memory.after (before ++ later) = (memory.after before).after later := List.foldl_append

theorem Faithful.after {memory : PluralMemory} (faithful : memory.Faithful) (questions : List PluralQuestion) :
    (memory.after questions).Faithful := by
  induction questions generalizing memory with
  | nil => exact faithful
  | cons question rest ih => exact ih ((faithful.comes question).faithful faithful)

theorem Faithful.answers {memory : PluralMemory} (faithful : memory.Faithful) (questions : List PluralQuestion) :
    memory.answers questions = questions.map PluralQuestion.answer := by
  induction questions generalizing memory with
  | nil => rfl
  | cons question rest ih =>
    have comes := faithful.comes question
    rw [PluralMemory.answers, comes.answer, ih (comes.faithful faithful), List.map_cons]

theorem Faithful.kept {memory : PluralMemory} (faithful : memory.Faithful) (questions : List PluralQuestion) :
    memory <+: memory.after questions := by
  induction questions generalizing memory with
  | nil => exact List.prefix_refl _
  | cons question rest ih =>
    have comes := faithful.comes question
    exact comes.kept.trans (ih (comes.faithful faithful))

theorem Faithful.mem_keys_after {memory : PluralMemory} (faithful : memory.Faithful) {questions : List PluralQuestion}
    {key : String × PluralType} :
    key ∈ (memory.after questions).keys ↔ key ∈ memory.keys ∨
      ∃ question ∈ questions, question.key = key ∧ ∃ category, question.answer = .ok category := by
  induction questions generalizing memory with
  | nil => simp [PluralMemory.after]
  | cons question rest ih =>
    have comes := faithful.comes question
    have later : memory.after (question :: rest) = (memory.ask question).2.after rest := rfl
    rw [later, ih (comes.faithful faithful), comes.mem_keys, List.exists_mem_cons_iff, or_assoc]

/-- Whatever has been asked before, each question has the answer that it has with nothing remembered, and that is the
category of its number. No key is remembered twice, and each with the rules that are found for it: the keys of the
questions that had an answer, and no others. What is remembered is never changed or forgotten, and a question without an
answer leaves the memory as it was. -/
theorem transparent (questions : List PluralQuestion) :
    answers [] questions = questions.map (fun question => (ask [] question).1) ∧
      (∀ question, (ask [] question).1 = pluralCategory question.locale question.type question.input) ∧
      (after [] questions).Faithful ∧
      (∀ key, key ∈ (after [] questions).keys ↔
        ∃ question ∈ questions, question.key = key ∧ ∃ category, (ask [] question).1 = .ok category) ∧
      (∀ later, after [] questions <+: after [] (questions ++ later)) ∧
      ∀ question error, (ask (after [] questions) question).1 = .error error →
        (ask (after [] questions) question).2 = after [] questions := by
  have alone : ∀ question, (ask [] question).1 = question.answer := fun question =>
    (faithful_empty.comes question).answer
  have faithful := faithful_empty.after questions
  refine ⟨?_, ?_, faithful, ?_, ?_, ?_⟩
  · rw [faithful_empty.answers, funext alone]
  · intro question
    rw [alone, PluralQuestion.answer]
  · intro key
    rw [faithful_empty.mem_keys_after]
    simp only [alone, keys, List.map_nil, List.not_mem_nil, false_or]
  · intro later
    rw [after_append]
    exact faithful.kept later
  · intro question error fails
    have comes := faithful.comes question
    generalize ask (after [] questions) question = outcome at comes fails ⊢
    cases comes with
    | failed _ => rfl
    | known holds old => cases fails
    | learned holds new found => cases fails

/-- The rules for places do not answer for those that count. -/
example : answers [] [⟨"en", .ordinal, .integer 2⟩, ⟨"en", .cardinal, .integer 2⟩] = [.ok .two, .ok .other] := by cbv

end PluralMemory

end Localizable
