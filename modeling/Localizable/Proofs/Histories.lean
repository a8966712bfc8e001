import Localizable.Proofs.HeldValues
import Localizable.Workspace

/-!
# Histories of registries

What a registry answers is told by what has been entered in it: under each name and
in each role the function that was entered last (`Registry.AnswersBy`). A program has
one shared registry and any number of its own, takes copies of them on the way and
makes messages in between. A copy answers by what came before it, a message by what
came before the registry it keeps, and a message that follows the shared registry by
everything so far (`Registries.answersBy_history`).
-/

namespace Localizable

namespace Registry

theorem mem_names {registry : Registry} {name : String} :
    name ∈ registry.names ↔ ∃ role, registry.find? role name ≠ none := by
  rw [names, Dictionary.mem_names_overlay, Dictionary.names_map, Dictionary.names_map, Dictionary.mem_names,
    Dictionary.mem_names]
  constructor
  · rintro (formats | matches')
    · exact ⟨.formatter, formats⟩
    · exact ⟨.matcher, matches'⟩
  · rintro ⟨role, found⟩
    cases role with
    | formatter => exact .inl found
    | matcher => exact .inr found

theorem ext_find? {left right : Registry} (same : ∀ role name, left.find? role name = right.find? role name) :
    left = right := by
  have formatters : left.formatters = right.formatters := Dictionary.ext_get? (same .formatter)
  have matchers : left.matchers = right.matchers := Dictionary.ext_get? (same .matcher)
  obtain ⟨_, _⟩ := left
  cases formatters
  cases matchers
  rfl

end Registry

/-- A function that is entered under a name in a role. -/
structure Registration where
  role : Role
  name : String
  function : Function

def Registry.enter (registry : Registry) (entry : Registration) : Registry :=
  registry.register entry.role entry.name entry.function

namespace Workspace

inductive Step
  | register (role : Role) (name : String) (function : Function)
  | addBuiltIns
  | addTerms (glossary : Glossary)
  | takeSnapshot (slot : String)
  | addMessage (name locale source : String) (slot : Option String)
  | format (name : String) (arguments : Dictionary Value)

def step (workspace : Workspace) : Step → Workspace
  | .register role name function => workspace.change fun registry => registry.register role name function
  | .addBuiltIns => workspace.change .addBuiltIns
  | .addTerms glossary => workspace.change fun registry => registry.addTerms glossary
  | .takeSnapshot slot => workspace.takeSnapshot slot
  | .addMessage name locale source slot =>
    match workspace.addMessage name locale source slot with
    | .error _ => workspace
    | .ok (_, next) => next
  | .format _ _ => workspace

def after (workspace : Workspace) (history : List Step) : Workspace := history.foldl step workspace

/-- The text and the parts of a message, if there is one of this name. -/
def answer [Host] (workspace : Workspace) (name : String) (arguments : Dictionary Value) :
    Option (Except FormatError String × Except FormatError (List Part)) :=
  (workspace.messages.get? name).map fun localized =>
    (localized.formatText workspace.registry arguments, localized.formatParts workspace.registry arguments)

/-- What a step enters, the last one of a name counting. -/
def Step.registrations : Step → List Registration
  | .register role name function => [⟨role, name, function⟩]
  | .addBuiltIns => [⟨.formatter, "number", .number⟩, ⟨.matcher, "plural", .plural⟩,
      ⟨.matcher, "equals", .equals⟩, ⟨.matcher, "choose", .equals⟩,
      ⟨.formatter, "string", .string⟩]
  | .addTerms glossary => [⟨.formatter, "term", .term glossary⟩]
  | .takeSnapshot _ | .addMessage .. | .format .. => []

/-- The function that was entered last under a name in a role. -/
def lastFunction (history : List Step) (role : Role) (name : String) : Option Function :=
  ((history.flatMap Step.registrations).reverse.find? fun entry => entry.role = role ∧ entry.name = name).map
    Registration.function

end Workspace

open Workspace

/-- The registry finds what was entered last, and nothing that was never entered. -/
structure Registry.AnswersBy (registry : Registry) (history : List Step) : Prop where
  lookup : ∀ role name, registry.lookup role name =
    (lastFunction history role name).elim (.error (.unknownFunction name (suggestions name registry.names))) .ok
  names : registry.names.Pairwise (· < ·)
  mem_names : ∀ name, name ∈ registry.names ↔ ∃ role, lastFunction history role name ≠ none

namespace Registry

theorem find?_enter (registry : Registry) (entries : List Registration) (role : Role) (name : String) :
    (entries.foldl enter registry).find? role name =
      ((entries.reverse.find? fun entry => entry.role = role ∧ entry.name = name).map Registration.function).or
        (registry.find? role name) := by
  have each : ∀ (registry : Registry) (entry : Registration), (registry.enter entry).find? role name =
      if entry.role = role ∧ entry.name = name then some entry.function else registry.find? role name := by
    intro registry entry
    simp only [enter, find?_register, eq_comm]
  exact observe_foldl (fun registry => registry.find? role name) each entries registry

theorem answersBy_iff {registry : Registry} {history : List Step} :
    registry.AnswersBy history ↔ ∀ role name, registry.find? role name = lastFunction history role name := by
  constructor
  · intro answers role name
    have found := answers.lookup role name
    unfold lookup at found
    cases known : registry.find? role name with
    | none =>
      rw [known] at found
      cases entered : lastFunction history role name with
      | none => rfl
      | some function =>
        rw [entered] at found
        cases found
    | some function =>
      rw [known] at found
      cases entered : lastFunction history role name with
      | none =>
        rw [entered] at found
        cases found
      | some other =>
        rw [entered] at found
        cases found
        rfl
  · intro same
    refine ⟨?_, Dictionary.names_ascending _, ?_⟩
    · intro role name
      rw [lookup, same role name]
      cases lastFunction history role name <;> rfl
    · intro name
      rw [mem_names]
      simp only [same]

/-- What was entered last determines a registry. -/
theorem AnswersBy.determined {left right : Registry} {steps others : List Step} (answers : left.AnswersBy steps)
    (alike : right.AnswersBy others) (same : ∀ role name, lastFunction steps role name = lastFunction others role name) :
    left = right := by
  apply ext_find?
  intro role name
  rw [answersBy_iff.1 answers, answersBy_iff.1 alike, same]

end Registry

/-! ## One registry -/

namespace Workspace

theorem after_append (workspace : Workspace) (before later : List Step) :
    workspace.after (before ++ later) = (workspace.after before).after later := List.foldl_append

theorem step_addMessage {workspace : Workspace} {source : String} {message : Message}
    (parsed : Message.parse source = .ok message) (name locale : String) (slot : Option String) :
    workspace.step (.addMessage name locale source slot) =
      { workspace with messages :=
          workspace.messages.insert name ⟨locale, source, message, workspace.keptRegistry slot⟩ } := by
  simp only [step, addMessage, LocalizedMessage.ofSource, parsed, Except.map]

theorem step_addMessage_error {workspace : Workspace} {source : String} {error : ParseError}
    (refused : Message.parse source = .error error) (name locale : String) (slot : Option String) :
    workspace.step (.addMessage name locale source slot) = workspace := by
  simp only [step, addMessage, LocalizedMessage.ofSource, refused, Except.map]

/-- Nothing but messages is added with a message. -/
theorem exists_step_addMessage (workspace : Workspace) (name locale source : String) (slot : Option String) :
    ∃ messages, workspace.step (.addMessage name locale source slot) = { workspace with messages := messages } := by
  cases parsed : Message.parse source with
  | error error => exact ⟨workspace.messages, step_addMessage_error parsed name locale slot⟩
  | ok message => exact ⟨_, step_addMessage parsed name locale slot⟩

theorem step_shared (workspace : Workspace) (step : Step) : (workspace.step step).shared = workspace.shared := by
  cases step with
  | addMessage name locale source slot =>
    obtain ⟨messages, added⟩ := workspace.exists_step_addMessage name locale source slot
    rw [added]
  | _ => rfl

theorem step_registry (workspace : Workspace) (step : Step) :
    (workspace.step step).registry = step.registrations.foldl Registry.enter workspace.registry := by
  cases step with
  | addMessage name locale source slot =>
    obtain ⟨messages, added⟩ := workspace.exists_step_addMessage name locale source slot
    rw [added]
    rfl
  | _ => rfl

theorem after_shared (workspace : Workspace) (history : List Step) :
    (workspace.after history).shared = workspace.shared := by
  induction history generalizing workspace with
  | nil => rfl
  | cons step rest ih => exact (ih _).trans (workspace.step_shared step)

theorem after_registry (workspace : Workspace) (history : List Step) : (workspace.after history).registry =
    (history.flatMap Step.registrations).foldl Registry.enter workspace.registry := by
  induction history generalizing workspace with
  | nil => rfl
  | cons step rest ih =>
    have later := ih (workspace.step step)
    rw [step_registry] at later
    rw [List.flatMap_cons, List.foldl_append]
    exact later

theorem answersBy_after (shared : Bool) (history : List Step) :
    ((empty shared).after history).registry.AnswersBy history := by
  rw [Registry.answersBy_iff]
  intro role name
  have nothing : (empty shared).registry.find? role name = none := by cases role <;> rfl
  rw [after_registry, Registry.find?_enter, nothing, Option.or_none]
  rfl

theorem step_snapshots {workspace : Workspace} {step : Step} {slot : String} (other : step ≠ .takeSnapshot slot) :
    (workspace.step step).snapshots.get? slot = workspace.snapshots.get? slot := by
  cases step with
  | takeSnapshot taken =>
    have different : slot ≠ taken := by
      rintro rfl
      exact other rfl
    show (workspace.snapshots.insert taken workspace.registry).get? slot = _
    rw [Dictionary.get?_insert, if_neg different]
  | addMessage name locale source slot =>
    obtain ⟨messages, added⟩ := workspace.exists_step_addMessage name locale source slot
    rw [added]
  | _ => rfl

theorem after_snapshots {workspace : Workspace} {history : List Step} {slot : String}
    (untaken : .takeSnapshot slot ∉ history) :
    (workspace.after history).snapshots.get? slot = workspace.snapshots.get? slot := by
  induction history generalizing workspace with
  | nil => rfl
  | cons step rest ih =>
    have first : step ≠ .takeSnapshot slot := fun same => untaken (by simp [same])
    have later : .takeSnapshot slot ∉ rest := fun member => untaken (List.mem_cons_of_mem _ member)
    exact (ih later).trans (step_snapshots first)

/-- What a registry has seen of a history: all of it, or for a copy what came before the copy was taken. -/
inductive Seen (history : List Step) : Option String → List Step → Prop
  | current : Seen history none history
  | snapshot {slot : String} {before later : List Step} (split : history = before ++ .takeSnapshot slot :: later)
      (last : .takeSnapshot slot ∉ later) : Seen history (some slot) before

theorem answersBy_registryAt {history seen : List Step} {slot : Option String} (sees : Seen history slot seen)
    (shared : Bool) : (((empty shared).after history).registryAt slot).AnswersBy seen := by
  cases sees with
  | current => exact answersBy_after shared history
  | @snapshot slot _ later split last =>
    subst split
    have taken : (((empty shared).after seen).step (.takeSnapshot slot)).snapshots.get? slot =
        some ((empty shared).after seen).registry := by
      show (Dictionary.insert _ slot _).get? slot = _
      rw [Dictionary.get?_insert, if_pos rfl]
    have kept : ((empty shared).after (seen ++ .takeSnapshot slot :: later)).snapshots.get? slot =
        some ((empty shared).after seen).registry := by
      rw [after_append]
      exact (after_snapshots last).trans taken
    rw [registryAt, kept]
    exact answersBy_after shared seen

/-- No message that can be read is made under the name. -/
def Unmade (name : String) (history : List Step) : Prop :=
  ∀ locale source slot, .addMessage name locale source slot ∈ history → ∀ message, Message.parse source ≠ .ok message

theorem step_messages {workspace : Workspace} {step : Step} {name : String} (unmade : Unmade name [step]) :
    (workspace.step step).messages.get? name = workspace.messages.get? name := by
  cases step with
  | addMessage made locale source slot =>
    cases parsed : Message.parse source with
    | error error => rw [step_addMessage_error parsed]
    | ok message =>
      have different : name ≠ made := by
        rintro rfl
        exact unmade locale source slot (List.mem_singleton_self _) message parsed
      rw [step_addMessage parsed]
      show (workspace.messages.insert made _).get? name = _
      rw [Dictionary.get?_insert, if_neg different]
  | _ => rfl

theorem after_messages {workspace : Workspace} {history : List Step} {name : String} (unmade : Unmade name history) :
    (workspace.after history).messages.get? name = workspace.messages.get? name := by
  induction history generalizing workspace with
  | nil => rfl
  | cons step rest ih =>
    have first : Unmade name [step] := by
      intro locale source slot member
      exact unmade locale source slot (List.mem_cons.2 (.inl (List.mem_singleton.1 member)))
    have later : Unmade name rest := by
      intro locale source slot member
      exact unmade locale source slot (List.mem_cons_of_mem _ member)
    exact (ih later).trans (step_messages first)

/-- The steps that the message of a name answers by. A message that is made with a registry keeps it, and any other one
follows the shared registry. -/
inductive Counts (shared : Bool) (history : List Step) (name locale : String) (message : Message) : List Step → Prop
  | following {source : String} {before later : List Step}
      (split : history = before ++ .addMessage name locale source none :: later) (last : Unmade name later)
      (parsed : Message.parse source = .ok message) (follows : shared = true) :
      Counts shared history name locale message history
  | keeping {source : String} {slot : Option String} {before later seen : List Step}
      (split : history = before ++ .addMessage name locale source slot :: later) (last : Unmade name later)
      (parsed : Message.parse source = .ok message) (keeps : shared = false ∨ slot ≠ none)
      (sees : Seen before slot seen) : Counts shared history name locale message seen

theorem messages_after_addMessage {shared : Bool} {before later : List Step} {name source : String}
    {message : Message} (last : Unmade name later) (parsed : Message.parse source = .ok message) (locale : String)
    (slot : Option String) :
    ((empty shared).after (before ++ .addMessage name locale source slot :: later)).messages.get? name =
      some ⟨locale, source, message, ((empty shared).after before).keptRegistry slot⟩ := by
  have made : (((empty shared).after before).step (.addMessage name locale source slot)).messages.get? name =
      some ⟨locale, source, message, ((empty shared).after before).keptRegistry slot⟩ := by
    rw [step_addMessage parsed]
    show (Dictionary.insert _ name _).get? name = _
    rw [Dictionary.get?_insert, if_pos rfl]
  rw [after_append]
  exact (after_messages last).trans made

/-- A message is formatted with the functions that the steps it answers by have entered last. -/
theorem answer_of_counts [Host] {shared : Bool} {history counted : List Step} {name locale : String} {message : Message}
    (counts : Counts shared history name locale message counted) :
    ∃ functions : Registry, functions.AnswersBy counted ∧ ∀ arguments,
      ((empty shared).after history).answer name arguments =
        some (((Scope.ofArguments locale arguments functions).messageText message).2,
          ((Scope.ofArguments locale arguments functions).messageParts message).2) := by
  cases counts with
  | @following source before later split last parsed follows =>
    subst split follows
    refine ⟨_, answersBy_after true _, ?_⟩
    intro arguments
    have kept : ((empty true).after before).keptRegistry none = none := by
      rw [keptRegistry, after_shared]
      rfl
    rw [answer, messages_after_addMessage last parsed, kept]
    rfl
  | @keeping source slot before later seen split last parsed keeps sees =>
    subst split
    refine ⟨_, answersBy_registryAt sees shared, ?_⟩
    intro arguments
    have kept : ((empty shared).after before).keptRegistry slot =
        some (((empty shared).after before).registryAt slot) := by
      rw [keptRegistry, after_shared]
      rcases keeps with rfl | some
      · simp [empty]
      · obtain ⟨slot, rfl⟩ := Option.ne_none_iff_exists'.1 some
        rfl
    rw [answer, messages_after_addMessage last parsed, kept]
    rfl

end Workspace

/-! ## All registries of a program -/

/-- The shared registry, which has no name, and those that a program has of its own. -/
abbrev Registries := Option String → Workspace

namespace Registries

def start : Registries := fun place => .empty place.isNone

/-- Does something with one of the registries. -/
def step (registries : Registries) (event : Option String × Step) : Registries := fun place =>
  if event.1 = place then (registries place).step event.2 else registries place

def after (registries : Registries) (history : List (Option String × Step)) : Registries := history.foldl step registries

/-- What a history does with one registry. -/
def stepsAt (place : Option String) (history : List (Option String × Step)) : List Step :=
  history.filterMap fun event => if event.1 = place then some event.2 else none

/-- Nothing that is done with one registry is seen of another one. -/
theorem after_at (registries : Registries) (history : List (Option String × Step)) (place : Option String) :
    registries.after history place = (registries place).after (stepsAt place history) := by
  induction history generalizing registries with
  | nil => rfl
  | cons event rest ih =>
    have later : registries.after (event :: rest) place =
        (registries.step event place).after (stepsAt place rest) := ih (registries.step event)
    rw [later, step]
    by_cases here : event.1 = place
    · have first : stepsAt place (event :: rest) = event.2 :: stepsAt place rest := by simp [stepsAt, here]
      rw [if_pos here, first]
      rfl
    · have first : stepsAt place (event :: rest) = stepsAt place rest := by simp [stepsAt, here]
      rw [if_neg here, first]

/-- Lookups, names and results are told by what was entered last: in the registry itself, in a copy before it was
taken, for a message in the registry it keeps when it was made, and in the shared registry up to now for a message that
follows it. Where two histories have entered the same functions last they cannot be told apart. -/
theorem answersBy_history [Host] (history other : List (Option String × Step)) (place away : Option String) :
    (∀ slot seen, Seen (stepsAt place history) slot seen →
        ((start.after history place).registryAt slot).AnswersBy seen) ∧
      (∀ name locale message counted, Counts place.isNone (stepsAt place history) name locale message counted →
        ∃ functions : Registry, functions.AnswersBy counted ∧ ∀ arguments,
          (start.after history place).answer name arguments =
            some (((Scope.ofArguments locale arguments functions).messageText message).2,
              ((Scope.ofArguments locale arguments functions).messageParts message).2)) ∧
      ((∀ role name,
          lastFunction (stepsAt place history) role name = lastFunction (stepsAt away other) role name) →
        (start.after history place).registry = (start.after other away).registry) ∧
      ∀ name another locale message counted others,
        Counts place.isNone (stepsAt place history) name locale message counted →
        Counts away.isNone (stepsAt away other) another locale message others →
        (∀ role name, lastFunction counted role name = lastFunction others role name) →
        ∀ arguments,
          (start.after history place).answer name arguments = (start.after other away).answer another arguments := by
  rw [after_at, after_at]
  refine ⟨?_, ?_, ?_, ?_⟩
  · intro slot seen sees
    exact answersBy_registryAt sees _
  · intro name locale message counted counts
    exact answer_of_counts counts
  · intro same
    exact (answersBy_after _ _).determined (answersBy_after _ _) same
  · intro name another locale message counted others counts alike same arguments
    obtain ⟨functions, answers, formats⟩ := answer_of_counts counts
    obtain ⟨others, answersToo, formatsToo⟩ := answer_of_counts alike
    cases answers.determined answersToo same
    exact (formats arguments).trans (formatsToo arguments).symm

/-- A message on a number. -/
def numberSource : String := "\x7b\x7b$n :number\x7d\x7d"

def numberMessage : Message := .mk [] [] [⟨[], [.expression (.operand (.variable "n") (some ⟨"number", .empty⟩))]⟩]

/-- A function of the library is replaced in the shared registry, behind a copy and two messages. -/
def replaced : List (Option String × Step) :=
  [(none, .addBuiltIns), (none, .takeSnapshot "early"),
    (none, .addMessage "kept" "en" numberSource (some "early")),
    (none, .addMessage "following" "en" numberSource none), (some "own", .addTerms .empty),
    (none, .register .formatter "number" .string)]

/-- The same functions are entered in a registry of its own, before a message is made. -/
def late : List (Option String × Step) :=
  [(some "own", .addBuiltIns), (some "own", .register .formatter "number" .string),
    (some "own", .addMessage "late" "en" numberSource none)]

section
attribute [local instance] Host.labels

/-- The copy and the message that was made with it do not see the new function, and the other messages do. -/
theorem answersBy_history_replaced :
    ((start.after replaced none).registryAt (some "early")).AnswersBy [.addBuiltIns] ∧
      (∃ functions : Registry, functions.AnswersBy [.addBuiltIns] ∧ ∀ arguments,
        (start.after replaced none).answer "kept" arguments =
          some (((Scope.ofArguments "en" arguments functions).messageText numberMessage).2,
            ((Scope.ofArguments "en" arguments functions).messageParts numberMessage).2)) ∧
      (start.after replaced none).registry = (start.after late (some "own")).registry ∧
      ∀ arguments, (start.after replaced none).answer "following" arguments =
        (start.after late (some "own")).answer "late" arguments := by
  have parsed : Message.parse numberSource = .ok numberMessage := by decide +kernel
  have copying : [.addBuiltIns, .takeSnapshot "early"] = [Step.addBuiltIns] ++ .takeSnapshot "early" :: [] := rfl
  have copied : Seen (stepsAt none replaced) (some "early") [.addBuiltIns] := by
    refine .snapshot rfl ?_
    simp
  have keeping : stepsAt none replaced = [.addBuiltIns, .takeSnapshot "early"] ++
      .addMessage "kept" "en" numberSource (some "early") :: [.addMessage "following" "en" numberSource none,
        .register .formatter "number" .string] := rfl
  have kept : Counts true (stepsAt none replaced) "kept" "en" numberMessage [.addBuiltIns] := by
    refine .keeping keeping ?_ parsed (.inr (by simp)) (.snapshot copying (by simp))
    intro locale source slot member
    simp at member
  have follows : stepsAt none replaced = [.addBuiltIns, .takeSnapshot "early",
      .addMessage "kept" "en" numberSource (some "early")] ++ .addMessage "following" "en" numberSource none ::
        [.register .formatter "number" .string] := rfl
  have following : Counts true (stepsAt none replaced) "following" "en" numberMessage (stepsAt none replaced) := by
    refine .following follows ?_ parsed rfl
    intro locale source slot member
    simp at member
  have made : Counts false (stepsAt (some "own") late) "late" "en" numberMessage
      [.addBuiltIns, .register .formatter "number" .string] := by
    refine .keeping rfl ?_ parsed (.inl rfl) .current
    intro locale source slot member
    simp at member
  obtain ⟨copies, answers, same, alike⟩ := answersBy_history replaced late none (some "own")
  exact ⟨copies _ _ copied, answers _ _ _ _ kept, same fun _ _ => rfl,
    alike _ _ _ _ _ _ following made fun _ _ => rfl⟩

end

end Registries

end Localizable
