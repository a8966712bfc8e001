import Localizable.CommandLine
import Localizable.Proofs.RoundTrip

/-!
# The commands on one source

The commands read their source alike and report its errors alike, each as far as it
looks: one stops at the tokens, one at the message, and one formats the message
(`CommandLine.commands_agree`). The canonical source that is printed, with the line
end behind it, is read as the same message again.
-/

namespace Localizable
open Text

namespace Layout

def Gap.append (gap more : Gap) : Gap where
  chars := gap.chars ++ more.chars
  blank := by
    intro c member
    rcases List.mem_append.1 member with front | back
    · exact gap.blank c front
    · exact more.blank c back

def Variants.followedBy (more : Gap) : Variants → Variants
  | .last variant gap => .last variant (gap.append more)
  | .more variant gap rest => .more variant gap (rest.followedBy more)

def Selectors.followedBy (more : Gap) : Selectors → Selectors
  | .variants gap items => .variants gap (items.followedBy more)
  | .selector gap content rest => .selector gap content (rest.followedBy more)

/-- The same layout with more whitespace at its end. -/
def followedBy (more : Gap) : Layout → Layout
  | .declaration gap item rest => .declaration gap item (rest.followedBy more)
  | .pattern gap body behind => .pattern gap body (behind.append more)
  | .selection gap before first rest => .selection gap before first (rest.followedBy more)

theorem Variants.followedBy_same (variants : Variants) (more : Gap) :
    charsOf (variants.followedBy more).stretches = charsOf variants.stretches ++ more.chars ∧
      (variants.followedBy more).list = variants.list ∧
      ∀ offset count, (variants.followedBy more).violations offset count = variants.violations offset count := by
  induction variants with
  | last variant gap =>
    refine ⟨?_, rfl, fun offset count => rfl⟩
    simp [followedBy, Variants.stretches, Gap.append]
  | more variant gap rest ih =>
    obtain ⟨chars, list, violations⟩ := ih
    refine ⟨?_, ?_, ?_⟩
    · simp [followedBy, Variants.stretches, chars]
    · rw [followedBy, Variants.list, Variants.list, list]
    · intro offset count
      rw [followedBy, Variants.violations, Variants.violations, violations]

theorem Selectors.followedBy_same (selectors : Selectors) (more : Gap) :
    charsOf (selectors.followedBy more).stretches = charsOf selectors.stretches ++ more.chars ∧
      (selectors.followedBy more).expressions = selectors.expressions ∧
      (selectors.followedBy more).list = selectors.list ∧
      ∀ offset count, (selectors.followedBy more).violations offset count = selectors.violations offset count := by
  induction selectors with
  | variants gap items =>
    obtain ⟨chars, list, violations⟩ := items.followedBy_same more
    refine ⟨?_, rfl, list, fun offset count => violations _ count⟩
    simp [followedBy, Selectors.stretches, chars]
  | selector gap content rest ih =>
    obtain ⟨chars, expressions, list, violations⟩ := ih
    refine ⟨?_, ?_, list, ?_⟩
    · simp [followedBy, Selectors.stretches, chars]
    · rw [followedBy, Selectors.expressions, Selectors.expressions, expressions]
    · intro offset count
      rw [followedBy, Selectors.violations, Selectors.violations, violations]

/-- Whitespace at the end of a source changes neither its message nor what is wrong with it. -/
theorem followedBy_same (layout : Layout) (more : Gap) :
    (layout.followedBy more).chars = layout.chars ++ more.chars ∧
      (layout.followedBy more).message = layout.message ∧
      ∀ offset, (layout.followedBy more).violationsFrom offset = layout.violationsFrom offset := by
  induction layout with
  | declaration gap item rest ih =>
    obtain ⟨chars, message, violations⟩ := ih
    refine ⟨?_, ?_, ?_⟩
    · rw [Layout.chars, Layout.chars] at chars
      simp [followedBy, Layout.chars, Layout.stretches, chars]
    · rw [followedBy, Layout.message, Layout.message, message]
    · intro offset
      rw [followedBy, violationsFrom, violationsFrom, violations]
  | pattern gap body behind =>
    refine ⟨?_, rfl, fun offset => rfl⟩
    simp [followedBy, Layout.chars, Layout.stretches, Gap.append]
  | selection gap before first rest =>
    obtain ⟨chars, expressions, list, violations⟩ := rest.followedBy_same more
    refine ⟨?_, ?_, ?_⟩
    · simp [followedBy, Layout.chars, Layout.stretches, chars]
    · rw [followedBy, Layout.message, Layout.message, expressions, list]
    · intro offset
      rw [followedBy, violationsFrom, violationsFrom, expressions, violations]

end Layout

/-- What is read is read again from its canonical source, also with a line end behind it. -/
theorem Message.parse_printed {source : String} {message : Message} (parsed : Message.parse source = .ok message) :
    Message.parse (message.source ++ "\n") = .ok message := by
  obtain ⟨layout, _, none, rfl⟩ := exists_layout_of_parse parsed
  obtain ⟨printed, chars, same, sound⟩ := Layout.exists_layout (Layout.message_wellFormed none) .none
  obtain ⟨longer, again, violations⟩ := printed.followedBy_same Layout.Break.line.toGap
  have written : (layout.message.source ++ "\n").toList = (printed.followedBy Layout.Break.line.toGap).chars := by
    rw [String.toList_append, Message.source, String.toList_ofList, longer, chars]
    rfl
  rw [Message.parse, written, Layout.parseChars, Layout.violations, violations, sound, again, same]

namespace CommandLine

/-! ## Outcomes -/

/-- A source without complete tokens is no message, for the same reason. -/
theorem parse_of_incomplete {source : String} {error : LexError}
    (incomplete : (TokenStream.ofSource source).complete = .error error) :
    Message.parse source = .error (.lexing error) := by
  have chars : (TokenStream.ofChars source.toList).complete = .error error := incomplete
  rw [Message.parse, Message.parseChars, chars]

theorem exists_complete_of_parse {source : String} {message : Message} (parsed : Message.parse source = .ok message) :
    ∃ tokens, (TokenStream.ofSource source).complete = .ok tokens := by
  cases complete : (TokenStream.ofSource source).complete with
  | error error =>
    rw [parse_of_incomplete complete] at parsed
    cases parsed
  | ok tokens => exact ⟨tokens, rfl⟩

theorem lexOutcome_of_complete {source : String} {tokens : List Token}
    (complete : (TokenStream.ofSource source).complete = .ok tokens) (colored json : Bool) :
    (lexOutcome colored json source).status = .success := by
  rw [lexOutcome, complete]
  rfl

section
variable [Host]

theorem formatOutcome_of_error {source : String} {error : ParseError} (refused : Message.parse source = .error error)
    (colored : Bool) (settings : FormatSettings) (registry : Registry) :
    formatOutcome colored settings registry source =
      .faultyMessage (.ofError settings.json colored (.source error)) := by
  rw [formatOutcome, LocalizedMessage.ofSource, refused]
  rfl

/-- Nothing but the message counts of a source. -/
theorem formatOutcome_of_parse {source : String} {message : Message} (parsed : Message.parse source = .ok message)
    (colored : Bool) (settings : FormatSettings) (registry : Registry) :
    formatOutcome colored settings registry source =
      match formatted settings ⟨settings.locale, source, message, some registry⟩ with
      | .error error => .faultyMessage (.ofError settings.json colored (.formatting error))
      | .ok output => .success output := by
  rw [formatOutcome, LocalizedMessage.ofSource, parsed]
  rfl

/-- There is an output only where there is success. -/
def Outcome.Quiet (outcome : Outcome) : Prop := outcome.status = .success ∨ outcome.output = ""

theorem formatOutcome_quiet (colored : Bool) (settings : FormatSettings) (registry : Registry) (source : String) :
    (formatOutcome colored settings registry source).Quiet := by
  cases parsed : Message.parse source with
  | error error =>
    rw [formatOutcome_of_error parsed]
    exact .inr rfl
  | ok message =>
    rw [formatOutcome_of_parse parsed]
    split
    · exact .inr rfl
    · exact .inl rfl

theorem Request.outcome_quiet (request : Request) (inputs : Inputs) : (request.outcome inputs).Quiet := by
  unfold Request.outcome
  dsimp only
  split
  · exact .inr rfl
  · split
    · unfold lexOutcome
      split
      · exact .inr rfl
      · exact .inl rfl
    · unfold parseOutcome
      split
      · exact .inr rfl
      · exact .inl rfl
    · split
      · exact .inr rfl
      · exact formatOutcome_quiet ..

theorem outcome_quiet (arguments : List String) (inputs : Inputs) : (outcome arguments inputs).Quiet := by
  unfold outcome
  split
  · exact .inr rfl
  · exact .inl rfl
  · exact .inl rfl
  · exact Request.outcome_quiet ..

/-- The command line asks for a task on a source, with colours or without. -/
def Asks (arguments : List String) (inputs : Inputs) (colored : Bool) (task : Task) (source : String) : Prop :=
  ∃ request, Request.read arguments = .ok request ∧ (request.color == .always) = colored ∧ request.task = task ∧
    request.source.read inputs = some source

variable {arguments : List String} {inputs : Inputs} {colored : Bool} {source : String}

theorem Asks.lex {json : Bool} (asks : Asks arguments inputs colored (.lex json) source) :
    outcome arguments inputs = lexOutcome colored json source := by
  obtain ⟨request, read, rfl, task, own⟩ := asks
  simp only [outcome, read, Request.outcome, own, task]

theorem Asks.parse {canonical : Bool} (asks : Asks arguments inputs colored (.parse canonical) source) :
    outcome arguments inputs = parseOutcome colored canonical source := by
  obtain ⟨request, read, rfl, task, own⟩ := asks
  simp only [outcome, read, Request.outcome, own, task]

theorem Asks.format {settings : FormatSettings} {registry : Registry}
    (asks : Asks arguments inputs colored (.format settings) source)
    (functions : registryFor inputs settings.glossary = .ok registry) :
    outcome arguments inputs = formatOutcome colored settings registry source := by
  obtain ⟨request, read, rfl, task, own⟩ := asks
  simp only [outcome, read, Request.outcome, own, task, functions]

theorem outcome_of_unreadable_glossary {request : Request} {settings : FormatSettings} {error : GlossaryError}
    (read : Request.read arguments = .ok request) (task : request.task = .format settings)
    (unreadable : registryFor inputs settings.glossary = .error error) :
    (outcome arguments inputs).status = .unreadable := by
  simp only [outcome, read, Request.outcome]
  cases request.source.read inputs with
  | none => rfl
  | some source =>
    simp only [task, unreadable]
    rfl

end

/-! ## A source given in each way -/

theorem addLong_message {level : Level} (command : level ≠ .program) (source : String) :
    Frame.empty.addLong level ("message=".toList ++ source.toList) = .ok (⟨[], [(.message, source)], none⟩, none) := by
  have name : String.ofList (("message=".toList ++ source.toList).takeWhile (· ≠ '=')) = "message" := by
    simp
  have value : ("message=".toList ++ source.toList).dropWhile (· ≠ '=') = '=' :: source.toList := by
    simp
  have option : (OptionName.ofLong? "message").filter (·.belongsTo level) = some .message := by
    cases level with
    | program => exact absurd rfl command
    | _ => decide
  rw [Frame.addLong, name, value, option]
  simp [OptionName.takesValue, Frame.addValue, Frame.has, Frame.valueFault?, Frame.empty, Except.map]

/-- What stands behind `--message=` is the message of a command, whatever it is. -/
theorem readCommand_message (name : String) {level : Level} (named : Level.ofCommand? name = some level)
    (command : level ≠ .program) (other : name ≠ "help") (source : String) :
    readCommand .empty [name, "--message=" ++ source] =
      ((⟨[], [(.message, source)], none⟩ : Frame).task level).map (⟨.auto, false, .inline source, ·⟩) := by
  have shape : Shape.of ("--message=" ++ source) = .long ("message=".toList ++ source.toList) := by
    rw [Shape.of, String.toList_append]
    rfl
  have arguments : readArguments level .empty ["--message=" ++ source] =
      .ok (⟨[], [(.message, source)], none⟩, []) := by
    rw [readArguments, shape]
    simp only [Frame.addOption, addLong_message command]
    rfl
  rw [readCommand]
  · simp only [other, named, arguments, false_and, if_false]
    rfl
  · intro help
    exact absurd help other

/-- Any source can be given to a command on its command line. -/
theorem asks_message (inputs : Inputs) (source : String) :
    Asks ["lex", "--message=" ++ source] inputs false (.lex false) source ∧
      Asks ["parse", "--message=" ++ source] inputs false (.parse false) source ∧
      Asks ["format", "--message=" ++ source] inputs false (.format ⟨"en", [], none, false, false⟩) source := by
  have lexing := readCommand_message "lex" rfl (by decide) (by decide) source
  have parsing := readCommand_message "parse" rfl (by decide) (by decide) source
  have formatting := readCommand_message "format" rfl (by decide) (by decide) source
  exact ⟨⟨_, lexing, rfl, rfl, rfl⟩, ⟨_, parsing, rfl, rfl, rfl⟩, ⟨_, formatting, rfl, rfl, rfl⟩⟩

/-- Inputs with one text on the standard input and in every file. -/
def Inputs.ofText (text : String) : Inputs := ⟨some text.toUTF8, fun _ => some text.toUTF8⟩

theorem fromUTF8?_toUTF8 (text : String) : String.fromUTF8? text.toUTF8 = some text := by
  have valid : text.toUTF8.IsValidUTF8 := text.isValidUTF8
  rw [String.fromUTF8?, dif_pos valid]
  rfl

theorem asks_file (text : String) :
    Asks ["parse", "--canonical", "greeting.msg"] (.ofText text) false (.parse true) text :=
  ⟨⟨.auto, false, .file "greeting.msg", .parse true⟩, by decide +kernel, rfl, rfl, fromUTF8?_toUTF8 text⟩

def greetingSettings : FormatSettings where
  locale := "en"
  arguments := [("who", "Ada")]
  glossary := none
  parts := false
  json := false

theorem asks_input (text : String) :
    Asks ["format", "--locale=en", "-a", "who=Ada"] (.ofText text) false (.format greetingSettings) text :=
  ⟨⟨.auto, false, .standardInput, .format greetingSettings⟩, by decide +kernel, rfl, rfl, fromUTF8?_toUTF8 text⟩

def greeting : String := "\x7bHi \x7b$who \x7d\x7d"

section
attribute [local instance] Host.none

end

end CommandLine

end Localizable
