import Localizable.CommandLine.Arguments
import Localizable.CommandLine.Report
import Localizable.CommandLine.TokenTable
import Localizable.Glossary.Json
import Localizable.LocalizedMessage
import Localizable.Message.Source
import Localizable.Message.Tree

/-!
# The command line

What the program answers to a command line, given the files and the standard input
that it may read. A source is read first, then a glossary, and only then is the
message looked at.
-/

namespace Localizable.CommandLine

inductive Status
  | success
  /-- The message is at fault. -/
  | faultyMessage
  /-- A file or the standard input cannot be read, or a glossary is none. -/
  | unreadable
  /-- The command line is at fault. -/
  | faultyUsage
deriving DecidableEq, Repr

def Status.code : Status → Nat
  | .success => 0
  | .faultyMessage => 65
  | .unreadable => 70
  | .faultyUsage => 2

/-- What the program leaves: its status, its output, and what it says about an error. -/
structure Outcome where
  status : Status
  output : String
  report : Option Report

namespace Outcome

/-- Success with an output that a line end is put behind. -/
def success (output : String) : Outcome := ⟨.success, output ++ "\n", none⟩

def faultyMessage (report : Report) : Outcome := ⟨.faultyMessage, "", some report⟩

/-- What the program says then is in the words of the system or of its reader of JSON, and is left out here. -/
def unreadable : Outcome := ⟨.unreadable, "", none⟩

def faultyUsage (error : UsageError) : Outcome := ⟨.faultyUsage, "", some (.line ("error: " ++ error.message))⟩

end Outcome

/-- What the program may read. A file that cannot be read has no content. -/
structure Inputs where
  standardInput : Option ByteArray
  file : String → Option ByteArray

/-! ## Tasks -/

/-- The text of a source. -/
def SourceChoice.read (inputs : Inputs) : SourceChoice → Option String
  | .inline text => some text
  | .file path => (inputs.file path).bind String.fromUTF8?
  | .standardInput => inputs.standardInput.bind String.fromUTF8?

def lexOutcome (colored json : Bool) (source : String) : Outcome :=
  match (TokenStream.ofSource source).complete with
  | .error error => .faultyMessage (.ofError json colored (.source (.lexing error)))
  | .ok tokens => .success (if json then (Document.list (tokens.map Token.document)).pretty else tokenTable tokens)

def parseOutcome (colored canonical : Bool) (source : String) : Outcome :=
  match Message.parse source with
  | .error error => .faultyMessage (.ofError false colored (.source error))
  | .ok message => .success (if canonical then message.source else message.document.pretty)

/-- The integer of 64 bits that a text spells. -/
def integer64? (text : String) : Option Int :=
  let (negative, digits) := Numeral.takeSign text.toList
  (Numeral.natural? digits).bind fun n =>
    let value : Int := if negative then -(n : Int) else n
    if isSigned64 value then some value else none

/-- The value of an argument: a number if it is an integer, and else a text. -/
def argumentValue (text : String) : Value :=
  match integer64? text with
  | some n => .number (.ofInt n)
  | none => .text text

/-- The arguments of a message. Of two with one name the last one counts. -/
def messageArguments (arguments : List (String × String)) : Dictionary Value :=
  .ofList (arguments.map fun entry => (entry.1, argumentValue entry.2))

/-- The functions for a message, with those on terms if there is a glossary. -/
def registryFor (inputs : Inputs) : Option String → Except GlossaryError Registry
  | none => .ok .builtIn
  | some path => (Glossary.load (inputs.file path)).map Registry.builtIn.addTerms

variable [Host]

/-- The output of a message. -/
def formatted (settings : FormatSettings) (localized : LocalizedMessage) : Except FormatError String :=
  let arguments := messageArguments settings.arguments
  if settings.parts then
    (localized.formatParts .empty arguments).map fun parts => (Document.list (parts.map Part.document)).pretty
  else
    (localized.formatText .empty arguments).map fun text =>
      if settings.json then (Document.record [("result", .text text)]).pretty else text

def formatOutcome (colored : Bool) (settings : FormatSettings) (registry : Registry) (source : String) : Outcome :=
  match LocalizedMessage.ofSource settings.locale source (some registry) with
  | .error error => .faultyMessage (.ofError settings.json colored (.source error))
  | .ok localized => match formatted settings localized with
    | .error error => .faultyMessage (.ofError settings.json colored (.formatting error))
    | .ok output => .success output

def version : String := "msgfmt 0.1.0"

def usage : String :=
  "Usage: msgfmt [--color <auto|always|never>] [-v] <command>\n\n"
    ++ "Commands:\n"
    ++ "  lex [--json] [FILE | -m MESSAGE]\n"
    ++ "  parse [--canonical] [FILE | -m MESSAGE]\n"
    ++ "  format [--locale LOCALE] [-a NAME=VALUE]... [--glossary FILE] [--parts] [--json] [FILE | -m MESSAGE]"

/-- Carries out what a command line asks for. -/
def Request.outcome (request : Request) (inputs : Inputs) : Outcome :=
  let colored := request.color == .always
  match request.source.read inputs with
  | none => .unreadable
  | some source => match request.task with
    | .lex json => lexOutcome colored json source
    | .parse canonical => parseOutcome colored canonical source
    | .format settings => match registryFor inputs settings.glossary with
      | .error _ => .unreadable
      | .ok registry => formatOutcome colored settings registry source

/-- What the program leaves after a command line. -/
def outcome (arguments : List String) (inputs : Inputs) : Outcome :=
  match Request.read arguments with
  | .error (.usage error) => .faultyUsage error
  | .error .help => .success usage
  | .error .version => .success version
  | .ok request => request.outcome inputs

end Localizable.CommandLine
