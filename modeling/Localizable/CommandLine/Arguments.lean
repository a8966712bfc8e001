import Localizable.Dictionary

/-!
# Arguments of the command line

The command line names a command, which reads a message from a file, from its
standard input or from the command line itself. Options of one letter may stand
together behind one hyphen, and the value of an option may be attached to it.
Behind two hyphens alone nothing is an option.
-/

namespace Localizable.CommandLine

/-- When errors are shown in red. With `auto` they are not, since it is not known where they go. -/
inductive ColorMode
  | auto
  | always
  | never
deriving DecidableEq, Repr

def ColorMode.ofName? : String → Option ColorMode
  | "auto" => some .auto
  | "always" => some .always
  | "never" => some .never
  | _ => none

/-- Where a message comes from. -/
inductive SourceChoice
  | inline (text : String)
  | file (path : String)
  | standardInput
deriving DecidableEq, Repr

structure FormatSettings where
  locale : String
  /-- Names and values in the order given. -/
  arguments : List (String × String)
  glossary : Option String
  parts : Bool
  json : Bool
deriving DecidableEq, Repr

inductive Task
  /-- Lists the tokens of a message. -/
  | lex (json : Bool)
  /-- Shows the tree of a message, or its canonical source. -/
  | parse (canonical : Bool)
  | format (settings : FormatSettings)
deriving DecidableEq, Repr

/-- What a command line asks for. -/
structure Request where
  color : ColorMode
  verbose : Bool
  source : SourceChoice
  task : Task
deriving DecidableEq, Repr

/-- What is wrong with a command line. -/
inductive UsageError
  | unknownOption (text : String)
  | unknownCommand (name : String)
  | missingCommand
  | unexpectedOperand (text : String)
  | missingValue (option : String)
  | unexpectedValue (option : String)
  | repeatedOption (option : String)
  | unknownColorMode (text : String)
  /-- An argument of the message without an equals sign. -/
  | notAPair (text : String)
  | emptyPath
  /-- A message both in a file and on the command line. -/
  | twoSources
deriving DecidableEq, Repr

def UsageError.message : UsageError → String
  | .unknownOption text => "unknown option '" ++ text ++ "'"
  | .unknownCommand name => "unknown command '" ++ name ++ "'"
  | .missingCommand => "a command is required"
  | .unexpectedOperand text => "unexpected argument '" ++ text ++ "'"
  | .missingValue option => "option '" ++ option ++ "' requires a value"
  | .unexpectedValue option => "option '" ++ option ++ "' takes no value"
  | .repeatedOption option => "option '" ++ option ++ "' is given more than once"
  | .unknownColorMode text => "unknown color mode '" ++ text ++ "'"
  | .notAPair text => "invalid argument format '" ++ text ++ "': expected name=value"
  | .emptyPath => "a path must not be empty"
  | .twoSources => "a message and a file exclude each other"

/-- Why reading arguments ends before their end. -/
inductive Interruption
  | usage (error : UsageError)
  | help
  | version
deriving DecidableEq, Repr

/-! ## Options -/

/-- Whose arguments are read: those of the program, or those of a command. -/
inductive Level
  | program
  | lex
  | parse
  | format
deriving DecidableEq, Repr

inductive OptionName
  | color
  | verbose
  | help
  | version
  | message
  | json
  | canonical
  | locale
  | argument
  | glossary
  | parts
deriving DecidableEq, Repr

namespace OptionName

/-- The name behind two hyphens. -/
def long : OptionName → String
  | .color => "color"
  | .verbose => "verbose"
  | .help => "help"
  | .version => "version"
  | .message => "message"
  | .json => "json"
  | .canonical => "canonical"
  | .locale => "locale"
  | .argument => "arg"
  | .glossary => "glossary"
  | .parts => "parts"

def all : List OptionName :=
  [.color, .verbose, .help, .version, .message, .json, .canonical, .locale, .argument, .glossary, .parts]

def ofLong? (name : String) : Option OptionName := all.find? fun option => option.long == name

/-- The option of a letter behind one hyphen. -/
def ofLetter? (c : Char) : Option OptionName :=
  if c = 'v' then some .verbose
  else if c = 'h' then some .help
  else if c = 'V' then some .version
  else if c = 'm' then some .message
  else if c = 'a' then some .argument
  else none

def takesValue : OptionName → Bool
  | .color | .message | .locale | .argument | .glossary => true
  | _ => false

/-- Where an option may stand. -/
def belongsTo : OptionName → Level → Bool
  | .color, _ | .verbose, _ | .help, _ => true
  | .version, level => level == .program
  | .message, level => level != .program
  | .json, level => level == .lex || level == .format
  | .canonical, level => level == .parse
  | .locale, level | .argument, level | .glossary, level | .parts, level => level == .format

end OptionName

/-! ## Reading -/

/-- What has been read at one level. -/
structure Frame where
  flags : List OptionName
  values : List (OptionName × String)
  operand : Option String

namespace Frame

def empty : Frame := ⟨[], [], none⟩

def has (frame : Frame) (option : OptionName) : Bool := frame.flags.contains option || (frame.values.lookup option).isSome

def value? (frame : Frame) (option : OptionName) : Option String := frame.values.lookup option

/-- Adds an option without a value. Asking for help or for the version ends the reading. -/
def addFlag (frame : Frame) (option : OptionName) : Except Interruption Frame :=
  if option = .help then .error .help
  else if option = .version then .error .version
  else if frame.has option then .error (.usage (.repeatedOption option.long))
  else .ok { frame with flags := option :: frame.flags }

/-- The two sides of the first equals sign. -/
def pair? (text : String) : Option (String × String) :=
  match text.toList.dropWhile (· ≠ '=') with
  | _ :: value => some (String.ofList (text.toList.takeWhile (· ≠ '=')), String.ofList value)
  | [] => none

/-- What is wrong with the value of an option. -/
def valueFault? (option : OptionName) (value : String) : Option UsageError :=
  if option = .color ∧ (ColorMode.ofName? value).isNone then some (.unknownColorMode value)
  else if option = .argument ∧ (pair? value).isNone then some (.notAPair value)
  else if option = .glossary ∧ value = "" then some .emptyPath
  else none

/-- Adds an option with its value. Only arguments of the message may be given more than once. -/
def addValue (frame : Frame) (option : OptionName) (value : String) : Except Interruption Frame :=
  if option ≠ .argument ∧ frame.has option then .error (.usage (.repeatedOption option.long))
  else match valueFault? option value with
    | some fault => .error (.usage fault)
    | none => .ok { frame with values := frame.values ++ [(option, value)] }

/-- Adds the path of a file. -/
def addOperand (frame : Frame) (level : Level) (text : String) : Except Interruption Frame :=
  if level = .program ∨ frame.operand.isSome then .error (.usage (.unexpectedOperand text))
  else if text = "" then .error (.usage .emptyPath)
  else .ok { frame with operand := some text }

/-- Adds an option of a long name and the value attached to it. What is still to come is an option
whose value is the next argument. -/
def addLong (frame : Frame) (level : Level) (text : List Char) : Except Interruption (Frame × Option OptionName) :=
  let name := String.ofList (text.takeWhile (· ≠ '='))
  match (OptionName.ofLong? name).filter (·.belongsTo level), text.dropWhile (· ≠ '=') with
  | none, _ => .error (.usage (.unknownOption name))
  | some option, _ :: value =>
    if option.takesValue then (frame.addValue option (String.ofList value)).map (·, none)
    else .error (.usage (.unexpectedValue name))
  | some option, [] => if option.takesValue then .ok (frame, some option) else (frame.addFlag option).map (·, none)

/-- Adds options of one letter each. The first that takes a value has the rest for its value, if
there is a rest. -/
def addLetters (frame : Frame) (level : Level) : List Char → Except Interruption (Frame × Option OptionName)
  | [] => .ok (frame, none)
  | c :: rest =>
    match (OptionName.ofLetter? c).filter (·.belongsTo level) with
    | none => .error (.usage (.unknownOption (String.singleton c)))
    | some option =>
      if option.takesValue then
        match rest with
        | [] => .ok (frame, some option)
        | first :: more =>
          (frame.addValue option (String.ofList (if first = '=' then more else first :: more))).map (·, none)
      else match frame.addFlag option with
        | .error interruption => .error interruption
        | .ok frame => frame.addLetters level rest

end Frame

/-- What an argument looks like. -/
inductive Shape
  /-- Two hyphens and no more. -/
  | separator
  | long (text : List Char)
  | letters (text : List Char)
  /-- Anything else, a lone hyphen among them. -/
  | plain

def Shape.of (argument : String) : Shape :=
  match argument.toList with
  | ['-', '-'] => .separator
  | '-' :: '-' :: text => .long text
  | '-' :: c :: text => .letters (c :: text)
  | _ => .plain

/-- Adds the option of an argument. -/
def Frame.addOption (frame : Frame) (level : Level) :
    Shape → Except Interruption (Frame × Option OptionName)
  | .long text => frame.addLong level text
  | .letters text => frame.addLetters level text
  | _ => .ok (frame, none)

/-- Reads the arguments of a level. Those of the program end at a command, which is left over. -/
def readArguments (level : Level) (frame : Frame) : List String → Except Interruption (Frame × List String)
  | [] => .ok (frame, [])
  | argument :: rest =>
    match Shape.of argument with
    | .separator => (rest.foldlM (fun (read : Frame) text => read.addOperand level text) frame).map (·, [])
    | .plain =>
      if level = .program then .ok (frame, argument :: rest)
      else match frame.addOperand level argument with
        | .error interruption => .error interruption
        | .ok frame => readArguments level frame rest
    | shape =>
      match frame.addOption level shape with
      | .error interruption => .error interruption
      | .ok (frame, none) => readArguments level frame rest
      | .ok (frame, some option) =>
        match rest with
        | [] => .error (.usage (.missingValue option.long))
        | value :: rest =>
          match Shape.of value with
          | .plain =>
            match frame.addValue option value with
            | .error interruption => .error interruption
            | .ok frame => readArguments level frame rest
          | _ => .error (.usage (.missingValue option.long))

/-- Where a command takes its message from. A lone hyphen is the standard input. -/
def Frame.source (frame : Frame) : Except Interruption SourceChoice :=
  match frame.value? .message, frame.operand with
  | some _, some _ => .error (.usage .twoSources)
  | some text, none => .ok (.inline text)
  | none, some path => .ok (if path = "-" then .standardInput else .file path)
  | none, none => .ok .standardInput

def defaultLocale : String := "en"

/-- The task of a command with its options. -/
def Frame.task (frame : Frame) : Level → Except Interruption Task
  | .program => .error (.usage .missingCommand)
  | .lex => .ok (.lex (frame.has .json))
  | .parse => .ok (.parse (frame.has .canonical))
  | .format => .ok (.format {
      locale := (frame.value? .locale).getD defaultLocale
      arguments := (frame.values.filter fun entry => entry.1 == .argument).filterMap fun entry => Frame.pair? entry.2
      glossary := frame.value? .glossary
      parts := frame.has .parts
      json := frame.has .json })

/-- The colours asked for, by the command first. -/
def colorMode (program command : Frame) : ColorMode :=
  (((command.value? .color).or (program.value? .color)).bind ColorMode.ofName?).getD .auto

def Level.ofCommand? : String → Option Level
  | "lex" => some .lex
  | "parse" => some .parse
  | "format" => some .format
  | _ => none

/-- Reads the arguments behind the options of the program. -/
def readCommand (program : Frame) : List String → Except Interruption Request
  | [] => .error (.usage .missingCommand)
  | ["help"] => .error .help
  | name :: arguments =>
    if name = "help" ∧ (arguments.head?.bind Level.ofCommand?).isSome ∧ arguments.length = 1 then .error .help
    else match Level.ofCommand? name with
      | none => .error (.usage (.unknownCommand name))
      | some level => do
        let (command, _) ← readArguments level .empty arguments
        return ⟨colorMode program command, program.has .verbose || command.has .verbose, ← command.source,
          ← command.task level⟩

/-- Reads a command line. -/
def Request.read (arguments : List String) : Except Interruption Request := do
  let (program, rest) ← readArguments .program .empty arguments
  readCommand program rest

end Localizable.CommandLine
