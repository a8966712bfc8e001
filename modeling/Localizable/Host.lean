import Localizable.Registry

/-!
# The host

The program around the library may enter functions of its own and pass values of its
own types. What they do is a parameter of everything that calls them: an instance of
`Host`. They see of a scope all that a scope lets be seen, its locale, its variables
and both tables of its functions.
-/

namespace Localizable

/-- What is seen of a scope. All else that a scope can be asked for is made of these. -/
structure Surroundings where
  locale : String
  /-- The value of a variable. -/
  valueOf : String → Except FormatError Value
  registry : Registry

/-- The language of the locale. -/
def Surroundings.language (surroundings : Surroundings) : String := languageOf surroundings.locale

/-- What a function does: it returns a value for an operand, which may be missing, and options. -/
abbrev Behaviour := Surroundings → Option Value → OptionValues → Except FormatError Value

/-- How a value is shown, as text and as parts. -/
structure Showing where
  text : Surroundings → Except FormatError String
  parts : Surroundings → Except FormatError (List Part)

/-- A value that has a text and nothing else to show is shown as that text. -/
def Showing.ofText (text : Surroundings → Except FormatError String) : Showing where
  text := text
  parts surroundings := (text surroundings).map fun shown => [.literal shown]

class Host where
  /-- What the function of a label does. -/
  behaviour (label : String) : Behaviour
  /-- How a value is shown, if it may stand in a pattern. -/
  showing (item : HostValue) : Option Showing
  /-- Whether a key names a value, if it may stand in a selector. -/
  matching (item : HostValue) : Option (Surroundings → String → Except FormatError Bool)

/-- A host without functions, whose values can do nothing. -/
@[reducible] def Host.none : Host where
  behaviour label _ _ _ := .error (.unknownFunction label [])
  showing _ := .none
  matching _ := .none

end Localizable
