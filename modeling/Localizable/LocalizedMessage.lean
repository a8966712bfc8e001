import Localizable.Message.OfTokens
import Localizable.Rendering

/-!
# Messages of a locale

A message that has been read once and is formatted with arguments as often as
needed. It keeps the functions it was made with, or takes those in force at each
call.
-/

namespace Localizable

structure LocalizedMessage where
  locale : String
  source : String
  message : Message
  /-- The functions it was made with, if it keeps them. -/
  registry : Option Registry

namespace LocalizedMessage

/-- Reads a source for a locale. -/
def ofSource (locale source : String) (registry : Option Registry) : Except ParseError LocalizedMessage :=
  (Message.parse source).map fun message => ⟨locale, source, message, registry⟩

/-- The scope of a call, where `current` are the functions in force. -/
def scope (localized : LocalizedMessage) (current : Registry) (arguments : Dictionary Value) : Scope :=
  .ofArguments localized.locale arguments (localized.registry.getD current)

variable [Host]

/-- The message as text. -/
def formatText (localized : LocalizedMessage) (current : Registry) (arguments : Dictionary Value) :
    Except FormatError String :=
  ((localized.scope current arguments).messageText localized.message).2

/-- The message as parts. -/
def formatParts (localized : LocalizedMessage) (current : Registry) (arguments : Dictionary Value) :
    Except FormatError (List Part) :=
  ((localized.scope current arguments).messageParts localized.message).2

end LocalizedMessage
end Localizable
