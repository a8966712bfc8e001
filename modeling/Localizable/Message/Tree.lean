import Localizable.Document
import Localizable.Message

/-!
# The tree of a message as a document

Alternatives are records of one field named for the alternative.
-/

namespace Localizable

def Operand.document : Operand → Document
  | .literal value => .record [("literal", .text value)]
  | .variable name => .record [("variable", .text name)]

def optionsDocument (options : Options) : Document := .ofDictionary Operand.document options

def Invocation.document (function : Invocation) : Document :=
  .record [("name", .text function.name), ("options", optionsDocument function.options)]

def Expression.document : Expression → Document
  | .operand value function =>
    .record [("operand", .record
      [("operand", value.document), ("function", (function.map Invocation.document).getD .null)])]
  | .call function => .record [("function", function.document)]

def Element.document : Element → Document
  | .text value => .record [("text", .text value)]
  | .expression content => .record [("expression", content.document)]
  | .markupOpen name options =>
    .record [("markup_open", .record [("name", .text name), ("options", optionsDocument options)])]
  | .markupClose name => .record [("markup_close", .record [("name", .text name)])]

def Key.document : Key → Document
  | .literal value => .record [("literal", .text value)]
  | .any => .text "asterisk"

def Variant.document (variant : Variant) : Document :=
  .record [
    ("keys", .list (variant.keys.map Key.document)),
    ("pattern", .record [("elements", .list (variant.pattern.map Element.document))])]

def Declaration.document (declaration : Declaration) : Document :=
  .record [("name", .text declaration.name), ("expression", declaration.expression.document)]

def Message.document (message : Message) : Document :=
  .record [
    ("declarations", .list (message.declarations.map Declaration.document)),
    ("selectors", .list (message.selectors.map Expression.document)),
    ("variants", .list (message.variants.map Variant.document))]

end Localizable
