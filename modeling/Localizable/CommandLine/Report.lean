import Localizable.Document
import Localizable.FormatError
import Localizable.SourceError

/-!
# Reports of errors

An error of a message is reported on one line, or as a document. Errors of a source
name the bytes that they are about.
-/

namespace Localizable.CommandLine

/-- An error of a source, or of formatting. -/
inductive MessageError
  | source (error : ParseError)
  | formatting (error : FormatError)
deriving DecidableEq, Repr

namespace MessageError

def kind : MessageError → ErrorKind
  | .source error => error.kind
  | .formatting error => error.kind

def message : MessageError → String
  | .source error => error.message
  | .formatting error => error.message

def span? : MessageError → Option Text.Span
  | .source error => some error.span
  | .formatting _ => none

/-- The error on one line. -/
def line (error : MessageError) : String :=
  let place := match error.span? with
    | some span => " at " ++ toString span.start ++ "-" ++ toString span.stop
    | none => ""
  "[" ++ error.kind.name ++ place ++ "] " ++ error.message

/-- The error as a document, its fields in alphabetical order. -/
def document (error : MessageError) : Document :=
  let span := match error.span? with
    | some span => .record [("end", .number span.stop), ("start", .number span.start)]
    | none => .null
  .record [("error", .record [("kind", .text error.kind.name), ("message", .text error.message), ("span", span)])]

end MessageError

/-- The report of an error. -/
inductive Report
  | line (text : String)
  | document (content : Document)

/-- A text in red. -/
def inRed (text : String) : String := "\x1b[31m" ++ text ++ "\x1b[39m"

namespace Report

/-- Reports an error as a document, or else on a line, in red if colours are shown. -/
def ofError (json colored : Bool) (error : MessageError) : Report :=
  if json then .document error.document
  else .line (if colored then inRed error.line else error.line)

def text : Report → String
  | .line text => text
  | .document content => content.pretty

end Report
end Localizable.CommandLine
