import Localizable.Document
import Localizable.Text.Quoted
import Localizable.Text.Width
import Localizable.Token

/-!
# Listings of tokens

Tokens are listed in a table with a frame around it, each column as wide as its
widest cell, or as a document.
-/

namespace Localizable.CommandLine
open Text

/-- A row of a table. -/
abbrev Row := List String

/-- The widths of the columns. -/
def columnWidths (rows : List Row) : List Nat :=
  rows.foldl (fun widths row => List.zipWith max widths (row.map fun cell => Text.width cell.toList))
    (List.replicate ((rows.headD []).length) 0)

/-- A cell with a blank at either side, filled up to the width of its column. -/
def cellText (width : Nat) (cell : String) : String :=
  " " ++ cell ++ String.ofList (List.replicate (width - Text.width cell.toList + 1) ' ')

def rowText (widths : List Nat) (row : Row) : String :=
  "│" ++ " ".intercalate (List.zipWith cellText widths row) ++ "│"

/-- A horizontal line across all columns. -/
def ruleText (widths : List Nat) (left line right : Char) : String :=
  let columns := widths.foldl (· + ·) 0 + 2 * widths.length + (widths.length - 1)
  String.ofList (left :: List.replicate columns line ++ [right])

/-- A table with a line below its header. -/
def tableText (header : Row) (rows : List Row) : String :=
  let widths := columnWidths (header :: rows)
  "\n".intercalate ([ruleText widths '┌' '─' '┐', rowText widths header, ruleText widths '╞' '═' '╡']
    ++ rows.map (rowText widths) ++ [ruleText widths '└' '─' '┘'])

/-- The row of a token: its kind, its value between quotes, and its bytes. -/
def tokenRow (token : Token) : Row :=
  [token.kind.label, Text.quoted token.value, toString token.span.start ++ "-" ++ toString token.span.stop]

def tokenTable (tokens : List Token) : String := tableText ["Kind", "Value", "Span"] (tokens.map tokenRow)

end Localizable.CommandLine

namespace Localizable

def Text.Span.document (span : Text.Span) : Document :=
  .record [("start", .number span.start), ("end", .number span.stop)]

def Token.document (token : Token) : Document :=
  .record [("kind", .text token.kind.label), ("value", .text token.value), ("span", token.span.document)]

end Localizable
