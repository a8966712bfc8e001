/-!
# What plural rules see of a number

A whole number is seen as such; otherwise the visible digits count, so that `1` and
`1.0` can fall into different categories.
-/

namespace Localizable

inductive PluralInput
  /-- A number without visible fraction digits. -/
  | integer (value : Int)
  /-- The digits of a number without its sign. -/
  | decimal (digits : String)
deriving DecidableEq, Repr

end Localizable
