/-!
# Suggestions for names

For a name that is unknown, the names close to it: those that a few edits of single
characters turn into it, the closest first.
-/

namespace Localizable

/-- The distances to every ending of a text, the whole of it first, from a text with one more character
in front, given the distances from the text without it. -/
def distanceRow (c : Char) : List Char → List Nat → List Nat
  | [], row => row.map (· + 1)
  | d :: text, whole :: rest :: row =>
    match distanceRow c text (rest :: row) with
    | next :: later => (if c = d then rest else min rest (min whole next) + 1) :: next :: later
    | [] => []
  | _ :: _, row => row

/-- The distances from a text to every ending of another one, the whole of it first. -/
def distances (text : List Char) : List Char → List Nat
  | [] => (List.range (text.length + 1)).reverse
  | c :: rest => distanceRow c text (distances text rest)

/-- The least number of characters to insert, to remove or to replace that turns one text into the other. -/
def editDistance (left right : List Char) : Nat := (distances right left).headD 0

/-- A name of up to three characters may be one edit away, a longer one two. -/
def allowedDistance (target : String) : Nat := if target.length ≤ 3 then 1 else 2

/-- The order of suggestions: the closer one first, and of two as close the lesser one. -/
def comesBefore (left right : Nat × String) : Bool :=
  left.1 < right.1 || (left.1 == right.1 && left.2 ≤ right.2)

/-- All names close enough to the target with their distances, in order. -/
def closeNames (target : String) (available : List String) : List (Nat × String) :=
  ((available.map fun name => (editDistance target.toList name.toList, name)).filter fun scored =>
    scored.1 ≤ allowedDistance target).mergeSort comesBefore

/-- Up to three names close to the target. -/
def suggestions (target : String) (available : List String) : List String :=
  ((closeNames target available).take 3).map (·.2)

end Localizable
