import Localizable.Plural.Operands

/-!
# Plural rules

The rules of a language are a list of categories with conditions. A number falls
into the first category whose condition it meets, and into `other` if it meets none.
-/

namespace Localizable

inductive PluralCategory
  | zero
  | one
  | two
  | few
  | many
  | other
deriving DecidableEq, Repr

def PluralCategory.name : PluralCategory → String
  | .zero => "zero"
  | .one => "one"
  | .two => "two"
  | .few => "few"
  | .many => "many"
  | .other => "other"

/-- Whether a number counts things or numbers a place among them. -/
inductive PluralType
  | cardinal
  | ordinal
deriving DecidableEq, Repr

def PluralType.ofName? : String → Option PluralType
  | "cardinal" => some .cardinal
  | "ordinal" => some .ordinal
  | _ => none

/-- What a condition looks at, under the letters that plural rules use. -/
inductive PluralOperand
  /-- The number itself. -/
  | n
  /-- Its integer digits. -/
  | i
  /-- The number of its fraction digits. -/
  | v
  /-- Its fraction digits. -/
  | f
  /-- Its fraction digits without zeros at the end. -/
  | t
deriving DecidableEq, Repr

/-- The value of an operand; a number that is no integer has no value. -/
def PluralOperands.value? (operands : PluralOperands) : PluralOperand → Option Nat
  | .n => if operands.significant = 0 then some operands.integer else none
  | .i => some operands.integer
  | .v => some operands.fractionDigits
  | .f => some operands.fraction
  | .t => some operands.significant

/-- An operand, or its remainder by a modulus. -/
structure PluralTerm where
  operand : PluralOperand
  modulus : Option Nat
deriving DecidableEq, Repr

/-- A term lies in one of the closed ranges, or in none of them if the relation is negated. -/
structure PluralRelation where
  term : PluralTerm
  negated : Bool
  ranges : List (Nat × Nat)
deriving DecidableEq, Repr

/-- A category for the numbers that meet all relations of one of the alternatives. -/
structure PluralRule where
  category : PluralCategory
  alternatives : List (List PluralRelation)
deriving DecidableEq, Repr

namespace PluralRelation

def inRanges (ranges : List (Nat × Nat)) (value : Nat) : Bool :=
  ranges.any fun (low, high) => low ≤ value && value ≤ high

/-- Whether the relation holds. What has no value lies in no range. -/
def holds (relation : PluralRelation) (operands : PluralOperands) : Bool :=
  let inside := match operands.value? relation.term.operand, relation.term.modulus with
    | some value, some modulus => inRanges relation.ranges (value % modulus)
    | some value, none => inRanges relation.ranges value
    | none, _ => false
  inside != relation.negated

end PluralRelation

def PluralRule.applies (rule : PluralRule) (operands : PluralOperands) : Bool :=
  rule.alternatives.any fun relations => relations.all fun relation => relation.holds operands

/-- The category that rules give a number. -/
def PluralCategory.ofRules (rules : List PluralRule) (operands : PluralOperands) : PluralCategory :=
  match rules.find? fun rule => rule.applies operands with
  | some rule => rule.category
  | none => .other

/-! ## Writing rules -/

namespace PluralRule

def n : PluralTerm := ⟨.n, none⟩
def i : PluralTerm := ⟨.i, none⟩
def v : PluralTerm := ⟨.v, none⟩
def f : PluralTerm := ⟨.f, none⟩
def t : PluralTerm := ⟨.t, none⟩

/-- The remainder of a term. -/
instance : HMod PluralTerm Nat PluralTerm := ⟨fun term modulus => { term with modulus := some modulus }⟩

/-- The term is one of these values. -/
def is (term : PluralTerm) (values : List Nat) : PluralRelation := ⟨term, false, values.map fun value => (value, value)⟩

/-- The term is none of these values. -/
def isNot (term : PluralTerm) (values : List Nat) : PluralRelation := ⟨term, true, values.map fun value => (value, value)⟩

/-- The term lies in one of these ranges. -/
def within (term : PluralTerm) (ranges : List (Nat × Nat)) : PluralRelation := ⟨term, false, ranges⟩

/-- The term lies in none of these ranges. -/
def outside (term : PluralTerm) (ranges : List (Nat × Nat)) : PluralRelation := ⟨term, true, ranges⟩

end PluralRule
end Localizable
