import Localizable.Suggestion
import Mathlib.Order.Bounds.Basic

/-!
# The distance between two texts

One edit puts a character into a text, takes one out or puts another one in its
place. The distance that is computed row by row is the least number of edits that
turn one text into the other (`editDistance_isLeast`).

The rows are read as equations for the distance of two texts by their first
characters. That no fewer edits do follows from what one edit changes: the distance
to any text by at most one (`Edit.editDistance_le`).
-/

namespace Localizable

/-- One character is put in, taken out or replaced. -/
inductive Edit : List Char → List Char → Prop
  | insert (front : List Char) (c : Char) (back : List Char) : Edit (front ++ back) (front ++ c :: back)
  | remove (front : List Char) (c : Char) (back : List Char) : Edit (front ++ c :: back) (front ++ back)
  | replace (front : List Char) (c d : Char) (back : List Char) : Edit (front ++ c :: back) (front ++ d :: back)

/-- So many edits, one after the other, turn one text into the other. -/
inductive Edits : Nat → List Char → List Char → Prop
  | none (text : List Char) : Edits 0 text text
  | more {count : Nat} {left middle right : List Char} (first : Edit left middle) (rest : Edits count middle right) :
      Edits (count + 1) left right

theorem Edit.cons {left right : List Char} (edit : Edit left right) (c : Char) : Edit (c :: left) (c :: right) := by
  cases edit with
  | insert front d back => exact .insert (c :: front) d back
  | remove front d back => exact .remove (c :: front) d back
  | replace front d e back => exact .replace (c :: front) d e back

theorem Edits.cons {count : Nat} {left right : List Char} (edits : Edits count left right) (c : Char) :
    Edits count (c :: left) (c :: right) := by
  induction edits with
  | none text => exact .none _
  | more first _ ih => exact .more (first.cons c) ih

theorem Edits.eq_of_zero {left right : List Char} (edits : Edits 0 left right) : left = right := by
  cases edits with
  | none text => rfl

theorem Edits.lesser {one other : Nat} {left right : List Char} (first : Edits one left right)
    (second : Edits other left right) : Edits (min one other) left right := by
  rcases Nat.le_total one other with less | less
  · rwa [Nat.min_eq_left less]
  · rwa [Nat.min_eq_right less]

theorem edits_to_nil (text : List Char) : Edits text.length text [] := by
  induction text with
  | nil => exact .none []
  | cons c rest ih => exact .more (.remove [] c rest) ih

theorem edits_from_nil (text : List Char) : Edits text.length [] text := by
  induction text with
  | nil => exact .none []
  | cons c rest ih => exact .more (.insert [] c []) (ih.cons c)

/-! ## Rows of distances -/

theorem length_distanceRow (c : Char) {text : List Char} {row : List Nat} (filled : row.length = text.length + 1) :
    (distanceRow c text row).length = text.length + 1 := by
  induction text generalizing row with
  | nil => rw [distanceRow, List.length_map, filled]
  | cons d rest ih =>
    obtain ⟨whole, shorter, rfl⟩ := List.exists_cons_of_length_eq_add_one filled
    have filled : shorter.length = rest.length + 1 := by simpa using filled
    have later := ih filled
    obtain ⟨near, row, rfl⟩ := List.exists_cons_of_length_eq_add_one filled
    rw [distanceRow]
    split
    next nearest behind same =>
      rw [same] at later
      rw [List.length_cons, later, List.length_cons]
    next empty =>
      rw [empty] at later
      cases later

theorem length_distances (right left : List Char) : (distances right left).length = right.length + 1 := by
  induction left with
  | nil => rw [distances, List.length_reverse, List.length_range]
  | cons c rest ih => exact length_distanceRow c ih

/-- A row begins with the distance to the whole text. -/
theorem exists_distances (right left : List Char) :
    ∃ row, distances right left = editDistance left right :: row := by
  obtain ⟨whole, row, same⟩ := List.exists_cons_of_length_eq_add_one (length_distances right left)
  refine ⟨row, ?_⟩
  rw [editDistance, same, List.headD_cons]

theorem distances_cons_left (c : Char) (right left : List Char) :
    distances right (c :: left) = distanceRow c right (distances right left) := rfl

/-- Behind the distance to a text stand those to the text without its first character. -/
theorem distances_cons (d : Char) (right left : List Char) :
    distances (d :: right) left = editDistance left (d :: right) :: distances right left := by
  have rest : (distances (d :: right) left).tail = distances right left := by
    induction left with
    | nil => rw [distances, distances, List.length_cons, List.range_succ, List.reverse_concat, List.tail_cons]
    | cons c left ih =>
      obtain ⟨row, same⟩ := exists_distances (d :: right) left
      rw [same, List.tail_cons] at ih
      obtain ⟨near, shorter⟩ := exists_distances right left
      obtain ⟨later, next⟩ := exists_distances right (c :: left)
      rw [distances_cons_left, same, ih, shorter, distanceRow, ← shorter, ← distances_cons_left, next, List.tail_cons]
  obtain ⟨row, same⟩ := exists_distances (d :: right) left
  rw [same, List.tail_cons] at rest
  rw [same, rest]

@[simp] theorem editDistance_nil_left (right : List Char) : editDistance [] right = right.length := by
  rw [editDistance, distances, List.range_succ, List.reverse_concat, List.headD_cons]

@[simp] theorem editDistance_nil_right (left : List Char) : editDistance left [] = left.length := by
  have row : distances [] left = [left.length] := by
    induction left with
    | nil => rfl
    | cons c rest ih => rw [distances, ih]; rfl
  rw [editDistance, row, List.headD_cons]

theorem editDistance_cons_cons (c d : Char) (left right : List Char) :
    editDistance (c :: left) (d :: right) =
      if c = d then editDistance left right
      else
        min (editDistance left right) (min (editDistance left (d :: right)) (editDistance (c :: left) right)) + 1 := by
  obtain ⟨row, shorter⟩ := exists_distances right left
  obtain ⟨later, next⟩ := exists_distances right (c :: left)
  rw [editDistance, distances_cons_left, distances_cons, shorter, distanceRow, ← shorter, ← distances_cons_left, next,
    List.headD_cons]

/-! ## The least number of edits -/

/-- So many edits as the distance says turn one text into the other. -/
theorem edits_editDistance (left right : List Char) : Edits (editDistance left right) left right := by
  induction left generalizing right with
  | nil =>
    rw [editDistance_nil_left]
    exact edits_from_nil right
  | cons c left ihLeft =>
    induction right with
    | nil =>
      rw [editDistance_nil_right]
      exact edits_to_nil _
    | cons d right ihRight =>
      rw [editDistance_cons_cons]
      split
      next same =>
        subst same
        exact (ihLeft right).cons c
      next =>
        have replaced := Edits.more (.replace [] c d left) ((ihLeft right).cons d)
        have removed := Edits.more (.remove [] c left) (ihLeft (d :: right))
        have inserted := Edits.more (.insert [] d (c :: left)) (ihRight.cons d)
        simpa only [Nat.add_min_add_right, List.nil_append] using replaced.lesser (removed.lesser inserted)

@[simp] theorem editDistance_self (text : List Char) : editDistance text text = 0 := by
  induction text with
  | nil => rfl
  | cons c rest ih => rw [editDistance_cons_cons, if_pos rfl, ih]

/-- One character in front of either text changes the distance by one at most. -/
theorem editDistance_near (left right : List Char) (c : Char) :
    (editDistance left right ≤ editDistance (c :: left) right + 1 ∧
        editDistance (c :: left) right ≤ editDistance left right + 1) ∧
      editDistance left right ≤ editDistance left (c :: right) + 1 ∧
        editDistance left (c :: right) ≤ editDistance left right + 1 := by
  constructor
  · cases right with
    | nil =>
      simp only [editDistance_nil_right, List.length_cons]
      omega
    | cons d right =>
      have shorter := editDistance_near left right
      have front := shorter c
      have behind := shorter d
      rw [editDistance_cons_cons]
      split <;> omega
  · cases left with
    | nil =>
      simp only [editDistance_nil_left, List.length_cons]
      omega
    | cons d left =>
      have shorter := editDistance_near left right
      have front := shorter c
      have behind := shorter d
      rw [editDistance_cons_cons]
      split <;> omega
termination_by left.length + right.length

/-- Texts that are as close as one edit to each other are so behind one more character. -/
theorem editDistance_cons_le {left middle : List Char}
    (close : ∀ right, editDistance left right ≤ editDistance middle right + 1) (c : Char) (right : List Char) :
    editDistance (c :: left) right ≤ editDistance (c :: middle) right + 1 := by
  induction right with
  | nil =>
    have whole := close []
    simp only [editDistance_nil_right, List.length_cons] at whole ⊢
    omega
  | cons d right ih =>
    have both := close right
    have one := close (d :: right)
    rw [editDistance_cons_cons, editDistance_cons_cons]
    split <;> omega

/-- One edit of a text changes the distance to another text by one at most. -/
theorem Edit.editDistance_le {left middle : List Char} (edit : Edit left middle) (right : List Char) :
    editDistance left right ≤ editDistance middle right + 1 := by
  have behind : ∀ {left middle : List Char} (front : List Char),
      (∀ right, editDistance left right ≤ editDistance middle right + 1) →
      ∀ right, editDistance (front ++ left) right ≤ editDistance (front ++ middle) right + 1 := by
    intro left middle front close
    induction front with
    | nil => exact close
    | cons c front ih => exact editDistance_cons_le ih c
  cases edit with
  | insert front c back => exact behind front (fun right => (editDistance_near back right c).1.1) right
  | remove front c back => exact behind front (fun right => (editDistance_near back right c).1.2) right
  | replace front c d back =>
    refine behind front (fun right => ?_) right
    cases right with
    | nil => simp only [editDistance_nil_right, List.length_cons]; omega
    | cons e right =>
      have first := editDistance_near back right c
      have second := editDistance_near back right d
      have third := editDistance_near back right e
      rw [editDistance_cons_cons, editDistance_cons_cons]
      split <;> split <;> omega

/-- No fewer edits than the distance says turn one text into the other. -/
theorem Edits.editDistance_le {count : Nat} {left right : List Char} (edits : Edits count left right) :
    editDistance left right ≤ count := by
  induction edits with
  | none text => rw [editDistance_self]
  | @more count left middle right first rest ih =>
    have step := first.editDistance_le right
    omega

/-- The distance is the least number of edits that turn one text into the other. -/
theorem editDistance_isLeast (left right : List Char) :
    IsLeast {count | Edits count left right} (editDistance left right) :=
  ⟨edits_editDistance left right, fun _ edits => edits.editDistance_le⟩

/-- Characters count, not their bytes. -/
example : editDistance "über".toList "uber".toList = 1 := by decide

end Localizable
