import Localizable.Proofs.MessageOfLayout
import Localizable.Proofs.Renderings
import Localizable.Proofs.WellFormed

/-!
# Plain messages side by side

The insides of the braces of two plain messages may be written one behind the
other. What is read is the one pattern behind the other (`Pattern.join`), where a
text at the end of the first one and a text at the front of the second one are one
text. The whole is rendered as its two parts are, one behind the other
(`LocalizedMessage.ofSource_append`).
-/

namespace Localizable
open Text

namespace Pattern

/-- One pattern behind the other, with the two texts between which they meet made one. -/
def join (left right : Pattern) : Pattern :=
  match left.getLast?, right with
  | some (.text front), .text back :: rest => left.dropLast ++ .text (front ++ back) :: rest
  | _, _ => left ++ right

/-- Whether one pattern ends in a text and the other begins with one. -/
def meets (left right : Pattern) : Bool :=
  match left.getLast?, right.head? with
  | some (.text _), some (.text _) => true
  | _, _ => false

theorem meets_iff {left right : Pattern} : left.meets right = true ↔
    ∃ (before : Pattern) (front back : String) (behind : Pattern),
      left = before ++ [.text front] ∧ right = .text back :: behind := by
  constructor
  · intro met
    unfold meets at met
    split at met
    next front back last first =>
      obtain ⟨before, rfl⟩ := List.getLast?_eq_some_iff.1 last
      obtain ⟨behind, rfl⟩ := List.head?_eq_some_iff.1 first
      exact ⟨before, front, back, behind, rfl, rfl⟩
    · cases met
  · rintro ⟨before, front, back, behind, rfl, rfl⟩
    simp [meets]

theorem join_texts (before behind : Pattern) (front back : String) :
    join (before ++ [.text front]) (.text back :: behind) = before ++ .text (front ++ back) :: behind := by
  simp [join]

/-- Where no two texts meet the patterns stand as they are. -/
theorem join_of_apart {left right : Pattern} (apart : left.meets right = false) : left.join right = left ++ right := by
  unfold join
  split
  next front back rest last =>
    simp [meets, last] at apart
  · rfl

@[simp] theorem nil_join (right : Pattern) : join [] right = right := rfl

/-- Only the last element of a pattern has to do with the pattern behind it. -/
theorem append_join {front : Pattern} (before : Pattern) (filled : front ≠ []) (right : Pattern) :
    join (before ++ front) right = before ++ front.join right := by
  unfold join
  rw [List.getLast?_append_of_ne_nil before filled, List.dropLast_append_of_ne_nil filled]
  split
  · rw [List.append_assoc]
  · rw [List.append_assoc]

theorem cons_join {element : Element} (noText : element.isText = false) (rest right : Pattern) :
    join (element :: rest) right = element :: rest.join right := by
  cases rest with
  | nil =>
    refine join_of_apart ?_
    cases element <;> simp_all [meets, Element.isText]
  | cons next others => exact append_join [element] (List.cons_ne_nil _ _) right

end Pattern

namespace Layout

/-! ## Bodies side by side -/

/-- The one body in place of the closing brace of the other. -/
def Body.append : Body → Body → Body
  | .close text, .close more => .close (text ++ more)
  | .close text, .placeholder more content rest => .placeholder (text ++ more) content rest
  | .placeholder text content rest, body => .placeholder text content (rest.append body)

/-- The characters of a body up to its closing brace. -/
def Body.inside : Body → List Char
  | .close text => text.flatMap Sign.chars
  | .placeholder text content rest => text.flatMap Sign.chars ++ (charsOf content.stretches ++ rest.inside)

theorem Body.chars_eq (body : Body) : charsOf body.stretches = body.inside ++ ['}'] := by
  induction body with
  | close text => simp [stretches, inside, charsOf_textStretches]
  | placeholder text content rest ih => simp [stretches, inside, charsOf_textStretches, ih]

theorem Body.inside_append (left right : Body) : (left.append right).inside = left.inside ++ right.inside := by
  induction left with
  | close text => cases right <;> simp [append, inside]
  | placeholder text content rest ih => simp [append, inside, ih]

theorem textElements_append (text more : List TextSign) {rest : Pattern}
    (apart : ∀ next ∈ rest.head?, next.isText = false) :
    textElements (text ++ more) ++ rest = Pattern.join (textElements text) (textElements more ++ rest) := by
  cases text with
  | nil => rfl
  | cons sign signs =>
    cases more with
    | nil =>
      rw [List.append_nil, textElements, textElements, List.nil_append]
      refine (Pattern.join_of_apart ?_).symm
      cases rest with
      | nil => rfl
      | cons next others =>
        have noText := apart next rfl
        cases next <;> simp_all [Pattern.meets, Element.isText]
    | cons second others =>
      have whole := Pattern.join_texts [] rest (String.ofList ((sign :: signs).map Sign.value))
        (String.ofList ((second :: others).map Sign.value))
      rw [← String.ofList_append, ← List.map_append] at whole
      exact whole.symm

theorem Body.pattern_append (left right : Body) : (left.append right).pattern = left.pattern.join right.pattern := by
  induction left with
  | close text =>
    cases right with
    | close more => simpa [append, pattern] using @textElements_append text more [] (by simp)
    | placeholder more content rest =>
      refine textElements_append text more ?_
      rintro next ⟨rfl⟩
      exact content.inside.element_wellFormed.2
  | placeholder text content rest ih =>
    have noText := content.inside.element_wellFormed.2
    rw [append, pattern, pattern, ih, Pattern.append_join _ (List.cons_ne_nil _ _), Pattern.cons_join noText]

-- A repeated option is one wherever the options stand, so the places of violations are changed freely.
theorem Options.violations_eq_nil {options : Options} {given : List String} {offset : Nat} (other : Nat)
    (none : options.violations offset given = []) : options.violations other given = [] := by
  induction options generalizing offset other given with
  | close gap => rfl
  | option gap name before after value rest ih =>
    obtain ⟨own, later⟩ := List.append_eq_nil_iff.1 none
    refine List.append_eq_nil_iff.2 ⟨?_, ih _ later⟩
    by_cases repeated : name.text ∈ given
    · simp [repeated] at own
    · exact if_neg repeated

theorem Inside.violations_eq_nil {inside : Inside} {offset : Nat} (other : Nat)
    (none : inside.violations offset = []) : inside.violations other = [] := by
  match inside with
  | .call _ _ => exact Options.violations_eq_nil _ none
  | .operand _ (.close _) => rfl
  | .operand _ (.function _ _ _) => exact Options.violations_eq_nil _ none
  | .markupOpen _ _ => exact Options.violations_eq_nil _ none
  | .markupClose _ _ => rfl

theorem Body.violations_eq_nil {body : Body} {offset : Nat} (other : Nat)
    (none : body.violations offset = []) : body.violations other = [] := by
  induction body generalizing offset other with
  | close text => rfl
  | placeholder text content rest ih =>
    obtain ⟨own, later⟩ := List.append_eq_nil_iff.1 none
    exact List.append_eq_nil_iff.2 ⟨Inside.violations_eq_nil _ own, ih _ later⟩

theorem Body.violations_append {left right : Body} {offset other : Nat} (first : left.violations offset = [])
    (second : right.violations other = []) : (left.append right).violations offset = [] := by
  induction left generalizing offset with
  | close text =>
    cases right with
    | close more => rfl
    | placeholder more content rest =>
      obtain ⟨own, later⟩ := List.append_eq_nil_iff.1 second
      exact List.append_eq_nil_iff.2 ⟨Inside.violations_eq_nil _ own, Body.violations_eq_nil _ later⟩
  | placeholder text content rest ih =>
    obtain ⟨own, later⟩ := List.append_eq_nil_iff.1 first
    exact List.append_eq_nil_iff.2 ⟨own, ih later⟩

end Layout

/-- The message of one pattern. -/
def Message.plain (pattern : Pattern) : Message := ⟨[], [], [⟨[], pattern⟩]⟩

/-- The source of a plain message with this between its braces. -/
def enclosed (inside : String) : String := "\x7b" ++ inside ++ "\x7d"

namespace Layout

/-- No gap stands in front of a character that is not blank. -/
theorem Gap.eq_nil_of_front {gap : Gap} {c : Char} {rest more : List Char} (apart : isSpacing c = false)
    (same : gap.chars ++ rest = c :: more) : gap.chars = [] := by
  cases chars : gap.chars with
  | nil => rfl
  | cons d others =>
    rw [chars] at same
    obtain ⟨rfl, _⟩ := List.cons.inj same
    have blank := gap.blank d (by simp [chars])
    rw [apart] at blank
    cases blank

theorem Gap.eq_nil_of_back {gap : Gap} {c : Char} {rest more : List Char} (apart : isSpacing c = false)
    (same : rest ++ gap.chars = more ++ [c]) : gap.chars = [] := by
  have turned := congrArg List.reverse same
  rw [List.reverse_append, List.reverse_append] at turned
  have blank : ∀ d ∈ gap.chars.reverse, isSpacing d = true := fun d member => gap.blank d (List.mem_reverse.1 member)
  exact List.reverse_eq_nil_iff.1 (@Gap.eq_nil_of_front ⟨gap.chars.reverse, blank⟩ _ _ _ apart turned)

/-- A source in braces has the layout of a pattern, with no gap around it. -/
theorem exists_body_of_enclosed {layout : Layout} {inside : String} (chars : layout.chars = (enclosed inside).toList) :
    ∃ body : Body, body.inside = inside.toList ∧ layout.message = .plain body.pattern ∧
      layout.violations = body.violations 1 := by
  have written : layout.chars = '{' :: (inside.toList ++ ['}']) := by
    rw [chars, enclosed]
    simp
  have noGap : isSpacing '{' = false := rfl
  cases layout with
  | declaration gap item rest =>
    rw [Layout.chars, stretches, charsOf_cons, Gap.stretch_chars] at written
    rw [Gap.eq_nil_of_front noGap written] at written
    cases (List.cons.inj written).1
  | selection gap before first rest =>
    rw [Layout.chars, stretches, charsOf_cons, Gap.stretch_chars] at written
    rw [Gap.eq_nil_of_front noGap written] at written
    cases (List.cons.inj written).1
  | pattern gap body after =>
    rw [Layout.chars, stretches, charsOf_cons, Gap.stretch_chars] at written
    have front := Gap.eq_nil_of_front noGap written
    have behind : body.inside ++ ['}'] ++ after.chars = inside.toList ++ ['}'] := by
      simpa [front, body.chars_eq] using written
    rw [Gap.eq_nil_of_back rfl behind, List.append_nil] at behind
    refine ⟨body, List.append_cancel_right behind, rfl, ?_⟩
    rw [violations, violationsFrom, front]
    rfl

end Layout

/-- A body that breaks no rule is read between braces. -/
theorem Message.parse_enclosed {body : Layout.Body} {offset : Nat} {inside : String}
    (same : body.inside = inside.toList) (none : body.violations offset = []) :
    Message.parse (enclosed inside) = .ok (.plain body.pattern) := by
  have chars : (Layout.pattern .none body .none).chars = (enclosed inside).toList := by
    simp [Layout.chars, Layout.stretches, body.chars_eq, same, enclosed, Layout.Gap.none]
  have unbroken : (Layout.pattern .none body .none).violations = [] := Layout.Body.violations_eq_nil _ none
  rw [Message.parse, ← chars, Layout.parseChars, unbroken]
  rfl

theorem Message.exists_body_of_parse {inside : String} {message : Message}
    (parsed : Message.parse (enclosed inside) = .ok message) : ∃ body : Layout.Body,
      body.inside = inside.toList ∧ message = .plain body.pattern ∧ body.violations 1 = [] := by
  obtain ⟨layout, chars, none, rfl⟩ := exists_layout_of_parse parsed
  obtain ⟨body, same, meaning, violations⟩ := Layout.exists_body_of_enclosed chars
  exact ⟨body, same, meaning, violations ▸ none⟩

/-- Plain messages are read side by side as their patterns side by side. -/
theorem Message.parse_enclosed_append {left right : String} {first second : Message}
    (leftRead : Message.parse (enclosed left) = .ok first) (rightRead : Message.parse (enclosed right) = .ok second) :
    ∃ front back : Pattern, first = .plain front ∧ second = .plain back ∧
      Message.parse (enclosed (left ++ right)) = .ok (.plain (front.join back)) := by
  obtain ⟨front, frontInside, rfl, frontNone⟩ := exists_body_of_parse leftRead
  obtain ⟨back, backInside, rfl, backNone⟩ := exists_body_of_parse rightRead
  refine ⟨front.pattern, back.pattern, rfl, rfl, ?_⟩
  have inside : (front.append back).inside = (left ++ right).toList := by
    rw [front.inside_append, frontInside, backInside, String.toList_append]
  rw [parse_enclosed inside (Layout.Body.violations_append frontNone backNone), Layout.Body.pattern_append]

/-! ## Rendering side by side -/

/-- Parts one behind the other, with the two literals between which they meet made one. -/
def joinLiterals (left right : List Part) : List Part :=
  match left.getLast?, right with
  | some (.text _ front), .text _ back :: rest => left.dropLast ++ .literal (front ++ back) :: rest
  | _, _ => left ++ right

theorem joinLiterals_literal (before behind : List Part) (front back : String) :
    joinLiterals (before ++ [.literal front]) (.literal back :: behind) =
      before ++ .literal (front ++ back) :: behind := by
  simp [joinLiterals, Part.literal]

/-- It does not matter which of three walks are put together first. -/
theorem bind_map_assoc {ε α : Type} {join : α → α → α} (assoc : ∀ a b c, join (join a b) c = join a (join b c))
    (first second third : Except ε α) :
    (first.bind fun a => (second.bind fun b => third.map (join b)).map (join a)) =
      (first.bind fun a => second.map (join a)).bind fun ab => third.map (join ab) := by
  cases first with
  | error error => rfl
  | ok a =>
    cases second with
    | error error => rfl
    | ok b =>
      cases third with
      | error error => rfl
      | ok c => exact congrArg Except.ok (assoc a b c).symm

namespace Scope

variable [Host] {scope : Scope}

theorem patternText_append (left right : Pattern) : scope.patternText (left ++ right) =
    (scope.patternText left).bind fun front => (scope.patternText right).map (front ++ ·) := by
  induction left with
  | nil => cases found : scope.patternText right <;> simp [patternText, Except.bind, Except.map, found]
  | cons element rest ih =>
    rw [List.cons_append, patternText_cons, patternText_cons, ih]
    exact bind_map_assoc (fun a b c => String.append_assoc) _ _ _

theorem patternParts_append (left right : Pattern) : scope.patternParts (left ++ right) =
    (scope.patternParts left).bind fun front => (scope.patternParts right).map (front ++ ·) := by
  induction left with
  | nil => cases found : scope.patternParts right <;> simp [patternParts, Except.bind, Except.map, found]
  | cons element rest ih =>
    rw [List.cons_append, patternParts_cons, patternParts_cons, ih]
    exact bind_map_assoc List.append_assoc _ _ _

theorem patternText_text (value : String) (rest : Pattern) :
    scope.patternText (.text value :: rest) = (scope.patternText rest).map (value ++ ·) := patternText_cons ..

theorem patternParts_text (value : String) (rest : Pattern) :
    scope.patternParts (.text value :: rest) = (scope.patternParts rest).map (.literal value :: ·) :=
  patternParts_cons ..

/-- Patterns side by side have the text of the one behind the text of the other, and the first failure of the two. -/
theorem patternText_join (left right : Pattern) : scope.patternText (left.join right) =
    (scope.patternText left).bind fun front => (scope.patternText right).map (front ++ ·) := by
  cases met : left.meets right with
  | false => rw [Pattern.join_of_apart met, patternText_append]
  | true =>
    -- the two texts are one element of the whole, and are rendered before all that stands behind them
    obtain ⟨before, front, back, behind, rfl, rfl⟩ := Pattern.meets_iff.1 met
    rw [Pattern.join_texts, patternText_append, patternText_append, patternText_text, patternText_text,
      patternText_text]
    cases scope.patternText before with
    | error error => rfl
    | ok shown =>
      cases scope.patternText behind with
      | error error => rfl
      | ok later => simp [Except.bind, Except.map, patternText, String.append_assoc]

theorem patternParts_join (left right : Pattern) : scope.patternParts (left.join right) =
    (scope.patternParts left).bind fun front => (scope.patternParts right).map fun back =>
      if left.meets right then joinLiterals front back else front ++ back := by
  cases met : left.meets right with
  | false =>
    rw [Pattern.join_of_apart met, patternParts_append]
    rfl
  | true =>
    obtain ⟨before, front, back, behind, rfl, rfl⟩ := Pattern.meets_iff.1 met
    rw [Pattern.join_texts, patternParts_append, patternParts_append, patternParts_text, patternParts_text,
      patternParts_text]
    cases scope.patternParts before with
    | error error => rfl
    | ok shown =>
      cases scope.patternParts behind with
      | error error => rfl
      | ok later => simp [Except.bind, Except.map, patternParts, joinLiterals_literal]

end Scope

namespace LocalizedMessage

variable {locale : String} {registry : Option Registry}

theorem ofSource_eq_ok {source : String} {localized : LocalizedMessage} :
    ofSource locale source registry = .ok localized ↔
      Message.parse source = .ok localized.message ∧ localized = ⟨locale, source, localized.message, registry⟩ := by
  unfold ofSource
  constructor
  · intro made
    cases parsed : Message.parse source with
    | error error =>
      rw [parsed] at made
      cases made
    | ok message =>
      rw [parsed] at made
      cases made
      exact ⟨rfl, rfl⟩
  · rintro ⟨parsed, same⟩
    rw [parsed, same]
    rfl

/-- Two plain messages with the insides of their braces side by side are one plain message. Its pattern is the one
pattern behind the other, and so are its text and its parts; if the first one fails so does the whole, and else if
the second one fails. -/
theorem ofSource_append [Host] {inside more : String} {left right : LocalizedMessage}
    (leftRead : ofSource locale (enclosed inside) registry = .ok left)
    (rightRead : ofSource locale (enclosed more) registry = .ok right) :
    ∃ (front back : Pattern) (whole : LocalizedMessage), left.message = .plain front ∧ right.message = .plain back ∧
      ofSource locale (enclosed (inside ++ more)) registry = .ok whole ∧ whole.message = .plain (front.join back) ∧
      ∀ (current : Registry) (arguments : Dictionary Value),
        whole.formatText current arguments = (do
          let text ← left.formatText current arguments
          let behind ← right.formatText current arguments
          return text ++ behind) ∧
        whole.formatParts current arguments = (do
          let parts ← left.formatParts current arguments
          let behind ← right.formatParts current arguments
          return if front.meets back then joinLiterals parts behind else parts ++ behind) := by
  obtain ⟨leftParsed, leftMade⟩ := ofSource_eq_ok.1 leftRead
  obtain ⟨rightParsed, rightMade⟩ := ofSource_eq_ok.1 rightRead
  obtain ⟨front, back, leftPlain, rightPlain, wholeParsed⟩ := Message.parse_enclosed_append leftParsed rightParsed
  refine ⟨front, back, ⟨locale, enclosed (inside ++ more), .plain (front.join back), registry⟩, leftPlain, rightPlain,
    ofSource_eq_ok.2 ⟨wholeParsed, rfl⟩, rfl, fun current arguments => ?_⟩
  rw [leftMade, rightMade, leftPlain, rightPlain]
  exact ⟨Scope.patternText_join front back, Scope.patternParts_join front back⟩

section
attribute [local instance] Host.labels

/-- Where `a` and `b{$x}` stand side by side there is one text in front of the variable. -/
theorem ofSource_append_texts :
    ofSource "en" (enclosed "a") none = .ok ⟨"en", enclosed "a", .plain [.text "a"], none⟩ ∧
      ofSource "en" (enclosed "b\x7b$x\x7d") none = .ok ⟨"en", enclosed "b\x7b$x\x7d",
        .plain [.text "b", .expression (.operand (.variable "x") none)], none⟩ ∧
      ∃ whole, ofSource "en" (enclosed "ab\x7b$x\x7d") none = .ok whole ∧
        whole.message = .plain [.text "ab", .expression (.operand (.variable "x") none)] ∧
        whole.formatText .empty (Dictionary.empty.insert "x" (.text "c")) = .ok "abc" ∧
        whole.formatParts .empty (Dictionary.empty.insert "x" (.text "c")) = .ok [.literal "ab", .literal "c"] := by
  have leftRead : ofSource "en" (enclosed "a") none = .ok ⟨"en", enclosed "a", .plain [.text "a"], none⟩ :=
    ofSource_eq_ok.2 ⟨@Message.parse_enclosed (.close [.bare 'a' (by decide)]) 1 _ rfl rfl, rfl⟩
  have rightRead : ofSource "en" (enclosed "b\x7b$x\x7d") none = .ok ⟨"en", enclosed "b\x7b$x\x7d",
      .plain [.text "b", .expression (.operand (.variable "x") none)], none⟩ :=
    ofSource_eq_ok.2 ⟨@Message.parse_enclosed (.placeholder [.bare 'b' (by decide)]
      ⟨.none, .operand (.variable ⟨['x'], rfl⟩) (.close .none)⟩ (.close [])) 1 _ rfl rfl, rfl⟩
  obtain ⟨front, back, whole, leftPlain, rightPlain, read, message, shown⟩ := ofSource_append leftRead rightRead
  obtain rfl : front = [.text "a"] := by cases leftPlain; rfl
  obtain rfl : back = [.text "b", .expression (.operand (.variable "x") none)] := by cases rightPlain; rfl
  obtain ⟨text, parts⟩ := shown .empty (Dictionary.empty.insert "x" (.text "c"))
  exact ⟨leftRead, rightRead, whole, read, message, text, parts⟩

end

end LocalizedMessage
end Localizable
