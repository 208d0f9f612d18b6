import Folio.Proofs.DeclaredChanges
import Folio.Proofs.NumberedForest
import Folio.Proofs.ResolvedStyles

/-!
# The border that a style comes to

The attributes for borders all write the same two properties: the sides that have a line, and the
colour of the lines. This module says of each what it comes to, by the stored values alone.

A side is the business of three keywords, the shorthand for all sides and the two for that side, and
the last of them that says anything about it decides (`contains_currentBorder_iff`). The colour is
the last of the colours that ten keywords give in their order (`drawColour_propertiesOf`). The
invariant along that order is that the colour so far is the last of those given so far, and that all
of these are folded, so that a side without a line leaves it as it is.
-/

namespace Folio

/-! ## Sides -/

/-- A value that is a length other than zero. -/
def IsLineWidth (value : String) : Prop :=
  ∃ length, Length.parse? value = some length ∧ (length.value == 0) = false

theorem isBorderWidth_iff (value : String) : isBorderWidth value = true ↔ IsLineWidth value := by
  rw [isBorderWidth, IsLineWidth]
  cases Length.parse? value with
  | none => simp
  | some length => simp

/-- Whether a side of an element has a line: by the width for the side, or else by the first word
for the side, or else by the shorthand for all sides. -/
def Style.HasLine (style : Style) (side : Side) : Prop :=
  match style.lowered? ("border-" ++ side.name ++ "-width") with
  | some width => IsLineWidth width
  | none =>
    match (style.lowered? ("border-" ++ side.name)).bind fun value =>
        (Text.words value).head?.map fun first => (value, first) with
    | some (value, first) => value ≠ "none" ∧ IsLineWidth first
    | none => style.lowered? "border" ≠ some "none"

/-- What a change makes of one side. -/
def Change.onSide (side : Side) (change : Change) (inside : Bool) : Bool :=
  (change.border.bind (· side)).getD inside

theorem Change.contains_currentBorder_run (side : Side) (change : Change) (p : Properties) :
    (change.run p).currentBorder.contains side =
      change.onSide side (p.currentBorder.contains side) := by
  rw [run, Properties.currentBorder, onSide]
  cases change.border with
  | none => rfl
  | some sides => cases side <;> rfl

/-- The keywords that decide whether a side has a line. -/
def Keyword.isAboutSide (side : Side) (keyword : Keyword) : Bool :=
  [border, borderSide side, borderSideWidth side].contains keyword

theorem Keyword.filter_isAboutSide_order (side : Side) :
    order.filter (isAboutSide side) = [border, borderSide side, borderSideWidth side] := by
  cases side <;> decide

section Side

variable (context : StyleContext) (side : Side)

/-- All other keywords leave the side as it is. -/
theorem Keyword.onSide_change_of_other {keyword : Keyword}
    (other : keyword.isAboutSide side = false) (value : String) (inside : Bool) :
    (keyword.change context value).onSide side inside = inside := by
  cases keyword with
  | border => cases side <;> cases other
  | borderSide another =>
    have apart : side ≠ another := by
      rintro rfl
      simp [isAboutSide] at other
    rw [change, Change.onSide]
    split
    · simp [BorderChange.only_of_ne apart]
    · cases (Text.words value).head? <;> simp [BorderChange.only_of_ne apart]
  | borderSideWidth another =>
    have apart : side ≠ another := by
      rintro rfl
      simp [isAboutSide] at other
    simp [change, Change.onSide, BorderChange.only_of_ne apart]
  | _ => rfl

/-- The shorthand for a side says nothing about it if there is no word in it. -/
theorem Keyword.onSide_change_borderSide (value : String) (inside : Bool) :
    ((borderSide side).change context value).onSide side inside =
      if value = "none" then false
      else ((Text.words value).head?.map isBorderWidth).getD inside := by
  rw [change]
  split
  · simp [Change.onSide]
  · cases (Text.words value).head? <;> simp [Change.onSide]

theorem Keyword.onSide_change_borderSideWidth (value : String) (inside : Bool) :
    ((borderSideWidth side).change context value).onSide side inside = isBorderWidth value := by
  simp [change, Change.onSide]

/-- A side is in the border if and only if it has a line by the style. -/
theorem contains_currentBorder_iff {whole : String}
    (present : context.own.lowered? "border" = some whole) :
    (propertiesOf context).currentBorder.contains side = true ↔ context.own.HasLine side := by
  have bySide := view_propertiesOf (fun p => p.currentBorder.contains side) (Change.onSide side)
    (Change.contains_currentBorder_run side) (Keyword.isAboutSide side)
    (fun keyword value inside other =>
      Keyword.onSide_change_of_other context side other value inside)
  rw [Keyword.filter_isAboutSide_order] at bySide
  simp only [actAll, List.foldl_cons, List.foldl_nil, Keyword.name, present,
    Keyword.onSide_change_borderSide, Keyword.onSide_change_borderSideWidth] at bySide
  rw [bySide, Style.HasLine, present]
  cases context.own.lowered? ("border-" ++ side.name ++ "-width") with
  | some width => exact isBorderWidth_iff width
  | none =>
    have byWhole : (Keyword.border.change context whole).onSide side
        (Properties.empty.currentBorder.contains side) = true ↔ some whole ≠ some "none" := by
      simp [Keyword.change, Change.onSide]
    cases context.own.lowered? ("border-" ++ side.name) with
    | none => exact byWhole
    | some value =>
      dsimp only
      rw [Option.bind_some]
      by_cases none : value = "none"
      · subst none
        have word : (Text.words "none").head? = some "none" := by decide
        rw [if_pos rfl, word]
        exact ⟨fun inside => absurd inside Bool.false_ne_true, fun line => absurd rfl line.1⟩
      · rw [if_neg none]
        cases (Text.words value).head? with
        | none => exact byWhole
        | some first =>
          rw [Option.map_some, Option.map_some, Option.getD_some, isBorderWidth_iff]
          exact (and_iff_right none).symm

end Side

/-! ## Colours -/

/-- The colour in a border shorthand: the third word, or the second of two if it begins as a colour
does. -/
def shorthandColour? (value : String) : Option String :=
  let words := Text.words value
  if words.length = 2 then words[1]?.filter (·.toList.head? = some '#') else words[2]?

theorem borderColour?_eq_shorthandColour? (value : String) :
    borderColour? value = shorthandColour? value := by
  rw [borderColour?, shorthandColour?]
  match Text.words value with
  | [] | [_] => rfl
  | [_, second] => simp [Option.filter]
  | _ :: _ :: third :: others => simp

/-- The colour in a shorthand is one of its words, so nothing is left to fold in it. -/
theorem foldName_of_shorthandColour? {value word : String} (folded : foldName value = value)
    (found : shorthandColour? value = some word) : foldName word = word := by
  have lowered : Text.lower value = value := by
    rw [← folded, foldName, Text.lower_lower]
  refine foldName_of_mem_words lowered ?_
  rw [shorthandColour?] at found
  split at found
  · exact List.mem_of_getElem? (Option.filter_eq_some_iff.1 found).1
  · exact List.mem_of_getElem? found

/-- The keywords that give lines a colour, in the order in which they count. -/
def lineKeywords : List Keyword :=
  [.border, .borderColour, .borderSide .top, .borderSide .right, .borderSide .bottom,
    .borderSide .left, .borderSideColour .top, .borderSideColour .right,
    .borderSideColour .bottom, .borderSideColour .left]

/-- The colour that a value gives lines with a colour so far. A side without a line has that colour,
or white. -/
def Keyword.lineColour? (soFar : Option String) (value : String) : Keyword → Option String
  | .border => shorthandColour? value
  | .borderColour => some value
  | .borderSide _ => if value = "none" then some (soFar.getD "#ffffff") else shorthandColour? value
  | .borderSideColour _ => some value
  | _ => none

/-- The colours that a style gives the lines for keywords in a row, behind those given before. -/
def Style.lineColoursFrom (style : Style) (before : List String) (keywords : List Keyword) :
    List String :=
  keywords.foldl
    (fun colours keyword =>
      colours ++ ((style.lowered? keyword.name).bind (keyword.lineColour? colours.getLast?)).toList)
    before

theorem Style.lineColoursFrom_cons (style : Style) (before : List String) (keyword : Keyword)
    (rest : List Keyword) :
    style.lineColoursFrom before (keyword :: rest) =
      style.lineColoursFrom
        (before ++
          ((style.lowered? keyword.name).bind (keyword.lineColour? before.getLast?)).toList)
        rest := rfl

/-- The colours that a style gives the lines, in the order in which they count. -/
def Style.lineColours (style : Style) : List String :=
  style.lineColoursFrom [] lineKeywords

theorem LineChange.run_ofWord (word soFar : Option String) :
    (ofWord word).run soFar = word.or soFar := by
  cases word <;> rfl

/-- No other keyword says anything about the colour of the lines. -/
theorem Keyword.line_change_of_other (context : StyleContext) {keyword : Keyword}
    (other : lineKeywords.contains keyword = false) (value : String) (colour : Option String) :
    (keyword.change context value).line.run colour = colour := by
  cases keyword with
  | border => cases other
  | borderColour => cases other
  | borderSide side => cases side <;> cases other
  | borderSideColour side => cases side <;> cases other
  | _ => rfl

theorem foldName_getD_noLineColour {soFar : Option String}
    (folded : ∀ colour ∈ soFar, foldName colour = colour) :
    foldName (soFar.getD noLineColour) = soFar.getD noLineColour := by
  cases soFar with
  | none => decide
  | some colour => exact folded colour rfl

/-- The colour that a keyword gives replaces the colour so far. -/
theorem Keyword.line_change (context : StyleContext) (keyword : Keyword) (value : String)
    {soFar : Option String} (folded : ∀ colour ∈ soFar, foldName colour = colour) :
    (keyword.change context value).line.run soFar = (keyword.lineColour? soFar value).or soFar := by
  cases keyword with
  | border =>
    rw [change, lineColour?]
    by_cases none : value = "none"
    · subst none
      rfl
    · rw [if_neg none, LineChange.run_ofWord, borderColour?_eq_shorthandColour?]
  | borderSide side =>
    rw [change, lineColour?]
    by_cases none : value = "none"
    · rw [if_pos none, if_pos none, LineChange.run, foldName_getD_noLineColour folded]
      rfl
    · rw [if_neg none, if_neg none, LineChange.run_ofWord, borderColour?_eq_shorthandColour?]
  | _ => rfl

/-- With folded values and a folded colour so far, a keyword gives a folded colour. -/
theorem Keyword.foldName_of_lineColour? {keyword : Keyword} {value colour : String}
    {soFar : Option String} (foldedValue : foldName value = value)
    (folded : ∀ colour ∈ soFar, foldName colour = colour)
    (given : keyword.lineColour? soFar value = some colour) : foldName colour = colour := by
  cases keyword with
  | border => exact foldName_of_shorthandColour? foldedValue given
  | borderColour => cases given; exact foldedValue
  | borderSide side =>
    rw [lineColour?] at given
    split at given
    · cases given
      exact foldName_getD_noLineColour folded
    · exact foldName_of_shorthandColour? foldedValue given
  | borderSideColour side => cases given; exact foldedValue
  | _ => cases given

section Style

variable {context : StyleContext}
  (folded : ∀ name value, context.own.lowered? name = some value → foldName value = value)

include folded

/-- If the colour so far is the last of the folded colours given before, it is so behind a row of
keywords too. -/
theorem actAll_line {before : List String}
    (foldedBefore : ∀ colour ∈ before, foldName colour = colour) (keywords : List Keyword) :
    actAll context (fun change => change.line.run) before.getLast? keywords =
      (context.own.lineColoursFrom before keywords).getLast? := by
  induction keywords generalizing before with
  | nil => rfl
  | cons keyword rest ih =>
    rw [actAll_cons, Style.lineColoursFrom_cons]
    cases present : context.own.lowered? keyword.name with
    | none =>
      rw [Option.bind_none, Option.toList_none, List.append_nil]
      exact ih foldedBefore
    | some value =>
      have foldedValue := folded keyword.name value present
      have foldedLast : ∀ colour ∈ before.getLast?, foldName colour = colour :=
        fun colour last => foldedBefore colour (List.mem_of_getLast? last)
      have foldedAll : ∀ colour ∈ before ++ (keyword.lineColour? before.getLast? value).toList,
          foldName colour = colour := by
        intro colour member
        rcases List.mem_append.1 member with member | given
        · exact foldedBefore colour member
        · exact Keyword.foldName_of_lineColour? foldedValue foldedLast (Option.mem_toList.1 given)
      have last : (keyword.change context value).line.run before.getLast? =
          (before ++ (keyword.lineColour? before.getLast? value).toList).getLast? := by
        rw [keyword.line_change context value foldedLast, List.getLast?_append]
        cases keyword.lineColour? before.getLast? value <;> rfl
      dsimp only
      rw [Option.bind_some, last]
      exact ih foldedAll

/-- The colour of the lines is the last that the style gives, and none if it gives none. -/
theorem drawColour_propertiesOf :
    (propertiesOf context).drawColour = context.own.lineColours.getLast? := by
  have ordered : Keyword.order.filter (lineKeywords.contains ·) = lineKeywords := by decide
  rw [view_propertiesOf Properties.drawColour (fun change => change.line.run) (fun _ _ => rfl)
    (lineKeywords.contains ·)
    (fun keyword value colour other => Keyword.line_change_of_other context other value colour),
    ordered]
  exact actAll_line folded (fun _ member => absurd member List.not_mem_nil) lineKeywords

end Style

/-! ## Elements of a document -/

/-- An element whose style has a shorthand for all sides has a border, if one with no side. -/
theorem isSome_border_propertiesOf {context : StyleContext} {whole : String}
    (present : context.own.lowered? "border" = some whole) :
    (propertiesOf context).border.isSome := by
  obtain ⟨text, stored, -⟩ := Option.map_eq_some_iff.1 present
  have ordered : Keyword.border ∈ Keyword.order := by decide
  refine propertiesOf_of_established (fun p => p.border.isSome) ordered stored (fun p => ?_)
    (fun keyword value p bordered => ?_)
  · rw [Keyword.apply_eq_run]
    rfl
  · rw [Keyword.apply_eq_run, Change.run]
    cases (keyword.change context value).border with
    | none => exact bordered
    | some sides => rfl

/-- Every element of a document has a border, in which are the sides that have a line by its style:
by the width for the side, or else by the first word for the side, or else by the shorthand for all
sides. The colour of its lines is the last one that its style gives, and it has none only if its
style gives none. -/
theorem border_of_position? {rules : Forest Rule} {number : Nat}
    {node : Position (Numbered Element)}
    (found : (elementsOf rules).position? number = some node) :
    (∃ sides, (propertiesOf node.styleContext).border = some sides ∧
      ∀ side, sides.contains side = true ↔ node.value.value.style.HasLine side) ∧
    (propertiesOf node.styleContext).drawColour = node.value.value.style.lineColours.getLast? ∧
    ((propertiesOf node.styleContext).drawColour = none ↔
      node.value.value.style.lineColours = []) := by
  have listed := Forest.mem_preorder_of_mem_positions (List.mem_of_getElem? found)
  obtain ⟨whole, present⟩ := exists_lowered?_of_mem listed
    (by decide : (Style.defaultValue? "border").isSome)
  have isSome : (propertiesOf node.styleContext).border.isSome :=
    isSome_border_propertiesOf present
  obtain ⟨sides, bordered⟩ := Option.isSome_iff_exists.1 isSome
  have coloured : (propertiesOf node.styleContext).drawColour =
      node.value.value.style.lineColours.getLast? :=
    drawColour_propertiesOf fun _ _ present => foldName_of_lowered?_of_mem listed present
  refine ⟨⟨sides, bordered, fun side => ?_⟩, coloured, ?_⟩
  · have sided := contains_currentBorder_iff node.styleContext side present
    rw [Properties.currentBorder, bordered] at sided
    exact sided
  · rw [coloured, List.getLast?_eq_none_iff]

/-- A label with lines all around, of which one is taken away, one is narrowed to nothing and given
a width again, one has a width that is none, and one has a colour of its own. -/
def framedLabel : Forest Rule :=
  .cons (declaringRule (.element (some "label"))
      [("border", "1pt solid #FF0000"), ("border-top", "None"), ("border-left", "0pt dashed"),
        ("border-left-width", "2pt"), ("border-bottom", "thick"), ("border-right-color", "Blue")])
    .nil .nil

theorem border_of_position?_framedLabel :
    ∃ node, (elementsOf framedLabel).position? 0 = some node ∧
      (propertiesOf node.styleContext).border = some ⟨true, false, true, false⟩ ∧
      (∀ side, node.value.value.style.HasLine side ↔ side = .left ∨ side = .right) ∧
      node.value.value.style.lineColours = ["#ff0000", "#ff0000", "blue"] ∧
      (propertiesOf node.styleContext).drawColour = some "blue" := by
  have label : ((elementsOf framedLabel).position? 0).map (fun node => decide
      ((propertiesOf node.styleContext).border = some ⟨true, false, true, false⟩ ∧
        node.value.value.style.lineColours = ["#ff0000", "#ff0000", "blue"])) = some true := by
    decide +kernel
  obtain ⟨node, found, shown⟩ := Option.map_eq_some_iff.1 label
  obtain ⟨bordered, colours⟩ := of_decide_eq_true shown
  obtain ⟨⟨sides, sameBorder, sided⟩, coloured, -⟩ := border_of_position? found
  cases bordered.symm.trans sameBorder
  refine ⟨node, found, bordered, fun side => ?_, colours, by rw [coloured, colours]; rfl⟩
  rw [← sided]
  cases side <;> decide

end Folio
