import Folio.Proofs.Compiled

/-!
# Declarations as changes

What a declaration puts into the properties depends on the declaration and on the styles that it
looks at, and hardly on the properties that are there: a value is put in or left out, a side of the
border or a part of the font is put in beside the others. Only the colour of the lines is once
taken from what is there. `Keyword.change` says of every declaration what it puts in, and
`Keyword.apply_eq_run` that it does no more than that.

So a change that is made once more later need not have been made before
(`Change.run_run_run`), and declarations in a row can be made again with no effect
(`declareAll_declareAll_of_subset`). And what is seen of the properties in one place is a matter of
the keywords that write there (`view_propertiesOf`).
-/

namespace Folio

/-! ## Changes -/

/-- The sides that a border gets, and those that it loses. -/
abbrev BorderChange := Side → Option Bool

/-- The border with the sides changed. -/
def BorderChange.run (change : BorderChange) (sides : Sides) : Sides where
  left := (change .left).getD sides.left
  top := (change .top).getD sides.top
  right := (change .right).getD sides.right
  bottom := (change .bottom).getD sides.bottom

/-- The parts that a font gets. -/
structure FontChange where
  family : Option String := none
  bold : Option Bool := none
  italic : Option Bool := none
  size : Option Float32 := none

/-- The font with the parts changed. -/
def FontChange.run (change : FontChange) (font : Font) : Font where
  family := change.family.getD font.family
  bold := change.bold.getD font.bold
  italic := change.italic.getD font.italic
  size := change.size.getD font.size

/-- What becomes of the colour of the lines. -/
inductive LineChange where
  /-- It stays as it is. -/
  | keep
  /-- It is set. -/
  | set (colour : String)
  /-- It stays if there is one, and else is the colour for no line. -/
  | settle

/-- The colour of the lines after a change. -/
def LineChange.run (change : LineChange) (colour : Option String) : Option String :=
  match change with
  | keep => colour
  | set colour => some colour
  | settle => some (foldName (colour.getD noLineColour))

/-- What is put into properties. -/
structure Change where
  align : Option Align := none
  border : Option BorderChange := none
  line : LineChange := .keep
  fillColour : Option String := none
  textColour : Option String := none
  font : Option FontChange := none
  width : Option Float32 := none
  height : Option Float32 := none
  x : Option Offset := none
  y : Option Offset := none
  lineBreak : Option Bool := none

/-- The properties after a change. -/
def Change.run (change : Change) (p : Properties) : Properties where
  align := change.align.or p.align
  border := (change.border.map fun sides => sides.run p.currentBorder).or p.border
  drawColour := change.line.run p.drawColour
  fillColour := change.fillColour.or p.fillColour
  textColour := change.textColour.or p.textColour
  font := (change.font.map fun font => font.run p.currentFont).or p.font
  width := change.width.or p.width
  height := change.height.or p.height
  x := change.x.or p.x
  y := change.y.or p.y
  lineBreak := change.lineBreak.or p.lineBreak

/-! ## The changes of declarations -/

/-- One side is put in or taken out. -/
def BorderChange.only (side : Side) (inside : Bool) : BorderChange :=
  fun other => if other = side then some inside else none

/-- The colour is set if there is one to set. -/
def LineChange.ofWord (word : Option String) : LineChange :=
  match word with
  | some colour => .set colour
  | none => .keep

/-- The alignment that a value comes to below some styles. -/
def alignOf? (above : List Style) (value : String) : Option Align :=
  match alignWord value with
  | .value align => some align
  | .initial => none
  | .inherit => some ((inherited? alignWord (inheritedValues above "text-align")).getD .justify)

/-- The slant that a value comes to below some styles. -/
def slantOf? (above : List Style) (value : String) : Option Bool :=
  match slantWord value with
  | .value italic => some italic
  | .initial => some false
  | .inherit => inherited? slantWord (inheritedValues above "font-style")

/-- What the declaration of a keyword puts into the properties. -/
def Keyword.change (context : StyleContext) (value : String) : Keyword → Change
  | .textAlign => { align := alignOf? context.above value }
  | .border =>
    { border := some fun _ => some (value != "none")
      line := if value = "none" then .keep else .ofWord (borderColour? value) }
  | .borderColour => { line := .set value }
  | .borderSide side =>
    if value = "none" then { border := some (.only side false), line := .settle }
    else
      { border := some fun other =>
          (Text.words value).head?.bind fun first =>
            BorderChange.only side (isBorderWidth first) other
        line := .ofWord (borderColour? value) }
  | .borderSideColour _ => { line := .set value }
  | .borderSideWidth side => { border := some (.only side (isBorderWidth value)) }
  | .backgroundColour => { fillColour := some value }
  | .fontFamily => { font := some { family := some value } }
  | .fontSize => { font := some { size := (Length.parse? value).map Length.value } }
  | .fontStyle => { font := some { italic := slantOf? context.above value } }
  | .fontWeight => { font := some { bold := some (isBoldWeight value) } }
  | .colour => { textColour := some value }
  | .width => { width := (Length.parse? value).map Length.fraction }
  | .lineHeight | .height => { height := (Length.parse? value).map Length.value }
  | .left => { x := offset? context "left" value }
  | .top => { y := offset? context "top" value }
  | .display => { lineBreak := some (value == "block") }

@[simp] theorem BorderChange.only_self (side : Side) (inside : Bool) :
    only side inside side = some inside := if_pos rfl

theorem BorderChange.only_of_ne {side other : Side} (apart : other ≠ side) (inside : Bool) :
    only side inside other = none := if_neg apart

theorem BorderChange.run_only (side : Side) (inside : Bool) (sides : Sides) :
    (only side inside).run sides = sides.set side inside := by
  cases side <;> rfl

/-- A declaration does what its change says. -/
theorem Keyword.apply_eq_run (context : StyleContext) (value : String) (p : Properties)
    (keyword : Keyword) : keyword.apply context value p = (keyword.change context value).run p := by
  cases keyword with
  | textAlign =>
    rw [apply, change, alignOf?]
    cases alignWord value <;> rfl
  | border =>
    rw [apply, change]
    by_cases none : value = "none"
    · rw [if_pos none, if_pos none, none]
      rfl
    · have lined : (value != "none") = true := bne_iff_ne.2 none
      rw [if_neg none, if_neg none, lined]
      cases borderColour? value <;> rfl
  | borderSide side =>
    rw [apply, change]
    by_cases none : value = "none"
    · rw [if_pos none, if_pos none, Change.run]
      simp only [Option.map_some, Option.some_or, BorderChange.run_only]
      rfl
    · rw [if_neg none, if_neg none]
      cases Text.words value with
      | nil => cases borderColour? value <;> rfl
      | cons first rest =>
        have sided : (BorderChange.run fun other =>
            BorderChange.only side (isBorderWidth first) other) p.currentBorder =
              p.currentBorder.set side (isBorderWidth first) :=
          BorderChange.run_only side (isBorderWidth first) p.currentBorder
        rw [Change.run]
        simp only [List.head?_cons, Option.bind_some, Option.map_some, Option.some_or, sided]
        cases borderColour? value <;> rfl
  | borderSideWidth side =>
    rw [apply, change, Change.run]
    simp only [Option.map_some, Option.some_or, BorderChange.run_only]
    rfl
  | fontSize =>
    rw [apply, change]
    cases Length.parse? value <;> rfl
  | fontStyle =>
    rw [apply, change, slantOf?]
    cases slantWord value <;> rfl
  | width =>
    rw [apply, change]
    cases Length.parse? value <;> rfl
  | lineHeight =>
    rw [apply, change]
    cases Length.parse? value <;> rfl
  | height =>
    rw [apply, change]
    cases Length.parse? value <;> rfl
  | left =>
    rw [apply, change]
    cases offset? context "left" value <;> rfl
  | top =>
    rw [apply, change]
    cases offset? context "top" value <;> rfl
  | _ => rfl

/-! ## A change made again -/

/-- A value that is put in again need not have been put in before. -/
theorem or_or_or {α : Type} (value between field : Option α) :
    value.or (between.or (value.or field)) = value.or (between.or field) := by
  cases value <;> rfl

theorem getD_getD_getD {α : Type} (value between : Option α) (part : α) :
    value.getD (between.getD (value.getD part)) = value.getD (between.getD part) := by
  cases value <;> rfl

theorem getD_getD {α : Type} (value : Option α) (part : α) :
    value.getD (value.getD part) = value.getD part := by
  cases value <;> rfl

namespace Change

variable (change between : Change) (p : Properties)

theorem border_run_run_run :
    (change.run (between.run (change.run p))).border = (change.run (between.run p)).border := by
  have once : ∀ (sides : BorderChange) (border : Sides),
      sides.run (sides.run border) = sides.run border := by
    intro sides border
    simp only [BorderChange.run, getD_getD]
  have later : ∀ (sides other : BorderChange) (border : Sides),
      sides.run (other.run (sides.run border)) = sides.run (other.run border) := by
    intro sides other border
    simp only [BorderChange.run, getD_getD_getD]
  simp only [run, Properties.currentBorder]
  cases change.border <;> cases between.border <;> simp [once, later]

theorem font_run_run_run :
    (change.run (between.run (change.run p))).font = (change.run (between.run p)).font := by
  have once : ∀ (parts : FontChange) (font : Font),
      parts.run (parts.run font) = parts.run font := by
    intro parts font
    simp only [FontChange.run, getD_getD]
  have later : ∀ (parts other : FontChange) (font : Font),
      parts.run (other.run (parts.run font)) = parts.run (other.run font) := by
    intro parts other font
    simp only [FontChange.run, getD_getD_getD]
  simp only [run, Properties.currentFont]
  cases change.font <;> cases between.font <;> simp [once, later]

/-- The colour for no line is put in only where there is no colour, and a colour that is there stays
but for its spelling. -/
theorem drawColour_run_run_run :
    (change.run (between.run (change.run p))).drawColour =
      (change.run (between.run p)).drawColour := by
  simp only [run]
  cases change.line with
  | keep => rfl
  | set => rfl
  | settle => cases between.line <;> simp [LineChange.run]

/-- A change that is made once more need not have been made before. -/
theorem run_run_run : change.run (between.run (change.run p)) = change.run (between.run p) := by
  have border := border_run_run_run change between p
  have drawColour := drawColour_run_run_run change between p
  have font := font_run_run_run change between p
  rw [run, run, Properties.mk.injEq]
  exact ⟨or_or_or .., border, drawColour, or_or_or .., or_or_or .., font, or_or_or ..,
    or_or_or .., or_or_or .., or_or_or .., or_or_or ..⟩

theorem run_run : change.run (change.run p) = change.run p :=
  run_run_run change {} p

end Change

/-! ## Declarations in a row -/

section Row

variable {context : StyleContext}

/-- A declaration that one in the row makes again has no effect in front of the row. -/
theorem declareAll_apply {keyword : Keyword} {value : String}
    (present : context.own.text? keyword.name = some value) {keywords : List Keyword}
    (again : keyword ∈ keywords) (p : Properties) :
    declareAll context (keyword.apply context (Text.lower value) p) keywords =
      declareAll context p keywords := by
  induction keywords generalizing p with
  | nil => cases again
  | cons next rest ih =>
    by_cases here : keyword = next
    · subst here
      rw [declareAll_cons_of_some present, declareAll_cons_of_some present, Keyword.apply_eq_run,
        Keyword.apply_eq_run, Change.run_run]
    · have behind : keyword ∈ rest := (List.mem_cons.1 again).resolve_left here
      cases other : context.own.text? next.name with
      | none =>
        rw [declareAll_cons_of_none other, declareAll_cons_of_none other, ih behind]
      | some text =>
        rw [declareAll_cons_of_some other, declareAll_cons_of_some other]
        -- It is made once more behind the next declaration, and then not in front of it.
        rw [← ih behind, Keyword.apply_eq_run, Keyword.apply_eq_run, Keyword.apply_eq_run,
          Change.run_run_run, ← Keyword.apply_eq_run, ← Keyword.apply_eq_run, ih behind]

/-- Declarations have no effect in front of a row that makes them all again. -/
theorem declareAll_declareAll_of_subset {first keywords : List Keyword}
    (again : first ⊆ keywords) (p : Properties) :
    declareAll context (declareAll context p first) keywords = declareAll context p keywords := by
  induction first generalizing p with
  | nil => rfl
  | cons next rest ih =>
    obtain ⟨here, others⟩ := List.cons_subset.1 again
    cases present : context.own.text? next.name with
    | none => rw [declareAll_cons_of_none present, ih others]
    | some value =>
      rw [declareAll_cons_of_some present, ih others, declareAll_apply present here]

end Row

/-! ## What is seen of the properties -/

section View

variable {α : Type}

/-- What becomes of something that changes act on, by the declarations of a style for some keywords
in a row. -/
def actAll (context : StyleContext) (act : Change → α → α) (a : α) (keywords : List Keyword) : α :=
  keywords.foldl
    (fun a keyword =>
      match context.own.lowered? keyword.name with
      | some value => act (keyword.change context value) a
      | none => a)
    a

variable {context : StyleContext}

theorem actAll_cons (act : Change → α → α) (a : α) (keyword : Keyword) (rest : List Keyword) :
    actAll context act a (keyword :: rest) =
      actAll context act
        (match context.own.lowered? keyword.name with
        | some value => act (keyword.change context value) a
        | none => a)
        rest := rfl

/-- Keywords whose changes do nothing can be left out. -/
theorem actAll_filter {act : Change → α → α} (counts : Keyword → Bool)
    (idle : ∀ keyword value a, counts keyword = false →
      act (Keyword.change context value keyword) a = a)
    (a : α) (keywords : List Keyword) :
    actAll context act a (keywords.filter counts) = actAll context act a keywords := by
  rw [actAll, actAll, List.foldl_filter]
  congr 1
  funext a keyword
  cases counted : counts keyword with
  | false =>
    cases context.own.lowered? keyword.name with
    | none => rfl
    | some value => exact (idle keyword value a counted).symm
  | true => rfl

variable (view : Properties → α) (act : Change → α → α)
  (acts : ∀ change p, view (Change.run change p) = act change (view p))

include acts

/-- What is seen of the properties behind a row of declarations, if changes act on it. -/
theorem view_declareAll (p : Properties) (keywords : List Keyword) :
    view (declareAll context p keywords) = actAll context act (view p) keywords := by
  induction keywords generalizing p with
  | nil => rfl
  | cons keyword rest ih =>
    rw [actAll_cons, Style.lowered?]
    cases present : context.own.text? keyword.name with
    | none =>
      rw [declareAll_cons_of_none present, ih]
      rfl
    | some value =>
      rw [declareAll_cons_of_some present, ih, Keyword.apply_eq_run, acts]
      rfl

/-- What only the changes of some keywords act on is the business of those keywords alone. -/
theorem view_propertiesOf (counts : Keyword → Bool)
    (idle : ∀ keyword value a, counts keyword = false →
      act (Keyword.change context value keyword) a = a) :
    view (propertiesOf context) =
      actAll context act (view .empty) (Keyword.order.filter counts) := by
  rw [propertiesOf_eq_declareAll, view_declareAll view act acts, actAll_filter counts idle]

/-- What only the changes of one keyword act on is a matter of the value of that keyword. -/
theorem view_propertiesOf_of_single (keyword : Keyword)
    (idle : ∀ other value a, other ≠ keyword → act (Keyword.change context value other) a = a) :
    view (propertiesOf context) =
      match context.own.lowered? keyword.name with
      | some value => act (keyword.change context value) (view .empty)
      | none => view .empty := by
  have single : Keyword.order.filter (· == keyword) = [keyword] := by
    cases keyword with
    | borderSide side => cases side <;> rfl
    | borderSideColour side => cases side <;> rfl
    | borderSideWidth side => cases side <;> rfl
    | _ => rfl
  rw [view_propertiesOf view act acts (· == keyword)
    (fun other value a apart => idle other value a (beq_eq_false_iff_ne.1 apart)), single]
  rfl

end View

end Folio
