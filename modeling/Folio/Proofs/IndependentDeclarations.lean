import Folio.Proofs.StoredDeclarations

/-!
# Declarations that do not meet

A declaration is about one thing: the alignment, the border, a part of the font, and so on
(`Keyword.subject`), and what it puts into the properties is only about that
(`Keyword.isAbout_change`). Two declarations about different things can therefore be made in either
order, although several of them share the record of the font and build it up from its first
state. The same holds of the widths of two sides, and of a width and a colour, which are all about
the border but put different parts in (`Change.run_comm`).

With `Change.run_run` for a declaration that is made twice, this is what `declared_independently`
says of declarations as they are written.
-/

namespace Folio

/-! ## Subjects -/

/-- What a declaration is about. -/
inductive Subject where
  | align
  | border
  | fillColour
  | family
  | size
  | slant
  | weight
  | textColour
  | width
  | height
  | x
  | y
  | lineBreak
  deriving DecidableEq, Repr

/-- What the declarations of a keyword are about. All keywords for borders are about the border, and
the height of a line is that of the box. -/
def Keyword.subject : Keyword → Subject
  | .textAlign => .align
  | .border | .borderColour | .borderSide _ | .borderSideColour _ | .borderSideWidth _ => .border
  | .backgroundColour => .fillColour
  | .fontFamily => .family
  | .fontSize => .size
  | .fontStyle => .slant
  | .fontWeight => .weight
  | .colour => .textColour
  | .width => .width
  | .lineHeight | .height => .height
  | .left => .x
  | .top => .y
  | .display => .lineBreak

/-- Keywords whose declarations do not meet: about different things, or about the widths of two
sides, or about the width of one and the colour of the lines. -/
inductive Keyword.Independent : Keyword → Keyword → Prop
  | subjects {first second : Keyword} (apart : first.subject ≠ second.subject) :
    Independent first second
  | widths {side other : Side} (apart : side ≠ other) :
    Independent (.borderSideWidth side) (.borderSideWidth other)
  | widthAndColour (side : Side) : Independent (.borderSideWidth side) .borderColour
  | widthAndSideColour (side other : Side) :
    Independent (.borderSideWidth side) (.borderSideColour other)

/-! ## Changes that do not meet -/

/-- At most one of two values is there. -/
def AtMostOne {α : Type} (first second : Option α) : Prop :=
  first = none ∨ second = none

/-- What a change puts in of the font. -/
def Change.partOfFont {α : Type} (change : Change) (part : FontChange → Option α) : Option α :=
  change.font.bind part

/-- What a change puts in of a side of the border. -/
def Change.side (change : Change) (side : Side) : Option Bool :=
  change.border.bind (· side)

/-- Two changes that put no part of the properties in both. -/
structure Change.Apart (first second : Change) : Prop where
  align : AtMostOne first.align second.align
  side (side : Side) : AtMostOne (first.side side) (second.side side)
  line : first.line = .keep ∨ second.line = .keep
  fillColour : AtMostOne first.fillColour second.fillColour
  textColour : AtMostOne first.textColour second.textColour
  family : AtMostOne (first.partOfFont (·.family)) (second.partOfFont (·.family))
  bold : AtMostOne (first.partOfFont (·.bold)) (second.partOfFont (·.bold))
  italic : AtMostOne (first.partOfFont (·.italic)) (second.partOfFont (·.italic))
  size : AtMostOne (first.partOfFont (·.size)) (second.partOfFont (·.size))
  width : AtMostOne first.width second.width
  height : AtMostOne first.height second.height
  x : AtMostOne first.x second.x
  y : AtMostOne first.y second.y
  lineBreak : AtMostOne first.lineBreak second.lineBreak

namespace AtMostOne

variable {α : Type} {first second : Option α}

theorem or_or_comm (apart : AtMostOne first second) (field : Option α) :
    first.or (second.or field) = second.or (first.or field) := by
  rcases apart with rfl | rfl
  · rw [Option.none_or, Option.none_or]
  · rw [Option.none_or, Option.none_or]

theorem getD_getD_comm (apart : AtMostOne first second) (part : α) :
    first.getD (second.getD part) = second.getD (first.getD part) := by
  rcases apart with rfl | rfl
  · rw [Option.getD_none, Option.getD_none]
  · rw [Option.getD_none, Option.getD_none]

end AtMostOne

theorem BorderChange.run_comm {first second : BorderChange}
    (apart : ∀ side, AtMostOne (first side) (second side)) (sides : Sides) :
    first.run (second.run sides) = second.run (first.run sides) := by
  rw [run, run, Sides.mk.injEq]
  exact ⟨(apart .left).getD_getD_comm _, (apart .top).getD_getD_comm _,
    (apart .right).getD_getD_comm _, (apart .bottom).getD_getD_comm _⟩

theorem FontChange.run_comm {first second : FontChange}
    (family : AtMostOne first.family second.family) (bold : AtMostOne first.bold second.bold)
    (italic : AtMostOne first.italic second.italic) (size : AtMostOne first.size second.size)
    (font : Font) : first.run (second.run font) = second.run (first.run font) := by
  rw [run, run, Font.mk.injEq]
  exact ⟨family.getD_getD_comm _, bold.getD_getD_comm _, italic.getD_getD_comm _,
    size.getD_getD_comm _⟩

namespace Change

variable {first second : Change} (apart : first.Apart second) (p : Properties)

include apart

theorem border_run_comm :
    (first.run (second.run p)).border = (second.run (first.run p)).border := by
  have sides := apart.side
  simp only [side] at sides
  simp only [run, Properties.currentBorder]
  cases firstSides : first.border with
  | none => cases second.border <;> rfl
  | some change =>
    cases secondSides : second.border with
    | none => rfl
    | some other =>
      rw [firstSides, secondSides] at sides
      exact congrArg some (BorderChange.run_comm sides _)

theorem font_run_comm : (first.run (second.run p)).font = (second.run (first.run p)).font := by
  have family := apart.family
  have bold := apart.bold
  have italic := apart.italic
  have size := apart.size
  simp only [partOfFont] at family bold italic size
  simp only [run, Properties.currentFont]
  cases firstParts : first.font with
  | none => cases second.font <;> rfl
  | some change =>
    cases secondParts : second.font with
    | none => rfl
    | some other =>
      rw [firstParts, secondParts] at family bold italic size
      exact congrArg some (FontChange.run_comm family bold italic size _)

theorem drawColour_run_comm :
    (first.run (second.run p)).drawColour = (second.run (first.run p)).drawColour := by
  rcases apart.line with keeps | keeps
  · simp only [run, keeps, LineChange.run]
  · simp only [run, keeps, LineChange.run]

/-- Changes that do not meet can be made in either order. -/
theorem run_comm : first.run (second.run p) = second.run (first.run p) := by
  have border := border_run_comm apart p
  have drawColour := drawColour_run_comm apart p
  have font := font_run_comm apart p
  rw [run, run, Properties.mk.injEq]
  exact ⟨apart.align.or_or_comm _, border, drawColour, apart.fillColour.or_or_comm _,
    apart.textColour.or_or_comm _, font, apart.width.or_or_comm _, apart.height.or_or_comm _,
    apart.x.or_or_comm _, apart.y.or_or_comm _, apart.lineBreak.or_or_comm _⟩

end Change

/-! ## What a declaration leaves alone -/

/-- A change that puts in nothing but what is about a subject. -/
structure Change.IsAbout (change : Change) (subject : Subject) : Prop where
  align : subject ≠ .align → change.align = none
  side : subject ≠ .border → ∀ side, change.side side = none
  line : subject ≠ .border → change.line = .keep
  fillColour : subject ≠ .fillColour → change.fillColour = none
  textColour : subject ≠ .textColour → change.textColour = none
  family : subject ≠ .family → change.partOfFont (·.family) = none
  bold : subject ≠ .weight → change.partOfFont (·.bold) = none
  italic : subject ≠ .slant → change.partOfFont (·.italic) = none
  size : subject ≠ .size → change.partOfFont (·.size) = none
  width : subject ≠ .width → change.width = none
  height : subject ≠ .height → change.height = none
  x : subject ≠ .x → change.x = none
  y : subject ≠ .y → change.y = none
  lineBreak : subject ≠ .lineBreak → change.lineBreak = none

theorem Keyword.isAbout_change (context : StyleContext) (value : String) (keyword : Keyword) :
    (keyword.change context value).IsAbout keyword.subject := by
  cases keyword with
  | borderSide side =>
    rw [change]
    split
    all_goals constructor <;> intro other
    all_goals first | exact absurd rfl other | rfl
  | _ =>
    constructor <;> intro other
    all_goals first | exact absurd rfl other | rfl | exact fun _ => rfl

/-- Changes about different things do not meet. -/
theorem Change.apart_of_isAbout {first second : Change} {subject other : Subject}
    (about : first.IsAbout subject) (aboutOther : second.IsAbout other)
    (apart : subject ≠ other) : first.Apart second := by
  have either : ∀ field : Subject, subject ≠ field ∨ other ≠ field := by
    intro field
    by_cases here : subject = field
    · exact .inr fun same => apart (here.trans same.symm)
    · exact .inl here
  exact {
    align := (either .align).imp about.align aboutOther.align
    side := fun side => (either .border).imp (about.side · side) (aboutOther.side · side)
    line := (either .border).imp about.line aboutOther.line
    fillColour := (either .fillColour).imp about.fillColour aboutOther.fillColour
    textColour := (either .textColour).imp about.textColour aboutOther.textColour
    family := (either .family).imp about.family aboutOther.family
    bold := (either .weight).imp about.bold aboutOther.bold
    italic := (either .slant).imp about.italic aboutOther.italic
    size := (either .size).imp about.size aboutOther.size
    width := (either .width).imp about.width aboutOther.width
    height := (either .height).imp about.height aboutOther.height
    x := (either .x).imp about.x aboutOther.x
    y := (either .y).imp about.y aboutOther.y
    lineBreak := (either .lineBreak).imp about.lineBreak aboutOther.lineBreak }

/-- One side has its own place in the border, and the colour of the lines has another. -/
theorem Keyword.Independent.apart_change {first second : Keyword}
    (independent : first.Independent second) (context : StyleContext)
    (firstValue secondValue : String) :
    (first.change context firstValue).Apart (second.change context secondValue) := by
  have about := isAbout_change context firstValue first
  have aboutOther := isAbout_change context secondValue second
  cases independent with
  | subjects apart => exact Change.apart_of_isAbout about aboutOther apart
  | @widths side other apart =>
    have sides : ∀ place : Side, AtMostOne
        (BorderChange.only side (isBorderWidth firstValue) place)
        (BorderChange.only other (isBorderWidth secondValue) place) := by
      intro place
      by_cases here : place = side
      · exact .inr (BorderChange.only_of_ne (fun same => apart (here.symm.trans same)) _)
      · exact .inl (BorderChange.only_of_ne here _)
    constructor
    case side => exact sides
    all_goals exact .inl rfl
  | widthAndColour side =>
    constructor
    case side => exact fun _ => .inr rfl
    all_goals exact .inl rfl
  | widthAndSideColour side other =>
    constructor
    case side => exact fun _ => .inr rfl
    all_goals exact .inl rfl

/-! ## Declarations as they are written -/

/-- Adds a declaration as it is written, and says whether it is one. If its name is no keyword, the
properties stay as they are. -/
def Properties.declare (context : StyleContext) (name value : String) (p : Properties) :
    Bool × Properties :=
  match p.declare? context name value with
  | some declared => (true, declared)
  | none => (false, p)

/-- The names that keywords have. -/
def Keyword.names : List String :=
  order.map name

theorem Properties.declare_of_notMem {name : String} (unknown : foldName name ∉ Keyword.names)
    (context : StyleContext) (value : String) (p : Properties) :
    p.declare context name value = (false, p) := by
  have nameless : Keyword.ofName? (foldName name) = none := by
    refine List.find?_eq_none.2 fun keyword ordered same => unknown ?_
    exact List.mem_map.2 ⟨keyword, ordered, beq_iff_eq.1 same⟩
  rw [declare, declare?, nameless, Option.map_none]

theorem Properties.declare_of_name {name : String} {keyword : Keyword}
    (named : foldName name = keyword.name) (context : StyleContext) (value : String)
    (p : Properties) :
    p.declare context name value = (true, (keyword.change context (foldName value)).run p) := by
  have found : Keyword.ofName? (foldName name) = some keyword := by
    rw [← foldName_foldName, named, keyword.ofName?_foldName_name]
  rw [declare, declare?, found, Option.map_some, Keyword.apply_eq_run]

/-- A declaration counts if its name is that of a keyword in any spelling, and else it changes
nothing. Made once more it changes nothing either. And two declarations can be made in either order,
with any values and whatever the properties were, if they are about different things, about the
widths of two sides, or about a width and the colour of the lines. -/
theorem declared_independently (context : StyleContext) (p : Properties) :
    (∀ name value, foldName name ∉ Keyword.names → p.declare context name value = (false, p)) ∧
    (∀ name value, foldName name ∈ Keyword.names → (p.declare context name value).1 = true) ∧
    (∀ name value, (p.declare context name value).2.declare context name value =
      p.declare context name value) ∧
    ∀ first second : Keyword, first.Independent second →
      ∀ firstName secondName, foldName firstName = first.name → foldName secondName = second.name →
        ∀ firstValue secondValue,
          ((p.declare context firstName firstValue).2.declare context secondName secondValue).2 =
            ((p.declare context secondName secondValue).2.declare context firstName
              firstValue).2 := by
  refine ⟨fun name value unknown => Properties.declare_of_notMem unknown context value p,
    ?_, ?_, ?_⟩
  · intro name value known
    obtain ⟨keyword, -, named⟩ := List.mem_map.1 known
    rw [Properties.declare_of_name named.symm]
  · intro name value
    by_cases known : foldName name ∈ Keyword.names
    · obtain ⟨keyword, -, named⟩ := List.mem_map.1 known
      simp only [Properties.declare_of_name named.symm, Change.run_run]
    · simp only [Properties.declare_of_notMem known]
  · intro first second independent firstName secondName named namedOther firstValue secondValue
    have apart := independent.apart_change context (foldName firstValue) (foldName secondValue)
    simp only [Properties.declare_of_name named, Properties.declare_of_name namedOther]
    exact (Change.run_comm apart p).symm

/-- The properties of a box with red lines and bold text. -/
def redBox : Properties :=
  { drawColour := some "#ff0000", font := some { bold := true } }

theorem declared_independently_redBox :
    foldName "z-index" ∉ Keyword.names ∧ foldName " Border-Top-Width" ∈ Keyword.names ∧
    Keyword.Independent (.borderSideWidth .top) (.borderSideColour .left) ∧
    foldName " Border-Top-Width" = (Keyword.borderSideWidth .top).name ∧
    foldName "BORDER-LEFT-COLOR " = (Keyword.borderSideColour .left).name ∧
    redBox.declare ⟨∅, []⟩ "z-index" "3" = (false, redBox) ∧
    (redBox.declare ⟨∅, []⟩ " Border-Top-Width" "2PT").1 = true ∧
    ((redBox.declare ⟨∅, []⟩ "border-top" "None").2.declare ⟨∅, []⟩ "border-top" "None") =
      redBox.declare ⟨∅, []⟩ "border-top" "None" ∧
    ((redBox.declare ⟨∅, []⟩ " Border-Top-Width" "2PT").2.declare ⟨∅, []⟩ "BORDER-LEFT-COLOR "
        "Blue").2 =
      { redBox with border := some ⟨false, true, false, false⟩, drawColour := some "blue" } ∧
    ((redBox.declare ⟨∅, []⟩ "BORDER-LEFT-COLOR " "Blue").2.declare ⟨∅, []⟩ " Border-Top-Width"
        "2PT").2 =
      { redBox with border := some ⟨false, true, false, false⟩, drawColour := some "blue" } := by
  obtain ⟨ignored, counted, twice, either⟩ := declared_independently ⟨∅, []⟩ redBox
  have unknown : foldName "z-index" ∉ Keyword.names := by decide +kernel
  have known : foldName " Border-Top-Width" ∈ Keyword.names := by decide +kernel
  have independent : Keyword.Independent (.borderSideWidth .top) (.borderSideColour .left) :=
    .widthAndSideColour .top .left
  have named : foldName " Border-Top-Width" = (Keyword.borderSideWidth .top).name := by
    decide +kernel
  have namedOther : foldName "BORDER-LEFT-COLOR " = (Keyword.borderSideColour .left).name := by
    decide +kernel
  have outcome : ((redBox.declare ⟨∅, []⟩ " Border-Top-Width" "2PT").2.declare ⟨∅, []⟩
        "BORDER-LEFT-COLOR " "Blue").2 =
      { redBox with border := some ⟨false, true, false, false⟩, drawColour := some "blue" } := by
    decide +kernel
  have same := either _ _ independent _ _ named namedOther "2PT" "Blue"
  exact ⟨unknown, known, independent, named, namedOther, ignored _ _ unknown, counted _ _ known,
    twice _ _, outcome, same.symm.trans outcome⟩

end Folio
