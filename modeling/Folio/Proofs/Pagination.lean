import Mathlib.Data.List.GetD
import Folio.Config
import Folio.Proofs.CellGroups
import Folio.Proofs.NumberOrder

/-!
# Pages

A builder cuts an endless page into pages while cells are drawn on it. `Builder.placements` lists
for the cells of a run on which page and at which place each one was drawn, and whether the page was
started for it. Everything about the pages of a run can be read off this list
(`paginated`): no cell is lost, split or moved in front of another one, the number of a page is
the number of the pages started so far, and a page that is finished stays as it is.

A cell that starts no page crosses the bottom margin only at the top margin, where another page
would not help (`Builder.fits_placement`). That needs a top margin which is a number; with one that
is not, no cell ever starts a page (`not_forall_fits`).
-/

namespace Folio

/-! ## Placements -/

/-- Where a cell was drawn. -/
structure Placement where
  cell : Cell
  /-- The number of the page, from nought. -/
  page : Nat
  /-- Whether the page was started for the cell. -/
  opens : Bool
  /-- The place of the cell below the top of the page. -/
  top : Float32
  /-- The operations of the cell. -/
  ops : List PageOp

/-- The operations that some cells have on one page. -/
def opsOnPage (placements : List Placement) (page : Nat) : List PageOp :=
  (placements.filter (·.page == page)).flatMap (·.ops)

theorem opsOnPage_append (first second : List Placement) (page : Nat) :
    opsOnPage (first ++ second) page = opsOnPage first page ++ opsOnPage second page := by
  rw [opsOnPage, List.filter_append, List.flatMap_append]
  rfl

theorem opsOnPage_singleton (placed : Placement) (page : Nat) :
    opsOnPage [placed] page = if placed.page == page then placed.ops else [] := by
  rw [opsOnPage, List.filter_cons]
  split
  · exact List.append_nil _
  · rfl

/-- Whether a cell does not cross the bottom margin or stands at the top margin. -/
def Placement.Fits (placed : Placement) (paper : Paper) : Prop :=
  ¬ paper.height - paper.marginBottom < placed.top + placed.cell.height ∨
    (placed.top == paper.marginTop) = true

instance (placed : Placement) (paper : Paper) : Decidable (placed.Fits paper) :=
  inferInstanceAs (Decidable (_ ∨ _))

/-- The cell that a command draws. -/
def Command.cell? : Command → Option Cell
  | .cell drawn => some drawn
  | _ => none

namespace Builder

/-- Where a cell is drawn next. -/
def placement (b : Builder) (cell : Cell) : Placement where
  cell := cell
  page := (b.withRoom cell.height).finished.length
  opens := b.overflows cell.height
  top := (b.withRoom cell.height).cellTop
  ops := (b.withRoom cell.height).cellOps cell

/-- Where the cell of a command is drawn next, if there is one. -/
def commandPlacements (b : Builder) (command : Command) : List Placement :=
  (command.cell?.map b.placement).toList

/-- Where the cells of a run are drawn. -/
def placements (b : Builder) : List Command → List Placement
  | [] => []
  | command :: rest => b.commandPlacements command ++ (canvas.perform b command).placements rest

/-! ## One command -/

section Step

variable (b : Builder) (cell : Cell) (command : Command)

theorem paper_withRoom (height : Float32) : (b.withRoom height).paper = b.paper := by
  unfold withRoom
  split <;> rfl

theorem paper_perform : (canvas.perform b command).paper = b.paper := by
  cases command with
  | cell cell => exact paper_withRoom b cell.height
  | _ => rfl

theorem finished_withRoom (height : Float32) :
    (b.withRoom height).finished =
      b.finished ++ if b.overflows height then [b.current.toList] else [] := by
  rw [withRoom]
  split
  · rfl
  · exact (List.append_nil _).symm

/-- A command finishes the current page if a cell starts another one. -/
theorem finished_perform :
    (canvas.perform b command).finished =
      b.finished ++ if (b.commandPlacements command).any (·.opens) then [b.current.toList] else [] := by
  cases command with
  | cell cell =>
    change (b.withRoom cell.height).finished = _
    rw [finished_withRoom, commandPlacements]
    simp [Command.cell?, placement]
  | _ => exact (List.append_nil _).symm

theorem numPages_perform :
    (canvas.perform b command).numPages =
      b.numPages + (b.commandPlacements command).countP (·.opens) := by
  cases command with
  | cell cell =>
    change (b.withRoom cell.height).finished.length + 1 =
      b.finished.length + 1 + [b.placement cell].countP (·.opens)
    rw [finished_withRoom, List.countP_singleton, placement]
    by_cases crosses : b.overflows cell.height
    · rw [if_pos crosses, if_pos crosses, List.length_append, List.length_singleton]
    · rw [if_neg crosses, if_neg crosses, List.append_nil]
  | _ => rfl

/-- Only a cell can start a page, and it starts no more than one. -/
theorem numPages_perform_eq_or :
    (canvas.perform b command).numPages = b.numPages ∨
      command.cell?.isSome ∧ (canvas.perform b command).numPages = b.numPages + 1 := by
  rw [numPages_perform, commandPlacements]
  cases command.cell? with
  | none => exact .inl rfl
  | some cell =>
    rw [Option.map_some, Option.toList_some, List.countP_singleton]
    split
    · exact .inr ⟨rfl, rfl⟩
    · exact .inl rfl

/-- The operations on the page with a number. -/
def pageOps (page : Nat) : List PageOp :=
  b.pages.getD page []

theorem pages_eq_map_pageOps : b.pages = (List.range b.numPages).map b.pageOps := by
  have length : b.pages.length = b.numPages := by
    rw [pages, List.length_append, List.length_singleton, numPages]
  refine List.ext_getElem (by rw [length, List.length_map, List.length_range]) ?_
  intro page inside _
  rw [List.getElem_map, List.getElem_range, pageOps, List.getD_eq_getElem _ _ inside]

/-- A page that has just been started adds nothing to any page. -/
theorem pageOps_withRoom (height : Float32) (page : Nat) :
    (b.withRoom height).pageOps page = b.pageOps page := by
  unfold withRoom
  split
  · change (b.pages ++ [[]]).getD page [] = b.pages.getD page []
    rcases Nat.lt_or_ge page b.pages.length with inside | behind
    · exact List.getD_append _ _ _ _ inside
    · rw [List.getD_append_right _ _ _ _ behind, List.getD_eq_default _ _ behind]
      cases page - b.pages.length <;> rfl
  · rfl

/-- Operations that are drawn come to the end of the current page. -/
theorem pageOps_drawn (ops : List PageOp) (page : Nat) :
    ({ b with current := b.current ++ ops } : Builder).pageOps page =
      b.pageOps page ++ if b.finished.length == page then ops else [] := by
  change (b.finished ++ [(b.current ++ ops).toList]).getD page [] =
    (b.finished ++ [b.current.toList]).getD page [] ++ _
  rcases Nat.lt_trichotomy page b.finished.length with inside | rfl | behind
  · rw [List.getD_append _ _ _ _ inside, List.getD_append _ _ _ _ inside,
      if_neg (by simpa using Nat.ne_of_gt inside), List.append_nil]
  · rw [List.getD_append_right _ _ _ _ (Nat.le_refl _),
      List.getD_append_right _ _ _ _ (Nat.le_refl _), if_pos (by simp), Nat.sub_self]
    exact Array.toList_appendList
  · have beyond : ∀ last : List PageOp, (b.finished ++ [last]).length ≤ page := fun _ => by
      rw [List.length_append]
      exact behind
    rw [List.getD_eq_default _ _ (beyond _), List.getD_eq_default _ _ (beyond _),
      if_neg (by simpa using Nat.ne_of_lt behind), List.append_nil]

/-- A command adds the operations of its cell to the page where the cell is placed. -/
theorem pageOps_perform (page : Nat) :
    (canvas.perform b command).pageOps page =
      b.pageOps page ++ opsOnPage (b.commandPlacements command) page := by
  cases command with
  | cell cell =>
    refine ((b.withRoom cell.height).pageOps_drawn _ page).trans ?_
    rw [pageOps_withRoom]
    exact congrArg (b.pageOps page ++ ·) (opsOnPage_singleton (b.placement cell) page).symm
  | _ => exact (List.append_nil _).symm

end Step

/-! ## A run of commands -/

section Run

variable (b : Builder) (commands : List Command)

theorem pageOps_performAll (page : Nat) :
    (canvas.performAll b commands).pageOps page =
      b.pageOps page ++ opsOnPage (b.placements commands) page := by
  induction commands generalizing b with
  | nil => exact (List.append_nil _).symm
  | cons command rest ih =>
    rw [Canvas.performAll_cons, ih, pageOps_perform, placements, opsOnPage_append,
      List.append_assoc]

theorem numPages_performAll :
    (canvas.performAll b commands).numPages =
      b.numPages + (b.placements commands).countP (·.opens) := by
  induction commands generalizing b with
  | nil => rfl
  | cons command rest ih =>
    rw [Canvas.performAll_cons, ih, numPages_perform, placements, List.countP_append,
      Nat.add_assoc]

/-- Every cell is placed once and in order. -/
theorem map_cell_placements :
    (b.placements commands).map (·.cell) = commands.filterMap Command.cell? := by
  induction commands generalizing b with
  | nil => rfl
  | cons command rest ih =>
    rw [placements, List.map_append, ih, List.filterMap_cons, commandPlacements]
    cases command.cell? <;> rfl

theorem length_placements : (b.placements commands).length = cellCount commands := by
  have cells := congrArg List.length (b.map_cell_placements commands)
  rw [List.length_map, List.length_filterMap_eq_countP] at cells
  rw [cells, cellCount]
  refine List.countP_congr fun command _ => ?_
  cases command <;> rfl

theorem map_ops_placements : (b.placements commands).map (·.ops) = b.cellGroups commands := by
  induction commands generalizing b with
  | nil => rfl
  | cons command rest ih =>
    rw [placements, cellGroups, List.map_append, ih]
    cases command <;> rfl

/-- The page of a cell has the number of the pages that were started up to it. -/
theorem page_of_getElem?_placements {i : Nat} {placed : Placement}
    (found : (b.placements commands)[i]? = some placed) :
    placed.page =
      b.finished.length + ((b.placements commands).take (i + 1)).countP (·.opens) := by
  induction commands generalizing b i with
  | nil => cases found
  | cons command rest ih =>
    have turned := numPages_perform b command
    rw [numPages, numPages] at turned
    rw [placements] at found ⊢
    cases command with
    | cell cell =>
      rw [commandPlacements, Command.cell?, Option.map_some, Option.toList_some,
        List.singleton_append] at found ⊢
      change _ = _ + [b.placement cell].countP _ at turned
      cases i with
      | zero =>
        rw [List.getElem?_cons_zero, Option.some_inj] at found
        subst found
        change (canvas.perform b (.cell cell)).finished.length = b.finished.length + _
        rw [List.take_succ_cons, List.take_zero]
        omega
      | succ i =>
        rw [List.getElem?_cons_succ] at found
        have later := ih (canvas.perform b (.cell cell)) found
        rw [List.countP_singleton] at turned
        rw [List.take_succ_cons, List.countP_cons, later]
        omega
    | _ => exact ih (canvas.perform b _) found

/-- What holds of every place on some paper holds of all places of a run. -/
theorem forall_mem_placements {paper : Paper} {P : Placement → Prop}
    (each : ∀ (b : Builder) (cell : Cell), b.paper = paper → P (b.placement cell))
    (same : b.paper = paper) : ∀ placed ∈ b.placements commands, P placed := by
  induction commands generalizing b with
  | nil => exact fun _ none => absurd none List.not_mem_nil
  | cons command rest ih =>
    intro placed member
    rw [placements, List.mem_append] at member
    rcases member with here | later
    · rw [commandPlacements, Option.mem_toList, Option.map_eq_some_iff] at here
      obtain ⟨cell, -, rfl⟩ := here
      exact each b cell same
    · exact ih (canvas.perform b command) ((paper_perform b command).trans same) placed later

/-- What is finished stays as it is. -/
theorem finished_prefix : b.finished <+: (canvas.performAll b commands).finished := by
  induction commands generalizing b with
  | nil => exact List.prefix_rfl
  | cons command rest ih =>
    rw [Canvas.performAll_cons]
    refine List.IsPrefix.trans ?_ (ih _)
    rw [finished_perform]
    exact List.prefix_append _ _

end Run

/-! ## Where a cell stands on its page -/

section Top

variable (b : Builder) (cell : Cell)

theorem not_top_lt_marginTop : ¬ (b.placement cell).top < b.paper.marginTop := by
  rw [placement, ← paper_withRoom b cell.height]
  dsimp only
  generalize b.withRoom cell.height = roomy
  rw [cellTop]
  split
  · exact Number.not_lt_self _
  · assumption

/-- A cell that starts no page fits on its page, or it stands at the top margin. -/
theorem fits_placement (number : b.paper.marginTop.isNaN = false)
    (stays : (b.placement cell).opens = false) : (b.placement cell).Fits b.paper := by
  have same : b.withRoom cell.height = b := if_neg (Bool.not_eq_true _ ▸ stays)
  have top : (b.placement cell).top = b.cellTop := congrArg cellTop same
  rw [Placement.Fits, top, cellTop]
  split
  case isTrue => exact .inr (Number.beq_self number)
  case isFalse notAbove =>
    by_cases crosses : b.paper.height - b.paper.marginBottom < b.cursorTop + cell.height
    · have notBelow : ¬ b.paper.marginTop < b.cursorTop := by
        intro below
        have turns : b.overflows cell.height = true := by
          rw [overflows, decide_eq_true crosses, decide_eq_true below, Bool.and_self]
        exact Bool.false_ne_true (stays.symm.trans turns)
      have number' : b.cursorTop.isNaN = false :=
        Number.isNaN_of_add (Number.isNaN_right_of_lt crosses)
      obtain above | equal | below := Number.lt_or_beq_or_lt number' number
      · exact absurd above notAbove
      · exact .inr equal
      · exact absurd below notBelow
    · exact .inl crosses

end Top

end Builder

/-! ## All pages together -/

/-- The builder that draws commands on empty pages. -/
def drawOn (paper : Paper) (commands : List Command) : Builder :=
  Builder.canvas.performAll (.start paper) commands

/-- What holds of the pages of a run that begins with an empty page. -/
structure Paginated (paper : Paper) (commands : List Command) : Prop where
  /-- Every cell is placed once and in order. -/
  cells : ((Builder.start paper).placements commands).map (·.cell) =
    commands.filterMap Command.cell?
  /-- The pages hold the operations of the cells in order and nothing else. -/
  order : (drawOn paper commands).pages.flatten =
    ((Builder.start paper).placements commands).flatMap (·.ops)
  /-- All operations of a cell are on its page. -/
  undivided : (drawOn paper commands).pages =
    (List.range (drawOn paper commands).numPages).map
      (opsOnPage ((Builder.start paper).placements commands))
  /-- The page of a cell has the number of the pages that were started up to it. -/
  page : ∀ (i : Nat) (placed : Placement),
    ((Builder.start paper).placements commands)[i]? = some placed →
      placed.page = (((Builder.start paper).placements commands).take (i + 1)).countP (·.opens)
  /-- A command that is no cell starts no page, and a cell starts no more than one. -/
  started : ∀ (before : List Command) (command : Command), before ++ [command] <+: commands →
    (drawOn paper (before ++ [command])).numPages = (drawOn paper before).numPages ∨
      command.cell?.isSome ∧
        (drawOn paper (before ++ [command])).numPages = (drawOn paper before).numPages + 1
  numPages_le : (drawOn paper commands).numPages ≤ cellCount commands + 1
  /-- The pages that are finished at some time stay as they are. -/
  finished : ∀ before : List Command, before <+: commands →
    (drawOn paper before).finished <+: (drawOn paper commands).finished
  /-- No cell is drawn above the top margin. -/
  top : ∀ placed ∈ (Builder.start paper).placements commands, ¬ placed.top < paper.marginTop

/-- On every paper the cells of a run come to the pages whole, once and in order, and what is on a
finished page stays there. If the top margin is a number, a cell that starts no page fits on its
page or stands at the top margin. -/
theorem paginated (paper : Paper) (commands : List Command) :
    Paginated paper commands ∧
    (paper.marginTop.isNaN = false →
      ∀ placed ∈ (Builder.start paper).placements commands,
        placed.opens = false → placed.Fits paper) := by
  constructor
  · constructor
    case cells => exact Builder.map_cell_placements _ commands
    case order =>
      rw [drawOn, Builder.flatten_pages_start, ← Builder.map_ops_placements, List.flatMap_def]
    case undivided =>
      rw [Builder.pages_eq_map_pageOps]
      refine List.map_congr_left fun page _ => ?_
      rw [drawOn, Builder.pageOps_performAll]
      have nothing : (Builder.start paper).pageOps page = [] := by
        cases page <;> rfl
      rw [nothing, List.nil_append]
    case page =>
      intro i placed found
      have page := Builder.page_of_getElem?_placements _ commands found
      rwa [Builder.start, List.length_nil, Nat.zero_add] at page
    case started =>
      intro before command _
      rw [drawOn, Canvas.performAll_append]
      exact Builder.numPages_perform_eq_or _ command
    case numPages_le =>
      have pages := Builder.numPages_performAll (.start paper) commands
      have starts := List.countP_le_length (p := Placement.opens)
        (l := (Builder.start paper).placements commands)
      rw [Builder.length_placements] at starts
      rw [drawOn, pages, Nat.add_comm]
      exact Nat.add_le_add_right starts 1
    case finished =>
      rintro before ⟨after, rfl⟩
      rw [drawOn, drawOn, Canvas.performAll_append]
      exact Builder.finished_prefix _ after
    case top =>
      refine @Builder.forall_mem_placements _ commands paper _ ?_ rfl
      rintro b cell rfl
      exact b.not_top_lt_marginTop cell
  · intro number
    refine @Builder.forall_mem_placements _ commands paper _ ?_ rfl
    rintro b cell rfl
    exact b.fits_placement cell number

/-- Three cells, of which the second crosses the bottom margin of the first page and the third one
stands above the second page. -/
def threeCells : List Command :=
  [.moveTo 40 40, .cell ⟨100, 20, "Total", .all, some .right, true⟩,
   .moveTo 40 800, .cell ⟨100, 20, "Total", .all, some .right, true⟩,
   .moveTo 420 160, .cell ⟨100, 24, "Total", .all, some .right, true⟩]

theorem paginated_threeCells :
    (Config.paper {}).marginTop.isNaN = false ∧
    ((Builder.start (Config.paper {})).placements threeCells).map (fun placed =>
        (placed.page, placed.opens, placed.top)) = [(0, false, 40), (1, true, 40), (1, false, 40)] ∧
    Paginated (Config.paper {}) threeCells ∧
    ∀ placed ∈ (Builder.start (Config.paper {})).placements threeCells,
      placed.opens = false → placed.Fits (Config.paper {}) := by
  have number : (Config.paper {}).marginTop.isNaN = false := by decide +kernel
  obtain ⟨pages, fits⟩ := paginated (Config.paper {}) threeCells
  exact ⟨number, by decide +kernel, pages, fits number⟩

/-- A paper whose top margin is not a number. -/
def paperWithoutTop : Paper :=
  ⟨"test", 595.28, 841.89, 40, 0 / 0, 40⟩

/-- A cell that crosses the bottom margin of `paperWithoutTop`. -/
def lowCell : List Command :=
  [.moveTo 40 800, .cell ⟨100, 100, "", .none, none, true⟩]

/-- On a paper without a top margin, a cell can cross the bottom margin and start no page. -/
theorem not_forall_fits :
    ¬ ∀ (paper : Paper) (commands : List Command), Paginated paper commands ∧
      ∀ placed ∈ (Builder.start paper).placements commands,
        placed.opens = false → placed.Fits paper := by
  intro claimed
  have fits := (claimed paperWithoutTop lowCell).2 _ List.mem_cons_self
  revert fits
  decide +kernel

end Folio
