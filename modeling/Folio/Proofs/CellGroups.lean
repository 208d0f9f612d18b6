import Folio.Page.Builder
import Folio.Proofs.DrawBlocks

/-!
# What the cells of a run draw

Only cells draw. A run of commands adds one group of operations to the pages for every cell among
them, and `Builder.cellGroups` lists these groups, whatever pages they end up on
(`Builder.flatten_pages_performAll`).

A group depends on the cell, on where the cursor stands, and on the styles that are in force. How
far down the page it stands is left out by `PageOp.level`, and then two cells can be compared that
are drawn at different times: `Builder.map_level_cellOps_eq_iff` says which of the styles decide
whether the same cell comes out the same.
-/

namespace Folio

/-! ## Groups -/

namespace Builder

/-- The group of operations that a command draws, if it draws. -/
def commandGroup (b : Builder) : Command → List (List PageOp)
  | .cell cell => [(b.withRoom cell.height).cellOps cell]
  | _ => []

/-- The groups of operations that commands draw, one for each cell. -/
def cellGroups (b : Builder) : List Command → List (List PageOp)
  | [] => []
  | command :: rest => b.commandGroup command ++ (canvas.perform b command).cellGroups rest

theorem cellGroups_append (b : Builder) (first second : List Command) :
    b.cellGroups (first ++ second) =
      b.cellGroups first ++ (canvas.performAll b first).cellGroups second := by
  induction first generalizing b with
  | nil => rfl
  | cons command rest ih =>
    rw [List.cons_append, cellGroups, cellGroups, ih, Canvas.performAll_cons, List.append_assoc]

theorem flatten_pages_withRoom (b : Builder) (height : Float32) :
    (b.withRoom height).pages.flatten = b.pages.flatten := by
  unfold withRoom
  split
  · -- The page that is finished here was the current one before, and the new one is empty.
    simp [turnPage, pages]
  · rfl

/-- A command adds its group to the end of the last page. -/
theorem flatten_pages_perform (b : Builder) (command : Command) :
    (canvas.perform b command).pages.flatten =
      b.pages.flatten ++ (b.commandGroup command).flatten := by
  cases command with
  | cell cell =>
    have drawn : (b.drawCell cell).pages.flatten =
        (b.withRoom cell.height).pages.flatten ++ (b.withRoom cell.height).cellOps cell := by
      simp [drawCell, pages]
    rw [flatten_pages_withRoom] at drawn
    rw [commandGroup, List.flatten_singleton]
    exact drawn
  | _ => exact (List.append_nil _).symm

/-- The pages of a run hold the groups of its cells one after the other. -/
theorem flatten_pages_performAll (b : Builder) (commands : List Command) :
    (canvas.performAll b commands).pages.flatten =
      b.pages.flatten ++ (b.cellGroups commands).flatten := by
  induction commands generalizing b with
  | nil => exact (List.append_nil _).symm
  | cons command rest ih =>
    rw [Canvas.performAll_cons, ih, flatten_pages_perform, cellGroups, List.flatten_append,
      List.append_assoc]

/-- On pages that were empty, a run draws the groups of its cells and nothing else. -/
theorem flatten_pages_start (paper : Paper) (commands : List Command) :
    (canvas.performAll (start paper) commands).pages.flatten =
      ((start paper).cellGroups commands).flatten := by
  rw [flatten_pages_performAll]
  rfl

end Builder

/-! ## Groups without heights -/

/-- A point without its vertical coordinate. -/
def Point.level (point : Point) : Point := ⟨point.x, 0⟩

/-- An operation without the vertical coordinates of its points. -/
def PageOp.level : PageOp → PageOp
  | .fillPolygon corners => .fillPolygon (corners.map Point.level)
  | .strokeLine start stop => .strokeLine start.level stop.level
  | .textCursor point => .textCursor point.level
  | op => op

namespace Builder

variable {first second : Builder} {firstTop secondTop : Float32} {cell : Cell}

@[simp] theorem level_pointAt (b : Builder) (x top : Float32) :
    (b.pointAt x top).level = ⟨x, 0⟩ := rfl

theorem map_level_fillOps (sameX : first.x = second.x)
    (sameFill : first.fillColour = second.fillColour) :
    (first.fillOps firstTop cell).map PageOp.level =
      (second.fillOps secondTop cell).map PageOp.level := by
  simp [fillOps, PageOp.level, sameX, sameFill]

theorem level_sideOp (sameX : first.x = second.x) (side : Side) :
    (first.sideOp firstTop cell side).level = (second.sideOp secondTop cell side).level := by
  cases side <;> simp [sideOp, PageOp.level, sameX]

/-- The border of a cell comes out the same exactly when there is none or its colour is the
same. -/
theorem map_level_borderOps_eq_iff (sameX : first.x = second.x) :
    (first.borderOps firstTop cell).map PageOp.level =
        (second.borderOps secondTop cell).map PageOp.level ↔
      cell.border.isEmpty = true ∨ first.drawColour = second.drawColour := by
  have sides : (cell.border.toList.map (first.sideOp firstTop cell)).map PageOp.level =
      (cell.border.toList.map (second.sideOp secondTop cell)).map PageOp.level := by
    rw [List.map_map, List.map_map]
    exact List.map_congr_left fun side _ => level_sideOp sameX side
  unfold borderOps
  by_cases empty : cell.border.isEmpty
  · simp [empty]
  · rw [if_neg empty, if_neg empty, List.map_cons, List.map_cons, List.map_cons, List.map_cons,
      sides]
    simp [PageOp.level, empty]

theorem length_borderOps :
    (first.borderOps firstTop cell).length = (second.borderOps secondTop cell).length := by
  unfold borderOps
  split
  · rfl
  · simp

/-- The text of a cell comes out the same exactly when there is none or its colour and its size are
the same. -/
theorem map_level_textOps_eq_iff (sameX : first.x = second.x)
    (sameFont : first.font = second.font) :
    (first.textOps firstTop cell).map PageOp.level =
        (second.textOps secondTop cell).map PageOp.level ↔
      cell.text.isEmpty = true ∨
        first.textColour = second.textColour ∧ first.fontSize = second.fontSize := by
  have starts : first.fontSize = second.fontSize →
      first.textStart cell = second.textStart cell := by
    intro sameSize
    simp only [textStart, textWidth, sameX, sameSize]
  unfold textOps
  by_cases empty : cell.text.isEmpty
  · simp [empty]
  · rw [if_neg empty, if_neg empty]
    simp only [List.map_cons, List.map_nil, PageOp.level, level_pointAt, List.cons.injEq,
      PageOp.textCursor.injEq, PageOp.textFont.injEq, PageOp.fillColour.injEq, Point.mk.injEq,
      true_and, and_true, sameFont, empty]
    constructor
    · rintro ⟨-, sameSize, sameColour⟩
      exact Or.inr ⟨sameColour, sameSize⟩
    · rintro (absurdity | ⟨sameColour, sameSize⟩)
      · cases absurdity
      · exact ⟨starts sameSize, sameSize, sameColour⟩

/-- A cell comes out the same from two builders that agree on its place, its font and its filling
exactly when they agree on the styles of whatever else it has. -/
theorem map_level_cellOps_eq_iff (sameX : first.x = second.x) (sameFont : first.font = second.font)
    (sameFill : cell.fill = true → first.fillColour = second.fillColour) :
    (first.cellOps cell).map PageOp.level = (second.cellOps cell).map PageOp.level ↔
      (cell.border.isEmpty = true ∨ first.drawColour = second.drawColour) ∧
        (cell.text.isEmpty = true ∨
          first.textColour = second.textColour ∧ first.fontSize = second.fontSize) := by
  have fills : ((if cell.fill then first.fillOps first.cellTop cell else []).map PageOp.level) =
      (if cell.fill then second.fillOps second.cellTop cell else []).map PageOp.level := by
    by_cases filled : cell.fill
    · rw [if_pos filled, if_pos filled]
      exact map_level_fillOps sameX (sameFill filled)
    · rw [if_neg filled, if_neg filled]
  have lengths : ((first.borderOps first.cellTop cell).map PageOp.level).length =
      ((second.borderOps second.cellTop cell).map PageOp.level).length := by
    rw [List.length_map, List.length_map, length_borderOps]
  rw [← map_level_borderOps_eq_iff sameX, ← map_level_textOps_eq_iff sameX sameFont, cellOps,
    cellOps, List.append_assoc, List.append_assoc, List.map_append, List.map_append,
    List.map_append, List.map_append, fills, List.append_cancel_left_eq]
  exact ⟨fun same => List.append_inj same lengths, fun same => by rw [same.1, same.2]⟩

end Builder

end Folio
