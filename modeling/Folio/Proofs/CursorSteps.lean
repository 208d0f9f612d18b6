import Folio.Proofs.Pagination

/-!
# Steps behind cells

Behind its cell every block makes a step: to the next line, or past the cell. A step moves the
cursor, and where the cursor stands decides on which page and at which place a cell is drawn. All
the same no step shows on a page (`pages_drawOn_withoutSteps`), since every block moves to a place of
its own before it draws.

`cellsPlaced` says of any commands that each of their cells is drawn at the place of a move, with no
step in between. The builder that makes all calls and the one that leaves the steps out then go along
with each other (`Builder.Alongside`): they differ at most in the cursor, and only until the next
move.
-/

namespace Folio

/-! ## Placed cells -/

/-- Whether a command moves the cursor on from where it stands. -/
def Command.isStep : Command → Bool
  | .newLine _ => true
  | .advance _ => true
  | _ => false

/-- Whether the cursor stands at the place of a move behind a command, if it does so before. -/
def Command.placedAfter (placed : Bool) : Command → Bool
  | .moveTo _ _ => true
  | .newLine _ => false
  | .advance _ => false
  | _ => placed

/-- Whether all cells among commands are drawn at the place of a move, where the flag says whether
the cursor stands at such a place in front of them. -/
def cellsPlaced (placed : Bool) : List Command → Bool
  | [] => true
  | command :: rest =>
    (placed || command.cell?.isNone) && cellsPlaced (command.placedAfter placed) rest

/-- A styling call, if it is made, has nothing to do with the places of cells. -/
theorem cellsPlaced_optional {α : Type} (placed : Bool) (value : Option α) {command : α → Command}
    (draws : ∀ a, (command a).cell? = none)
    (stays : ∀ a, (command a).placedAfter placed = placed) (rest : List Command) :
    cellsPlaced placed ((value.map command).toList ++ rest) = cellsPlaced placed rest := by
  cases value with
  | none => rfl
  | some a =>
    rw [Option.map_some, Option.toList_some, List.singleton_append, cellsPlaced, draws, stays,
      Option.isNone_none, Bool.or_true, Bool.true_and]

/-- The cell of a box is placed wherever the cursor was, and the step behind it leaves the place. -/
theorem cellsPlaced_commands_append (placed : Bool) (originX originY : Float32) (box : Box)
    (rest : List Command) :
    cellsPlaced placed (box.commands originX originY ++ rest) = cellsPlaced false rest := by
  have step : ∀ placed, cellsPlaced placed
      ((if box.breaksLine then .newLine box.height else .advance box.width) :: rest) =
        cellsPlaced false rest := by
    intro placed
    split <;> simp [cellsPlaced, Command.cell?, Command.placedAfter]
  rw [Box.commands]
  simp only [List.append_assoc]
  rw [cellsPlaced_optional placed _ (fun _ => rfl) (fun _ => rfl),
    cellsPlaced_optional placed _ (fun _ => rfl) (fun _ => rfl),
    cellsPlaced_optional placed _ (fun _ => rfl) (fun _ => rfl),
    cellsPlaced_optional placed _ (fun _ => rfl) (fun _ => rfl)]
  rw [List.cons_append, List.cons_append, List.cons_append, List.nil_append, cellsPlaced,
    cellsPlaced, step]
  simp [Command.cell?, Command.placedAfter]

/-- All cells that draw boxes are placed. -/
theorem cellsPlaced_boxCommands (placed : Bool) (originX originY : Float32) (boxes : List Box) :
    cellsPlaced placed (boxCommands originX originY boxes) = true := by
  rw [boxCommands_eq_flatMap]
  generalize boxes.filter Box.drawn = drawn
  induction drawn generalizing placed with
  | nil => rfl
  | cons box rest ih => rw [List.flatMap_cons, cellsPlaced_commands_append, ih]

/-! ## Two builders alongside -/

namespace Builder

/-- The builder with its cursor at another place. -/
def withCursor (b : Builder) (x y : Float32) : Builder :=
  { b with x := x, y := y }

@[simp] theorem pages_withCursor (b : Builder) (x y : Float32) : (b.withCursor x y).pages = b.pages :=
  rfl

/-- Whether two builders are the same, or the same but for the cursor if it does not stand at the
place of a move. -/
inductive Alongside : Bool → Builder → Builder → Prop
  | same (placed : Bool) (b : Builder) : Alongside placed b b
  | apart (b : Builder) (x y : Float32) : Alongside false (b.withCursor x y) b

namespace Alongside

variable {placed : Bool} {b other : Builder} {command : Command}

theorem pages_eq (alongside : Alongside placed b other) : b.pages = other.pages := by
  cases alongside with
  | same => rfl
  | apart _ x y => exact pages_withCursor other x y

/-- Both builders make a call. A cell is drawn by builders that stand at one place. -/
theorem perform (alongside : Alongside placed b other) (goesOn : command.isStep = false)
    (draws : (placed || command.cell?.isNone) = true) :
    Alongside (command.placedAfter placed) (canvas.perform b command)
      (canvas.perform other command) := by
  cases alongside with
  | same => exact .same _ _
  | apart _ x y =>
    cases command with
    -- A styling call neither reads nor sets the cursor.
    | setTextColour colour => exact .apart { other with textColour := colour } x y
    | setDrawColour colour => exact .apart { other with drawColour := colour } x y
    | setFillColour colour => exact .apart { other with fillColour := colour } x y
    | setFont family flags size => exact .apart (other.withFont family flags size) x y
    | moveTo => exact .same _ _
    | cell => cases draws
    | newLine => cases goesOn
    | advance => cases goesOn

/-- The first builder makes a step that the second one leaves out. -/
theorem perform_step (alongside : Alongside placed b other) (steps : command.isStep = true) :
    Alongside (command.placedAfter placed) (canvas.perform b command) other := by
  cases alongside with
  | same =>
    cases command with
    | newLine => exact .apart b _ _
    | advance => exact .apart b _ _
    | _ => cases steps
  | apart =>
    cases command with
    | newLine => exact .apart other _ _
    | advance => exact .apart other _ _
    | _ => cases steps

/-- Where all cells are placed, a run and the same run without its steps make the same pages. -/
theorem pages_performAll {commands : List Command} (alongside : Alongside placed b other)
    (cells : cellsPlaced placed commands = true) :
    (canvas.performAll b commands).pages =
      (canvas.performAll other (commands.filter (!·.isStep))).pages := by
  induction commands generalizing placed b other with
  | nil => exact alongside.pages_eq
  | cons command rest ih =>
    rw [cellsPlaced, Bool.and_eq_true] at cells
    obtain ⟨draws, cellsRest⟩ := cells
    rw [Canvas.performAll_cons, List.filter_cons]
    cases steps : command.isStep with
    | true => exact ih (alongside.perform_step steps) cellsRest
    | false => exact ih (alongside.perform steps draws) cellsRest

end Alongside

end Builder

/-- The steps behind cells show on no page. Whatever boxes are drawn, on whatever paper and from
whatever origin, the commands without those that step behind a cell make the same pages: as many of
them, with the same operations in the same order on each. -/
theorem pages_drawOn_withoutSteps (paper : Paper) (originX originY : Float32) (boxes : List Box) :
    (drawOn paper (boxCommands originX originY boxes)).pages =
      (drawOn paper ((boxCommands originX originY boxes).filter (!·.isStep))).pages :=
  (Builder.Alongside.same false (.start paper)).pages_performAll
    (cellsPlaced_boxCommands false originX originY boxes)

end Folio
