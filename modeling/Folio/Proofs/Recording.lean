import Folio.Proofs.DrawBlocks

/-!
# Recordings

A recording stands for the calls that it keeps: to make the calls of a recording on a canvas comes
to the same as to make them there in the first place. So commands may be computed, kept or sent
somewhere, and performed later.

The reason is that drawing never looks at the state of its canvas. `Canvas.Follows` is a view from
the states of one canvas to those of another that goes along with every call; it goes along with
the drawing of any boxes too (`Canvas.Follows.drawBoxes`). What a recording comes to when it is
performed is such a view from the recording canvas to any other one, whatever was kept before
(`follows_recording`).
-/

namespace Folio

variable {σ τ : Type}

/-! ## Views between canvases -/

/-- A view of the states of one canvas as states of another that goes along with every call. -/
def Canvas.Follows (first : Canvas σ) (second : Canvas τ) (view : σ → τ) : Prop :=
  ∀ state command, view (first.perform state command) = second.perform (view state) command

namespace Canvas.Follows

variable {first : Canvas σ} {second : Canvas τ} {view : σ → τ}

theorem performAll (follows : first.Follows second view) (state : σ) (commands : List Command) :
    view (first.performAll state commands) = second.performAll (view state) commands := by
  induction commands generalizing state with
  | nil => rfl
  | cons command rest ih =>
    rw [performAll_cons, performAll_cons, ih, follows state command]

/-- What follows every call follows the drawing of boxes, since the calls for a box are chosen by
the box alone. -/
theorem drawBoxes (follows : first.Follows second view) (originX originY : Float32)
    (boxes : List Box) (state : σ) :
    view (Folio.drawBoxes first originX originY boxes state) =
      Folio.drawBoxes second originX originY boxes (view state) := by
  rw [drawBoxes_eq_performAll, drawBoxes_eq_performAll]
  exact follows.performAll state _

end Canvas.Follows

/-! ## Recordings as calls -/

/-- The recording canvas adds commands behind those that it has kept. -/
theorem performAll_recording (kept : Array Command) (commands : List Command) :
    recording.performAll kept commands = kept ++ commands.toArray := by
  apply Array.toList_inj.1
  rw [toList_performAll_recording, Array.toList_append]

theorem perform_recording (kept : Array Command) (command : Command) :
    (recording.perform kept command).toList = kept.toList ++ [command] :=
  toList_performAll_recording kept [command]

/-- Performing what was kept goes along with every call that is still recorded. -/
theorem follows_recording (canvas : Canvas σ) (state : σ) :
    recording.Follows canvas fun kept => canvas.performAll state kept.toList := by
  intro kept command
  have replayed : canvas.performAll state (recording.perform kept command).toList =
      canvas.perform (canvas.performAll state kept.toList) command := by
    rw [perform_recording, Canvas.performAll_append]
    rfl
  exact replayed

/-- Boxes drawn into a recording that has kept commands already, and then performed. -/
theorem performAll_drawBoxes_recording (canvas : Canvas σ) (state : σ) (originX originY : Float32)
    (boxes : List Box) (kept : Array Command) :
    canvas.performAll state (drawBoxes recording originX originY boxes kept).toList =
      drawBoxes canvas originX originY boxes (canvas.performAll state kept.toList) :=
  (follows_recording canvas state).drawBoxes originX originY boxes kept

/-- For every canvas in every state, every tree of items, however it was laid out, and every
origin, drawing the boxes into the canvas and performing there what was recorded of them end in one
state; and a recording into which commands are performed has these commands behind its own. -/
theorem drawBoxes_eq_replay :
    (∀ (σ : Type) (canvas : Canvas σ) (state : σ) (originX originY : Float32) (boxes : List Box),
      drawBoxes canvas originX originY boxes state =
        canvas.performAll state (drawBoxes recording originX originY boxes #[]).toList) ∧
    ∀ (kept : Array Command) (commands : List Command),
      recording.performAll kept commands = kept ++ commands.toArray := by
  refine ⟨?_, performAll_recording⟩
  intro σ canvas state originX originY boxes
  exact (performAll_drawBoxes_recording canvas state originX originY boxes #[]).symm

end Folio
