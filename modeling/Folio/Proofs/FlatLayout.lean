import Folio.Proofs.Placing

/-!
# The line as one flat pass

`place` hands the line down into the boxes below a node and takes it back for the siblings that
follow, and a line may break between a node and its own children. Seen from the page none of this
nesting shows: the line is the state of a single pass over the nodes in pre-order.

`flatPass` is that pass, written without the operations of `place` on lines. A step reads the node
and what is above it and nothing else. `place_eq_flatPass` is the invariant of the recursion: a
level and all that is below it does to the line what the pass over its positions does.
-/

namespace Folio

/-! ## The pass -/

/-- The properties of a node, and those of the nodes above it. -/
abbrev ItemPosition := Position (Numbered Item)

/-- Whether a node or one above it is placed absolutely down the page. -/
def Position.anchored (node : ItemPosition) : Bool :=
  (node.value :: node.above).any (·.value.properties.anchors)

/-- What a node and all the nodes above it add to the coordinate down the page. -/
def Position.ownY (contentWidth : Float32) (node : ItemPosition) : Float32 :=
  accumulated contentWidth Properties.y node.value.value.properties
    (node.above.map (·.value.properties))

/-- Where the pass places a node down the page when the line has come to `line`. -/
def flatY (contentWidth : Float32) (line : Line) (node : ItemPosition) : Float32 :=
  if node.anchored then node.ownY contentWidth else line.top + node.ownY contentWidth

/-- The line behind a node: a drawn node that is not anchored grows the row, and then a drawn node
that breaks the line moves the top down by the row. -/
def flatStep (line : Line) (node : ItemPosition) : Line :=
  let p := node.value.value.properties
  let row := if !p.isEmpty && !node.anchored then
      Number.greater line.rowHeight (p.height.getD 5)
    else line.rowHeight
  if !p.isEmpty && p.lineBreak == some true then { top := line.top + row, rowHeight := 0 }
  else { top := line.top, rowHeight := row }

/-- The nodes of a list with their places down the page. -/
def flatPass (contentWidth : Float32) : Line → List ItemPosition → List (Numbered Item × Float32)
  | _, [] => []
  | line, node :: rest =>
    (node.value, flatY contentWidth line node) ::
      flatPass contentWidth (flatStep line node) rest

theorem flatPass_append (contentWidth : Float32) (line : Line) (first second : List ItemPosition) :
    flatPass contentWidth line (first ++ second) =
      flatPass contentWidth line first ++
        flatPass contentWidth (first.foldl flatStep line) second := by
  induction first generalizing line with
  | nil => rfl
  | cons node rest ih => rw [List.cons_append, flatPass, ih, flatPass, List.foldl_cons,
      List.cons_append]

/-! ## The recursion follows the pass -/

section Step

variable (contentWidth : Float32) (above : List (Numbered Item)) (runningX : Float32)
  (line : Line) (node : Numbered Item) (below : Items)

theorem any_anchors :
    (node.value.properties :: above.map (·.value.properties)).any Properties.anchors =
      Position.anchored ⟨above, node, below⟩ := by
  rw [Position.anchored, List.any_cons, List.any_cons, List.any_map]
  rfl

/-- A box stands where the pass places its node. -/
theorem y_boxOf :
    (boxOf contentWidth (above.map (·.value.properties)) runningX line node).y =
      flatY contentWidth line ⟨above, node, below⟩ := by
  rw [boxOf, flatY, ← any_anchors]
  rfl

/-- A box does to the line what one step of the pass does. -/
theorem lineAfter_boxOf :
    (boxOf contentWidth (above.map (·.value.properties)) runningX line node).lineAfter
        (Position.anchored ⟨above, node, below⟩) line =
      flatStep line ⟨above, node, below⟩ := by
  rw [Box.lineAfter, flatStep, drawn_boxOf, breaksLine_boxOf, height_boxOf, Properties.breaksLine]
  by_cases grows : !node.value.properties.isEmpty && !Position.anchored ⟨above, node, below⟩
  · rw [if_pos grows, if_pos grows]
    rfl
  · rw [if_neg grows, if_neg grows]
    rfl

end Step

/-- A level with all that is below it gets its places from the pass over its positions, and leaves
the line behind that the pass leaves. -/
theorem place_eq_flatPass (contentWidth : Float32) (above : List (Numbered Item))
    (baseX runningX : Float32) (line : Line) (items : Items) :
    (place contentWidth (above.map (·.value.properties)) baseX runningX line items).1.map
        (fun box => (box.item, box.y)) =
      flatPass contentWidth line (items.positions above) ∧
    (place contentWidth (above.map (·.value.properties)) baseX runningX line items).2 =
      (items.positions above).foldl flatStep line := by
  induction items generalizing above baseX runningX line with
  | nil => exact ⟨rfl, rfl⟩
  | cons node below rest ihBelow ihRest =>
    rw [place, Forest.positions]
    dsimp only
    rw [any_anchors above node below, lineAfter_boxOf contentWidth above runningX line node below]
    have placed := y_boxOf contentWidth above runningX line node below
    have owned := item_boxOf contentWidth (above.map (·.value.properties)) runningX line node
    -- From here on the box matters by its item, its place and where it leaves the row.
    generalize boxOf contentWidth (above.map (·.value.properties)) runningX line node = box at *
    have inner := ihBelow (node :: above) box.x box.x (flatStep line ⟨above, node, below⟩)
    rw [List.map_cons] at inner
    have outer := ihRest above baseX (box.runningAfter baseX runningX)
      ((below.positions (node :: above)).foldl flatStep (flatStep line ⟨above, node, below⟩))
    constructor
    · rw [List.cons_append, List.map_cons, List.map_append, inner.1, inner.2, outer.1, flatPass,
        flatPass_append, placed, owned]
    · rw [inner.2, outer.2, List.foldl_cons, List.foldl_append]

/-- On every tree and for every width that can be laid out, the boxes are those of the nodes in
pre-order, each at the place down the page that one flat pass from an empty line at the top
computes for it. -/
theorem layout?_eq_flatPass (contentWidth : Float32) (items : Items)
    (area : isContentWidth contentWidth = true) :
    ∃ boxes, layout? contentWidth items = some boxes ∧
      boxes.map Box.item = items.preorder ∧
      boxes.map (fun box => (box.item, box.y)) =
        flatPass contentWidth { top := 0, rowHeight := 0 } (items.positions []) := by
  refine ⟨(placeAll contentWidth items).1, ?_, ?_, ?_⟩
  · rw [layout?, if_pos area]
  · exact map_item_place _ _ _ _ _ items
  · exact (place_eq_flatPass contentWidth [] 0 0 { top := 0, rowHeight := 0 } items).1

/-- A node with nothing but properties. -/
def bareNode (id : Nat) (properties : Properties) : Numbered Item :=
  ⟨id, ⟨⟨none, ∅, none⟩, properties⟩⟩

/-- A block, with an anchored child that has a child and with a child that is not drawn, before an
inline box and another block. -/
def mixedForest : Items :=
  .cons (bareNode 0 { height := some 8, lineBreak := some true })
    (.cons (bareNode 1 { y := some (.absolute 30), height := some 40, lineBreak := some false })
      (.cons (bareNode 2 { lineBreak := some true }) .nil .nil)
      (.cons (bareNode 3 {}) .nil .nil))
    (.cons (bareNode 4 { y := some (.deferred [3]), lineBreak := some false }) .nil
      (.cons (bareNode 5 { lineBreak := some true }) .nil .nil))

theorem layout?_mixedForest :
    isContentWidth 200 = true ∧
    ((layout? 200 mixedForest).map fun boxes => boxes.map Box.y) = some [0, 30, 30, 8, 11, 8] ∧
    ∃ boxes, layout? 200 mixedForest = some boxes ∧
      boxes.map Box.item = mixedForest.preorder ∧
      boxes.map (fun box => (box.item, box.y)) =
        flatPass 200 { top := 0, rowHeight := 0 } (mixedForest.positions []) := by
  have area : isContentWidth 200 = true := by decide +kernel
  have places : ((layout? 200 mixedForest).map fun boxes => boxes.map Box.y) =
      some [0, 30, 30, 8, 11, 8] := by decide +kernel
  exact ⟨area, places, layout?_eq_flatPass 200 mixedForest area⟩

end Folio
