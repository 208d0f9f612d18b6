import Mathlib.Data.List.DropRight
import Folio.Proofs.FlatLayout

/-!
# Inline boxes side by side

The row that a level of boxes fills is carried through the layout as a number: it starts where the
box above the level stands, grows by the width of every inline box, and goes back to its start
behind a drawn box that breaks the line. Here it is read off the boxes instead: `rowReach` is the
sum of the widths of the inline boxes that come before on the level, from the last break on.

To speak of levels, the boxes are put into a forest of the shape of the items (`placeForest`), whose
boxes in pre-order are those of the layout. The invariant along a level is that the number carried
is the reach of the boxes passed (`rowReach_concat`).
-/

namespace Folio

/-! ## Boxes in a forest -/

/-- What `place` computes, with the boxes in a forest. -/
def placeForest (contentWidth : Float32) (above : List Properties) (baseX runningX : Float32)
    (line : Line) : Items → Forest Box × Line
  | .nil => (.nil, line)
  | .cons item below rest =>
    let p := item.value.properties
    let box := boxOf contentWidth above runningX line item
    let line := box.lineAfter ((p :: above).any Properties.anchors) line
    let inner := placeForest contentWidth (p :: above) box.x box.x line below
    let outer := placeForest contentWidth above baseX (box.runningAfter baseX runningX) inner.2 rest
    (.cons box inner.1 outer.1, outer.2)

theorem place_eq_preorder_placeForest (contentWidth : Float32) (above : List Properties)
    (baseX runningX : Float32) (line : Line) (items : Items) :
    place contentWidth above baseX runningX line items =
      ((placeForest contentWidth above baseX runningX line items).1.preorder,
        (placeForest contentWidth above baseX runningX line items).2) := by
  induction items generalizing above baseX runningX line with
  | nil => rfl
  | cons item below rest ihBelow ihRest =>
    rw [place, placeForest]
    dsimp only
    rw [ihBelow, ihRest]
    rfl

/-- The forest has the shape of the items, and every item has its box. -/
theorem map_item_placeForest (contentWidth : Float32) (above : List Properties)
    (baseX runningX : Float32) (line : Line) (items : Items) :
    (placeForest contentWidth above baseX runningX line items).1.map Box.item = items := by
  induction items generalizing above baseX runningX line with
  | nil => rfl
  | cons item below rest ihBelow ihRest =>
    rw [placeForest, Forest.map, ihBelow, ihRest, item_boxOf]

/-! ## Rows -/

/-- Whether a box ends its row: a drawn one that breaks the line. -/
def Box.endsRow (box : Box) : Bool :=
  box.drawn && box.breaksLine

/-- The inline boxes of the row that a level is in behind some boxes. -/
def currentRow (earlier : List Box) : List Box :=
  (earlier.rtakeWhile (!·.endsRow)).filter (·.properties.flowsInline)

/-- Where a row that starts at `baseX` has come to behind some boxes of its level. -/
def rowReach (baseX : Float32) (earlier : List Box) : Float32 :=
  (currentRow earlier).foldl (fun x box => x + box.width) baseX

/-- The next box takes the reach to where the layout goes on behind it. -/
theorem rowReach_concat (baseX : Float32) (earlier : List Box) (box : Box) :
    rowReach baseX (earlier ++ [box]) = box.runningAfter baseX (rowReach baseX earlier) := by
  rw [Box.runningAfter, ← Box.endsRow, rowReach, currentRow]
  cases ends : box.endsRow with
  | true =>
    rw [List.rtakeWhile_concat_neg _ _ _ (by simp [ends])]
    rfl
  | false =>
    rw [List.rtakeWhile_concat_pos _ _ _ (by simp [ends]), List.filter_append, List.foldl_append,
      ← currentRow, ← rowReach]
    cases flows : box.properties.flowsInline <;> simp [flows]

theorem rowReach_append (baseX : Float32) (earlier later : List Box) :
    rowReach baseX (earlier ++ later) =
      later.foldl (fun x box => box.runningAfter baseX x) (rowReach baseX earlier) := by
  induction later generalizing earlier with
  | nil => rw [List.append_nil, List.foldl_nil]
  | cons box rest ih =>
    rw [List.foldl_cons, ← rowReach_concat, ← ih, List.append_assoc, List.singleton_append]

/-- A box that neither stands in a row nor ends one can be left out. -/
theorem rowReach_of_idle (baseX : Float32) {box : Box}
    (apart : box.properties.flowsInline = false) (stays : box.endsRow = false)
    (earlier later : List Box) :
    rowReach baseX (earlier ++ box :: later) = rowReach baseX (earlier ++ later) := by
  have same : box.runningAfter baseX (rowReach baseX earlier) = rowReach baseX earlier := by
    rw [Box.runningAfter, ← Box.endsRow, stays, apart]
    rfl
  rw [rowReach_append, List.foldl_cons, same, ← rowReach_append]

/-- What is to be said of a box in its row, by the properties above it and the boxes before it on
its level. -/
structure Box.StandsInRow (contentWidth baseX : Float32) (above : List Properties)
    (earlier : List Box) (box : Box) : Prop where
  /-- An inline box stands where the row has come to. -/
  inline : box.properties.flowsInline = true → box.x = rowReach baseX earlier
  /-- Any other box stands at its own coordinate. -/
  other : box.properties.flowsInline = false →
    box.x = contribution contentWidth box.properties.x +
      sum (above.map fun p => contribution contentWidth p.x)
  /-- And unless it ends the row, it can be left out of the row. -/
  idle : box.properties.flowsInline = false → box.endsRow = false → ∀ later,
    rowReach baseX (earlier ++ box :: later) = rowReach baseX (earlier ++ later)

/-- A level on which every box stands in its row. -/
def StandInRows (contentWidth baseX : Float32) (above : List Properties) (level : List Box) :
    Prop :=
  ∀ before box after, level = before ++ box :: after →
    box.StandsInRow contentWidth baseX above before

theorem standsInRow_boxOf (contentWidth baseX : Float32) (above : List Properties)
    (earlier : List Box) (line : Line) (item : Numbered Item) :
    (boxOf contentWidth above (rowReach baseX earlier) line item).StandsInRow contentWidth baseX
      above earlier where
  inline flows := if_pos flows
  other apart := if_neg (Bool.eq_false_iff.1 apart)
  idle apart stays later := rowReach_of_idle baseX apart stays earlier later

/-! ## Levels -/

/-- Where the layout goes on with the reach of the boxes passed, the rest of the level stands in its
rows behind them. -/
theorem standsInRow_of_roots_eq (contentWidth baseX : Float32) (above : List Properties)
    (earlier : List Box) (line : Line) {items : Items} {before after : List Box} {box : Box}
    (level : (placeForest contentWidth above baseX (rowReach baseX earlier) line items).1.roots =
      before ++ box :: after) :
    box.StandsInRow contentWidth baseX above (earlier ++ before) := by
  induction items generalizing earlier line before with
  | nil => cases before <;> cases level
  | cons item below rest _ ihRest =>
    rw [placeForest, Forest.roots] at level
    cases before with
    | nil =>
      cases level
      rw [List.append_nil]
      exact standsInRow_boxOf contentWidth baseX above earlier line item
    | cons first others =>
      obtain ⟨rfl, levelRest⟩ := List.cons.inj level
      rw [← rowReach_concat] at levelRest
      have behind := ihRest _ _ levelRest
      rwa [List.append_assoc, List.singleton_append] at behind

theorem standInRows_placeForest (contentWidth baseX : Float32) (above : List Properties)
    (line : Line) (items : Items) :
    StandInRows contentWidth baseX above
      (placeForest contentWidth above baseX baseX line items).1.roots :=
  fun _ _ _ level => standsInRow_of_roots_eq contentWidth baseX above [] line level

/-- The level below a box stands in rows that start where the box stands. -/
theorem standInRows_of_mem_positions (contentWidth : Float32) (above : List Box)
    (baseX runningX : Float32) (line : Line) (items : Items) :
    ∀ node ∈ (placeForest contentWidth (above.map Box.properties) baseX runningX line
        items).1.positions above,
      StandInRows contentWidth node.value.x ((node.value :: node.above).map Box.properties)
        node.below.roots := by
  induction items generalizing above baseX runningX line with
  | nil => exact fun node member => absurd member List.not_mem_nil
  | cons item below rest ihBelow ihRest =>
    rw [placeForest]
    intro node member
    rw [Forest.positions, List.mem_cons, List.mem_append] at member
    rcases member with rfl | inBelow | inRest
    · exact standInRows_placeForest contentWidth _ _ _ below
    · exact ihBelow (boxOf contentWidth (above.map Box.properties) runningX line item :: above)
        _ _ _ node inBelow
    · exact ihRest above _ _ _ node inRest

/-- On every tree and for every width that can be laid out, the boxes are those of a forest with a
box for every item in its place. In it, the roots stand in rows that start at zero, and what is
directly below a box stands in rows that start where the box stands: an inline box stands where the
widths of the inline boxes since the last break add up to, and any other at the sum of what it and
the boxes above it add, with no effect on the row unless it breaks it. -/
theorem standInRows_layout? (contentWidth : Float32) (items : Items)
    (area : isContentWidth contentWidth = true) :
    ∃ forest : Forest Box, layout? contentWidth items = some forest.preorder ∧
      forest.map Box.item = items ∧
      StandInRows contentWidth 0 [] forest.roots ∧
      ∀ node ∈ forest.positions [],
        StandInRows contentWidth node.value.x ((node.value :: node.above).map Box.properties)
          node.below.roots := by
  have placed := place_eq_preorder_placeForest contentWidth [] 0 0 {} items
  refine ⟨(placeForest contentWidth [] 0 0 {} items).1, ?_, map_item_placeForest .., ?_, ?_⟩
  · rw [layout?, if_pos area, placeAll, placed]
  · exact standInRows_placeForest contentWidth 0 [] {} items
  · exact standInRows_of_mem_positions contentWidth [] 0 0 {} items

/-- A block that is set in, with two inline boxes, one that is not drawn, one without a line break,
an inline one, a block and another inline one below it, before two inline boxes. -/
def brokenRow : Items :=
  .cons (bareNode 0 { x := some (.absolute 10), width := some 0.5, lineBreak := some true })
    (.cons (bareNode 1 { width := some 30, lineBreak := some false }) .nil
      (.cons (bareNode 2 { width := some 20, lineBreak := some false }) .nil
        (.cons (bareNode 3 {}) .nil
          (.cons (bareNode 4 { x := some (.absolute 7) }) .nil
            (.cons (bareNode 5 { lineBreak := some false }) .nil
              (.cons (bareNode 6 { x := some (.deferred [3]), lineBreak := some true }) .nil
                (.cons (bareNode 7 { lineBreak := some false }) .nil .nil)))))))
    (.cons (bareNode 8 { width := some 0.25, lineBreak := some false }) .nil
      (.cons (bareNode 9 { lineBreak := some false }) .nil .nil))

theorem standInRows_layout?_brokenRow :
    isContentWidth 200 = true ∧
    ((layout? 200 brokenRow).map fun boxes => boxes.map Box.x) =
      some [10, 10, 40, 10, 17, 60, 13, 10, 0, 50] ∧
    ∃ forest : Forest Box, layout? 200 brokenRow = some forest.preorder ∧
      forest.map Box.item = brokenRow ∧
      StandInRows 200 0 [] forest.roots ∧
      ∀ node ∈ forest.positions [],
        StandInRows 200 node.value.x ((node.value :: node.above).map Box.properties)
          node.below.roots := by
  have area : isContentWidth 200 = true := by decide +kernel
  have places : ((layout? 200 brokenRow).map fun boxes => boxes.map Box.x) =
      some [10, 10, 40, 10, 17, 60, 13, 10, 0, 50] := by decide +kernel
  exact ⟨area, places, standInRows_layout? 200 brokenRow area⟩

end Folio
