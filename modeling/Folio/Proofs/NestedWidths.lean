import Folio.Proofs.InlineFlow
import Folio.Proofs.NumberedForest

/-!
# The width of a box by that of the box above it

For every node, the layout goes down to it from the content area once more and takes in the widths
of all nodes on the way. It never looks at the box that it has given the node above. Yet that box
has taken in the same widths but the last: the way to a node is the way to the one above it and a
step further (`nestedWidth_cons`).

So along the forest of boxes, each width is one step from that of the box directly above
(`widthSteps_layout?`). A step with a literal width forgets where it came from, and so do all widths
below it (`nestedWidth_of_literal`).
-/

namespace Folio

/-! ## Steps -/

/-- The width that a node comes to in a basis, by its own width: a part of the basis up to one, and
literal beyond, which is also what a width that is no number is. -/
inductive WidthStep (basis : Float32) : Option Float32 → Float32 → Prop
  | part {width : Float32} (upToOne : width ≤ 1) : WidthStep basis (some width) (basis * width)
  | literal {width : Float32} (beyond : ¬ width ≤ 1) : WidthStep basis (some width) width
  | missing : WidthStep basis none basis

theorem widthStep_widthIn (basis : Float32) (width : Option Float32) :
    WidthStep basis width (widthIn basis width) := by
  cases width with
  | none => exact .missing
  | some width =>
    rw [widthIn]
    by_cases upToOne : width ≤ 1
    · rw [if_pos upToOne]
      exact .part upToOne
    · rw [if_neg upToOne]
      exact .literal upToOne

theorem widthIn_literal (basis : Float32) {width : Float32} (beyond : ¬ width ≤ 1) :
    widthIn basis (some width) = width :=
  if_neg beyond

/-! ## The way down to a node -/

section Way

variable (contentWidth : Float32)

/-- Going down from the content area is the same as asking for the width above, node by node. -/
theorem nestedWidth_eq_foldr (own : Properties) (above : List Properties) :
    nestedWidth contentWidth own above =
      (own :: above).foldr (fun p basis => widthIn basis p.width) contentWidth := by
  rw [nestedWidth, ← List.reverse_cons, List.foldl_reverse]

theorem nestedWidth_nil (own : Properties) :
    nestedWidth contentWidth own [] = widthIn contentWidth own.width := rfl

/-- The way to a node is the way to the one above it and a step further. -/
theorem nestedWidth_cons (own parent : Properties) (above : List Properties) :
    nestedWidth contentWidth own (parent :: above) =
      widthIn (nestedWidth contentWidth parent above) own.width := by
  rw [nestedWidth_eq_foldr, List.foldr_cons, ← nestedWidth_eq_foldr]

/-- What is above a literal width does not count below it. -/
theorem nestedWidth_of_literal {own literal : Properties} {above inner outer : List Properties}
    (path : own :: above = inner ++ literal :: outer) {width : Float32}
    (wide : literal.width = some width) (beyond : ¬ width ≤ 1) :
    nestedWidth contentWidth own above =
      inner.foldr (fun p basis => widthIn basis p.width) width := by
  rw [nestedWidth_eq_foldr, path, List.foldr_append, List.foldr_cons, wide,
    widthIn_literal _ beyond]

/-! ## The forest of boxes -/

/-- Every box is as wide as the way down to its node says, by the properties of the boxes above. -/
theorem width_of_mem_positions (above : List Box) (baseX runningX : Float32) (line : Line)
    (items : Items) :
    ∀ node ∈ (placeForest contentWidth (above.map Box.properties) baseX runningX line
        items).1.positions above,
      node.value.width =
        nestedWidth contentWidth node.value.properties (node.above.map Box.properties) := by
  induction items generalizing above baseX runningX line with
  | nil => exact fun node member => absurd member List.not_mem_nil
  | cons item below rest ihBelow ihRest =>
    rw [placeForest]
    intro node member
    rw [Forest.positions, List.mem_cons, List.mem_append] at member
    rcases member with rfl | inBelow | inRest
    · rfl
    · exact ihBelow (boxOf contentWidth (above.map Box.properties) runningX line item :: above)
        _ _ _ node inBelow
    · exact ihRest above _ _ _ node inRest

end Way

/-- On every tree and for every width that can be laid out, the boxes are those of a forest with a
box for every item in its place. In it, the width of a box is one step from that of the box directly
above it, or from the content width if there is none. And below a box with a literal width, or for
that box itself, the width is a matter of that literal and of the widths from there down: nothing
further up has a part in it, and nor has the content width. -/
theorem widthSteps_layout? (contentWidth : Float32) (items : Items)
    (area : isContentWidth contentWidth = true) :
    ∃ forest : Forest Box, layout? contentWidth items = some forest.preorder ∧
      forest.map Box.item = items ∧
      ∀ node ∈ forest.positions [],
        WidthStep ((node.above.head?.map Box.width).getD contentWidth) node.value.properties.width
          node.value.width ∧
        ∀ (inner : List Box) (literal : Box) (outer : List Box) (width : Float32),
          node.value :: node.above = inner ++ literal :: outer →
          literal.properties.width = some width → ¬ width ≤ 1 →
          node.value.width =
            inner.foldr (fun box basis => widthIn basis box.properties.width) width := by
  have placed := place_eq_preorder_placeForest contentWidth [] 0 0 {} items
  have wide := width_of_mem_positions contentWidth [] 0 0 {} items
  rw [List.map_nil] at wide
  refine ⟨(placeForest contentWidth [] 0 0 {} items).1, ?_, map_item_placeForest ..,
    fun node member => ⟨?_, ?_⟩⟩
  · rw [layout?, if_pos area, placeAll, placed]
  · obtain ⟨top, -⟩ | ⟨parent, inForest, up, -⟩ := Forest.exists_parent_of_mem_positions member
    · rw [wide node member, top, List.map_nil, nestedWidth_nil]
      exact widthStep_widthIn contentWidth _
    · rw [wide node member, up, List.map_cons, nestedWidth_cons, ← wide parent inForest]
      exact widthStep_widthIn parent.value.width _
  · intro inner literal outer width path literalWidth beyond
    have paths := congrArg (List.map Box.properties) path
    rw [List.map_cons, List.map_append, List.map_cons] at paths
    rw [wide node member, nestedWidth_of_literal contentWidth paths literalWidth beyond,
      List.foldr_map]

/-- A half, in it a literal width with a quarter, a missing width and a negative one below each
other, and beside the literal a width that is no number and nought. -/
def nestedWidths : Items :=
  .cons (bareNode 0 { width := some 0.5 })
    (.cons (bareNode 1 { width := some 80 })
      (.cons (bareNode 2 { width := some 0.25 })
        (.cons (bareNode 3 {})
          (.cons (bareNode 4 { width := some (-0.5) }) .nil .nil)
          .nil)
        .nil)
      (.cons (bareNode 5 { width := some (0 / 0) }) .nil
        (.cons (bareNode 6 { width := some 0 }) .nil .nil)))
    .nil

theorem widthSteps_layout?_nestedWidths :
    isContentWidth 200 = true ∧ ¬ (80 : Float32) ≤ 1 ∧
    ((layout? 200 nestedWidths).map fun boxes => boxes.map Box.width) =
      some [100, 80, 20, 20, -10, 0 / 0, 0] ∧
    ∃ forest : Forest Box, layout? 200 nestedWidths = some forest.preorder ∧
      forest.map Box.item = nestedWidths ∧
      ∀ node ∈ forest.positions [],
        WidthStep ((node.above.head?.map Box.width).getD 200) node.value.properties.width
          node.value.width ∧
        ∀ (inner : List Box) (literal : Box) (outer : List Box),
          node.value :: node.above = inner ++ literal :: outer →
          literal.properties.width = some 80 →
          node.value.width =
            inner.foldr (fun box basis => widthIn basis box.properties.width) 80 := by
  have area : isContentWidth 200 = true := by decide +kernel
  have beyond : ¬ (80 : Float32) ≤ 1 := by decide +kernel
  have widths : ((layout? 200 nestedWidths).map fun boxes => boxes.map Box.width) =
      some [100, 80, 20, 20, -10, 0 / 0, 0] := by decide +kernel
  obtain ⟨forest, laid, shape, stepped⟩ := widthSteps_layout? 200 nestedWidths area
  refine ⟨area, beyond, widths, forest, laid, shape, fun node member => ?_⟩
  obtain ⟨step, below⟩ := stepped node member
  exact ⟨step, fun inner literal outer path wide => below inner literal outer 80 path wide beyond⟩

end Folio
