import Folio.Proofs.FlatLayout
import Folio.Proofs.LengthCase
import Folio.Proofs.Removal

/-!
# Elements out of the flow

An absolutely placed element stands where its own values say, and one would like to be able to take
it out of a document without moving anything else. That is so in part. The size of a box
depends on what it lies under, so no other size changes, and nothing in front of the
element changes at all. An absolutely placed element does not grow its row either, and nor does
what is below it (`foldl_flatStep_of_anchored`).

But a block ends the row of the page wherever it stands, and an element with a display takes part in
the row of its siblings. So a box in the flow behind the element can move down or up the page if the
element or one below it is a block, and a box in its row can move along the row if the element has a
display. These are the only boxes that move (`layout?_removeElement`), and both do
(`not_forall_stays`).
-/

namespace Folio

/-! ## What the boxes read of their positions -/

/-- What a box is for, and its size. -/
def Box.measure (box : Box) : Item × Float32 × Float32 :=
  (box.item.value, box.width, box.height)

/-- The size of a node by what it is and what it lies under. -/
def pathMeasure (contentWidth : Float32) (path : Numbered Item × List (Numbered Item)) :
    Item × Float32 × Float32 :=
  (path.1.value,
    nestedWidth contentWidth path.1.value.properties (path.2.map (·.value.properties)),
    path.1.value.properties.height.getD defaultHeight)

/-- The sizes of boxes are a matter of their paths. -/
theorem map_measure_place (contentWidth : Float32) (above : List (Numbered Item))
    (baseX runningX : Float32) (line : Line) (items : Items) :
    (place contentWidth (above.map (·.value.properties)) baseX runningX line items).1.map
        Box.measure =
      ((items.positions above).map Position.path).map (pathMeasure contentWidth) := by
  induction items generalizing above baseX runningX line with
  | nil => rfl
  | cons node below rest ihBelow ihRest =>
    have inner := ihBelow (node :: above)
    rw [List.map_cons] at inner
    rw [place, Forest.positions]
    dsimp only
    rw [List.cons_append, List.map_cons, List.map_append, inner, ihRest]
    simp only [List.map_cons, List.map_append]
    rfl

/-- The pass down the page reads of its nodes what they are and what they lie under. -/
theorem flatPass_congr {first second : List ItemPosition}
    (same : first.map Position.path = second.map Position.path) (contentWidth : Float32)
    (line : Line) : flatPass contentWidth line first = flatPass contentWidth line second := by
  induction first generalizing second line with
  | nil =>
    cases second with
    | nil => rfl
    | cons => cases same
  | cons node rest ih =>
    cases second with
    | nil => cases same
    | cons node' rest' =>
      obtain ⟨above, value, below⟩ := node
      obtain ⟨above', value', below'⟩ := node'
      rw [List.map_cons, List.map_cons, List.cons.injEq] at same
      obtain ⟨samePath, sameRest⟩ := same
      cases samePath
      rw [flatPass, flatPass, ih sameRest]
      rfl

/-! ## What leaves the line alone -/

/-- Whether a node ends the row of the page. -/
def Position.endsRow (node : ItemPosition) : Bool :=
  !node.value.value.properties.isEmpty && node.value.value.properties.breaksLine

/-- A node that is anchored and ends no row does nothing to the line. -/
theorem flatStep_of_anchored {node : ItemPosition} (anchored : node.anchored = true)
    (goesOn : node.endsRow = false) (line : Line) : flatStep line node = line := by
  rw [Position.endsRow, Properties.breaksLine] at goesOn
  unfold flatStep
  dsimp only
  rw [anchored, goesOn]
  simp

theorem foldl_flatStep_of_anchored {nodes : List ItemPosition}
    (anchored : ∀ node ∈ nodes, node.anchored = true)
    (goesOn : ∀ node ∈ nodes, node.endsRow = false) (line : Line) :
    nodes.foldl flatStep line = line := by
  induction nodes with
  | nil => rfl
  | cons node rest ih =>
    rw [List.foldl_cons, flatStep_of_anchored (anchored node List.mem_cons_self)
      (goesOn node List.mem_cons_self)]
    exact ih (fun other member => anchored other (List.mem_cons_of_mem node member))
      fun other member => goesOn other (List.mem_cons_of_mem node member)

theorem length_flatPass (contentWidth : Float32) (line : Line) (nodes : List ItemPosition) :
    (flatPass contentWidth line nodes).length = nodes.length := by
  induction nodes generalizing line with
  | nil => rfl
  | cons node rest ih => rw [flatPass, List.length_cons, List.length_cons, ih]

/-- An anchored node does not see the line. -/
theorem getElem?_flatPass_of_anchored {nodes : List ItemPosition} {i : Nat} {node : ItemPosition}
    (present : nodes[i]? = some node) (anchored : node.anchored = true) (contentWidth : Float32)
    (line line' : Line) :
    (flatPass contentWidth line nodes)[i]? = (flatPass contentWidth line' nodes)[i]? := by
  induction nodes generalizing i line line' with
  | nil => rfl
  | cons head rest ih =>
    rw [flatPass, flatPass]
    cases i with
    | zero =>
      cases present
      rw [List.getElem?_cons_zero, List.getElem?_cons_zero, flatY, flatY, if_pos anchored,
        if_pos anchored]
    | succ i =>
      rw [List.getElem?_cons_succ] at present ⊢
      exact ih present _ _

/-! ## What leaves a row alone -/

/-- The places along their rows of a level and all that is below it. The line plays no part. -/
def rowPlaces (contentWidth : Float32) (above : List Properties) (baseX runningX : Float32) :
    Items → List Float32
  | .nil => []
  | .cons node below rest =>
    let box := boxOf contentWidth above runningX {} node
    box.x :: rowPlaces contentWidth (node.value.properties :: above) box.x box.x below ++
      rowPlaces contentWidth above baseX (box.runningAfter baseX runningX) rest

theorem map_x_place (contentWidth : Float32) (above : List Properties) (baseX runningX : Float32)
    (line : Line) (items : Items) :
    (place contentWidth above baseX runningX line items).1.map Box.x =
      rowPlaces contentWidth above baseX runningX items := by
  induction items generalizing above baseX runningX line with
  | nil => rfl
  | cons node below rest ihBelow ihRest =>
    rw [place, rowPlaces]
    dsimp only
    rw [List.cons_append, List.map_cons, List.map_append, ihBelow, ihRest]
    rfl

@[simp] theorem length_rowPlaces (contentWidth : Float32) (above : List Properties)
    (baseX runningX : Float32) (items : Items) :
    (rowPlaces contentWidth above baseX runningX items).length = items.size := by
  rw [← map_x_place contentWidth above baseX runningX {} items, List.length_map,
    ← List.length_map Box.item, map_item_place, Forest.length_preorder]

/-- A node without a display leaves its row where it was. -/
theorem runningAfter_of_lineBreak_none {box : Box} (still : box.properties.lineBreak = none)
    (baseX runningX : Float32) : box.runningAfter baseX runningX = runningX := by
  rw [Box.runningAfter, Box.breaksLine, Properties.breaksLine, Properties.flowsInline, still]
  simp

/-- Lists that go on in the same way differ only in front of that. -/
theorem getElem?_append_congr_left {α : Type} {first first' : List α}
    (length : first.length = first'.length) {i : Nat}
    (same : i < first.length → first[i]? = first'[i]?) (second : List α) :
    (first ++ second)[i]? = (first' ++ second)[i]? := by
  rcases Nat.lt_or_ge i first.length with inside | behind
  · rw [List.getElem?_append_left inside, List.getElem?_append_left (length ▸ inside),
      same inside]
  · rw [List.getElem?_append_right behind, List.getElem?_append_right (length ▸ behind), length]

/-- Lists that begin in the same way differ only behind that. -/
theorem getElem?_append_congr_right {α : Type} (first : List α) {second second' : List α} {i : Nat}
    (same : first.length ≤ i → second[i - first.length]? = second'[i - first.length]?) :
    (first ++ second)[i]? = (first ++ second')[i]? := by
  rcases Nat.lt_or_ge i first.length with inside | behind
  · rw [List.getElem?_append_left inside, List.getElem?_append_left inside]
  · rw [List.getElem?_append_right behind, List.getElem?_append_right behind, same behind]

/-- A node that is out of the row stands where it stands. -/
theorem x_boxOf_of_flowsInline_false {node : Numbered Item}
    (out : node.value.properties.flowsInline = false) (contentWidth : Float32)
    (above : List Properties) (runningX runningX' : Float32) (line : Line) :
    (boxOf contentWidth above runningX line node).x =
      (boxOf contentWidth above runningX' line node).x := by
  simp only [boxOf, out]
  rfl

/-- Whether a node takes part in the row of the level below other nodes, or lies under a node that
does. -/
def Position.InRow (above : List (Numbered Item)) (node : ItemPosition) : Prop :=
  ∃ under sibling, node.value :: node.above = under ++ sibling :: above ∧
    sibling.value.properties.flowsInline = true

/-- What has no part in a row keeps its place wherever the row goes on. -/
theorem getElem?_rowPlaces_of_not_inRow {items : Items} {nodesAbove : List (Numbered Item)}
    {number : Nat} {node : ItemPosition} (stands : items.StandsAt nodesAbove number node)
    (apart : ¬ node.InRow nodesAbove) (contentWidth : Float32) (above : List Properties)
    (baseX runningX runningX' : Float32) :
    (rowPlaces contentWidth above baseX runningX items)[number]? =
      (rowPlaces contentWidth above baseX runningX' items)[number]? := by
  induction stands generalizing runningX runningX' with
  | root head below rest nodesAbove =>
    have out : head.value.properties.flowsInline = false :=
      Bool.eq_false_iff.2 fun inline => apart ⟨[], head, rfl, inline⟩
    rw [rowPlaces, rowPlaces, List.cons_append, List.cons_append, List.getElem?_cons_zero,
      List.getElem?_cons_zero, x_boxOf_of_flowsInline_false out]
  | @inside head below nodesAbove number node stands within rest _ =>
    -- What lies under a head that is out of the row stands where the head says.
    obtain ⟨under, path⟩ := stands.above_suffix
    have out : head.value.properties.flowsInline = false :=
      Bool.eq_false_iff.2 fun inline =>
        apart ⟨node.value :: under, head, by rw [← path, List.cons_append], inline⟩
    rw [rowPlaces, rowPlaces, List.cons_append, List.cons_append, List.getElem?_cons_succ,
      List.getElem?_cons_succ, List.getElem?_append_left (by rwa [length_rowPlaces]),
      List.getElem?_append_left (by rwa [length_rowPlaces]),
      x_boxOf_of_flowsInline_false out contentWidth above runningX runningX']
  | @behind rest nodesAbove number node stands head below ih =>
    have far : ∀ x, (rowPlaces contentWidth (head.value.properties :: above) x x below).length ≤
        below.size + number := fun x => by
      rw [length_rowPlaces]
      exact Nat.le_add_right _ _
    rw [rowPlaces, rowPlaces, List.cons_append, List.cons_append, List.getElem?_cons_succ,
      List.getElem?_cons_succ, List.getElem?_append_right (far _),
      List.getElem?_append_right (far _), length_rowPlaces, length_rowPlaces,
      Nat.add_sub_cancel_left]
    exact ih apart _ _

/-- Without a tree, what comes before it keeps its places along the rows. So does what comes after
it and has no part in the row of its root; and all of it does if the root has no display. -/
theorem getElem?_rowPlaces_remove {items : Items} {nodesAbove : List (Numbered Item)}
    {number : Nat} {node : ItemPosition} (stands : items.StandsAt nodesAbove number node)
    (contentWidth : Float32) (above : List Properties) (baseX runningX : Float32) {i : Nat}
    {other : ItemPosition}
    (present : (withoutRun number (1 + node.below.size)
      (items.positions nodesAbove))[i]? = some other)
    (stays : i < number ∨ node.value.value.properties.lineBreak = none ∨
      ¬ other.InRow node.above) :
    (rowPlaces contentWidth above baseX runningX (items.remove number))[i]? =
      (withoutRun number (1 + node.below.size)
        (rowPlaces contentWidth above baseX runningX items))[i]? := by
  induction stands generalizing above baseX runningX i with
  | root head below rest nodesAbove =>
    rw [Forest.positions, withoutRun_root (by simp)] at present
    rw [Forest.remove_zero, rowPlaces, List.cons_append, withoutRun_root (by simp)]
    rcases stays with early | displayless | out
    · exact absurd early (Nat.not_lt_zero i)
    · have still : (boxOf contentWidth above runningX {} head).properties.lineBreak = none :=
        displayless
      rw [runningAfter_of_lineBreak_none still]
    · exact getElem?_rowPlaces_of_not_inRow (Forest.standsAt_of_getElem? present) out _ _ _ _ _
  | @inside head below nodesAbove number node stands within rest ih =>
    have ends := stands.le_size
    rw [Forest.positions, withoutRun_cons, withoutRun_append_left (by simpa using ends)]
      at present
    rw [Forest.remove_succ_of_lt within, rowPlaces, rowPlaces, List.cons_append, List.cons_append,
      withoutRun_cons, withoutRun_append_left (by simpa using ends)]
    cases i with
    | zero => rfl
    | succ i =>
      rw [List.getElem?_cons_succ] at present ⊢
      rw [List.getElem?_cons_succ]
      refine getElem?_append_congr_left ?_ (fun early => ?_) _
      · rw [length_rowPlaces, stands.length_withoutRun (length_rowPlaces ..)]
      · have listed := stands.length_withoutRun (Forest.length_positions (head :: nodesAbove) below)
        rw [length_rowPlaces, ← listed] at early
        rw [List.getElem?_append_left early] at present
        exact ih _ _ _ present (stays.imp_left Nat.lt_of_succ_lt_succ)
  | @behind rest nodesAbove number node stands head below ih =>
    rw [Forest.positions, withoutRun_cons, withoutRun_append_right (by simp)] at present
    rw [Forest.remove_behind, rowPlaces, rowPlaces, List.cons_append, List.cons_append,
      withoutRun_cons, withoutRun_append_right (by simp)]
    cases i with
    | zero => rfl
    | succ i =>
      rw [List.getElem?_cons_succ] at present ⊢
      rw [List.getElem?_cons_succ]
      refine getElem?_append_congr_right _ fun far => ?_
      rw [length_rowPlaces] at far ⊢
      rw [List.getElem?_append_right (by simpa using far), Forest.length_positions] at present
      exact ih above baseX _ present (stays.imp_left fun early => by omega)

/-! ## Boxes without those of a tree -/

theorem map_y_placeAll (contentWidth : Float32) (items : Items) :
    (placeAll contentWidth items).1.map Box.y =
      (flatPass contentWidth {} (items.positions [])).map Prod.snd := by
  have passed := (place_eq_flatPass contentWidth [] 0 0 {} items).1
  rw [List.map_nil] at passed
  rw [placeAll, ← passed, List.map_map]
  rfl

section Removal

variable {items : Items} {number : Nat} {node : ItemPosition}
  (stands : items.StandsAt [] number node) (contentWidth : Float32)

include stands

/-- No other box changes its size. -/
theorem map_measure_remove :
    (placeAll contentWidth (items.remove number)).1.map Box.measure =
      withoutRun number (1 + node.below.size)
        ((placeAll contentWidth items).1.map Box.measure) := by
  have measures := fun items => map_measure_place contentWidth [] 0 0 {} items
  rw [List.map_nil] at measures
  rw [placeAll, placeAll, measures, measures, stands.map_path_remove, map_withoutRun]

/-- No box changes its place down the page that comes before the tree or does not see the line; and
none does if the tree does nothing to the line. -/
theorem getElem?_map_y_remove {i : Nat} {other : ItemPosition}
    (present : (withoutRun number (1 + node.below.size) (items.positions []))[i]? = some other)
    (stays : i < number ∨ other.anchored = true ∨ ∀ line,
      (node :: node.below.positions (node.value :: node.above)).foldl flatStep line = line) :
    ((placeAll contentWidth (items.remove number)).1.map Box.y)[i]? =
      (withoutRun number (1 + node.below.size)
        ((placeAll contentWidth items).1.map Box.y))[i]? := by
  obtain ⟨before, after, first, split⟩ := stands.positions_eq
  have paths := stands.map_path_remove
  have long : (node :: node.below.positions (node.value :: node.above)).length =
      1 + node.below.size := by rw [List.length_cons, Forest.length_positions, Nat.add_comm]
  generalize node :: node.below.positions (node.value :: node.above) = gone at *
  rw [← map_withoutRun, split, withoutRun_append first long] at paths
  rw [split, withoutRun_append first long] at present
  rw [map_y_placeAll, map_y_placeAll, flatPass_congr paths, split, flatPass_append,
    flatPass_append, flatPass_append, List.foldl_append, ← map_withoutRun,
    withoutRun_append (by rwa [length_flatPass]) (by rwa [length_flatPass]),
    List.getElem?_map, List.getElem?_map]
  refine congrArg _ (getElem?_append_congr_right _ fun late => ?_)
  rw [length_flatPass] at late ⊢
  rw [List.getElem?_append_right late] at present
  rcases stays with early | anchored | still
  · omega
  · rw [getElem?_flatPass_of_anchored present anchored]
  · rw [still]

/-- No box changes its place along a row that comes before the tree or has no part in the row of its
root; and none does if the root has no display. -/
theorem getElem?_map_x_remove {i : Nat} {other : ItemPosition}
    (present : (withoutRun number (1 + node.below.size) (items.positions []))[i]? = some other)
    (stays : i < number ∨ node.value.value.properties.lineBreak = none ∨
      ¬ other.InRow node.above) :
    ((placeAll contentWidth (items.remove number)).1.map Box.x)[i]? =
      (withoutRun number (1 + node.below.size)
        ((placeAll contentWidth items).1.map Box.x))[i]? := by
  rw [placeAll, placeAll, map_x_place, map_x_place]
  exact getElem?_rowPlaces_remove stands contentWidth [] 0 0 present stays

end Removal

/-! ## What an absolute style comes to -/

/-- No declaration of an absolutely placed element releases it. -/
theorem anchors_apply {context : StyleContext} (absolute : isAbsolute context.own = true)
    (keyword : Keyword) (value : String) (p : Properties) (anchored : p.anchors = true) :
    (keyword.apply context value p).anchors = true := by
  cases keyword with
  | top =>
    rw [Keyword.apply, offset?, if_pos absolute]
    cases Length.parse? value with
    | none => exact anchored
    | some length => rfl
  -- The other keywords do not touch the vertical offset.
  | _ =>
    simp only [Keyword.apply]
    repeat' split
    all_goals exact anchored

/-- An absolutely placed element whose top is a length is anchored down the page. -/
theorem anchors_propertiesOf {context : StyleContext} (absolute : isAbsolute context.own = true)
    (placed : ((context.own.text? "top").bind Length.parse?).isSome = true) :
    (propertiesOf context).anchors = true := by
  obtain ⟨length, isLength⟩ := Option.isSome_iff_exists.1 placed
  obtain ⟨value, present, parsed⟩ := Option.bind_eq_some_iff.1 isLength
  have ordered : Keyword.top ∈ Keyword.order := by decide
  refine propertiesOf_of_established (fun p => p.anchors = true) ordered present ?_
    (anchors_apply absolute)
  intro p
  rw [Keyword.apply, offset?, if_pos absolute, Length.parse?_lower, parsed]
  rfl

/-- The display that a style asks for. -/
def Style.display? (style : Style) : Option String :=
  (style.text? "display").map Text.lower

theorem lineBreak_of_mem_itemsOfRules {rules : Forest Rule} {node : Numbered Item}
    (member : node ∈ (itemsOfRules rules).preorder) :
    node.value.properties.lineBreak =
      node.value.element.style.display?.map (· == "block") := by
  obtain ⟨above, compiled⟩ := properties_of_mem_itemsBelow member
  rw [compiled, lineBreak_propertiesOf, Style.display?, Option.map_map]
  rfl

/-- A node ends no row of the page if it is no block. -/
theorem endsRow_eq_false {node : ItemPosition}
    (resolved : node.value.value.properties.lineBreak =
      node.value.value.element.style.display?.map (· == "block"))
    (noBlock : node.value.value.element.style.display? ≠ some "block") :
    node.endsRow = false := by
  rw [Position.endsRow, Properties.breaksLine, resolved]
  cases asked : node.value.value.element.style.display? with
  | none => simp
  | some value =>
    rw [asked] at noBlock
    have other : (value == "block") = false :=
      beq_eq_false_iff_ne.2 fun block => noBlock (congrArg some block)
    simp [other]

/-! ## Documents -/

/-- What lies under an anchored node is anchored. -/
theorem anchored_of_mem_positions {node inner : ItemPosition}
    (anchored : node.value.value.properties.anchors = true)
    (member : inner ∈ node :: node.below.positions (node.value :: node.above)) :
    inner.anchored = true := by
  rw [Position.anchored, List.any_eq_true]
  rcases List.mem_cons.1 member with rfl | member
  · exact ⟨_, List.mem_cons_self, anchored⟩
  · obtain ⟨i, found⟩ := List.mem_iff_getElem?.1 member
    have suffix := (Forest.standsAt_of_getElem? found).above_suffix
    exact ⟨node.value, List.mem_cons_of_mem _ (suffix.subset List.mem_cons_self), anchored⟩

/-- What is seen of boxes without their numbers depends on the items without their numbers. -/
theorem map_place_congr {β : Type} (view : Box → β)
    (blind : ∀ box, view (box.mapItem Numbered.withoutNumber) = view box) {first second : Items}
    (same : first.map Numbered.withoutNumber = second.map Numbered.withoutNumber)
    (contentWidth : Float32) :
    (placeAll contentWidth first).1.map view = (placeAll contentWidth second).1.map view := by
  have keeps : ∀ node : Numbered Item,
      (Numbered.withoutNumber node).value.properties = node.value.properties := fun _ => rfl
  have seen : ∀ items : Items, (placeAll contentWidth items).1.map view =
      (placeAll contentWidth (items.map Numbered.withoutNumber)).1.map view := by
    intro items
    rw [placeAll, placeAll, place_map keeps, List.map_map]
    exact List.map_congr_left fun box _ => (blind box).symm
  rw [seen first, seen second, same]

/-- The absolutely placed element with a number is taken out of a document, together with all that is
below it; its top is a length. Then no other box changes its size. None changes its place down the
page unless the element or one below it is a block, and then only boxes behind it that are in the
flow can. None changes its place along its row unless the element has a display, and then only boxes
behind it can that have a part in its row. -/
theorem layout?_removeElement {rules : Forest Rule} {number : Nat} {node : ItemPosition}
    {contentWidth : Float32} {boxes : List Box}
    (found : (itemsOfRules rules).position? number = some node)
    (absolute : isAbsolute node.value.value.element.style = true)
    (placed : ((node.value.value.element.style.text? "top").bind Length.parse?).isSome = true)
    (laid : layout? contentWidth (itemsOfRules rules) = some boxes) :
    ∃ others, layout? contentWidth (itemsOfRules (removeElement rules number)) = some others ∧
      others.map Box.measure =
        withoutRun number (1 + node.below.size) (boxes.map Box.measure) ∧
      ∀ i other,
        (withoutRun number (1 + node.below.size)
          ((itemsOfRules rules).positions []))[i]? = some other →
        (i < number ∨ other.anchored = true ∨
            (∀ inner ∈ node.value :: node.below.preorder,
              inner.value.element.style.display? ≠ some "block") →
          (others.map Box.y)[i]? =
            (withoutRun number (1 + node.below.size) (boxes.map Box.y))[i]?) ∧
        (i < number ∨ node.value.value.element.style.display? = none ∨
            ¬ other.InRow node.above →
          (others.map Box.x)[i]? =
            (withoutRun number (1 + node.below.size) (boxes.map Box.x))[i]?) := by
  obtain ⟨area, rfl⟩ := layout?_eq_some_iff.1 laid
  have stands := Forest.standsAt_of_getElem? found
  have same := map_withoutNumber_itemsOfRules_removeElement rules number
  have listed : ∀ inner ∈ node :: node.below.positions (node.value :: node.above),
      inner.value ∈ node.value :: node.below.preorder := by
    intro inner member
    rw [← Forest.map_value_positions (node.value :: node.above), ← List.map_cons]
    exact List.mem_map_of_mem member
  have anchored : node.value.value.properties.anchors = true := by
    obtain ⟨above, compiled⟩ := properties_of_mem_itemsBelow (stands.tree_subset List.mem_cons_self)
    rw [compiled]
    exact anchors_propertiesOf absolute placed
  refine ⟨_, layout?_eq_some_iff.2 ⟨area, rfl⟩, ?_, ?_⟩
  · rw [map_place_congr Box.measure (fun _ => rfl) same]
    exact map_measure_remove stands contentWidth
  · intro i other present
    rw [map_place_congr Box.y (fun _ => rfl) same, map_place_congr Box.x (fun _ => rfl) same]
    constructor
    · intro stays
      refine getElem?_map_y_remove stands contentWidth present
        (stays.imp_right fun later => later.imp_right fun noBlock => ?_)
      refine foldl_flatStep_of_anchored
        (fun inner member => anchored_of_mem_positions anchored member) fun inner member => ?_
      have inTree := listed inner member
      exact endsRow_eq_false (lineBreak_of_mem_itemsOfRules (stands.tree_subset inTree))
        (noBlock inner.value inTree)
    · intro stays
      refine getElem?_map_x_remove stands contentWidth present
        (stays.imp_right fun later => later.imp_left fun displayless => ?_)
      rw [lineBreak_of_mem_itemsOfRules (stands.tree_subset List.mem_cons_self), displayless]
      rfl

/-- An element rule with the given declarations. -/
def styledRule (name : String) (declarations : List (String × String)) : Rule where
  kind := .element (some name)
  declarations := Attributes.ofList declarations
  text := none

/-- A pinned element between two others, above an inline one. -/
def pinnedRules : Forest Rule :=
  .cons (styledRule "first" [("height", "8pt"), ("display", "inline")]) .nil
    (.cons (styledRule "pinned" [("position", "absolute"), ("left", "40pt"), ("top", "100pt")])
      (.cons (styledRule "label" [("display", "inline"), ("width", "30pt")]) .nil .nil)
      (.cons (styledRule "last" [("display", "inline")]) .nil .nil))

theorem layout?_removeElement_pinnedRules :
    ∃ node boxes others,
      (itemsOfRules pinnedRules).position? 1 = some node ∧
      isAbsolute node.value.value.element.style = true ∧
      ((node.value.value.element.style.text? "top").bind Length.parse?).isSome = true ∧
      layout? 200 (itemsOfRules pinnedRules) = some boxes ∧
      layout? 200 (itemsOfRules (removeElement pinnedRules 1)) = some others ∧
      others.map Box.measure = withoutRun 1 (1 + node.below.size) (boxes.map Box.measure) ∧
      ∀ (i : Nat) (other : ItemPosition),
        (withoutRun 1 (1 + node.below.size)
          ((itemsOfRules pinnedRules).positions []))[i]? = some other →
        (others.map Box.y)[i]? = (withoutRun 1 (1 + node.below.size) (boxes.map Box.y))[i]? ∧
        (others.map Box.x)[i]? = (withoutRun 1 (1 + node.below.size) (boxes.map Box.x))[i]? := by
  have pinned : ((itemsOfRules pinnedRules).position? 1).map (fun node => decide
      (isAbsolute node.value.value.element.style = true ∧
        ((node.value.value.element.style.text? "top").bind Length.parse?).isSome = true ∧
        node.value.value.element.style.display? = none ∧
        ∀ inner ∈ node.value :: node.below.preorder,
          inner.value.element.style.display? ≠ some "block")) = some true := by
    decide +kernel
  obtain ⟨node, found, shown⟩ := Option.map_eq_some_iff.1 pinned
  obtain ⟨absolute, placed, displayless, noBlock⟩ := of_decide_eq_true shown
  have area : isContentWidth 200 = true := by decide +kernel
  obtain ⟨others, laid, sizes, places⟩ :=
    layout?_removeElement found absolute placed (if_pos area : layout? 200 _ = _)
  refine ⟨node, _, others, found, absolute, placed, if_pos area, laid, sizes, ?_⟩
  intro i other present
  obtain ⟨down, along⟩ := places i other present
  exact ⟨down (.inr (.inr noBlock)), along (.inr (.inl displayless))⟩

/-- A coordinate that no other box changes when an absolutely placed element is taken out, whatever
its display. -/
def KeptWithoutPinned (coordinate : Box → Float32) : Prop :=
  ∀ (rules : Forest Rule) (number : Nat) (node : ItemPosition) (contentWidth : Float32)
    (boxes others : List Box),
    (itemsOfRules rules).position? number = some node →
    isAbsolute node.value.value.element.style = true →
    ((node.value.value.element.style.text? "left").bind Length.parse?).isSome = true →
    ((node.value.value.element.style.text? "top").bind Length.parse?).isSome = true →
    layout? contentWidth (itemsOfRules rules) = some boxes →
    layout? contentWidth (itemsOfRules (removeElement rules number)) = some others →
    others.map coordinate = withoutRun number (1 + node.below.size) (boxes.map coordinate)

/-- A pinned element with a display, between two others. -/
def displayedRules (display : String) : Forest Rule :=
  .cons (styledRule "first" [("height", "8pt")]) .nil
    (.cons (styledRule "pinned" [("position", "absolute"), ("left", "40pt"), ("top", "100pt"),
      ("width", "30pt"), ("display", display)]) .nil
      (.cons (styledRule "last" [("display", "inline")]) .nil .nil))

/-- A coordinate is not kept if it is not in this document. -/
theorem not_keptWithoutPinned {coordinate : Box → Float32} {display : String}
    (moved : (((itemsOfRules (displayedRules display)).position? 1).map fun node => decide
      (isAbsolute node.value.value.element.style = true ∧
        ((node.value.value.element.style.text? "left").bind Length.parse?).isSome = true ∧
        ((node.value.value.element.style.text? "top").bind Length.parse?).isSome = true ∧
        (placeAll 200 (itemsOfRules (removeElement (displayedRules display) 1))).1.map coordinate ≠
          withoutRun 1 (1 + node.below.size)
            ((placeAll 200 (itemsOfRules (displayedRules display))).1.map coordinate))) =
      some true) : ¬ KeptWithoutPinned coordinate := by
  intro kept
  obtain ⟨node, found, shown⟩ := Option.map_eq_some_iff.1 moved
  obtain ⟨absolute, left, top, differs⟩ := of_decide_eq_true shown
  have area : isContentWidth 200 = true := by decide +kernel
  exact differs (kept _ 1 node 200 _ _ found absolute left top (if_pos area) (if_pos area))

theorem not_forall_stays : ¬ KeptWithoutPinned Box.y ∧ ¬ KeptWithoutPinned Box.x := by
  have block := @not_keptWithoutPinned Box.y "block" (by decide +kernel)
  have inline := @not_keptWithoutPinned Box.x "inline" (by decide +kernel)
  exact ⟨block, inline⟩

end Folio
