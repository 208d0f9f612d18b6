import Folio.Proofs.ItemPositions
import Folio.Proofs.OutOfFlow

/-!
# A node sees only what it lies below

What an element comes to is a matter of its own style and of the styles of the elements that it lies
below, its lineage. Two elements with the same lineage, in whatever documents, have the same
properties (`map_properties_itemPath_congr`), and so have the elements that they lie below. Hence their
boxes have the same size, and the same place wherever a place is not taken from a row or from the
line (`box_of_lineage_eq`): what stands beside an element, what is below it, and all names and texts
show nowhere else.
-/

namespace Folio

/-- What is seen of the style of an element and of the styles of all elements that it lies below,
from the element up. -/
def Position.lineage (node : Position (Numbered Element)) : List (Attributes (String × Bool)) :=
  (node.value :: node.above).map (·.value.style.seen)

/-- Whether a style pins its element down the page: it places the element absolutely, and its top is
a length. -/
def Style.IsPinned (style : Style) : Prop :=
  isAbsolute style = true ∧ ((style.text? "top").bind Length.parse?).isSome = true

instance (style : Style) : Decidable style.IsPinned :=
  inferInstanceAs (Decidable (_ ∧ _))

theorem Attributes.entries_injective {β : Type} :
    Function.Injective (Attributes.entries : Attributes β → List (String × β)) := by
  rintro ⟨entries, _⟩ ⟨entries', _⟩ same
  cases same
  rfl

/-! ## Properties -/

/-- The properties along a path of items are a matter of the lineage. -/
theorem map_properties_itemPath_congr {first second : List (Numbered Element)}
    (same : first.map (·.value.style.seen) = second.map (·.value.style.seen)) :
    (itemPath first).map (·.value.properties) = (itemPath second).map (·.value.properties) := by
  induction first generalizing second with
  | nil =>
    cases second with
    | nil => rfl
    | cons => cases same
  | cons node above ih =>
    cases second with
    | nil => cases same
    | cons node' above' =>
      rw [List.map_cons, List.map_cons, List.cons.injEq] at same
      have alike : StyleContext.Alike ⟨node.value.style, above.map (·.value.style)⟩
          ⟨node'.value.style, above'.map (·.value.style)⟩ := by
        refine ⟨same.1, ?_⟩
        rw [List.map_map, List.map_map]
        exact same.2
      have own : (node.value.toItem (above.map (·.value.style))).properties =
          (node'.value.toItem (above'.map (·.value.style))).properties :=
        propertiesOf_congr alike
      rw [itemPath, itemPath, List.map_cons, List.map_cons, own, ih same.2]

/-- What a pinned element comes to is anchored, and so is all that lies below it. -/
theorem any_anchors_itemPath {path : List (Numbered Element)}
    (pinned : ∃ node ∈ path, node.value.style.IsPinned) :
    ((itemPath path).map (·.value.properties)).any Properties.anchors = true := by
  induction path with
  | nil =>
    obtain ⟨node, none, -⟩ := pinned
    cases none
  | cons node above ih =>
    rw [itemPath, List.map_cons, List.any_cons, Bool.or_eq_true]
    obtain ⟨other, member, absolute, placed⟩ := pinned
    rcases List.mem_cons.1 member with rfl | isAbove
    · exact .inl (anchors_propertiesOf absolute placed)
    · exact .inr (ih ⟨other, isAbove, absolute, placed⟩)

/-! ## Boxes -/

section Boxes

variable {first second : Position (Numbered Item)}
  (same : (first.value :: first.above).map (·.value.properties) =
    (second.value :: second.above).map (·.value.properties))
  (contentWidth firstX secondX : Float32) (firstLine secondLine : Line)

include same

/-- Two boxes below the same properties have the same size. A box that does not flow along a row
stands where the properties say, and so does, down the page, a box that is anchored. -/
theorem boxOf_congr :
    let box := boxOf contentWidth (first.above.map (·.value.properties)) firstX firstLine first.value
    let other :=
      boxOf contentWidth (second.above.map (·.value.properties)) secondX secondLine second.value
    box.properties = other.properties ∧ box.width = other.width ∧ box.height = other.height ∧
      (box.properties.flowsInline = false → box.x = other.x) ∧
      (((first.value :: first.above).map (·.value.properties)).any Properties.anchors = true →
        box.y = other.y) := by
  rw [List.map_cons, List.map_cons, List.cons.injEq] at same
  obtain ⟨own, above⟩ := same
  dsimp only [Box.properties, boxOf]
  rw [List.map_cons, ← own, ← above]
  refine ⟨rfl, rfl, rfl, fun apart => ?_, fun anchored => ?_⟩
  · rw [if_neg (Bool.not_eq_true _ ▸ apart), if_neg (Bool.not_eq_true _ ▸ apart)]
  · rw [if_pos anchored, if_pos anchored]

end Boxes

/-- Two elements with the same lineage, in any two documents, have the same properties. In every
area, their boxes have the same size. The boxes stand at the same place along the page unless they
are laid out in a row, and at the same place down the page if the element or one that it lies below
is pinned. -/
theorem box_of_lineage_eq {first second : Forest Rule} {firstNumber secondNumber : Nat}
    {node other : Position (Numbered Element)}
    (found : (elementsOf first).position? firstNumber = some node)
    (foundOther : (elementsOf second).position? secondNumber = some other)
    (same : node.lineage = other.lineage) :
    propertiesOf node.styleContext = propertiesOf other.styleContext ∧
    ∀ contentWidth : Float32, isContentWidth contentWidth = true →
      ∃ boxes others box otherBox,
        layout? contentWidth (itemsOfRules first) = some boxes ∧
        layout? contentWidth (itemsOfRules second) = some others ∧
        boxes[firstNumber]? = some box ∧ others[secondNumber]? = some otherBox ∧
        box.item = node.toItem.value ∧ otherBox.item = other.toItem.value ∧
        box.properties = otherBox.properties ∧
        box.width = otherBox.width ∧ box.height = otherBox.height ∧
        (box.properties.lineBreak ≠ some false → box.x = otherBox.x) ∧
        ((∃ element ∈ node.value :: node.above, element.value.style.IsPinned) →
          box.y = otherBox.y) := by
  have path : (node.toItem.value :: node.toItem.above).map (·.value.properties) =
      (other.toItem.value :: other.toItem.above).map (·.value.properties) := by
    rw [Position.path_toItem, Position.path_toItem]
    exact map_properties_itemPath_congr same
  have own := path
  rw [List.map_cons, List.map_cons, List.cons.injEq] at own
  refine ⟨own.1, fun contentWidth area => ?_⟩
  have item := position?_itemsOf (elementsOf first) firstNumber
  have otherItem := position?_itemsOf (elementsOf second) secondNumber
  rw [found, Option.map_some] at item
  rw [foundOther, Option.map_some] at otherItem
  obtain ⟨runningX, line, box⟩ := exists_boxOf_of_position? item contentWidth
  obtain ⟨otherX, otherLine, otherBox⟩ := exists_boxOf_of_position? otherItem contentWidth
  obtain ⟨properties, width, height, x, y⟩ :=
    boxOf_congr path contentWidth runningX otherX line otherLine
  refine ⟨_, _, _, _, if_pos area, if_pos area, box, otherBox, rfl, rfl, properties, width, height,
    fun noInline => x ?_, fun pinned => y ?_⟩
  · rw [Properties.flowsInline, Bool.and_eq_false_iff]
    exact .inr (beq_eq_false_iff_ne.2 noInline)
  · rw [Position.path_toItem]
    exact any_anchors_itemPath pinned

/-- A red label in a pinned box. -/
def pinnedLabel : Forest Rule :=
  .cons (styledRule "page" [("display", "block")])
    (.cons (styledRule "box" [("position", "absolute"), ("left", "40pt"), ("top", "100pt"),
        ("width", "50%")])
      (.cons (styledRule "label" [("color", "#ff0000"), ("left", "3pt")]) .nil .nil)
      .nil)
    .nil

/-- A label that is red by a directive, in a pinned box with elements before it and below it. -/
def pinnedLabelAmongOthers : Forest Rule :=
  .cons (styledRule "title" [("display", "block"), ("height", "30pt")]) .nil
    (.cons (styledRule "sheet" [("display", "block")])
      (.cons (styledRule "first" [("display", "inline"), ("width", "20pt")]) .nil
        (.cons (styledRule "frame" [("position", "absolute"), ("left", "40pt"), ("top", "100pt"),
            ("width", "50%")])
          (.cons ⟨.directive, .ofList [("color", "#ff0000")], none⟩ .nil
            (.cons (styledRule "tag" [("left", "3pt")])
              (.cons (styledRule "inner" [("height", "60pt")]) .nil .nil)
              .nil))
          .nil))
      .nil)

/-- The two labels have one lineage, and their boxes stand at one place. -/
theorem box_of_lineage_eq_pinnedLabel :
    ∃ node other : Position (Numbered Element),
      (elementsOf pinnedLabel).position? 2 = some node ∧
      (elementsOf pinnedLabelAmongOthers).position? 4 = some other ∧
      node.lineage = other.lineage ∧
      (∃ element ∈ node.value :: node.above, element.value.style.IsPinned) ∧
      isContentWidth 200 = true ∧
      ∃ boxes others box otherBox,
        layout? 200 (itemsOfRules pinnedLabel) = some boxes ∧
        layout? 200 (itemsOfRules pinnedLabelAmongOthers) = some others ∧
        boxes[2]? = some box ∧ others[4]? = some otherBox ∧
        box.properties = otherBox.properties ∧ box.width = otherBox.width ∧
        box.height = otherBox.height ∧ box.x = otherBox.x ∧ box.y = otherBox.y := by
  have labels : ((elementsOf pinnedLabel).position? 2).bind (fun node =>
      ((elementsOf pinnedLabelAmongOthers).position? 4).map fun other => decide
        (node.lineage.map Attributes.entries = other.lineage.map Attributes.entries ∧
          (∃ element ∈ node.value :: node.above, element.value.style.IsPinned) ∧
          (propertiesOf node.styleContext).lineBreak ≠ some false)) = some true := by
    decide +kernel
  obtain ⟨node, found, seen⟩ := Option.bind_eq_some_iff.1 labels
  obtain ⟨other, foundOther, shown⟩ := Option.map_eq_some_iff.1 seen
  obtain ⟨entries, pinned, noInline⟩ := of_decide_eq_true shown
  have same : node.lineage = other.lineage :=
    List.map_injective_iff.2 Attributes.entries_injective entries
  have area : isContentWidth 200 = true := by decide +kernel
  obtain ⟨-, placed⟩ := box_of_lineage_eq found foundOther same
  obtain ⟨boxes, others, box, otherBox, laid, laidOther, boxAt, otherAt, item, -, properties, width,
    height, x, y⟩ := placed 200 area
  have own : box.properties = propertiesOf node.styleContext := by
    rw [Box.properties, item, Position.properties_toItem]
  exact ⟨node, other, found, foundOther, same, pinned, area, boxes, others, box, otherBox, laid,
    laidOther, boxAt, otherAt, properties, width, height, x (own ▸ noInline), y pinned⟩

end Folio
