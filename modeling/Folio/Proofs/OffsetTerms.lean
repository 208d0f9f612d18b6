import Mathlib.Data.List.Perm.Basic
import Folio.Proofs.IndependentDeclarations
import Folio.Proofs.ItemPositions

/-!
# What adds up to a coordinate

An element that is placed relatively takes in what was written above it, and the layout then adds to
its coordinate what all elements above it have taken in. So one value is added more than once:
every element on the way down to the node that is not placed absolutely has taken it in. This module
counts how often (`terms_of_position?`).

The terms along a path are put together element by element, and `Axis.countedTerms` puts them
together value by value. The invariant is that a step down leaves all counts as they are, or adds
one to each (`perm_countedTerms`). An element that is placed relatively takes in nothing of its own,
so whatever its own value is, it comes to the same properties (`propertiesOf_insert_attribute`).
-/

namespace Folio

/-! ## Terms -/

/-- The coordinates of a place. -/
inductive Axis where
  | x
  | y
  deriving DecidableEq, Repr

/-- The attribute for a coordinate. -/
def Axis.attribute : Axis → String
  | .x => "left"
  | .y => "top"

/-- The keyword for a coordinate. -/
def Axis.keyword : Axis → Keyword
  | .x => .left
  | .y => .top

/-- What properties add to a coordinate. -/
def Axis.offset : Axis → Properties → Option Offset
  | .x => Properties.x
  | .y => Properties.y

/-- A number that is added to a coordinate. -/
inductive Term where
  /-- The coordinate of an element that is placed absolutely. -/
  | literal (value : Float32)
  /-- What an element takes in from above; up to one it is a part of the content width. -/
  | taken (value : Float32)
  deriving DecidableEq

/-- How much a term adds. -/
def Term.amount (contentWidth : Float32) : Term → Float32
  | literal value => value
  | taken value => scaledUpToOne contentWidth value

/-- The terms of an offset. -/
def Offset.terms : Offset → List Term
  | .absolute value => [.literal value]
  | .deferred values => values.map .taken

/-- The terms that properties add to a coordinate. -/
def Axis.terms (axis : Axis) (p : Properties) : List Term :=
  ((axis.offset p).map Offset.terms).getD []

/-- The sum of the terms of one element. A literal stands alone. -/
def addTerms (contentWidth : Float32) : List Term → Float32
  | [.literal value] => value
  | terms => terms.foldl (fun sum term => sum + term.amount contentWidth) 0

theorem addTerms_map_taken (contentWidth : Float32) (values : List Float32) :
    addTerms contentWidth (values.map .taken) = (Offset.deferred values).amount contentWidth := by
  have sum : (values.map Term.taken).foldl (fun sum term => sum + term.amount contentWidth) 0 =
      (Offset.deferred values).amount contentWidth := List.foldl_map
  match values with
  | [] => exact sum
  | _ :: _ => exact sum

theorem contribution_eq_addTerms (contentWidth : Float32) (axis : Axis) (p : Properties) :
    contribution contentWidth (axis.offset p) = addTerms contentWidth (axis.terms p) := by
  rw [Axis.terms]
  cases axis.offset p with
  | none => rfl
  | some offset =>
    cases offset with
    | absolute value => rfl
    | deferred values => exact (addTerms_map_taken contentWidth values).symm

/-! ## What one element adds -/

/-- What an element hands down to others: the length that somebody wrote for it, with a percentage
as a part of one. -/
def Axis.share? (axis : Axis) (style : Style) : Option Term :=
  if style.hasWritten axis.attribute then
    ((style.text? axis.attribute).bind Length.parse?).map fun length => .taken length.fraction
  else none

/-- What an element has for itself: its length, if it is placed absolutely. -/
def Axis.literal? (axis : Axis) (style : Style) : Option Term :=
  if isAbsolute style then
    ((style.text? axis.attribute).bind Length.parse?).map fun length => .literal length.value
  else none

/-- The terms of an element below others. -/
def Axis.ownTerms (axis : Axis) (own : Style) (above : List Style) : List Term :=
  if isAbsolute own then (axis.literal? own).toList else above.filterMap axis.share?

theorem Keyword.eq_of_name_eq {first second : Keyword} (same : first.name = second.name) :
    first = second := by
  have found := ofName?_foldName_name first
  rw [same, ofName?_foldName_name] at found
  exact (Option.some.inj found).symm

theorem Axis.name_keyword (axis : Axis) : axis.keyword.name = axis.attribute := by
  cases axis <;> rfl

/-- What a change puts in for a coordinate. -/
def Change.offset (change : Change) : Axis → Option Offset
  | .x => change.x
  | .y => change.y

theorem Change.offset_run (axis : Axis) (change : Change) (p : Properties) :
    axis.offset (change.run p) = (change.offset axis).or (axis.offset p) := by
  cases axis <;> rfl

/-- Only its own keyword puts anything in for a coordinate. -/
theorem Keyword.offset_change_of_ne (context : StyleContext) {axis : Axis} {keyword : Keyword}
    (other : keyword ≠ axis.keyword) (value : String) :
    (keyword.change context value).offset axis = none := by
  have about := keyword.isAbout_change context value
  cases axis with
  | x =>
    refine about.x fun subject => other ?_
    cases keyword <;> first | rfl | cases subject
  | y =>
    refine about.y fun subject => other ?_
    cases keyword <;> first | rfl | cases subject

theorem Keyword.offset_change_keyword (context : StyleContext) (axis : Axis) (value : String) :
    (axis.keyword.change context value).offset axis = offset? context axis.attribute value := by
  cases axis <;> rfl

theorem offset_propertiesOf (context : StyleContext) (axis : Axis) :
    axis.offset (propertiesOf context) =
      (context.own.lowered? axis.attribute).bind (offset? context axis.attribute) := by
  rw [view_propertiesOf_of_single axis.offset (fun change offset => (change.offset axis).or offset)
    (Change.offset_run axis) axis.keyword, axis.name_keyword]
  · cases context.own.lowered? axis.attribute with
    | none => cases axis <;> rfl
    | some value =>
      dsimp only
      rw [Keyword.offset_change_keyword, Option.bind_some]
      cases axis <;> exact Option.or_none
  · intro keyword value offset other
    rw [Keyword.offset_change_of_ne context other, Option.none_or]

/-- An element whose coordinate has a value adds its own terms. -/
theorem Axis.terms_propertiesOf (axis : Axis) {context : StyleContext} {text : String}
    (present : context.own.text? axis.attribute = some text) :
    axis.terms (propertiesOf context) = axis.ownTerms context.own context.above := by
  rw [terms, offset_propertiesOf, Style.lowered?, present, Option.map_some, Option.bind_some,
    offset?, ownTerms]
  by_cases absolute : isAbsolute context.own = true
  · rw [if_pos absolute, if_pos absolute, literal?, if_pos absolute, present, Option.bind_some,
      Length.parse?_lower]
    cases Length.parse? text <;> rfl
  · rw [if_neg absolute, if_neg absolute, writtenAbove, List.filterMap_filter, Option.map_some,
      Option.getD_some, Offset.terms, List.map_map, List.map_filterMap]
    refine List.filterMap_congr fun style _ => ?_
    rw [share?]
    split <;> rfl

/-! ## Counting -/

/-- How many styles place their elements relatively. -/
def relatives (styles : List Style) : Nat :=
  styles.countP fun style => !isAbsolute style

/-- The terms along a path, from an element up, put together by where they come from: what an
element hands down, once for every element further down that is placed relatively, and what an
element has for itself. -/
def Axis.countedTerms (axis : Axis) (path : List Style) : List Term :=
  (path.zipIdx.flatMap fun (style, place) =>
      (List.replicate (relatives (path.take place)) style).filterMap axis.share?) ++
    path.filterMap axis.literal?

section Counting

variable (axis : Axis) (own : Style) (above : List Style)

/-- One more element at the lower end is one more that hands nothing down, and it takes in once more
whatever is handed down to it. -/
theorem Axis.countedTerms_cons :
    axis.countedTerms (own :: above) =
      (above.zipIdx.flatMap fun (style, place) =>
          (List.replicate (relatives (above.take place) + if isAbsolute own then 0 else 1)
            style).filterMap axis.share?) ++
        ((axis.literal? own).toList ++ above.filterMap axis.literal?) := by
  have shifted : ∀ place, relatives ((own :: above).take (place + 1)) =
      relatives (above.take place) + if isAbsolute own then 0 else 1 := by
    intro place
    rw [relatives, List.take_succ_cons, List.countP_cons]
    cases isAbsolute own <;> rfl
  rw [countedTerms, List.zipIdx_cons, List.flatMap_cons, List.zipIdx_succ, List.flatMap_map]
  simp only [shifted]
  rw [List.take_zero]
  cases kept : axis.literal? own <;> simp [kept, relatives]

/-- The terms along a path are those of its elements, one after the other. -/
theorem Axis.perm_countedTerms_cons :
    (axis.ownTerms own above ++ axis.countedTerms above).Perm
      (axis.countedTerms (own :: above)) := by
  rw [countedTerms_cons, ownTerms]
  by_cases absolute : isAbsolute own = true
  · simp only [absolute, if_true, Nat.add_zero]
    exact List.perm_append_comm_assoc _ _ _
  · have handed : (above.zipIdx.flatMap fun (style, _) => (axis.share? style).toList) =
        above.filterMap axis.share? := by
      rw [List.filterMap_eq_flatMap_toList, ← List.flatMap_map Prod.fst
        (fun style => (axis.share? style).toList), List.zipIdx_map_fst]
    have once : ∀ (count : Nat) (style : Style),
        (List.replicate (count + 1) style).filterMap axis.share? =
          (axis.share? style).toList ++ (List.replicate count style).filterMap axis.share? := by
      intro count style
      rw [List.replicate_succ, List.filterMap_cons]
      cases axis.share? style <;> rfl
    have none : axis.literal? own = none := if_neg absolute
    simp only [absolute, Bool.false_eq_true, if_false, none, Option.toList_none, List.nil_append,
      once]
    rw [countedTerms, ← List.append_assoc, ← handed]
    exact (List.flatMap_append_perm _ _ _).append_right _

end Counting

/-- The terms of items one below the other, put together by where they come from. -/
theorem perm_countedTerms (axis : Axis) {path : List (Numbered Element)}
    (present : ∀ node ∈ path, ∃ text, node.value.style.text? axis.attribute = some text) :
    ((itemPath path).flatMap fun item => axis.terms item.value.properties).Perm
      (axis.countedTerms (path.map (·.value.style))) := by
  induction path with
  | nil => exact .nil
  | cons node above ih =>
    obtain ⟨text, own⟩ := present node List.mem_cons_self
    have terms : axis.terms (node.value.toItem (above.map (·.value.style))).properties =
        axis.ownTerms node.value.style (above.map (·.value.style)) := by
      rw [Element.toItem]
      exact axis.terms_propertiesOf own
    rw [itemPath, List.flatMap_cons, List.map_cons, terms]
    exact ((ih fun other member => present other (List.mem_cons_of_mem node member)).append_left
      _).trans (axis.perm_countedTerms_cons _ _)

/-! ## One's own value -/

theorem Style.text?_insert_of_ne (style : Style) {name other : String} (value : StyleValue)
    (apart : other ≠ name) : Style.text? (style.insert name value) other = style.text? other := by
  rw [Style.text?, Attributes.get?_insert, if_neg apart, ← Style.text?]

theorem offset?_of_relative {context : StyleContext} (relative : isAbsolute context.own = false)
    (name first second : String) : offset? context name first = offset? context name second := by
  rw [offset?, offset?, relative, if_neg Bool.false_ne_true, if_neg Bool.false_ne_true]

theorem Axis.apply_keyword_of_relative (axis : Axis) {context : StyleContext}
    (relative : isAbsolute context.own = false) (first second : String) (p : Properties) :
    axis.keyword.apply context first p = axis.keyword.apply context second p := by
  have same := fun name => offset?_of_relative relative name first second
  cases axis with
  | x => simp only [keyword, Keyword.apply, same]
  | y => simp only [keyword, Keyword.apply, same]

/-- Whatever the value for a coordinate of an element that is placed relatively is, the element
comes to the same properties. -/
theorem propertiesOf_insert_attribute (axis : Axis) {own : Style}
    (relative : isAbsolute own = false) {text : String}
    (present : own.text? axis.attribute = some text) (value : StyleValue) (above : List Style) :
    propertiesOf ⟨own.insert axis.attribute value, above⟩ = propertiesOf ⟨own, above⟩ := by
  have position : "position" ≠ axis.attribute := by cases axis <;> decide
  have placed : isAbsolute (own.insert axis.attribute value) = isAbsolute own := by
    rw [isAbsolute, Style.text?_insert_of_ne own value position, isAbsolute]
  have applied : ∀ (keyword : Keyword) (text : String) (p : Properties),
      keyword.apply ⟨own.insert axis.attribute value, above⟩ text p =
        keyword.apply ⟨own, above⟩ text p := by
    intro keyword text p
    cases keyword with
    | left => simp only [Keyword.apply, offset?, placed]
    | top => simp only [Keyword.apply, offset?, placed]
    | _ => simp only [Keyword.apply]
  rw [propertiesOf, propertiesOf]
  congr 1
  funext p keyword
  by_cases here : keyword = axis.keyword
  · -- Its own value is there before and after, and in neither case it is looked at.
    have stored :
        Style.text? (own.insert axis.attribute value) axis.attribute = some value.text := by
      rw [Style.text?, Attributes.get?_insert_self, Option.map_some]
    rw [here, axis.name_keyword, stored, present]
    dsimp only
    rw [applied]
    exact axis.apply_keyword_of_relative relative _ _ p
  · have apart : keyword.name ≠ axis.attribute := by
      rw [← axis.name_keyword]
      exact fun same => here (Keyword.eq_of_name_eq same)
    rw [Style.text?_insert_of_ne own value apart]
    cases own.text? keyword.name with
    | none => rfl
    | some text => exact applied keyword (Text.lower text) p

/-! ## Elements of a document -/

theorem map_style_itemPath (path : List (Numbered Element)) :
    (itemPath path).map (·.value.element.style) = path.map (·.value.style) := by
  induction path with
  | nil => rfl
  | cons node above ih =>
    rw [itemPath, List.map_cons, List.map_cons, ih]
    rfl

/-- A coordinate of an item is put together from the terms of the item and of all items above it.
These terms are, in some order: what each item above hands down, if somebody wrote a length for it,
once for every item from there down that is placed relatively; and what each item that is placed
absolutely has for itself, if that is a length. An item that is placed relatively would be the same
with any other value of its own. -/
theorem terms_of_position? {rules : Forest Rule} {number : Nat} {node : Position (Numbered Item)}
    (found : (itemsOfRules rules).position? number = some node) (axis : Axis) :
    (∀ contentWidth, accumulated contentWidth axis.offset node.value.value.properties
        (node.above.map (·.value.properties)) =
      addTerms contentWidth (axis.terms node.value.value.properties) +
        sum (node.above.map fun item =>
          addTerms contentWidth (axis.terms item.value.properties))) ∧
    ((node.value :: node.above).flatMap fun item => axis.terms item.value.properties).Perm
      (axis.countedTerms ((node.value :: node.above).map (·.value.element.style))) ∧
    (isAbsolute node.value.value.element.style = false → ∀ value : StyleValue,
      propertiesOf ⟨node.value.value.element.style.insert axis.attribute value,
          node.above.map (·.value.element.style)⟩ =
        node.value.value.properties) := by
  rw [itemsOfRules, position?_itemsOf, Option.map_eq_some_iff] at found
  obtain ⟨source, inDocument, rfl⟩ := found
  have member : source ∈ (elementsOf rules).positions [] := List.mem_of_getElem? inDocument
  have present : ∀ element ∈ source.value :: source.above,
      ∃ text, element.value.style.text? axis.attribute = some text := by
    intro element onPath
    have listed : element ∈ (elementsOf rules).preorder := by
      rcases List.mem_cons.1 onPath with rfl | isAbove
      · exact Forest.mem_preorder_of_mem_positions member
      · exact (Forest.mem_preorder_of_mem_above member isAbove).resolve_left List.not_mem_nil
    have filled : (Style.defaultValue? axis.attribute).isSome := by cases axis <;> decide
    obtain ⟨value, lowered⟩ := exists_lowered?_of_mem listed filled
    obtain ⟨text, stored, -⟩ := Option.map_eq_some_iff.1 lowered
    exact ⟨text, stored⟩
  refine ⟨fun contentWidth => ?_, ?_, fun relative value => ?_⟩
  · rw [accumulated, contribution_eq_addTerms, List.map_map]
    simp only [Function.comp_def, contribution_eq_addTerms]
  · rw [Position.path_toItem, map_style_itemPath]
    exact perm_countedTerms axis present
  · obtain ⟨text, own⟩ := present source.value List.mem_cons_self
    have above : source.toItem.above.map (·.value.element.style) =
        source.above.map (·.value.style) := map_style_itemPath source.above
    rw [above]
    exact propertiesOf_insert_attribute axis relative own value _

/-- A label in a group in a box in a page, all with a value for the left. The box is placed
absolutely. -/
def offsetLabel : Forest Rule :=
  .cons (declaringRule (.element (some "page")) [("left", "10%")])
    (.cons (declaringRule (.element (some "box")) [("position", "Absolute"), ("left", "40pt")])
      (.cons (declaringRule (.element (some "group")) [("left", "5pt")])
        (.cons (declaringRule (.element (some "label")) [("left", "7pt"), ("top", "far")])
          .nil .nil)
        .nil)
      .nil)
    .nil

theorem terms_of_position?_offsetLabel :
    ∃ node, (itemsOfRules offsetLabel).position? 3 = some node ∧
      isAbsolute node.value.value.element.style = false ∧
      ((node.value :: node.above).flatMap fun item => Axis.x.terms item.value.properties) =
        [.taken 5, .taken 40, .taken (10 / 100), .taken 40, .taken (10 / 100), .literal 40] ∧
      accumulated 200 Axis.x.offset node.value.value.properties
          (node.above.map (·.value.properties)) =
        addTerms 200 (Axis.x.terms node.value.value.properties) +
          sum (node.above.map fun item => addTerms 200 (Axis.x.terms item.value.properties)) ∧
      ((node.value :: node.above).flatMap fun item => Axis.x.terms item.value.properties).Perm
        (Axis.x.countedTerms ((node.value :: node.above).map (·.value.element.style))) ∧
      propertiesOf ⟨node.value.value.element.style.insert "left" ⟨"1e3pt", .declared⟩,
          node.above.map (·.value.element.style)⟩ =
        node.value.value.properties := by
  have label : ((itemsOfRules offsetLabel).position? 3).map (fun node => decide
      (isAbsolute node.value.value.element.style = false ∧
        ((node.value :: node.above).flatMap fun item => Axis.x.terms item.value.properties) =
          [.taken 5, .taken 40, .taken (10 / 100), .taken 40, .taken (10 / 100), .literal 40])) =
      some true := by decide +kernel
  obtain ⟨node, found, shown⟩ := Option.map_eq_some_iff.1 label
  obtain ⟨relative, terms⟩ := of_decide_eq_true shown
  obtain ⟨added, counted, unmoved⟩ := terms_of_position? found .x
  exact ⟨node, found, relative, terms, added 200, counted, unmoved relative ⟨"1e3pt", .declared⟩⟩

end Folio
