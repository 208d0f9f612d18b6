import Folio.Proofs.Compiled
import Folio.Rendering

/-!
# From rules to items

The elements and the items of a document are forests of one shape: that of the element rules which
lie outside of directives. `elementRules` lists those rules as a reader of the document meets them,
and `map_preorder_elementsBehind` and `map_element_itemsBelow` say that no stage loses, adds or
moves one.

Beside the shape there are two facts about every node that the later stages rest on. Its style is
complete (`Style.Complete`), since completion comes after everything that could remove a value, and
its properties are those that its own style comes to below some others.
-/

namespace Folio

/-! ## The element rules of a document -/

/-- The element rules that lie outside of directives, in pre-order and with siblings in order. -/
def elementRules : Forest Rule → List Rule
  | .nil => []
  | .cons rule below rest =>
    match rule.kind with
    | .directive => elementRules rest
    | .element _ => rule :: (elementRules below ++ elementRules rest)

theorem elementsBehind_element {rule : Rule} {name : Option String} (kind : rule.kind = .element name)
    (directive : Option Style) (below rest : Forest Rule) :
    elementsBehind directive (.cons rule below rest) =
      .cons (rule.toElement name directive) (elementsBehind none below)
        (elementsBehind directive rest) := by
  rw [elementsBehind, kind]

/-- A directive is carried on, unless another one is carried already. -/
theorem elementsBehind_directive {rule : Rule} (kind : rule.kind = .directive)
    (directive : Option Style) (below rest : Forest Rule) :
    elementsBehind directive (.cons rule below rest) =
      elementsBehind (some (directive.getD rule.ownStyle)) rest := by
  rw [elementsBehind, kind]

/-- The elements are the element rules, each once and in order, with their names and texts. -/
theorem map_preorder_elementsBehind (directive : Option Style) (rules : Forest Rule) :
    (elementsBehind directive rules).preorder.map
        (fun element => (Rule.Kind.element element.name, element.text)) =
      (elementRules rules).map fun rule => (rule.kind, rule.text) := by
  induction rules generalizing directive with
  | nil => rfl
  | cons rule below rest ihBelow ihRest =>
    rw [elementsBehind, elementRules]
    cases kind : rule.kind with
    | directive => exact ihRest _
    | element name =>
      dsimp only
      rw [Forest.preorder, List.map_cons, List.map_append, ihBelow, ihRest, List.map_cons,
        List.map_append, kind]
      rfl

/-- Numbering keeps the elements. -/
theorem map_value_elementsOf (rules : Forest Rule) :
    (elementsOf rules).map Numbered.value = elementsBehind none rules :=
  Forest.map_value_number 0 _

/-! ## Complete styles -/

/-- A style that has a value for every attribute with a default. -/
def Style.Complete (style : Style) : Prop :=
  ∀ name, (Style.defaultValue? name).isSome → (style.get? name).isSome

theorem Style.complete_completed (style : Style) : style.completed.Complete := by
  intro name filled
  rw [get?_completed, Option.isSome_or, filled, Bool.or_true]

theorem Style.complete_merged (style directive : Style) : (style.merged directive).Complete := by
  intro name filled
  rw [get?_merged, Option.isSome_or, filled, Bool.or_true]

@[simp] theorem Rule.style_toElement_none (rule : Rule) (name : Option String) :
    (rule.toElement name none).style = rule.ownStyle := by
  simp only [toElement]

@[simp] theorem Rule.style_toElement_some (rule : Rule) (name : Option String)
    (directive : Style) :
    (rule.toElement name (some directive)).style = rule.ownStyle.merged directive := by
  simp only [toElement]

theorem Rule.complete_toElement (rule : Rule) (name : Option String) (directive : Option Style) :
    (rule.toElement name directive).style.Complete := by
  cases directive with
  | none =>
    rw [style_toElement_none, ownStyle]
    exact Style.complete_completed _
  | some directive =>
    rw [style_toElement_some]
    exact Style.complete_merged _ _

/-- Every element has a complete style. -/
theorem complete_of_mem_elementsBehind {directive : Option Style} {rules : Forest Rule}
    {element : Element} (member : element ∈ (elementsBehind directive rules).preorder) :
    element.style.Complete := by
  induction rules generalizing directive with
  | nil => cases member
  | cons rule below rest ihBelow ihRest =>
    rw [elementsBehind] at member
    cases kind : rule.kind with
    | directive =>
      rw [kind] at member
      exact ihRest member
    | element name =>
      rw [kind] at member
      dsimp only at member
      rw [Forest.preorder, List.mem_cons, List.mem_append] at member
      rcases member with rfl | member | member
      · exact rule.complete_toElement name directive
      · exact ihBelow member
      · exact ihRest member

/-! ## Items -/

/-- An item without its properties. -/
def Numbered.element (node : Numbered Item) : Numbered Element :=
  ⟨node.id, node.value.element⟩

/-- The items are the elements with properties: same shape, same numbers. -/
@[simp] theorem map_element_itemsBelow (above : List Style) (elements : Elements) :
    (itemsBelow above elements).map Numbered.element = elements := by
  induction elements generalizing above with
  | nil => rfl
  | cons node below rest ihBelow ihRest =>
    rw [itemsBelow, Forest.map, ihBelow, ihRest]
    rfl

/-- Every item has the properties that its own style comes to below some others. -/
theorem properties_of_mem_itemsBelow {above : List Style} {elements : Elements}
    {node : Numbered Item} (member : node ∈ (itemsBelow above elements).preorder) :
    ∃ above, node.value.properties = propertiesOf ⟨node.value.element.style, above⟩ := by
  induction elements generalizing above with
  | nil => cases member
  | cons head below rest ihBelow ihRest =>
    rw [itemsBelow, Forest.preorder, List.mem_cons, List.mem_append] at member
    rcases member with rfl | member | member
    · exact ⟨above, rfl⟩
    · exact ihBelow member
    · exact ihRest member

/-- The items of a document are those of its element rules, each once and in order. -/
theorem map_preorder_itemsOfRules (rules : Forest Rule) :
    (itemsOfRules rules).preorder.map
        (fun node => (Rule.Kind.element node.value.element.name, node.value.element.text)) =
      (elementRules rules).map fun rule => (rule.kind, rule.text) := by
  rw [← map_preorder_elementsBehind none, ← map_value_elementsOf, itemsOfRules, itemsOf]
  conv =>
    rhs
    rw [← map_element_itemsBelow [] (elementsOf rules), Forest.preorder_map,
      Forest.preorder_map, List.map_map, List.map_map]
  rfl

/-- An item of a document has a complete style. -/
theorem complete_of_mem_itemsOfRules {rules : Forest Rule} {node : Numbered Item}
    (member : node ∈ (itemsOfRules rules).preorder) : node.value.element.style.Complete := by
  have inTree : node.value.element ∈ (elementsBehind none rules).preorder := by
    rw [← map_value_elementsOf, ← map_element_itemsBelow [] (elementsOf rules),
      Forest.preorder_map, Forest.preorder_map]
    exact List.mem_map_of_mem (List.mem_map_of_mem member)
  exact complete_of_mem_elementsBehind inTree

/-- Every item of a document has a font. -/
theorem isSome_font_of_mem_itemsOfRules {rules : Forest Rule} {node : Numbered Item}
    (member : node ∈ (itemsOfRules rules).preorder) : node.value.properties.font.isSome := by
  obtain ⟨above, compiled⟩ := properties_of_mem_itemsBelow member
  have lettered := complete_of_mem_itemsOfRules member "font-family" (by decide)
  obtain ⟨value, present⟩ := Option.isSome_iff_exists.1 lettered
  have family : node.value.element.style.text? "font-family" = some value.text := by
    rw [Style.text?, present]
    rfl
  rw [compiled]
  exact isSome_font_propertiesOf family

/-! ## What is seen of elements -/

/-- What the later stages see of an element. -/
def Element.seen (element : Element) : Option String × Attributes (String × Bool) × Option String :=
  (element.name, element.style.seen, element.text)

/-- Changes the value of a node. -/
def Numbered.map {α β : Type} (change : α → β) (node : Numbered α) : Numbered β :=
  ⟨node.id, change node.value⟩

theorem Forest.number_map {α β : Type} (change : α → β) (next : Nat) (forest : Forest α) :
    (forest.map change).number next = (forest.number next).map (Numbered.map change) := by
  induction forest generalizing next with
  | nil => rfl
  | cons value below rest ihBelow ihRest =>
    rw [Forest.map, number, number, Forest.map, ihBelow, ihRest, size_map]
    rfl

/-- A node without its style. -/
def Numbered.withoutStyle (node : Numbered Item) : Numbered Item :=
  ⟨node.id, ⟨{ node.value.element with style := ∅ }, node.value.properties⟩⟩

/-- What counts of an element: its name, the effect of its style, and its text. -/
def Element.effect (element : Element) :
    Option String × (String → Option (String × Bool)) × Option String :=
  (element.name, element.style.effect, element.text)

/-- Elements of which the same counts have the same items but for the styles. -/
theorem itemsBelow_congr_effect {first second : Elements} {firstAbove secondAbove : List Style}
    (same : first.map (Numbered.map Element.effect) = second.map (Numbered.map Element.effect))
    (sameAbove : firstAbove.map Style.effect = secondAbove.map Style.effect) :
    (itemsBelow firstAbove first).map Numbered.withoutStyle =
      (itemsBelow secondAbove second).map Numbered.withoutStyle := by
  induction first generalizing second firstAbove secondAbove with
  | nil =>
    cases second with
    | nil => rfl
    | cons => cases same
  | cons node below rest ihBelow ihRest =>
    cases second with
    | nil => cases same
    | cons node' below' rest' =>
      rw [Forest.map, Forest.map, Forest.cons.injEq] at same
      obtain ⟨sameNode, sameBelow, sameRest⟩ := same
      simp only [Numbered.map, Element.effect, Numbered.mk.injEq, Prod.mk.injEq] at sameNode
      obtain ⟨sameId, sameName, sameStyle, sameText⟩ := sameNode
      have context : StyleContext.SameEffect ⟨node.value.style, firstAbove⟩
          ⟨node'.value.style, secondAbove⟩ := ⟨sameStyle, sameAbove⟩
      have sameBelowAbove : (node.value.style :: firstAbove).map Style.effect =
          (node'.value.style :: secondAbove).map Style.effect := by
        rw [List.map_cons, List.map_cons, sameStyle, sameAbove]
      rw [itemsBelow, itemsBelow, Forest.map, Forest.map, ihBelow sameBelow sameBelowAbove,
        ihRest sameRest sameAbove]
      simp only [Numbered.withoutStyle, Element.toItem, sameId, sameName, sameText,
        context.propertiesOf_eq]

/-- Elements of which the same is seen have the same items but for the styles. -/
theorem itemsBelow_congr {first second : Elements} {firstAbove secondAbove : List Style}
    (same : first.map (Numbered.map Element.seen) = second.map (Numbered.map Element.seen))
    (sameAbove : firstAbove.map Style.seen = secondAbove.map Style.seen) :
    (itemsBelow firstAbove first).map Numbered.withoutStyle =
      (itemsBelow secondAbove second).map Numbered.withoutStyle := by
  have effects : ∀ elements : Elements, elements.map (Numbered.map Element.effect) =
      (elements.map (Numbered.map Element.seen)).map
        (Numbered.map fun seen => (seen.1, effectOfSeen seen.2.1, seen.2.2)) := by
    intro elements
    rw [Forest.map_map]
    congr 1
    funext node
    simp only [Function.comp_apply, Numbered.map, Element.effect, Element.seen,
      Style.effect_eq_effectOfSeen]
  refine itemsBelow_congr_effect ?_ ?_
  · rw [effects, effects, same]
  · rw [Style.map_effect_eq_map_effectOfSeen, Style.map_effect_eq_map_effectOfSeen, sameAbove]

/-! ## Layout of a document -/

/-- A result of which something is seen is there. -/
theorem exists_ok_of_map_toOption {ε α β : Type} {result : Except ε α} {view : α → β} {value : β}
    (seen : result.toOption.map view = some value) : ∃ a, result = .ok a ∧ view a = value := by
  cases result with
  | error error => cases seen
  | ok a => exact ⟨a, rfl, Option.some.inj seen⟩

theorem layoutDocument_of_read {text : String} {rules : Forest Rule}
    (read : readDocument text = .ok rules) (config : Config) :
    layoutDocument text config = layoutRules rules config := by
  rw [layoutDocument, read]
  rfl

/-- A document is laid out if it can be read and the content area has a width. -/
theorem layoutDocument_eq_ok_iff (text : String) (config : Config) (boxes : List Box) :
    layoutDocument text config = .ok boxes ↔
      ∃ rules, readDocument text = .ok rules ∧
        layout? config.contentWidth (itemsOfRules rules) = some boxes := by
  cases read : readDocument text with
  | error error =>
    rw [layoutDocument, read]
    simp [Except.mapError, bind, Except.bind]
  | ok rules =>
    rw [layoutDocument_of_read read, layoutRules]
    cases laid : layout? config.contentWidth (itemsOfRules rules) with
    | none => simp [laid]
    | some placed => simp [laid]

end Folio
