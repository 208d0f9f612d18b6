import Folio.Proofs.DrawnEffect

/-!
# Names and texts

What an element is called and what it says is carried along by every stage and looked at by none.
Each stage commutes with the erasure of names and texts: elements, items and boxes of a document
without them are those of the document, without them. So two documents that differ in nothing else
have the same styles, properties and boxes, and are drawn alike but for the texts in the cells
(`sameButForNames_of_anonymous`).

Whether a rule is a directive was settled when it was read. An element that bears the mark of
directives as its name is an element like any other.
-/

namespace Folio

/-! ## Erasure -/

/-- The kind of a rule without a name. -/
def Rule.Kind.anonymous : Rule.Kind → Rule.Kind
  | .element _ => .element none
  | .directive => .directive

/-- A rule without its name, if it is an element, and without its text. -/
def Rule.anonymous (rule : Rule) : Rule :=
  { rule with kind := rule.kind.anonymous, text := none }

/-- The rule with another name, if it is an element. -/
def Rule.named (name : String) (rule : Rule) : Rule :=
  match rule.kind with
  | .element _ => { rule with kind := .element (some name) }
  | .directive => rule

/-- An element without its name and its text. -/
def Element.anonymous (element : Element) : Element :=
  { element with name := none, text := none }

/-- An item without its name and its text. -/
def Item.anonymous (item : Item) : Item :=
  { item with element := item.element.anonymous }

/-- A box without its name and its text. -/
def Box.anonymous : Box → Box :=
  Box.mapItem (Numbered.map Item.anonymous)

/-- A command without the text of a cell. -/
def Command.withoutText : Command → Command
  | .cell drawn => .cell { drawn with text := "" }
  | command => command

theorem Rule.anonymous_named (name : String) (rule : Rule) :
    (rule.named name).anonymous = rule.anonymous := by
  rcases rule with ⟨kind | _, declarations, text⟩ <;> rfl

/-! ## Elements and items -/

/-- The elements of rules without names and texts. -/
theorem elementsBehind_map_anonymous (directive : Option Style) (rules : Forest Rule) :
    elementsBehind directive (rules.map Rule.anonymous) =
      (elementsBehind directive rules).map Element.anonymous := by
  induction rules generalizing directive with
  | nil => rfl
  | cons rule below rest ihBelow ihRest =>
    cases kind : rule.kind with
    | directive =>
      have kindLeft : rule.anonymous.kind = .directive := by
        rw [Rule.anonymous, kind, Rule.Kind.anonymous]
      rw [Forest.map, elementsBehind_directive kind, elementsBehind_directive kindLeft, ihRest]
      rfl
    | element name =>
      have kindLeft : rule.anonymous.kind = .element none := by
        rw [Rule.anonymous, kind, Rule.Kind.anonymous]
      rw [Forest.map, elementsBehind_element kind, elementsBehind_element kindLeft, ihBelow, ihRest,
        Forest.map]
      rfl

theorem elementsOf_map_anonymous (rules : Forest Rule) :
    elementsOf (rules.map Rule.anonymous) =
      (elementsOf rules).map (Numbered.map Element.anonymous) := by
  rw [elementsOf, elementsBehind_map_anonymous, Forest.number_map, elementsOf]

/-- An item depends on styles only. -/
theorem itemsBelow_map_anonymous (above : List Style) (elements : Elements) :
    itemsBelow above (elements.map (Numbered.map Element.anonymous)) =
      (itemsBelow above elements).map (Numbered.map Item.anonymous) := by
  induction elements generalizing above with
  | nil => rfl
  | cons node below rest ihBelow ihRest =>
    rw [Forest.map, itemsBelow, itemsBelow, Forest.map, ← ihBelow, ← ihRest]
    rfl

theorem itemsOfRules_map_anonymous (rules : Forest Rule) :
    itemsOfRules (rules.map Rule.anonymous) =
      (itemsOfRules rules).map (Numbered.map Item.anonymous) := by
  rw [itemsOfRules, elementsOf_map_anonymous, itemsOf, itemsBelow_map_anonymous, itemsOfRules, itemsOf]

/-! ## Boxes and commands -/

theorem layout?_map_anonymous (contentWidth : Float32) (items : Items) :
    layout? contentWidth (items.map (Numbered.map Item.anonymous)) =
      (layout? contentWidth items).map (List.map Box.anonymous) := by
  have keeps : ∀ node : Numbered Item,
      (node.map Item.anonymous).value.properties = node.value.properties := fun _ => rfl
  exact layout?_map keeps contentWidth items

/-- There is no text in a styling call, if it is made. -/
theorem map_withoutText_optional {α : Type} (value : Option α) {command : α → Command}
    (stays : ∀ a, (command a).withoutText = command a) :
    (value.map command).toList.map Command.withoutText = (value.map command).toList := by
  cases value with
  | none => rfl
  | some a => rw [Option.map_some, Option.toList_some, List.map_singleton, stays]

/-- A box without its text is drawn by the same commands, without the text in its cell. -/
theorem Box.commands_anonymous (originX originY : Float32) (box : Box) :
    box.anonymous.commands originX originY =
      (box.commands originX originY).map Command.withoutText := by
  have step : (if box.breaksLine then Command.newLine box.height else .advance box.width).withoutText =
      if box.breaksLine then .newLine box.height else .advance box.width := by
    split <;> rfl
  rw [commands, commands, List.map_append, List.map_append, List.map_append, List.map_append,
    map_withoutText_optional _ fun _ => rfl, map_withoutText_optional _ fun _ => rfl,
    map_withoutText_optional _ fun _ => rfl, map_withoutText_optional _ fun _ => rfl,
    List.map_cons, List.map_cons, List.map_cons, step]
  rfl

theorem boxCommands_map_anonymous (originX originY : Float32) (boxes : List Box) :
    boxCommands originX originY (boxes.map Box.anonymous) =
      (boxCommands originX originY boxes).map Command.withoutText := by
  have drawn : Box.drawn ∘ Box.anonymous = Box.drawn := rfl
  rw [boxCommands_eq_flatMap, boxCommands_eq_flatMap, List.filter_map, drawn, List.flatMap_map,
    List.map_flatMap]
  congr 1
  funext box
  exact box.commands_anonymous originX originY

/-! ## Two documents -/

/-- Whether two documents come to the same but for names and texts. -/
structure SameButForNames (first second : Forest Rule) : Prop where
  styles : (elementsOf first).map (Numbered.map Element.style) =
    (elementsOf second).map (Numbered.map Element.style)
  properties : (itemsOfRules first).map (Numbered.map Item.properties) =
    (itemsOfRules second).map (Numbered.map Item.properties)
  boxes : ∀ contentWidth : Float32,
    (layout? contentWidth (itemsOfRules first)).map (List.map Box.anonymous) =
      (layout? contentWidth (itemsOfRules second)).map (List.map Box.anonymous)
  commands : ∀ contentWidth originX originY : Float32,
    (layout? contentWidth (itemsOfRules first)).map
        (fun boxes => (boxCommands originX originY boxes).map Command.withoutText) =
      (layout? contentWidth (itemsOfRules second)).map
        fun boxes => (boxCommands originX originY boxes).map Command.withoutText

/-- A document comes to the same as the document without names and texts. -/
theorem sameButForNames_anonymous (rules : Forest Rule) :
    SameButForNames (rules.map Rule.anonymous) rules where
  styles := by
    rw [elementsOf_map_anonymous, Forest.map_map]
    rfl
  properties := by
    rw [itemsOfRules_map_anonymous, Forest.map_map]
    rfl
  boxes contentWidth := by
    have twice : Box.anonymous ∘ Box.anonymous = Box.anonymous := rfl
    rw [itemsOfRules_map_anonymous, layout?_map_anonymous, Option.map_map]
    congr 1
    funext boxes
    rw [Function.comp_apply, List.map_map, twice]
  commands contentWidth originX originY := by
    rw [itemsOfRules_map_anonymous, layout?_map_anonymous, Option.map_map]
    congr 1
    funext boxes
    have twice : Command.withoutText ∘ Command.withoutText = Command.withoutText := by
      funext command
      cases command <;> rfl
    rw [Function.comp_apply, boxCommands_map_anonymous, List.map_map, twice]

theorem SameButForNames.symm {first second : Forest Rule} (same : SameButForNames first second) :
    SameButForNames second first where
  styles := same.styles.symm
  properties := same.properties.symm
  boxes contentWidth := (same.boxes contentWidth).symm
  commands contentWidth originX originY := (same.commands contentWidth originX originY).symm

theorem SameButForNames.trans {first second third : Forest Rule}
    (same : SameButForNames first second) (other : SameButForNames second third) :
    SameButForNames first third where
  styles := same.styles.trans other.styles
  properties := same.properties.trans other.properties
  boxes contentWidth := (same.boxes contentWidth).trans (other.boxes contentWidth)
  commands contentWidth originX originY :=
    (same.commands contentWidth originX originY).trans (other.commands contentWidth originX originY)

/-- Names and texts show nowhere but in the texts of cells. Two documents that are the same without
them have the same styles, properties and boxes, and the same commands but for the texts of cells, in
every area and from every origin. This still holds if the elements of one of them are all named by
the mark of directives. -/
theorem sameButForNames_of_anonymous {first second : Forest Rule}
    (same : first.map Rule.anonymous = second.map Rule.anonymous) :
    SameButForNames first second ∧
      SameButForNames (first.map (Rule.named directiveMark)) second := by
  have marked : (first.map (Rule.named directiveMark)).map Rule.anonymous =
      second.map Rule.anonymous := by
    have names : Rule.anonymous ∘ Rule.named directiveMark = Rule.anonymous :=
      funext (Rule.anonymous_named directiveMark)
    rw [Forest.map_map, names, same]
  have alike : ∀ {first : Forest Rule}, first.map Rule.anonymous = second.map Rule.anonymous →
      SameButForNames first second := by
    intro first same
    have erased := sameButForNames_anonymous first
    rw [same] at erased
    exact erased.symm.trans (sameButForNames_anonymous second)
  exact ⟨alike same, alike marked⟩

/-- A page with a label behind a directive, where the page bears the mark of directives as its
name. -/
def markedPage : Forest Rule :=
  .cons ⟨.element (some directiveMark), .ofList [("color", "#ff0000"), ("display", "block")],
      some "Total"⟩
    (.cons ⟨.directive, .ofList [("width", "50%")], none⟩ .nil
      (.cons ⟨.element (some "label"), .ofList [("display", "inline")], some "A"⟩ .nil .nil))
    (.cons ⟨.element none, .empty, none⟩ .nil .nil)

/-- The page of `markedPage` with other names and texts. -/
def renamedPage : Forest Rule :=
  .cons ⟨.element (some "page"), .ofList [("color", "#ff0000"), ("display", "block")], none⟩
    (.cons ⟨.directive, .ofList [("width", "50%")], some "half"⟩ .nil
      (.cons ⟨.element (some directiveMark), .ofList [("display", "inline")], some "Sum"⟩ .nil .nil))
    (.cons ⟨.element (some "end"), .empty, some "B"⟩ .nil .nil)

theorem sameButForNames_markedPage :
    markedPage.map Rule.anonymous = renamedPage.map Rule.anonymous ∧
    SameButForNames markedPage renamedPage ∧
    SameButForNames (markedPage.map (Rule.named directiveMark)) renamedPage := by
  have same : markedPage.map Rule.anonymous = renamedPage.map Rule.anonymous := rfl
  exact ⟨same, sameButForNames_of_anonymous same⟩

end Folio
