import Folio.Keyword

/-!
# Items

An item is an element with the properties that its style comes to. The forest of items has the shape
and the numbers of the forest of elements. An item depends on its own style and on those above it,
and on nothing else of the document.
-/

namespace Folio

/-- An element with its rendering properties. -/
structure Item where
  element : Element
  properties : Properties

/-- The items of a document, numbered as its elements are. -/
abbrev Items := Forest (Numbered Item)

/-- The item of an element below others. -/
def Element.toItem (above : List Style) (element : Element) : Item :=
  ⟨element, propertiesOf ⟨element.style, above⟩⟩

/-- The items of a level below the given styles, nearest first. -/
def itemsBelow (above : List Style) : Elements → Items
  | .nil => .nil
  | .cons node below rest =>
    .cons ⟨node.id, node.value.toItem above⟩
      (itemsBelow (node.value.style :: above) below)
      (itemsBelow above rest)

/-- The items of a document. -/
def itemsOf (elements : Elements) : Items :=
  itemsBelow [] elements

/-- Changes the properties of the node with a number. -/
def Items.change (items : Items) (id : Nat) (change : Properties → Properties) : Items :=
  items.map fun node =>
    if node.id = id then
      { node with value := { node.value with properties := change node.value.properties } }
    else node

/-- The styles that the declarations of a node can look at. -/
def Position.styleContext (position : Position (Numbered Element)) : StyleContext :=
  ⟨position.value.value.style, position.above.map (·.value.style)⟩

/-- What the log holds about the attributes of an element that are no keywords. -/
def Element.attributesLog (element : Element) : List Record :=
  element.style.entries.filterMap fun (name, value) =>
    if (Keyword.ofName? name).isSome then none
    else some (.trace ("no rendering property for " ++ "\x60" ++ name ++ ": " ++ value.text ++
      "\x60"))

/-- What the log holds about the items of a document. -/
def itemsLog (elements : Elements) : List Record :=
  elements.preorder.flatMap (·.value.attributesLog) ++
    [.debug ("compiled " ++ toString elements.size ++ " layout node(s)")]

end Folio
