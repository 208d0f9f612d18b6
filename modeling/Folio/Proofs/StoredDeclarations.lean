import Folio.Proofs.DeclaredChanges
import Folio.Proofs.NumberedForest
import Folio.Proofs.ResolvedStyles

/-!
# Declaring what a style stores

An element comes to its properties in one go, with the values of its style put in lower case and
otherwise taken as they are stored. A declaration can also be added to properties by itself, and
then its name and its value are folded first. For the values of an element this makes no
difference: they were trimmed before they were stored (`trim_text?_of_mem`).

The properties of an element are also where its declarations come to rest. Made once more they
change nothing (`declareEach?_declarations`), although a side without a line takes its colour from
what is there, and a font and a border are built up part by part.
-/

namespace Folio

/-- The declarations that a style stores for the keywords, in the order in which they count. -/
def Style.declarations (style : Style) : List (String × String) :=
  Keyword.order.filterMap fun keyword =>
    (style.text? keyword.name).map fun value => (keyword.name, value)

/-- Adds declarations as they are written, one after the other; none if one of the names is no
keyword. -/
def Properties.declareEach? (context : StyleContext) (p : Properties)
    (declarations : List (String × String)) : Option Properties :=
  declarations.foldlM (fun p (name, value) => p.declare? context name value) p

theorem Keyword.ofName?_foldName_name (keyword : Keyword) :
    ofName? (foldName keyword.name) = some keyword := by
  cases keyword with
  | borderSide side => cases side <;> decide
  | borderSideColour side => cases side <;> decide
  | borderSideWidth side => cases side <;> decide
  | _ => decide

/-- A trimmed value is declared as it is compiled. -/
theorem Properties.declare?_name (context : StyleContext) (p : Properties) (keyword : Keyword)
    {value : String} (trimmed : Text.trim value = value) :
    p.declare? context keyword.name value =
      some (keyword.apply context (Text.lower value) p) := by
  rw [declare?, keyword.ofName?_foldName_name, Option.map_some, foldName, trimmed]

/-- Adding the declarations of trimmed values one by one is compiling them in a row. -/
theorem Properties.declareEach?_filterMap {context : StyleContext}
    (trimmed : ∀ name text, context.own.text? name = some text → Text.trim text = text)
    (p : Properties) (keywords : List Keyword) :
    p.declareEach? context (keywords.filterMap fun keyword =>
        (context.own.text? keyword.name).map fun value => (keyword.name, value)) =
      some (declareAll context p keywords) := by
  induction keywords generalizing p with
  | nil => rfl
  | cons keyword rest ih =>
    rw [List.filterMap_cons]
    cases present : context.own.text? keyword.name with
    | none =>
      rw [declareAll_cons_of_none present]
      exact ih p
    | some value =>
      rw [declareAll_cons_of_some present, ← ih, Option.map_some, declareEach?, List.foldlM_cons]
      dsimp only
      rw [p.declare?_name context keyword (trimmed _ _ present)]
      rfl

/-- Adding the stored declarations of an element one by one to no properties comes to the properties
of the element, and adding them all once more to these changes nothing. -/
theorem declareEach?_declarations {rules : Forest Rule} {number : Nat}
    {node : Position (Numbered Element)}
    (found : (elementsOf rules).position? number = some node) :
    Properties.empty.declareEach? node.styleContext node.value.value.style.declarations =
        some (propertiesOf node.styleContext) ∧
      (propertiesOf node.styleContext).declareEach? node.styleContext
          node.value.value.style.declarations =
        some (propertiesOf node.styleContext) := by
  have listed := Forest.mem_preorder_of_mem_positions (List.mem_of_getElem? found)
  have trimmed : ∀ name text, node.styleContext.own.text? name = some text →
      Text.trim text = text := fun _ _ present => trim_text?_of_mem listed present
  have again : declareAll node.styleContext (propertiesOf node.styleContext) Keyword.order =
      propertiesOf node.styleContext :=
    declareAll_declareAll_of_subset (List.Subset.refl Keyword.order) .empty
  have compiled := Properties.declareEach?_filterMap trimmed .empty Keyword.order
  have recompiled := Properties.declareEach?_filterMap trimmed (propertiesOf node.styleContext)
    Keyword.order
  rw [again] at recompiled
  exact ⟨compiled, recompiled⟩

/-- A label with a side without a line, a height that is none beside that of its lines, a weight
that is none, and an inherited slant, in a slanted box. -/
def patchedLabel : Forest Rule :=
  .cons (declaringRule (.element (some "box")) [("font-style", " Italic ")])
    (.cons (declaringRule .directive [("Border-Left", "2PT Solid #00FF00 ")]) .nil
      (.cons (declaringRule (.element (some "label"))
          [("border-top", " None"), ("height", "tall"), ("line-height", "8pt"),
            ("font-weight", "heavy"), ("font-style", "inherit")])
        .nil .nil))
    .nil

theorem declareEach?_declarations_patchedLabel :
    ∃ node, (elementsOf patchedLabel).position? 1 = some node ∧
      (propertiesOf node.styleContext).drawColour = some "#00ff00" ∧
      (propertiesOf node.styleContext).height = some 8 ∧
      Properties.empty.declareEach? node.styleContext node.value.value.style.declarations =
        some (propertiesOf node.styleContext) ∧
      (propertiesOf node.styleContext).declareEach? node.styleContext
          node.value.value.style.declarations =
        some (propertiesOf node.styleContext) := by
  have label : ((elementsOf patchedLabel).position? 1).map (fun node => decide
      ((propertiesOf node.styleContext).drawColour = some "#00ff00" ∧
        (propertiesOf node.styleContext).height = some 8)) = some true := by decide +kernel
  obtain ⟨node, found, shown⟩ := Option.map_eq_some_iff.1 label
  obtain ⟨colour, height⟩ := of_decide_eq_true shown
  exact ⟨node, found, colour, height, declareEach?_declarations found⟩

end Folio
