import Folio.Proofs.DeclaredChanges
import Folio.Proofs.ItemPositions
import Folio.Proofs.NumberedForest
import Folio.Proofs.ResolvedStyles

/-!
# What is inherited

An alignment or a slant that is none of the words for one is inherited. The element does not ask
what the element above it has come to: it goes up through the styles, past every value that is
inherited in its turn, and stops at the first that is not. The element above has gone the same way
from one place further up, or it is the place to stop. So both come to the same
(`align_of_inherit`, `italic_of_inherit`), up to what stands in where nothing is found.
-/

namespace Folio

/-! ## One keyword for one property -/

/-- The alignment is the business of one keyword alone. -/
theorem align_propertiesOf (context : StyleContext) :
    (propertiesOf context).align =
      (context.own.lowered? "text-align").bind (alignOf? context.above) := by
  rw [view_propertiesOf_of_single Properties.align (fun change align => change.align.or align)
    (fun _ _ => rfl) .textAlign]
  · rw [Keyword.name]
    cases context.own.lowered? "text-align" with
    | none => rfl
    | some value => exact Option.or_none
  · intro other value align apart
    cases other with
    | textAlign => exact absurd rfl apart
    | borderSide side =>
      rw [Keyword.change]
      split <;> rfl
    | _ => rfl

/-- So is the slant; a font that nobody slants is upright. -/
theorem italic_propertiesOf (context : StyleContext) :
    (propertiesOf context).currentFont.italic =
      ((context.own.lowered? "font-style").bind (slantOf? context.above)).getD false := by
  have acts : ∀ change p, (Change.run change p).currentFont.italic =
      (change.font.bind FontChange.italic).getD p.currentFont.italic := by
    intro change p
    rw [Change.run, Properties.currentFont]
    cases change.font <;> rfl
  rw [view_propertiesOf_of_single (fun p => p.currentFont.italic)
    (fun change italic => (change.font.bind FontChange.italic).getD italic) acts .fontStyle]
  · rw [Keyword.name]
    cases context.own.lowered? "font-style" <;> rfl
  · intro other value italic apart
    cases other with
    | fontStyle => exact absurd rfl apart
    | borderSide side =>
      rw [Keyword.change]
      split <;> rfl
    | _ => rfl

/-! ## One step up -/

section StepUp

variable {own : Style} {above : List Style} {value : String}

theorem inheritedValues_cons {name text : String} (inherits : name ∉ accumulatedAttributes)
    (found : own.text? name = some text) :
    inheritedValues (own :: above) name = text :: inheritedValues above name := by
  rw [inheritedValues, inheritedValues, if_neg inherits, if_neg inherits]
  exact List.filterMap_cons_some found

/-- What is inherited from a style and those above it is what that style comes to, or what stands in
for it. -/
theorem getD_inherited?_alignWord (present : own.lowered? "text-align" = some value) :
    (inherited? alignWord (inheritedValues (own :: above) "text-align")).getD .justify =
      (alignOf? above value).getD .justify := by
  obtain ⟨text, found, rfl⟩ := Option.map_eq_some_iff.1 present
  rw [inheritedValues_cons (by decide) found, inherited?, alignOf?]
  cases alignWord (Text.lower text) <;> rfl

theorem getD_inherited?_slantWord (present : own.lowered? "font-style" = some value) :
    (inherited? slantWord (inheritedValues (own :: above) "font-style")).getD false =
      (slantOf? above value).getD false := by
  obtain ⟨text, found, rfl⟩ := Option.map_eq_some_iff.1 present
  rw [inheritedValues_cons (by decide) found, inherited?, slantOf?]
  cases slantWord (Text.lower text) <;> rfl

end StepUp

/-! ## Words -/

theorem alignWord_eq_inherit {value : String}
    (noWord : value ∉ ["left", "right", "center", "justify", "initial"]) :
    alignWord value = .inherit := by
  simp only [List.mem_cons, List.not_mem_nil, or_false, not_or] at noWord
  simp [alignWord, noWord]

theorem slantWord_eq_inherit {value : String}
    (noWord : value ∉ ["italic", "oblique", "normal", "initial"]) :
    slantWord value = .inherit := by
  simp only [List.mem_cons, List.not_mem_nil, or_false, not_or] at noWord
  simp [slantWord, noWord]

/-! ## Elements of a document -/

section Element

variable {rules : Forest Rule} {node : Position (Numbered Element)}
  (member : node ∈ (elementsOf rules).positions [])

include member

/-- An element with nothing above it has no item above it, and else the item nearest above it is
that of the element that it lies directly below. -/
theorem above_toItem_cases :
    node.above = [] ∧ node.toItem.above = [] ∨
      ∃ parent ∈ (elementsOf rules).positions [],
        node.above = parent.value :: parent.above ∧
          node.toItem.above.head? = some parent.toItem.value := by
  obtain ⟨top, -⟩ | ⟨parent, found, up, -⟩ := Forest.exists_parent_of_mem_positions member
  · refine .inl ⟨top, ?_⟩
    rw [Position.toItem, top]
    rfl
  · refine .inr ⟨parent, found, up, ?_⟩
    rw [Position.toItem, up]
    rfl

/-- An element without a word of its own is aligned as the one above it. -/
theorem align_of_inherit {value : String}
    (present : node.value.value.style.lowered? "text-align" = some value)
    (inherits : alignWord value = .inherit) :
    (propertiesOf node.styleContext).align =
      some ((node.toItem.above.head?.bind (·.value.properties.align)).getD .justify) := by
  have own : (propertiesOf node.styleContext).align =
      some ((inherited? alignWord
        (inheritedValues (node.above.map (·.value.style)) "text-align")).getD .justify) := by
    rw [align_propertiesOf, Position.styleContext, present, Option.bind_some, alignOf?, inherits]
  rw [own]
  obtain ⟨top, topItem⟩ | ⟨parent, found, up, upItem⟩ := above_toItem_cases member
  · rw [top, topItem]
    rfl
  · obtain ⟨other, stored⟩ := exists_lowered?_of_mem
      (Forest.mem_preorder_of_mem_positions found)
      (by decide : (Style.defaultValue? "text-align").isSome)
    rw [upItem, Option.bind_some, Position.properties_toItem, align_propertiesOf,
      Position.styleContext, stored, Option.bind_some, up, List.map_cons,
      getD_inherited?_alignWord stored]

/-- Every element has a font. -/
theorem exists_font_of_mem : ∃ font, (propertiesOf node.styleContext).font = some font := by
  obtain ⟨value, family⟩ := exists_lowered?_of_mem (Forest.mem_preorder_of_mem_positions member)
    (by decide : (Style.defaultValue? "font-family").isSome)
  obtain ⟨text, present, -⟩ := Option.map_eq_some_iff.1 family
  exact Option.isSome_iff_exists.1 (isSome_font_propertiesOf present)

/-- An element without a word of its own is slanted as the one above it. -/
theorem italic_of_inherit {value : String}
    (present : node.value.value.style.lowered? "font-style" = some value)
    (inherits : slantWord value = .inherit) :
    (propertiesOf node.styleContext).currentFont.italic =
      (node.toItem.above.head?.map (·.value.properties.currentFont.italic)).getD false := by
  have own : (propertiesOf node.styleContext).currentFont.italic =
      (inherited? slantWord
        (inheritedValues (node.above.map (·.value.style)) "font-style")).getD false := by
    rw [italic_propertiesOf, Position.styleContext, present, Option.bind_some, slantOf?, inherits]
  rw [own]
  obtain ⟨top, topItem⟩ | ⟨parent, found, up, upItem⟩ := above_toItem_cases member
  · rw [top, topItem]
    rfl
  · obtain ⟨other, stored⟩ := exists_lowered?_of_mem
      (Forest.mem_preorder_of_mem_positions found)
      (by decide : (Style.defaultValue? "font-style").isSome)
    rw [upItem, Option.map_some, Option.getD_some, Position.properties_toItem,
      italic_propertiesOf, Position.styleContext, stored, Option.bind_some, up, List.map_cons,
      getD_inherited?_slantWord stored]

end Element

/-- Every element of a document has an alignment word, a slant word and a font. If its alignment is
none of the words for one, it is aligned as the element that it lies directly below has come to be
aligned, or justified if that has no alignment or there is no such element. If its slant is none of
the words for one, it is slanted as the element that it lies directly below, or upright if there is
no such element. -/
theorem inherits_of_position? {rules : Forest Rule} {number : Nat} {node : Position (Numbered Item)}
    (found : (itemsOfRules rules).position? number = some node) :
    ∃ align slant font,
      node.value.value.element.style.lowered? "text-align" = some align ∧
      node.value.value.element.style.lowered? "font-style" = some slant ∧
      node.value.value.properties.font = some font ∧
      (align ∉ ["left", "right", "center", "justify", "initial"] →
        node.value.value.properties.align =
          some ((node.above.head?.bind (·.value.properties.align)).getD .justify)) ∧
      (slant ∉ ["italic", "oblique", "normal", "initial"] →
        (node.above = [] → font.italic = false) ∧
        ∀ parent ∈ node.above.head?,
          parent.value.properties.font.map Font.italic = some font.italic) := by
  rw [itemsOfRules, position?_itemsOf, Option.map_eq_some_iff] at found
  obtain ⟨source, inDocument, rfl⟩ := found
  have member : source ∈ (elementsOf rules).positions [] := List.mem_of_getElem? inDocument
  have listed := Forest.mem_preorder_of_mem_positions member
  obtain ⟨align, aligned⟩ := exists_lowered?_of_mem listed
    (by decide : (Style.defaultValue? "text-align").isSome)
  obtain ⟨slant, slanted⟩ := exists_lowered?_of_mem listed
    (by decide : (Style.defaultValue? "font-style").isSome)
  obtain ⟨font, lettered⟩ := exists_font_of_mem member
  refine ⟨align, slant, font, aligned, slanted, lettered, fun noWord => ?_, fun noWord => ?_⟩
  · exact align_of_inherit member aligned (alignWord_eq_inherit noWord)
  · have italic := italic_of_inherit member slanted (slantWord_eq_inherit noWord)
    rw [Properties.currentFont, lettered, Option.getD_some] at italic
    constructor
    · intro top
      rw [italic, top]
      rfl
    · intro parent isAbove
      obtain ⟨-, topItem⟩ | ⟨above, foundAbove, -, upItem⟩ := above_toItem_cases member
      · rw [topItem] at isAbove
        cases isAbove
      · obtain ⟨fontAbove, letteredAbove⟩ := exists_font_of_mem foundAbove
        rw [upItem] at isAbove italic
        cases isAbove
        rw [Option.map_some, Option.getD_some, Position.properties_toItem, Properties.currentFont,
          letteredAbove, Option.getD_some] at italic
        rw [Position.properties_toItem, letteredAbove, Option.map_some, italic]

/-- A centred, slanted page, a box that inherits the one and resets the other, and a label with
words that are none. -/
def wordlessLabel : Forest Rule :=
  .cons (declaringRule (.element (some "page"))
      [("text-align", "Center"), ("font-style", "oblique")])
    (.cons (declaringRule (.element (some "box"))
        [("text-align", "inherit"), ("font-style", "initial")])
      (.cons (declaringRule (.element (some "label"))
          [("text-align", "START"), ("font-style", "inherit")])
        .nil .nil)
      .nil)
    .nil

theorem inherits_of_position?_wordlessLabel :
    ∃ node font, (itemsOfRules wordlessLabel).position? 2 = some node ∧
      node.value.value.element.style.lowered? "text-align" = some "start" ∧
      "start" ∉ ["left", "right", "center", "justify", "initial"] ∧
      node.value.value.element.style.lowered? "font-style" = some "inherit" ∧
      "inherit" ∉ ["italic", "oblique", "normal", "initial"] ∧
      node.value.value.properties.align = some .center ∧
      node.value.value.properties.font = some font ∧ font.italic = false := by
  have label : ((itemsOfRules wordlessLabel).position? 2).map (fun node => decide
      (node.value.value.element.style.lowered? "text-align" = some "start" ∧
        node.value.value.element.style.lowered? "font-style" = some "inherit" ∧
        (node.above.head?.bind (·.value.properties.align)) = some .center ∧
        (node.above.head?.bind (·.value.properties.font)).map Font.italic = some false)) =
      some true := by decide +kernel
  obtain ⟨node, found, shown⟩ := Option.map_eq_some_iff.1 label
  obtain ⟨start, inherit, centred, upright⟩ := of_decide_eq_true shown
  obtain ⟨parent, isAbove, font, lettered, italic⟩ :
      ∃ parent, node.above.head? = some parent ∧
        ∃ font, parent.value.properties.font = some font ∧ font.italic = false := by
    obtain ⟨font, found, italic⟩ := Option.map_eq_some_iff.1 upright
    obtain ⟨parent, isAbove, lettered⟩ := Option.bind_eq_some_iff.1 found
    exact ⟨parent, isAbove, font, lettered, italic⟩
  obtain ⟨align, slant, own, aligned, slanted, ownFont, alignedAs, slantedAs⟩ :=
    inherits_of_position? found
  cases start.symm.trans aligned
  cases inherit.symm.trans slanted
  have noAlign : "start" ∉ ["left", "right", "center", "justify", "initial"] := by decide
  have noSlant : "inherit" ∉ ["italic", "oblique", "normal", "initial"] := by decide
  have same := (slantedAs noSlant).2 parent isAbove
  rw [lettered, Option.map_some, italic] at same
  exact ⟨node, own, found, start, noAlign, inherit, noSlant,
    by rw [alignedAs noAlign, centred, Option.getD_some], ownFont, (Option.some.inj same).symm⟩

end Folio
