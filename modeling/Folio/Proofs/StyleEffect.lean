import Folio.Item
import Folio.Proofs.LengthCase
import Folio.Proofs.StyleLookup

/-!
# The effect of a style

A style holds more than any later stage makes use of. `Style.effect` is what is left of it: for the
keywords and for the position the value in lower case, and whether somebody wrote it. What an element
comes to depends on no more than that (`StyleContext.SameEffect.propertiesOf_eq`), although values
are read in two ways: those of the element itself in lower case, and those of the elements above as
they stand in their styles.

Filling in the defaults and merging a directive go along with it: the effect of the outcome is a
matter of the effects of what goes in (`Style.effect_completed_congr`,
`Style.effect_merged_congr`).
-/

namespace Folio

/-! ## Attributes with an effect -/

/-- Whether an attribute has an effect: the keywords have one, and so has the position. -/
def isEffective (name : String) : Bool :=
  (Keyword.ofName? name).isSome || name == "position"

theorem Keyword.isEffective_name (keyword : Keyword) : isEffective keyword.name = true := by
  cases keyword with
  | borderSide side => cases side <;> decide
  | borderSideColour side => cases side <;> decide
  | borderSideWidth side => cases side <;> decide
  | _ => decide

/-- The effect of a value: its text in lower case, and whether it was written by somebody. -/
def StyleValue.effect (value : StyleValue) : String × Bool :=
  (Text.lower value.text, value.origin.isWritten)

/-- The effect of a style: the effects of its values for the attributes that have one. -/
def Style.effect (style : Style) (name : String) : Option (String × Bool) :=
  if isEffective name then (style.get? name).map StyleValue.effect else none

namespace Style

/-- Two styles have one effect if their values for every attribute with an effect have. -/
theorem effect_eq_iff {first second : Style} :
    first.effect = second.effect ↔ ∀ name, isEffective name = true →
      (first.get? name).map StyleValue.effect = (second.get? name).map StyleValue.effect := by
  constructor
  · intro same name effective
    have found := congrFun same name
    rwa [effect, effect, if_pos effective, if_pos effective] at found
  · intro same
    funext name
    by_cases effective : isEffective name = true
    · rw [effect, effect, if_pos effective, if_pos effective, same name effective]
    · rw [effect, effect, if_neg effective, if_neg effective]

section Reading

variable {name : String} (effective : isEffective name = true) (style : Style)

include effective

theorem map_lower_text? :
    (style.text? name).map Text.lower = (style.effect name).map Prod.fst := by
  rw [text?, effect, if_pos effective, Option.map_map, Option.map_map]
  rfl

theorem hasWritten_eq_effect :
    style.hasWritten name = ((style.effect name).map Prod.snd).getD false := by
  rw [hasWritten_eq, effect, if_pos effective, Option.map_map]
  rfl

end Reading

/-! ## Where styles come from -/

/-- The effect of declarations is that of the last spelling of every name. -/
theorem effect_ofDeclarations (declarations : Attributes String) {name : String}
    (effective : isEffective name = true) :
    (ofDeclarations declarations).effect name =
      (spellings declarations name).getLast?.map fun entry => (foldName entry.2, true) := by
  have named : name ≠ "" := by
    rintro rfl
    revert effective
    decide
  rw [effect, if_pos effective, get?_ofDeclarations _ _ named, Option.map_map]
  rfl

theorem effect_completed_congr {first second : Style} (same : first.effect = second.effect) :
    first.completed.effect = second.completed.effect := by
  rw [effect_eq_iff] at same ⊢
  intro name effective
  rw [get?_completed, get?_completed, Option.map_or, Option.map_or, same name effective]

/-- What a directive passes on is written, with the text that it has there. -/
theorem map_effect_bind_passOn? (value : Option StyleValue) :
    (value.bind passOn?).map StyleValue.effect =
      (value.map StyleValue.effect).bind fun effect =>
        if effect.2 then some (effect.1, true) else none := by
  cases value with
  | none => rfl
  | some value =>
    rw [Option.bind_some, Option.map_some, Option.bind_some, passOn?, StyleValue.effect]
    split <;> rfl

theorem effect_merged_congr {first second firstDirective secondDirective : Style}
    (same : first.effect = second.effect)
    (sameDirective : firstDirective.effect = secondDirective.effect) :
    (first.merged firstDirective).effect = (second.merged secondDirective).effect := by
  rw [effect_eq_iff] at sameDirective ⊢
  intro name effective
  have own := effect_eq_iff.1 same name effective
  have written : first.hasWritten name = second.hasWritten name := by
    rw [hasWritten_eq_effect effective, hasWritten_eq_effect effective, same]
  rw [get?_merged, get?_merged, Option.map_or, Option.map_or, written]
  congr 1
  split
  · exact own
  · rw [Option.map_or, Option.map_or, map_effect_bind_passOn?, map_effect_bind_passOn?, own,
      sameDirective name effective]

end Style

/-! ## What declarations look at -/

/-- Candidates are compared in lower case. -/
theorem inherited?_map_lower {α : Type} (classify : String → Inheritable α)
    (candidates : List String) :
    inherited? classify (candidates.map Text.lower) = inherited? classify candidates := by
  induction candidates with
  | nil => rfl
  | cons candidate others ih =>
    rw [List.map_cons, inherited?, inherited?, Text.lower_lower, ih]

/-- A length can be written in either case. -/
theorem bind_parse?_eq (text : Option String) :
    text.bind Length.parse? = (text.map Text.lower).bind Length.parse? := by
  cases text with
  | none => rfl
  | some text =>
    rw [Option.map_some, Option.bind_some, Option.bind_some, Length.parse?_lower]

/-- Two contexts with the same effect. -/
structure StyleContext.SameEffect (first second : StyleContext) : Prop where
  own : first.own.effect = second.own.effect
  above : first.above.map Style.effect = second.above.map Style.effect

namespace StyleContext.SameEffect

variable {first second : StyleContext}

theorem map_lower_text? (same : first.SameEffect second) {name : String}
    (effective : isEffective name = true) :
    (first.own.text? name).map Text.lower = (second.own.text? name).map Text.lower := by
  rw [Style.map_lower_text? effective, Style.map_lower_text? effective, same.own]

theorem isAbsolute (same : first.SameEffect second) :
    Folio.isAbsolute first.own = Folio.isAbsolute second.own := by
  have texts : ∀ own : Style, Folio.isAbsolute own =
      (((own.text? "position").map Text.lower).map (· == "absolute")).getD false := by
    intro own
    rw [Folio.isAbsolute]
    cases own.text? "position" <;> rfl
  rw [texts, texts, same.map_lower_text? (by decide)]

/-- The values above that can be inherited are the same in lower case. -/
theorem inherited? (same : first.SameEffect second) {α : Type} (classify : String → Inheritable α)
    {name : String} (effective : isEffective name = true) :
    Folio.inherited? classify (inheritedValues first.above name) =
      Folio.inherited? classify (inheritedValues second.above name) := by
  have texts : ∀ above : List Style, (above.filterMap (·.text? name)).map Text.lower =
      (above.map Style.effect).filterMap fun effect => (effect name).map Prod.fst := by
    intro above
    rw [List.map_filterMap, List.filterMap_map]
    congr 1
    exact funext fun style => style.map_lower_text? effective
  rw [← inherited?_map_lower, ← inherited?_map_lower classify (inheritedValues second.above name),
    inheritedValues, inheritedValues]
  split
  · rfl
  · rw [texts, texts, same.above]

/-- The lengths that were written above, which is all that an offset takes from there. -/
theorem lengthsAbove (same : first.SameEffect second) {name : String}
    (effective : isEffective name = true) :
    (writtenAbove first.above name).filterMap (fun style => (style.text? name).bind Length.parse?) =
      (writtenAbove second.above name).filterMap
        fun style => (style.text? name).bind Length.parse? := by
  have lengths : ∀ above : List Style,
      (writtenAbove above name).filterMap (fun style => (style.text? name).bind Length.parse?) =
        (above.map Style.effect).filterMap fun effect =>
          if ((effect name).map Prod.snd).getD false then
            ((effect name).map Prod.fst).bind Length.parse?
          else none := by
    intro above
    rw [writtenAbove, List.filterMap_filter, List.filterMap_map]
    congr 1
    funext style
    rw [style.hasWritten_eq_effect effective, bind_parse?_eq, style.map_lower_text? effective]
    rfl
  rw [lengths, lengths, same.above]

theorem offset? (same : first.SameEffect second) {name : String}
    (effective : isEffective name = true) (value : String) :
    Folio.offset? first name value = Folio.offset? second name value := by
  rw [Folio.offset?, Folio.offset?, same.isAbsolute, same.lengthsAbove effective]

theorem apply (same : first.SameEffect second) (keyword : Keyword) (value : String)
    (p : Properties) : keyword.apply first value p = keyword.apply second value p := by
  have effective := keyword.isEffective_name
  cases keyword with
  | textAlign =>
    have inherited := same.inherited? alignWord effective
    rw [Keyword.name] at inherited
    simp only [Keyword.apply, inherited]
  | fontStyle =>
    have inherited := same.inherited? slantWord effective
    rw [Keyword.name] at inherited
    simp only [Keyword.apply, inherited]
  | left =>
    have offset := same.offset? effective value
    rw [Keyword.name] at offset
    simp only [Keyword.apply, offset]
  | top =>
    have offset := same.offset? effective value
    rw [Keyword.name] at offset
    simp only [Keyword.apply, offset]
  -- The other keywords do not look at the context.
  | _ => simp only [Keyword.apply]

/-- An element comes to the same in contexts with the same effect. -/
theorem propertiesOf_eq (same : first.SameEffect second) :
    propertiesOf first = propertiesOf second := by
  rw [propertiesOf, propertiesOf]
  congr 1
  funext p keyword
  have text := same.map_lower_text? keyword.isEffective_name
  cases own : first.own.text? keyword.name with
  | none =>
    rw [own, Option.map_none, eq_comm, Option.map_eq_none_iff] at text
    rw [text]
  | some value =>
    rw [own, Option.map_some, eq_comm, Option.map_eq_some_iff] at text
    obtain ⟨other, found, lowered⟩ := text
    rw [found]
    dsimp only
    rw [lowered]
    exact same.apply keyword (Text.lower value) p

end StyleContext.SameEffect

end Folio
