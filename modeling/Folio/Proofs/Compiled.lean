import Folio.Proofs.StyleEffect

/-!
# What a style compiles to

`propertiesOf` folds the declarations of an element over the keywords in their order. Three facts
about that fold are collected here.

It reads of a style what `Style.seen` keeps: the texts, and which of them somebody wrote, but not
who did (`propertiesOf_congr`). A property that one keyword always produces and none takes back is
there in the end (`propertiesOf_of_established`), which gives every complete style a font. And the
line break is the business of one keyword alone (`lineBreak_propertiesOf`).
-/

namespace Folio

/-! ## What is seen of a style -/

/-- What the later stages see of a value: its text, and whether it was written by somebody. -/
def StyleValue.seen (value : StyleValue) : String × Bool :=
  (value.text, value.origin.isWritten)

/-- What the later stages see of a style. -/
def Style.seen (style : Style) : Attributes (String × Bool) :=
  style.filterMap fun value => some value.seen

theorem Style.get?_seen (style : Style) (name : String) :
    style.seen.get? name = (style.get? name).map StyleValue.seen := by
  rw [seen, Attributes.get?_filterMap]
  cases style.get? name <;> rfl

/-- Two contexts in which the later stages see the same. -/
structure StyleContext.Alike (first second : StyleContext) : Prop where
  own : first.own.seen = second.own.seen
  above : first.above.map Style.seen = second.above.map Style.seen

/-- The effect of a style by what is seen of it. -/
def effectOfSeen (seen : Attributes (String × Bool)) (name : String) : Option (String × Bool) :=
  if isEffective name then (seen.get? name).map fun value => (Text.lower value.1, value.2) else none

theorem Style.effect_eq_effectOfSeen (style : Style) : style.effect = effectOfSeen style.seen := by
  funext name
  rw [effect, effectOfSeen, get?_seen, Option.map_map]
  rfl

theorem Style.map_effect_eq_map_effectOfSeen (styles : List Style) :
    styles.map Style.effect = (styles.map Style.seen).map effectOfSeen := by
  rw [List.map_map]
  exact List.map_congr_left fun style _ => style.effect_eq_effectOfSeen

/-- What is seen of a context tells its effect. -/
theorem StyleContext.Alike.sameEffect {first second : StyleContext} (alike : first.Alike second) :
    first.SameEffect second where
  own := by rw [Style.effect_eq_effectOfSeen, Style.effect_eq_effectOfSeen, alike.own]
  above := by
    rw [Style.map_effect_eq_map_effectOfSeen, Style.map_effect_eq_map_effectOfSeen, alike.above]

/-- Compilation reads of styles what is seen of them. -/
theorem propertiesOf_congr {first second : StyleContext} (alike : first.Alike second) :
    propertiesOf first = propertiesOf second :=
  alike.sameEffect.propertiesOf_eq

/-- The value of an attribute in lower case, which is how declarations take it. -/
def Style.lowered? (style : Style) (name : String) : Option String :=
  (style.text? name).map Text.lower

/-! ## Properties that are always there -/

/-- The properties behind the declarations of a style for some keywords in a row. -/
def declareAll (context : StyleContext) (p : Properties) (keywords : List Keyword) : Properties :=
  keywords.foldl
    (fun p keyword =>
      match context.own.text? keyword.name with
      | some value => keyword.apply context (Text.lower value) p
      | none => p)
    p

theorem propertiesOf_eq_declareAll (context : StyleContext) :
    propertiesOf context = declareAll context .empty Keyword.order := rfl

theorem declareAll_append (context : StyleContext) (p : Properties)
    (first second : List Keyword) :
    declareAll context p (first ++ second) =
      declareAll context (declareAll context p first) second :=
  List.foldl_append

theorem declareAll_cons_of_some {context : StyleContext} {keyword : Keyword} {value : String}
    (present : context.own.text? keyword.name = some value) (p : Properties)
    (rest : List Keyword) :
    declareAll context p (keyword :: rest) =
      declareAll context (keyword.apply context (Text.lower value) p) rest := by
  rw [declareAll, List.foldl_cons, present]
  rfl

theorem declareAll_cons_of_none {context : StyleContext} {keyword : Keyword}
    (absent : context.own.text? keyword.name = none) (p : Properties) (rest : List Keyword) :
    declareAll context p (keyword :: rest) = declareAll context p rest := by
  rw [declareAll, List.foldl_cons, absent]
  rfl

/-- What every one of some declarations keeps, all of them together keep. -/
theorem declareAll_keeps (holds : Properties → Prop) {context : StyleContext}
    {keywords : List Keyword}
    (kept : ∀ keyword ∈ keywords, ∀ value p, holds p → holds (keyword.apply context value p))
    {p : Properties} (start : holds p) : holds (declareAll context p keywords) := by
  induction keywords generalizing p with
  | nil => exact start
  | cons keyword rest ih =>
    have keptRest := fun next member => kept next (List.mem_cons_of_mem keyword member)
    cases present : context.own.text? keyword.name with
    | none =>
      rw [declareAll_cons_of_none present]
      exact ih keptRest start
    | some value =>
      rw [declareAll_cons_of_some present]
      exact ih keptRest (kept keyword List.mem_cons_self (Text.lower value) p start)

/-- What the declaration of one keyword establishes, and none takes back, holds in the end. -/
theorem propertiesOf_of_established (holds : Properties → Prop) {context : StyleContext}
    {keyword : Keyword} {value : String} (ordered : keyword ∈ Keyword.order)
    (present : context.own.text? keyword.name = some value)
    (established : ∀ p, holds (keyword.apply context (Text.lower value) p))
    (kept : ∀ keyword value p, holds p → holds (Keyword.apply context value p keyword)) :
    holds (propertiesOf context) := by
  obtain ⟨before, after, split⟩ := List.append_of_mem ordered
  rw [propertiesOf_eq_declareAll, split, declareAll_append, declareAll_cons_of_some present]
  exact declareAll_keeps holds (fun keyword _ => kept keyword) (established _)

/-- No declaration takes a font away. -/
theorem isSome_font_apply (context : StyleContext) (keyword : Keyword) (value : String)
    (p : Properties) (lettered : p.font.isSome) :
    (keyword.apply context value p).font.isSome := by
  cases keyword <;> simp only [Keyword.apply] <;> repeat' split
  all_goals first | exact lettered | rfl

/-- An element whose style has a font family has a font. -/
theorem isSome_font_propertiesOf {context : StyleContext} {family : String}
    (present : context.own.text? "font-family" = some family) :
    (propertiesOf context).font.isSome := by
  have ordered : Keyword.fontFamily ∈ Keyword.order := by decide
  exact propertiesOf_of_established (fun p => p.font.isSome) ordered present (fun _ => rfl)
    (isSome_font_apply context)

/-! ## The line break -/

theorem lineBreak_apply_of_ne (context : StyleContext) {keyword : Keyword}
    (other : keyword ≠ .display) (value : String) (p : Properties) :
    (keyword.apply context value p).lineBreak = p.lineBreak := by
  cases keyword <;> simp only [Keyword.apply] <;> repeat' split
  all_goals first | rfl | exact absurd rfl other

/-- The line break says whether the display of the element is that of a block, and is absent if it
has none. -/
theorem lineBreak_propertiesOf (context : StyleContext) :
    (propertiesOf context).lineBreak =
      (context.own.text? "display").map fun value => Text.lower value == "block" := by
  have split : Keyword.order = Keyword.order.dropLast ++ [.display] := by decide
  have others : ∀ keyword ∈ Keyword.order.dropLast, keyword ≠ .display := by decide
  have before : (declareAll context .empty Keyword.order.dropLast).lineBreak = none := by
    refine declareAll_keeps (fun p => p.lineBreak = none) ?_ rfl
    intro keyword member value p absent
    rw [lineBreak_apply_of_ne context (others keyword member), absent]
  rw [propertiesOf_eq_declareAll, split, declareAll_append]
  change _ = (context.own.text? Keyword.display.name).map _
  cases present : context.own.text? Keyword.display.name with
  | none =>
    rw [declareAll_cons_of_none present]
    exact before
  | some value =>
    rw [declareAll_cons_of_some present]
    rfl

end Folio
