import Mathlib.Data.List.Nodup
import Folio.Proofs.DrawnEffect

/-!
# Inert input

Much that can be said in a document never shows. Of a directive only the style counts, and only if
it is the first one of its level and an element stands behind it there. Of a style only the keywords
and the position count. `PrunedTo` relates a document to what is left of it when any of the rest is
deleted, at any depth and in any combination, and `map_boxCommands_layout?_of_prunedTo` says that the
same commands draw both.

The flag of `PrunedTo` tells whether the walk over a level has passed a directive. It is what lets a
later directive go, and in the proof it is the invariant that the walk carries a directive's style.
-/

namespace Folio

/-! ## What may be deleted -/

/-- Whether declarations are what is left of others when some attributes are deleted that have no
effect. -/
structure OnlyInertDeleted (declarations left : Attributes String) : Prop where
  kept : left.entries.Sublist declarations.entries
  effective : ∀ entry ∈ declarations.entries, isEffective (foldName entry.1) = true →
    entry ∈ left.entries

instance (declarations left : Attributes String) : Decidable (OnlyInertDeleted declarations left) :=
  decidable_of_iff
    (left.entries.Sublist declarations.entries ∧
      ∀ entry ∈ declarations.entries, isEffective (foldName entry.1) = true →
        entry ∈ left.entries)
    ⟨fun ⟨kept, effective⟩ => ⟨kept, effective⟩, fun deleted => ⟨deleted.kept, deleted.effective⟩⟩

/-- What is left of the rules of a level when inert input is deleted on it and below it. The level
stands behind a directive if the flag says so. The text of a directive and the rules below it may
become anything, nothing included. -/
inductive PrunedTo : Bool → Forest Rule → Forest Rule → Prop
  | nil (behind : Bool) : PrunedTo behind .nil .nil
  /-- An element stays, without some of the attributes that have no effect. -/
  | element {behind : Bool} {rule : Rule} {name : Option String} {declarations : Attributes String}
      {below belowLeft rest restLeft : Forest Rule} (kind : rule.kind = .element name)
      (deleted : OnlyInertDeleted rule.declarations declarations)
      (inner : PrunedTo false below belowLeft) (outer : PrunedTo behind rest restLeft) :
      PrunedTo behind (.cons rule below rest)
        (.cons { rule with declarations := declarations } belowLeft restLeft)
  /-- A directive stays, and nothing of it but its attributes counts. -/
  | directive {behind : Bool} {rule : Rule} {declarations : Attributes String}
      {below rest restLeft : Forest Rule} (kind : rule.kind = .directive)
      (deleted : OnlyInertDeleted rule.declarations declarations) (text : Option String)
      (belowLeft : Forest Rule) (outer : PrunedTo true rest restLeft) :
      PrunedTo behind (.cons rule below rest)
        (.cons ⟨.directive, declarations, text⟩ belowLeft restLeft)
  /-- A directive goes that is not the first one of its level. -/
  | later {rule : Rule} {below rest restLeft : Forest Rule} (kind : rule.kind = .directive)
      (outer : PrunedTo true rest restLeft) : PrunedTo true (.cons rule below rest) restLeft
  /-- A directive goes that has no element behind it on its level. -/
  | last {behind : Bool} {rule : Rule} {below rest restLeft : Forest Rule}
      (kind : rule.kind = .directive) (idle : ∀ other ∈ rest.roots, other.kind = .directive)
      (outer : PrunedTo true rest restLeft) : PrunedTo behind (.cons rule below rest) restLeft

/-! ## One rule -/

theorem Attributes.nodup_entries {β : Type} (m : Attributes β) : m.entries.Nodup := by
  refine m.ordered.imp ?_
  rintro entry other before rfl
  exact String.lt_irrefl entry.1 before

namespace Style

/-- The attributes with an effect are all left. -/
theorem filter_effective_of_onlyInertDeleted {declarations left : Attributes String}
    (deleted : OnlyInertDeleted declarations left) :
    left.entries.filter (fun entry => isEffective (foldName entry.1)) =
      declarations.entries.filter fun entry => isEffective (foldName entry.1) := by
  refine (deleted.kept.filter _).eq_of_length_le ?_
  refine (List.subperm_of_subset (declarations.nodup_entries.filter _) ?_).length_le
  intro entry member
  rw [List.mem_filter] at member ⊢
  exact ⟨deleted.effective entry member.1 member.2, member.2⟩

/-- The spellings of a name with an effect are to be found among the entries with an effect. -/
theorem spellings_eq_filter (declarations : Attributes String) {name : String}
    (effective : isEffective name = true) :
    spellings declarations name =
      let entries := declarations.entries.filter fun entry => isEffective (foldName entry.1)
      (entries.filter fun entry => foldName entry.1 == name && !isFolded entry.1) ++
        entries.filter fun entry => foldName entry.1 == name && isFolded entry.1 := by
  have among : ∀ spelled : String × String → Bool,
      (declarations.entries.filter fun entry => foldName entry.1 == name && spelled entry) =
        (declarations.entries.filter fun entry => isEffective (foldName entry.1)).filter
          fun entry => foldName entry.1 == name && spelled entry := by
    intro spelled
    rw [List.filter_filter]
    refine List.filter_congr fun entry _ => ?_
    by_cases named : foldName entry.1 = name
    · rw [named, effective, Bool.and_true]
    · rw [beq_eq_false_iff_ne.2 named, Bool.false_and, Bool.false_and]
  rw [spellings, among fun entry => !isFolded entry.1, among fun entry => isFolded entry.1]

/-- Declarations have the effect of what is left of them. -/
theorem effect_ofDeclarations_of_onlyInertDeleted {declarations left : Attributes String}
    (deleted : OnlyInertDeleted declarations left) :
    (ofDeclarations declarations).effect = (ofDeclarations left).effect := by
  funext name
  by_cases effective : isEffective name = true
  · rw [effect_ofDeclarations _ effective, effect_ofDeclarations _ effective,
      spellings_eq_filter _ effective, spellings_eq_filter _ effective,
      filter_effective_of_onlyInertDeleted deleted]
  · rw [effect, effect, if_neg effective, if_neg effective]

end Style

/-! ## Documents -/

/-- On a level without elements there is nothing. -/
theorem elementsBehind_of_idle {rules : Forest Rule}
    (idle : ∀ rule ∈ rules.roots, rule.kind = .directive) (directive : Option Style) :
    elementsBehind directive rules = .nil := by
  induction rules generalizing directive with
  | nil => rfl
  | cons rule below rest _ ihRest =>
    rw [Forest.roots, List.forall_mem_cons] at idle
    rw [elementsBehind_directive idle.1]
    exact ihRest idle.2 _

/-- What is left of a level without elements has none either. -/
theorem PrunedTo.idle {behind : Bool} {rules left : Forest Rule} (pruned : PrunedTo behind rules left)
    (idle : ∀ rule ∈ rules.roots, rule.kind = .directive) :
    ∀ rule ∈ left.roots, rule.kind = .directive := by
  induction pruned with
  | nil => exact idle
  | element kind =>
    rw [Forest.roots, List.forall_mem_cons, kind] at idle
    cases idle.1
  | directive kind deleted text belowLeft outer ih =>
    rw [Forest.roots, List.forall_mem_cons] at idle ⊢
    exact ⟨rfl, ih idle.2⟩
  | later kind outer ih => exact ih (List.forall_mem_cons.1 idle).2
  | last kind _ outer ih => exact ih (List.forall_mem_cons.1 idle).2

/-- Level by level, the same counts of what is left of a document. The walk has passed a directive
exactly if the flag says so. -/
theorem map_effect_elementsBehind_of_prunedTo {behind : Bool} {rules left : Forest Rule}
    (pruned : PrunedTo behind rules left) {directive other : Option Style}
    (passed : directive.isSome = behind)
    (same : directive.map Style.effect = other.map Style.effect) :
    (elementsBehind directive rules).map Element.effect =
      (elementsBehind other left).map Element.effect := by
  induction pruned generalizing directive other with
  | nil => rfl
  | @element behind rule name declarations below belowLeft rest restLeft kind deleted inner outer
      ihInner ihOuter =>
    have own : rule.ownStyle.effect = { rule with declarations := declarations }.ownStyle.effect :=
      Rule.effect_ownStyle_congr (Style.effect_ofDeclarations_of_onlyInertDeleted deleted)
    have kindLeft : ({ rule with declarations := declarations } : Rule).kind = .element name := kind
    rw [elementsBehind_element kind, elementsBehind_element kindLeft, Forest.map, Forest.map,
      ihInner rfl rfl, ihOuter passed same, Rule.effect_toElement_congr own rfl same]
  | @directive behind rule declarations below rest restLeft kind deleted text belowLeft outer ih =>
    have own : rule.ownStyle.effect =
        (⟨.directive, declarations, text⟩ : Rule).ownStyle.effect :=
      Rule.effect_ownStyle_congr (Style.effect_ofDeclarations_of_onlyInertDeleted deleted)
    rw [elementsBehind_directive kind, elementsBehind_directive rfl]
    exact ih rfl (map_effect_first_congr same own)
  | later kind outer ih =>
    -- The first directive of the level is carried on and this one is not looked at.
    obtain ⟨first, rfl⟩ := Option.isSome_iff_exists.1 passed
    rw [elementsBehind_directive kind]
    exact ih rfl same
  | last kind idle outer ih =>
    rw [elementsBehind_directive kind, elementsBehind_of_idle idle,
      elementsBehind_of_idle (outer.idle idle)]

/-- Inert input does not show: whatever of it is deleted, the same commands draw the document in every
area and from every origin. -/
theorem map_boxCommands_layout?_of_prunedTo {rules left : Forest Rule}
    (pruned : PrunedTo false rules left) (contentWidth originX originY : Float32) :
    (layout? contentWidth (itemsOfRules rules)).map (boxCommands originX originY) =
      (layout? contentWidth (itemsOfRules left)).map (boxCommands originX originY) :=
  map_boxCommands_layout?_congr (map_effect_elementsBehind_of_prunedTo pruned rfl rfl)
    contentWidth originX originY

/-- Two levels with all kinds of inert input: a directive with a text and a rule below it, attributes
without an effect, a second directive, and directives with no element behind them. -/
def clutteredPage : Forest Rule :=
  .cons ⟨.directive, .ofList [("color", "#ff0000"), ("note", "loud")], some "said"⟩
      (.cons ⟨.element (some "lost"), .empty, some "lost"⟩ .nil .nil)
    (.cons ⟨.element (some "page"), .ofList [("display", "block"), (" Note ", "mild")], none⟩
        (.cons ⟨.element (some "label"), .ofList [("left", "2pt"), ("", "nameless")], some "A"⟩ .nil
          (.cons ⟨.directive, .ofList [("left", "3pt")], none⟩ .nil .nil))
      (.cons ⟨.directive, .ofList [("color", "#00ff00")], none⟩ .nil
        (.cons ⟨.element (some "end"), .empty, some "B"⟩ .nil
          (.cons ⟨.directive, .ofList [("color", "#0000ff")], none⟩ .nil .nil))))

/-- What is left of `clutteredPage`. -/
def tidyPage : Forest Rule :=
  .cons ⟨.directive, .ofList [("color", "#ff0000")], none⟩ .nil
    (.cons ⟨.element (some "page"), .ofList [("display", "block")], none⟩
        (.cons ⟨.element (some "label"), .ofList [("left", "2pt")], some "A"⟩ .nil .nil)
      (.cons ⟨.element (some "end"), .empty, some "B"⟩ .nil .nil))

/-- The two pages are drawn alike. -/
theorem map_boxCommands_layout?_clutteredPage :
    PrunedTo false clutteredPage tidyPage ∧
    (layout? 515.28 (itemsOfRules clutteredPage)).map (boxCommands 40 40) =
      (layout? 515.28 (itemsOfRules tidyPage)).map (boxCommands 40 40) := by
  have pruned : PrunedTo false clutteredPage tidyPage := by
    refine .directive rfl ?first none .nil (.element rfl ?page ?below (.later rfl
      (.element rfl ?stays (.nil false) (.last rfl nofun (.nil true)))))
    case below => exact .element rfl (by decide +kernel) (.nil false) (.last rfl nofun (.nil true))
    all_goals decide +kernel
  exact ⟨pruned, map_boxCommands_layout?_of_prunedTo pruned 515.28 40 40⟩

end Folio
