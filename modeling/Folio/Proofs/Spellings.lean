import Folio.Proofs.DrawnEffect

/-!
# Spellings

The names and the values of a style may be written in either case and with blanks around them. If
two documents differ in nothing but that, and no rule has a name in two spellings, they are drawn by
the same commands (`map_boxCommands_layout?_of_spelledAlike`).

Without the condition this would not be so, since of two spellings of a name one in lower case is
preferred. With it every name has at most one spelling in a rule (`length_filter_name_le_one`), and
then it does not matter in which order the entries of a rule come, which other spellings change.
-/

namespace Folio

/-- Two forests of one shape whose values are related, node by node. -/
inductive Forest.Forall₂ {α β : Type} (related : α → β → Prop) : Forest α → Forest β → Prop
  | nil : Forall₂ related .nil .nil
  | cons {value : α} {other : β} {below rest : Forest α} {otherBelow otherRest : Forest β}
      (values : related value other) (inner : Forall₂ related below otherBelow)
      (outer : Forall₂ related rest otherRest) :
      Forall₂ related (.cons value below rest) (.cons other otherBelow otherRest)

/-- An entry without the blanks around its name and its value, and in lower case. -/
def foldEntry (entry : String × String) : String × String :=
  (foldName entry.1, foldName entry.2)

/-- Whether two rules differ at most in the case of the letters and in the blanks around the names
and values of their styles. -/
structure Rule.SpelledAlike (rule other : Rule) : Prop where
  kind : rule.kind = other.kind
  text : rule.text = other.text
  entries : (rule.declarations.entries.map foldEntry).Perm
    (other.declarations.entries.map foldEntry)

/-- Whether no two of the names are spellings of one. -/
def Attributes.NamesApart (declarations : Attributes String) : Prop :=
  (declarations.entries.map fun entry => foldName entry.1).Nodup

instance (rule other : Rule) : Decidable (rule.SpelledAlike other) :=
  decidable_of_iff
    (rule.kind = other.kind ∧ rule.text = other.text ∧
      (rule.declarations.entries.map foldEntry).Perm (other.declarations.entries.map foldEntry))
    ⟨fun ⟨kind, text, entries⟩ => ⟨kind, text, entries⟩,
      fun alike => ⟨alike.kind, alike.text, alike.entries⟩⟩

instance (declarations : Attributes String) : Decidable declarations.NamesApart :=
  inferInstanceAs (Decidable (List.Nodup _))

/-! ## One rule -/

/-- Lists of at most one entry have one order. -/
theorem eq_of_perm_of_length_le_one {α : Type} {list other : List α} (reordered : list.Perm other)
    (few : list.length ≤ 1) : list = other := by
  rcases list with _ | ⟨entry, _ | ⟨next, rest⟩⟩
  · exact reordered.nil_eq
  · exact reordered.singleton_eq
  · rw [List.length_cons, List.length_cons] at few
    omega

namespace Style

/-- The spellings of a name, folded, are the folded entries of that name in some order. -/
theorem map_foldEntry_spellings_perm (declarations : Attributes String) (name : String) :
    ((spellings declarations name).map foldEntry).Perm
      ((declarations.entries.map foldEntry).filter (·.1 == name)) := by
  have order : (declarations.entries.filter (fun entry => !isFolded entry.1) ++
      declarations.entries.filter fun entry => isFolded entry.1).Perm declarations.entries :=
    List.perm_append_comm.trans (List.filter_append_perm _ _)
  have named : spellings declarations name =
      (declarations.entries.filter (fun entry => !isFolded entry.1) ++
        declarations.entries.filter fun entry => isFolded entry.1).filter
          fun entry => foldName entry.1 == name := by
    rw [spellings, List.filter_append, List.filter_filter, List.filter_filter]
  rw [named, List.filter_map]
  exact (order.filter _).map foldEntry

/-- A name has at most one spelling if no two names are spellings of one. -/
theorem length_filter_name_le_one {declarations : Attributes String}
    (apart : declarations.NamesApart) (name : String) :
    ((declarations.entries.map foldEntry).filter (·.1 == name)).length ≤ 1 := by
  have once := List.nodup_iff_count_le_one.1 apart name
  rw [List.filter_map, List.length_map, ← List.countP_eq_length_filter]
  rw [List.count, List.countP_map] at once
  exact once

/-- Declarations that are spelled alike have one effect. -/
theorem effect_ofDeclarations_congr {declarations other : Attributes String}
    (apart : declarations.NamesApart)
    (alike : (declarations.entries.map foldEntry).Perm (other.entries.map foldEntry)) :
    (ofDeclarations declarations).effect = (ofDeclarations other).effect := by
  funext name
  by_cases effective : isEffective name = true
  · have same : (spellings declarations name).map foldEntry =
        (spellings other name).map foldEntry := by
      have spelled := map_foldEntry_spellings_perm declarations name
      have reordered := (spelled.trans (alike.filter _)).trans
        (map_foldEntry_spellings_perm other name).symm
      have few := spelled.length_eq.trans_le (length_filter_name_le_one apart name)
      exact eq_of_perm_of_length_le_one reordered few
    have last := congrArg (fun entries => entries.getLast?.map fun entry => (entry.2, true)) same
    simp only [List.getLast?_map, Option.map_map] at last
    rw [effect_ofDeclarations _ effective, effect_ofDeclarations _ effective]
    exact last
  · rw [effect, effect, if_neg effective, if_neg effective]

end Style

/-! ## Documents -/

/-- Level by level, the same counts of documents that are spelled alike. -/
theorem map_effect_elementsBehind_of_spelledAlike {first second : Forest Rule}
    (alike : Forest.Forall₂ Rule.SpelledAlike first second)
    (apart : ∀ rule ∈ first.preorder, rule.declarations.NamesApart) {directive other : Option Style}
    (behind : directive.map Style.effect = other.map Style.effect) :
    (elementsBehind directive first).map Element.effect =
      (elementsBehind other second).map Element.effect := by
  induction alike generalizing directive other with
  | nil => rfl
  | @cons rule rule' below rest below' rest' values inner outer ihBelow ihRest =>
    have apartHere : rule.declarations.NamesApart := apart rule List.mem_cons_self
    have apartBelow : ∀ rule ∈ below.preorder, rule.declarations.NamesApart := fun rule member =>
      apart rule (List.mem_cons_of_mem _ (List.mem_append_left _ member))
    have apartRest : ∀ rule ∈ rest.preorder, rule.declarations.NamesApart := fun rule member =>
      apart rule (List.mem_cons_of_mem _ (List.mem_append_right _ member))
    have own : rule.ownStyle.effect = rule'.ownStyle.effect :=
      Rule.effect_ownStyle_congr (Style.effect_ofDeclarations_congr apartHere values.entries)
    cases kind : rule.kind with
    | directive =>
      rw [elementsBehind_directive kind, elementsBehind_directive (values.kind.symm.trans kind)]
      exact ihRest apartRest (map_effect_first_congr behind own)
    | element name =>
      rw [elementsBehind_element kind, elementsBehind_element (values.kind.symm.trans kind),
        Forest.map, Forest.map, ihBelow apartBelow rfl, ihRest apartRest behind,
        Rule.effect_toElement_congr own values.text behind]

/-- The case of the letters and the blanks around the names and values of styles do not matter: two
documents that differ in nothing else, where no rule has a name in two spellings, are drawn by the
same commands in every area and from every origin. -/
theorem map_boxCommands_layout?_of_spelledAlike {first second : Forest Rule}
    (alike : Forest.Forall₂ Rule.SpelledAlike first second)
    (apart : ∀ rule ∈ first.preorder, rule.declarations.NamesApart) (contentWidth originX originY : Float32) :
    (layout? contentWidth (itemsOfRules first)).map (boxCommands originX originY) =
      (layout? contentWidth (itemsOfRules second)).map (boxCommands originX originY) :=
  map_boxCommands_layout?_congr (map_effect_elementsBehind_of_spelledAlike alike apart rfl)
    contentWidth originX originY

/-- A label behind a directive and below a page, in letters of both cases and with blanks about. -/
def loudLabel : Forest Rule :=
  .cons ⟨.directive, .ofList [(" COLOR", "#FF00AA "), ("Text-Align", " CENTER")], none⟩ .nil
    (.cons ⟨.element (some "page"),
        .ofList [("LEFT ", " 2E1PT"), ("\tPosition", "ABSOLUTE"), ("Display", "Block")], none⟩
      (.cons ⟨.element (some "label"), .ofList [("Left", "1PT"), ("FONT-STYLE", "Inherit")],
          some "Total"⟩ .nil .nil)
      .nil)

/-- The label of `loudLabel` in lower case and without blanks. -/
def quietLabel : Forest Rule :=
  .cons ⟨.directive, .ofList [("color", "#ff00aa"), ("text-align", "center")], none⟩ .nil
    (.cons ⟨.element (some "page"),
        .ofList [("left", "2e1pt"), ("position", "absolute"), ("display", "block")], none⟩
      (.cons ⟨.element (some "label"), .ofList [("left", "1pt"), ("font-style", "inherit")],
          some "Total"⟩ .nil .nil)
      .nil)

/-- The two labels are drawn alike. Their entries do not even come in one order. -/
theorem map_boxCommands_layout?_loudLabel :
    Forest.Forall₂ Rule.SpelledAlike loudLabel quietLabel ∧
    (∀ rule ∈ loudLabel.preorder, rule.declarations.NamesApart) ∧
    (layout? 515.28 (itemsOfRules loudLabel)).map (boxCommands 40 40) =
      (layout? 515.28 (itemsOfRules quietLabel)).map (boxCommands 40 40) := by
  have alike : Forest.Forall₂ Rule.SpelledAlike loudLabel quietLabel := by
    refine .cons ?directive .nil (.cons ?page (.cons ?label .nil .nil) .nil)
    case directive => decide +kernel
    case page => decide +kernel
    case label => decide +kernel
  have apart : ∀ rule ∈ loudLabel.preorder, rule.declarations.NamesApart := by decide +kernel
  exact ⟨alike, apart, map_boxCommands_layout?_of_spelledAlike alike apart 515.28 40 40⟩

end Folio
