import Folio.Proofs.DrawnEffect

/-!
# Directives written out

A directive says nothing that the rules behind it could not say themselves. `writtenOut` takes the
directives out of a forest and lets every element rule that stands behind the first one of its level
declare what that directive has for it: each entry of the style of the directive whose name the
element declares in no spelling.

The merge in `Style.merged` works on finished styles instead, after defaults were filled in and
with the origin of each value at hand. The two agree look-up by look-up
(`Style.get?_ofDeclarations_addDirective` against `Style.get?_merged_completed`), except that a
value of a directive comes out as declared in one and as given by a directive in the other. No later
stage tells these two origins apart: both are written, which is all that `Style.seen` keeps.
-/

namespace Folio

/-! ## What a directive adds to declarations -/

/-- Whether declarations have a folded name, in whatever spelling. -/
def declaresName (declarations : Attributes String) (name : String) : Bool :=
  declarations.entries.any fun entry => foldName entry.1 == name

/-- Declares the value of an entry, unless the declarations of the element have its name. -/
def addEntry (declarations added : Attributes String) (entry : String × StyleValue) :
    Attributes String :=
  if declaresName declarations entry.1 then added else added.insert entry.1 entry.2.text

/-- The declarations of an element together with what the declarations of a directive have for
it. -/
def addDirective (directive declarations : Attributes String) : Attributes String :=
  (Style.ofDeclarations directive).entries.foldl (addEntry declarations) declarations

theorem declaresName_eq_false_iff (declarations : Attributes String) (name : String) :
    declaresName declarations name = false ↔ Style.spellings declarations name = [] := by
  rw [Style.spellings_eq_nil_iff, declaresName, List.any_eq_false]
  constructor
  · intro none entry member folds
    exact none entry member (beq_iff_eq.2 folds)
  · intro none entry member folds
    exact none entry member (beq_iff_eq.1 folds)

namespace Style

/-- An entry of another name leaves the spellings of a name alone, and so does an entry of a name
that is declared. -/
theorem spellings_addEntry_of_skipped {declarations : Attributes String}
    (added : Attributes String) {name : String} (entry : String × StyleValue)
    (folded : foldName entry.1 = entry.1)
    (skipped : declaresName declarations name = true ∨ entry.1 ≠ name) :
    spellings (addEntry declarations added entry) name = spellings added name := by
  unfold addEntry
  split
  · rfl
  · rename_i undeclared
    have other : foldName entry.1 ≠ name := by
      rcases skipped with declared | other
      · intro same
        rw [folded] at same
        rw [same] at undeclared
        exact undeclared declared
      · rw [folded]
        exact other
    exact spellings_insert_of_ne added entry.2.text other

theorem spellings_foldl_addEntry_of_skipped {declarations : Attributes String} {name : String}
    {entries : List (String × StyleValue)}
    (folded : ∀ entry ∈ entries, foldName entry.1 = entry.1)
    (skipped : declaresName declarations name = true ∨ ∀ entry ∈ entries, entry.1 ≠ name)
    (added : Attributes String) :
    spellings (entries.foldl (addEntry declarations) added) name = spellings added name := by
  induction entries generalizing added with
  | nil => rfl
  | cons head rest ih =>
    have headSkipped : declaresName declarations name = true ∨ head.1 ≠ name :=
      skipped.imp_right fun others => others head List.mem_cons_self
    have restSkipped : declaresName declarations name = true ∨ ∀ entry ∈ rest, entry.1 ≠ name :=
      skipped.imp_right fun others entry member => others entry (List.mem_cons_of_mem head member)
    have restFolded : ∀ entry ∈ rest, foldName entry.1 = entry.1 :=
      fun entry member => folded entry (List.mem_cons_of_mem head member)
    rw [List.foldl_cons, ih restFolded restSkipped]
    exact spellings_addEntry_of_skipped added head (folded head List.mem_cons_self) headSkipped

/-- The entry of a name that is not declared becomes the only spelling of that name. -/
theorem spellings_foldl_addEntry_of_lookup {declarations : Attributes String} {name : String}
    {value : StyleValue} {entries : List (String × StyleValue)}
    (folded : ∀ entry ∈ entries, foldName entry.1 = entry.1)
    (ordered : entries.Pairwise fun a b => a.1 < b.1)
    (undeclared : declaresName declarations name = false)
    (found : entries.lookup name = some value) {added : Attributes String}
    (fresh : spellings added name = []) :
    spellings (entries.foldl (addEntry declarations) added) name = [(name, value.text)] := by
  induction entries generalizing added with
  | nil => cases found
  | cons head rest ih =>
    obtain ⟨key, old⟩ := head
    rw [List.pairwise_cons] at ordered
    have headFolded : foldName key = key := folded (key, old) List.mem_cons_self
    have restFolded : ∀ entry ∈ rest, foldName entry.1 = entry.1 :=
      fun entry member => folded entry (List.mem_cons_of_mem (key, old) member)
    rw [List.foldl_cons]
    by_cases same : name = key
    · -- The name is set here, and no later entry has it.
      subst same
      rw [Attributes.lookup_cons_self] at found
      cases found
      have later : ∀ entry ∈ rest, entry.1 ≠ name := by
        intro entry member same
        have before : name < entry.1 := ordered.1 entry member
        rw [same] at before
        exact String.lt_irrefl name before
      rw [spellings_foldl_addEntry_of_skipped restFolded (Or.inr later), addEntry, undeclared]
      exact spellings_insert_of_fresh added value.text headFolded fresh
    · rw [Attributes.lookup_cons_of_ne old rest same] at found
      have kept : spellings (addEntry declarations added (key, old)) name = [] := by
        rw [spellings_addEntry_of_skipped added (key, old) headFolded (Or.inr (Ne.symm same))]
        exact fresh
      exact ih restFolded ordered.2 found kept

/-- With a directive written out, a name has the own value of the element, or else that of the
directive. -/
theorem get?_ofDeclarations_addDirective (directive declarations : Attributes String)
    (name : String) :
    (ofDeclarations (addDirective directive declarations)).get? name =
      ((ofDeclarations declarations).get? name).or ((ofDeclarations directive).get? name) := by
  have folded : ∀ entry ∈ (ofDeclarations directive).entries, foldName entry.1 = entry.1 := by
    rintro ⟨key, value⟩ member
    exact (folded_of_get?_ofDeclarations (Attributes.get?_of_mem member)).1
  by_cases named : name = ""
  · subst named
    rw [get?_ofDeclarations_nameless, get?_ofDeclarations_nameless,
      get?_ofDeclarations_nameless]
    rfl
  · rw [get?_ofDeclarations _ _ named, get?_ofDeclarations declarations _ named, addDirective]
    cases declared : declaresName declarations name with
    | true =>
      have written : spellings declarations name ≠ [] := by
        intro none
        rw [(declaresName_eq_false_iff declarations name).2 none] at declared
        cases declared
      rw [spellings_foldl_addEntry_of_skipped folded (Or.inl declared),
        List.getLast?_eq_some_getLast written]
      rfl
    | false =>
      have fresh : spellings declarations name = [] :=
        (declaresName_eq_false_iff declarations name).1 declared
      rw [fresh, List.getLast?_nil, Option.map_none, Option.none_or]
      cases found : (ofDeclarations directive).get? name with
      | none =>
        have others : ∀ entry ∈ (ofDeclarations directive).entries, entry.1 ≠ name := by
          rintro ⟨key, value⟩ member rfl
          rw [Attributes.get?_of_mem member] at found
          cases found
        rw [spellings_foldl_addEntry_of_skipped folded (Or.inr others), fresh]
        rfl
      | some value =>
        rw [spellings_foldl_addEntry_of_lookup folded (ofDeclarations directive).ordered declared
          found fresh]
        exact congrArg some (folded_of_get?_ofDeclarations found).2

/-- Merging a finished directive into a finished style shows what declaring its values shows. -/
theorem seen_completed_addDirective (directive declarations : Attributes String) :
    (ofDeclarations (addDirective directive declarations)).completed.seen =
      ((ofDeclarations declarations).completed.merged
        (ofDeclarations directive).completed).seen := by
  apply Attributes.ext_get?
  intro name
  have declared : ∀ value, (ofDeclarations declarations).get? name = some value →
      value.origin = .declared := fun value found => origin_ofDeclarations found
  rw [get?_seen, get?_seen, get?_completed, get?_ofDeclarations_addDirective,
    get?_merged_completed _ _ _ declared]
  cases own : (ofDeclarations declarations).get? name with
  | some value => rfl
  | none =>
    cases given : (ofDeclarations directive).get? name with
    | none => rfl
    | some value =>
      -- Declared on one side and given by the directive on the other: written on both.
      have origin : value.origin = .declared := origin_ofDeclarations given
      rw [Option.bind_some, passOn?, origin]
      simp [StyleValue.seen, Origin.isWritten, origin]

end Style

/-! ## Forests without directives -/

/-- The rule with what a directive has for it, if there is one. -/
def Rule.behind (rule : Rule) : Option (Attributes String) → Rule
  | none => rule
  | some directive => { rule with declarations := addDirective directive rule.declarations }

/-- The rules without directives, where the first directive of a level is written out on the element
rules behind it. The level stands behind a directive with the given declarations, if any. -/
def writtenOut (directive : Option (Attributes String)) : Forest Rule → Forest Rule
  | .nil => .nil
  | .cons rule below rest =>
    match rule.kind with
    | .directive => writtenOut (some (directive.getD rule.declarations)) rest
    | .element _ =>
      .cons (rule.behind directive) (writtenOut none below) (writtenOut directive rest)

@[simp] theorem Rule.kind_behind (rule : Rule) (directive : Option (Attributes String)) :
    (rule.behind directive).kind = rule.kind := by
  cases directive <;> rfl

theorem kind_ne_directive_of_mem_writtenOut {directive : Option (Attributes String)}
    {rules : Forest Rule} {rule : Rule}
    (member : rule ∈ (writtenOut directive rules).preorder) : rule.kind ≠ .directive := by
  induction rules generalizing directive with
  | nil => cases member
  | cons head below rest ihBelow ihRest =>
    rw [writtenOut] at member
    cases kind : head.kind with
    | directive =>
      rw [kind] at member
      exact ihRest member
    | element name =>
      rw [kind] at member
      dsimp only at member
      rw [Forest.preorder, List.mem_cons, List.mem_append] at member
      rcases member with rfl | member | member
      · rw [Rule.kind_behind, kind]
        exact Rule.Kind.noConfusion
      · exact ihBelow member
      · exact ihRest member

/-- The finished style of the declarations of a directive. -/
def directiveStyle (declarations : Attributes String) : Style :=
  (Style.ofDeclarations declarations).completed

theorem Rule.ownStyle_eq (rule : Rule) : rule.ownStyle = directiveStyle rule.declarations := by
  rw [ownStyle, directiveStyle]

theorem seen_toElement_behind (rule : Rule) (name : Option String)
    (directive : Option (Attributes String)) :
    ((rule.behind directive).toElement name none).seen =
      (rule.toElement name (directive.map directiveStyle)).seen := by
  cases directive with
  | none => rfl
  | some declarations =>
    have styles := Style.seen_completed_addDirective declarations rule.declarations
    rw [Element.seen, Element.seen, Rule.style_toElement_none, Option.map_some,
      Rule.style_toElement_some, Rule.ownStyle, Rule.ownStyle, directiveStyle, Rule.behind, styles]
    rfl

/-- Level by level, the elements show the same whether directives are merged or written out. -/
theorem map_seen_elementsBehind_writtenOut (directive : Option (Attributes String))
    (rules : Forest Rule) :
    (elementsBehind none (writtenOut directive rules)).map Element.seen =
      (elementsBehind (directive.map directiveStyle) rules).map Element.seen := by
  induction rules generalizing directive with
  | nil => rfl
  | cons rule below rest ihBelow ihRest =>
    rw [writtenOut, elementsBehind]
    cases kind : rule.kind with
    | directive =>
      have first : some ((directive.map directiveStyle).getD rule.ownStyle) =
          (some (directive.getD rule.declarations)).map directiveStyle := by
        rw [Rule.ownStyle_eq, Option.map_some, Option.getD_map]
      dsimp only
      rw [ihRest, first]
    | element name =>
      dsimp only
      rw [elementsBehind, Rule.kind_behind, kind]
      dsimp only
      rw [Forest.map, Forest.map, ihBelow, ihRest, seen_toElement_behind, Option.map_none]

theorem map_seen_elementsOf_writtenOut (rules : Forest Rule) :
    (elementsOf (writtenOut none rules)).map (Numbered.map Element.seen) =
      (elementsOf rules).map (Numbered.map Element.seen) := by
  have level := map_seen_elementsBehind_writtenOut none rules
  rw [elementsOf, elementsOf, ← Forest.number_map, ← Forest.number_map, level]
  rfl

/-- Directives are only a way of writing. In the forest in which they are written out no rule is a
directive, every element has its number, name and text and a style with the same names and values of
which the same are written and the same are defaults, and whatever the width of the content area
and its place on the page, the same commands are drawn. -/
theorem directives_writtenOut (rules : Forest Rule) :
    (∀ rule ∈ (writtenOut none rules).preorder, rule.kind ≠ .directive) ∧
    (elementsOf (writtenOut none rules)).map (Numbered.map Element.seen) =
      (elementsOf rules).map (Numbered.map Element.seen) ∧
    ∀ contentWidth originX originY : Float32,
      (layout? contentWidth (itemsOfRules (writtenOut none rules))).map
          (boxCommands originX originY) =
        (layout? contentWidth (itemsOfRules rules)).map (boxCommands originX originY) := by
  have same := map_seen_elementsOf_writtenOut rules
  refine ⟨fun rule member => kind_ne_directive_of_mem_writtenOut member, same, ?_⟩
  intro contentWidth originX originY
  have items : (itemsOfRules (writtenOut none rules)).map Numbered.withoutStyle =
      (itemsOfRules rules).map Numbered.withoutStyle := itemsBelow_congr same rfl
  rw [← map_boxCommands_layout?_withoutStyle, items, map_boxCommands_layout?_withoutStyle]

end Folio
