import Folio.Proofs.DocumentTree

/-!
# Where the values of a style come from

A style is made in three steps, own declarations, defaults and the directive of the level, and the
directive was completed with defaults too before it was merged. `ElementSite.resolved?` says what all
this comes to for one attribute, out of what is written in the document and nothing else: the rule
and the rules before it on its level. `style_elementsOf` finds that entry in every element.

The invariant of the walk over a level is that it carries the finished style of the first directive
it has passed.
-/

namespace Folio

/-! ## Sites -/

/-- Whether a rule is a directive. -/
def Rule.isDirective (rule : Rule) : Bool :=
  rule.kind == .directive

/-- An element rule and the rules before it on its level, directives included. -/
structure ElementSite where
  before : List Rule
  rule : Rule

/-- The sites of the element rules outside of directives, in pre-order. The level begins with the
given rules. -/
def elementSites (before : List Rule) : Forest Rule → List ElementSite
  | .nil => []
  | .cons rule below rest =>
    match rule.kind with
    | .directive => elementSites (before ++ [rule]) rest
    | .element _ =>
      ⟨before, rule⟩ :: (elementSites [] below ++ elementSites (before ++ [rule]) rest)

/-- The sites are those of the element rules. -/
theorem map_rule_elementSites (before : List Rule) (rules : Forest Rule) :
    (elementSites before rules).map ElementSite.rule = elementRules rules := by
  induction rules generalizing before with
  | nil => rfl
  | cons rule below rest ihBelow ihRest =>
    rw [elementSites, elementRules]
    cases rule.kind with
    | directive => exact ihRest _
    | element name =>
      dsimp only
      rw [List.map_cons, List.map_append, ihBelow, ihRest]

namespace ElementSite

/-- The first directive before the element on its level. -/
def directive? (site : ElementSite) : Option Rule :=
  site.before.find? Rule.isDirective

/-- The text that declarations have for an attribute. -/
def declaredText? (rule : Rule) (name : String) : Option String :=
  (Style.ofDeclarations rule.declarations).text? name

/-- The entry of an attribute: what the rule declares, or else what the first directive before it on
its level declares, or else the default. -/
def resolved? (site : ElementSite) (name : String) : Option StyleValue :=
  match declaredText? site.rule name with
  | some text => some ⟨text, .declared⟩
  | none =>
    match site.directive?.bind (declaredText? · name) with
    | some text => some ⟨text, .directive⟩
    | none => (Style.defaults.lookup name).map (⟨·, .default⟩)

/-- The style that the walk over the level gives to the rule. -/
def style (site : ElementSite) : Style :=
  (site.rule.toElement none (site.directive?.map Rule.ownStyle)).style

end ElementSite

/-! ## One element -/

theorem get?_ofDeclarations_eq_declaredText? (rule : Rule) (name : String) :
    (Style.ofDeclarations rule.declarations).get? name =
      (ElementSite.declaredText? rule name).map (⟨·, .declared⟩) := by
  rw [ElementSite.declaredText?, Style.text?]
  cases found : (Style.ofDeclarations rule.declarations).get? name with
  | none => rfl
  | some value =>
    have origin : value.origin = .declared := Style.origin_ofDeclarations found
    rw [Option.map_some, Option.map_some, ← origin]

/-- The style of a site has the entry of the site for every attribute. -/
theorem ElementSite.get?_style (site : ElementSite) (name : String) :
    site.style.get? name = site.resolved? name := by
  have own := get?_ofDeclarations_eq_declaredText? site.rule name
  rw [ElementSite.style, ElementSite.resolved?]
  cases site.directive? with
  | none =>
    rw [Option.map_none, Rule.style_toElement_none, Rule.ownStyle, Style.get?_completed, own]
    cases declaredText? site.rule name <;> rfl
  | some directive =>
    have given := get?_ofDeclarations_eq_declaredText? directive name
    have declared : ∀ value, (Style.ofDeclarations site.rule.declarations).get? name = some value →
        value.origin = .declared := fun value found => Style.origin_ofDeclarations found
    rw [Option.map_some, Rule.style_toElement_some, Rule.ownStyle, Rule.ownStyle,
      Style.get?_merged_completed _ _ _ declared, own, given, Option.bind_some]
    cases declaredText? site.rule name with
    | some text => rfl
    | none => cases declaredText? directive name <;> rfl

/-! ## The walk -/

/-- Behind a directive, the first of the level, a later one changes nothing. -/
theorem find?_isDirective_append (before : List Rule) {rule : Rule}
    (kind : rule.kind = .directive) :
    (before ++ [rule]).find? Rule.isDirective =
      some ((before.find? Rule.isDirective).getD rule) := by
  have directive : rule.isDirective = true := by rw [Rule.isDirective, kind]; rfl
  rw [List.find?_append, List.find?_cons_of_pos directive]
  cases before.find? Rule.isDirective <;> rfl

theorem find?_isDirective_append_of_element (before : List Rule) {rule : Rule}
    {name : Option String} (kind : rule.kind = .element name) :
    (before ++ [rule]).find? Rule.isDirective = before.find? Rule.isDirective := by
  have element : ¬ rule.isDirective = true := by rw [Rule.isDirective, kind]; exact nofun
  rw [List.find?_append, List.find?_cons_of_neg element, List.find?_nil, Option.or_none]

/-- The walk over a level gives every element the style of its site. -/
theorem map_style_elementsBehind (before : List Rule) (rules : Forest Rule) :
    (elementsBehind ((before.find? Rule.isDirective).map Rule.ownStyle) rules).preorder.map
        Element.style =
      (elementSites before rules).map ElementSite.style := by
  induction rules generalizing before with
  | nil => rfl
  | cons rule below rest ihBelow ihRest =>
    rw [elementsBehind, elementSites]
    cases kind : rule.kind with
    | directive =>
      have first := ihRest (before ++ [rule])
      rw [find?_isDirective_append before kind, Option.map_some] at first
      dsimp only
      rw [← first, Option.getD_map]
    | element name =>
      have inner := ihBelow []
      have outer := ihRest (before ++ [rule])
      rw [find?_isDirective_append_of_element before kind] at outer
      dsimp only
      rw [Forest.preorder, List.map_cons, List.map_append, List.map_cons, List.map_append, ← inner,
        ← outer]
      rfl

theorem map_style_elementsOf (rules : Forest Rule) :
    (elementsOf rules).preorder.map (·.value.style) =
      (elementSites [] rules).map ElementSite.style := by
  rw [← map_style_elementsBehind [] rules, List.find?_nil, Option.map_none,
    ← map_value_elementsOf, Forest.preorder_map, List.map_map]
  rfl

/-! ## Stored texts -/

/-- Every attribute with a default has a value in every element. -/
theorem exists_lowered?_of_mem {rules : Forest Rule} {node : Numbered Element}
    (member : node ∈ (elementsOf rules).preorder) {name : String}
    (filled : (Style.defaultValue? name).isSome) :
    ∃ value, node.value.style.lowered? name = some value := by
  have inTree : node.value ∈ (elementsBehind none rules).preorder := by
    rw [← map_value_elementsOf, Forest.preorder_map]
    exact List.mem_map_of_mem member
  have present := complete_of_mem_elementsBehind inTree name filled
  obtain ⟨value, found⟩ := Option.isSome_iff_exists.1 present
  exact ⟨Text.lower value.text, by rw [Style.lowered?, Style.text?, found]; rfl⟩

theorem ElementSite.trim_declaredText? {rule : Rule} {name text : String}
    (found : declaredText? rule name = some text) : Text.trim text = text := by
  obtain ⟨value, declared, rfl⟩ := Option.map_eq_some_iff.1 found
  obtain ⟨-, trimmed⟩ := Style.folded_of_get?_ofDeclarations declared
  exact congrArg StyleValue.text trimmed

/-- Every value of an element is stored without blanks at its ends, wherever it comes from. -/
theorem trim_text?_of_mem {rules : Forest Rule} {node : Numbered Element}
    (member : node ∈ (elementsOf rules).preorder) {name text : String}
    (present : node.value.style.text? name = some text) : Text.trim text = text := by
  have listed : node.value.style ∈ (elementSites [] rules).map ElementSite.style := by
    rw [← map_style_elementsOf]
    exact List.mem_map_of_mem member
  obtain ⟨site, -, style⟩ := List.mem_map.1 listed
  obtain ⟨value, found, rfl⟩ := Option.map_eq_some_iff.1 present
  rw [← style, site.get?_style, ElementSite.resolved?] at found
  split at found
  · rename_i own
    cases found
    exact ElementSite.trim_declaredText? own
  · split at found
    · rename_i given
      cases found
      obtain ⟨directive, -, declared⟩ := Option.bind_eq_some_iff.1 given
      exact ElementSite.trim_declaredText? declared
    · obtain ⟨default, inTable, rfl⟩ := Option.map_eq_some_iff.1 found
      have trimmed : ∀ entry ∈ Style.defaults, Text.trim entry.2 = entry.2 := by decide
      obtain ⟨before, after, split, -⟩ := List.lookup_eq_some_iff.1 inTable
      exact trimmed (name, default) (split ▸ List.mem_append_right before List.mem_cons_self)

/-- Put in lower case, every value of an element is folded. -/
theorem foldName_of_lowered?_of_mem {rules : Forest Rule} {node : Numbered Element}
    (member : node ∈ (elementsOf rules).preorder) {name value : String}
    (present : node.value.style.lowered? name = some value) : foldName value = value := by
  obtain ⟨text, stored, rfl⟩ := Option.map_eq_some_iff.1 present
  rw [foldName, Text.trim_lower, trim_text?_of_mem member stored, Text.lower_lower]

/-! ## Where values come from -/

/-- An entry with a default is never missing. -/
theorem ElementSite.isSome_resolved? (site : ElementSite) {name : String}
    (filled : (Style.defaults.lookup name).isSome) : (site.resolved? name).isSome := by
  rw [resolved?]
  split
  · rfl
  · split
    · rfl
    · rwa [Option.isSome_map]

/-- A value given by a directive is that of a directive earlier on the level, with no other
directive before it. -/
theorem ElementSite.exists_of_origin_directive {site : ElementSite} {name : String}
    {value : StyleValue} (found : site.resolved? name = some value)
    (given : value.origin = .directive) :
    ∃ earlier directive later, site.before = earlier ++ directive :: later ∧
      directive.kind = .directive ∧ (∀ rule ∈ earlier, rule.kind ≠ .directive) ∧
      declaredText? directive name = some value.text := by
  rw [resolved?] at found
  split at found
  · cases found
    cases given
  · split at found
    · rename_i text passed
      cases found
      obtain ⟨directive, first, text⟩ := Option.bind_eq_some_iff.1 passed
      obtain ⟨isDirective, earlier, later, split, others⟩ := List.find?_eq_some_iff_append.1 first
      refine ⟨earlier, directive, later, split, beq_iff_eq.1 isDirective, ?_, text⟩
      intro rule member kind
      have other := others rule member
      rw [Rule.isDirective, kind] at other
      cases other
    · obtain ⟨text, -, rfl⟩ := Option.map_eq_some_iff.1 found
      cases given

/-- The elements are those of the element rules outside of directives, and every attribute of every
element has the entry of its site: the value that its rule declares, or else the one that the first
directive before it on its level declares, or else the default. So no default is ever missing, and a
value given by a directive comes from the first directive among the rules before the element on its
own level. -/
theorem style_elementsOf (rules : Forest Rule) :
    (elementSites [] rules).map ElementSite.rule = elementRules rules ∧
    (elementsOf rules).preorder.map
        (fun node => (Rule.Kind.element node.value.name, node.value.style.get?)) =
      (elementSites [] rules).map (fun site => (site.rule.kind, site.resolved?)) ∧
    (∀ (site : ElementSite) (name : String), (Style.defaults.lookup name).isSome →
      (site.resolved? name).isSome) ∧
    ∀ (site : ElementSite) (name : String) (value : StyleValue), site.resolved? name = some value →
      value.origin = .directive →
        ∃ earlier directive later, site.before = earlier ++ directive :: later ∧
          directive.kind = .directive ∧ (∀ rule ∈ earlier, rule.kind ≠ .directive) ∧
          ElementSite.declaredText? directive name = some value.text := by
  have kinds : (elementsOf rules).preorder.map
      (fun node => Rule.Kind.element node.value.name) =
        (elementSites [] rules).map (fun site => site.rule.kind) := by
    have sources := congrArg (List.map Prod.fst) (map_preorder_elementsBehind none rules)
    rw [← map_value_elementsOf, Forest.preorder_map, List.map_map, List.map_map, List.map_map,
      ← map_rule_elementSites [], List.map_map] at sources
    exact sources
  have entries : (elementsOf rules).preorder.map (fun node => node.value.style.get?) =
      (elementSites [] rules).map ElementSite.resolved? := by
    have styles := congrArg (List.map Attributes.get?) (map_style_elementsOf rules)
    rw [List.map_map, List.map_map] at styles
    exact styles.trans (List.map_congr_left fun site _ => funext site.get?_style)
  refine ⟨map_rule_elementSites [] rules, ?_, fun site name => site.isSome_resolved?,
    fun site name value => ElementSite.exists_of_origin_directive⟩
  rw [← List.zip_map', ← List.zip_map', kinds, entries]

/-- A rule with the declarations of a list. -/
def declaringRule (kind : Rule.Kind) (declarations : List (String × String)) : Rule :=
  ⟨kind, .ofList declarations, none⟩

/-- An element before the first directive of its level, one behind it with an element below, and one
behind a second directive. -/
def twoDirectives : Forest Rule :=
  .cons (declaringRule (.element (some "a")) [("color", "red")]) .nil
    (.cons (declaringRule .directive [(" Color", "blue "), ("width", "5pt")]) .nil
      (.cons (declaringRule (.element (some "b")) [])
        (.cons (declaringRule (.element (some "c")) []) .nil .nil)
        (.cons (declaringRule .directive [("color", "green"), ("left", "9pt")]) .nil
          (.cons (declaringRule (.element (some "d")) [("WIDTH", "7pt")]) .nil .nil))))

theorem style_elementsOf_twoDirectives :
    (elementsOf twoDirectives).preorder.map (fun node => node.value.style.get? "color") =
      [some ⟨"red", .declared⟩, some ⟨"blue", .directive⟩, some ⟨"#000000", .default⟩,
        some ⟨"blue", .directive⟩] ∧
    (elementsOf twoDirectives).preorder.map (fun node => node.value.style.get? "width") =
      [some ⟨"100%", .default⟩, some ⟨"5pt", .directive⟩, some ⟨"100%", .default⟩,
        some ⟨"7pt", .declared⟩] ∧
    (Style.defaults.lookup "left").isSome ∧
    ∃ site, (elementSites [] twoDirectives)[3]? = some site ∧ (site.resolved? "left").isSome ∧
      site.resolved? "color" = some ⟨"blue", .directive⟩ ∧
      ∃ earlier directive later, site.before = earlier ++ directive :: later ∧
        directive.kind = .directive ∧ (∀ rule ∈ earlier, rule.kind ≠ .directive) ∧
        ElementSite.declaredText? directive "color" = some "blue" := by
  obtain ⟨-, -, filled, given⟩ := style_elementsOf twoDirectives
  have isDefault : (Style.defaults.lookup "left").isSome := by decide
  obtain ⟨site, last, blue⟩ : ∃ site, (elementSites [] twoDirectives)[3]? = some site ∧
      site.resolved? "color" = some ⟨"blue", .directive⟩ := ⟨_, rfl, by decide +kernel⟩
  exact ⟨by decide +kernel, by decide +kernel, isDefault, site, last, filled _ _ isDefault, blue,
    given _ _ _ blue rfl⟩

end Folio
