import Folio.Proofs.JsonText
import Folio.Proofs.StyleLookup
import Folio.Rule.Document

/-!
# Rules in JSON texts

A rule can be written in many ways: its members in any order among unknown ones, what is empty left
out or not, the children under either of their keys. `WritesRules` says which lists of values write
the rules of a forest, and `DocumentText` which texts do, whatever their blanks and escapes. Members
that fill different places of a rule can change places (`addMember?_comm`), so every such text is
read as the rules that it writes (`readDocument_of_documentText`).
-/

namespace Folio

open Json (Value TextOf Blanks)

/-! ## Ways to write rules -/

/-- Whether members write a text that may be missing: by a string, or by null or not at all. -/
inductive WritesText (key : String) : Option String → List (String × Value) → Prop
  | absent : WritesText key none []
  | null : WritesText key none [(key, .null)]
  | string (s : String) : WritesText key (some s) [(key, .string s)]

/-- Whether members write what a rule becomes. A directive goes by its name with any blanks around
it. -/
inductive WritesKind : Rule.Kind → List (String × Value) → Prop
  | element {name : Option String} {members : List (String × Value)}
      (written : WritesText "name" name members) : WritesKind (.element name) members
  | directive {s : String} (mark : Text.trim s = directiveMark) :
      WritesKind .directive [("name", .string s)]

/-- Whether members write declarations: by an object of them in any order, or not at all if there
are none. -/
inductive WritesStyle : Attributes String → List (String × Value) → Prop
  | absent : WritesStyle ∅ []
  | object {declarations : Attributes String} {entries : List (String × String)}
      (same : entries.Perm declarations.entries) :
      WritesStyle declarations
        [("style", .object (entries.map fun entry => (entry.1, .string entry.2)))]

/-- Whether members write a rule, in any order and among unknown ones; `children` are the members
that write the rules below it. -/
inductive WritesRule (rule : Rule) (children members : List (String × Value)) : Prop
  | mk {kind style text extra : List (String × Value)} (kindWritten : WritesKind rule.kind kind)
      (styleWritten : WritesStyle rule.declarations style)
      (textWritten : WritesText "text" rule.text text)
      (unknown : ∀ x ∈ extra, RuleField.ofKey? x.1 = none)
      (anyOrder : members.Perm (kind ++ style ++ text ++ children ++ extra))

/-- Whether values write the rules of a forest. -/
inductive WritesRules : Forest Rule → List Value → Prop
  | nil : WritesRules .nil []
  | leaf {rule : Rule} {rest : Forest Rule} {members : List (String × Value)} {values : List Value}
      (written : WritesRule rule [] members) (others : WritesRules rest values) :
      WritesRules (.cons rule .nil rest) (.object members :: values)
  | branch {rule : Rule} {below rest : Forest Rule} {key : String}
      {members : List (String × Value)} {inner values : List Value}
      (isKey : key = "children" ∨ key = ">") (inside : WritesRules below inner)
      (written : WritesRule rule [(key, .list inner)] members)
      (others : WritesRules rest values) :
      WritesRules (.cons rule below rest) (.object members :: values)

/-- Whether a text writes rules: the list of them, or the one that there is by itself. -/
inductive DocumentText (rules : Forest Rule) : List Char → Prop
  | list {space text space' : List Char} {values : List Value} (blank : Blanks space)
      (blank' : Blanks space') (written : WritesRules rules values)
      (spelt : TextOf Json.maxDepth text (.list values)) :
      DocumentText rules (space ++ (text ++ space'))
  | single {space text space' : List Char} {value : Value} (blank : Blanks space)
      (blank' : Blanks space') (written : WritesRules rules [value])
      (spelt : TextOf Json.maxDepth text value) :
      DocumentText rules (space ++ (text ++ space'))

/-- Whether no element of a forest of rules bears a name that would make it a directive. -/
def NoElementMarked (rules : Forest Rule) : Prop :=
  ∀ rule ∈ rules.preorder, ∀ name, rule.kind = .element (some name) →
    Text.trim name ≠ directiveMark

/-! ## Declarations -/

namespace Attributes

variable {β : Type}

theorem get?_foldl_insert_of_fresh {name : String} {entries : List (String × β)}
    (fresh : name ∉ entries.map Prod.fst) (m : Attributes β) :
    (entries.foldl (fun m (name, value) => m.insert name value) m).get? name = m.get? name := by
  induction entries generalizing m with
  | nil => rfl
  | cons entry entries ih =>
    rw [List.map_cons, List.mem_cons, not_or] at fresh
    rw [List.foldl_cons, ih fresh.2, get?_insert, if_neg fresh.1]

theorem get?_foldl_insert_of_mem {name : String} {value : β} {entries : List (String × β)}
    (distinct : (entries.map Prod.fst).Nodup) (member : (name, value) ∈ entries)
    (m : Attributes β) :
    (entries.foldl (fun m (name, value) => m.insert name value) m).get? name = some value := by
  induction entries generalizing m with
  | nil => cases member
  | cons entry entries ih =>
    obtain ⟨first, distinct⟩ := List.nodup_cons.1 distinct
    rw [List.foldl_cons]
    rcases List.mem_cons.1 member with rfl | later
    · rw [get?_foldl_insert_of_fresh first, get?_insert_self]
    · exact ih distinct later _

theorem distinct_entries (m : Attributes β) : (m.entries.map Prod.fst).Nodup := by
  rw [List.Nodup, List.pairwise_map]
  refine m.ordered.imp fun before same => ?_
  rw [same] at before
  exact String.lt_irrefl _ before

/-- A map is put together from its entries in any order. -/
theorem filterMap_ofList_of_perm {m : Attributes β} {entries : List (String × β)}
    (same : entries.Perm m.entries) :
    (ofList (entries.map fun entry => (entry.1, some entry.2))).filterMap id = m := by
  have keys : (entries.map fun entry => (entry.1, some entry.2)).map Prod.fst =
      entries.map Prod.fst := by
    rw [List.map_map]
    rfl
  refine ext_get? fun name => ?_
  rw [get?_filterMap, ofList]
  cases found : m.get? name with
  | none =>
    have fresh : name ∉ entries.map Prod.fst := by
      intro isKey
      obtain ⟨⟨name, value⟩, member, rfl⟩ := List.mem_map.1 isKey
      rw [get?_of_mem (same.subset member)] at found
      cases found
    rw [get?_foldl_insert_of_fresh (by rwa [keys])]
    rfl
  | some value =>
    obtain ⟨before, behind, split, -⟩ := List.lookup_eq_some_iff.1 found
    have member : (name, value) ∈ entries := by
      rw [same.mem_iff, split]
      exact List.mem_append_right _ List.mem_cons_self
    have distinct : ((entries.map fun entry => (entry.1, some entry.2)).map Prod.fst).Nodup := by
      rw [keys, (same.map Prod.fst).nodup_iff]
      exact m.distinct_entries
    rw [get?_foldl_insert_of_mem distinct (List.mem_map_of_mem member)]
    rfl

end Attributes

theorem declarations?_object {declarations : Attributes String} {entries : List (String × String)}
    (same : entries.Perm declarations.entries) :
    declarations? (.object (entries.map fun entry => (entry.1, .string entry.2))) =
      some declarations := by
  have read : (entries.mapM fun entry => (pure (entry.1, some entry.2) : Option _)) =
      some (entries.map fun entry => (entry.1, some entry.2)) := List.mapM_pure
  rw [declarations?, List.mapM_map]
  change (entries.mapM fun entry => (pure (entry.1, some entry.2) : Option _)).bind _ = _
  rw [read]
  exact congrArg some (Attributes.filterMap_ofList_of_perm same)

/-! ## Members in any order -/

/-- What a member that is known says about a rule. -/
inductive RulePart where
  | name (name : Option String)
  | style (declarations : Attributes String)
  | text (text : Option String)
  | children (children : Forest Rule)

/-- What the value of a known member says about a rule. -/
def RulePart.read? (value : Value) : RuleField → Option RulePart
  | .name => (optionalString? value).map .name
  | .style => (declarations? value).map .style
  | .text => (optionalScalar? value).map .text
  | .children => (rules? value).map .children

/-- Puts what a member says into its place among the parts of a rule, if that is free. -/
def RuleParts.put? (parts : RuleParts) : RulePart → Option RuleParts
  | .name name => if parts.name.isSome then none else some { parts with name := some name }
  | .style declarations =>
    if parts.declarations.isSome then none
    else some { parts with declarations := some declarations }
  | .text text => if parts.text.isSome then none else some { parts with text := some text }
  | .children children =>
    if parts.children.isSome then none else some { parts with children := some children }

/-- Adds a member to the parts of a rule. -/
def addMember? (parts : RuleParts) (x : String × Value) : Option RuleParts :=
  match RuleField.ofKey? x.1 with
  | none => some parts
  | some field => (RulePart.read? x.2 field).bind parts.put?

/-- Two parts are put in their places in either order, or in neither. -/
theorem put?_comm (parts : RuleParts) (first second : RulePart) :
    (parts.put? first).bind (·.put? second) = (parts.put? second).bind (·.put? first) := by
  obtain ⟨name, declarations, text, children⟩ := parts
  cases first <;> cases second <;> cases name <;> cases declarations <;> cases text <;>
    cases children <;> rfl

/-- Members can change places. -/
theorem addMember?_comm (parts : RuleParts) (x y : String × Value) :
    (addMember? parts x).bind (addMember? · y) = (addMember? parts y).bind (addMember? · x) := by
  unfold addMember?
  cases RuleField.ofKey? x.1 with
  | none => exact (Option.bind_fun_some _).symm
  | some field =>
    cases RuleField.ofKey? y.1 with
    | none => exact Option.bind_fun_some _
    | some field' =>
      dsimp only
      cases RulePart.read? x.2 field with
      | none => cases RulePart.read? y.2 field' <;> simp
      | some part =>
        cases RulePart.read? y.2 field' with
        | none => simp
        | some part' => exact put?_comm parts part part'

/-- A member that is not the children is added by putting what it says into its place. -/
theorem add?_eq_put? (parts : RuleParts) (value : Value) {field : RuleField}
    (other : field ≠ .children) :
    parts.add? field value = (RulePart.read? value field).bind parts.put? := by
  obtain ⟨name, declarations, text, children⟩ := parts
  cases field with
  | name =>
    rw [RuleParts.add?, RulePart.read?]
    cases optionalString? value <;> cases name <;> rfl
  | style =>
    rw [RuleParts.add?, RulePart.read?]
    cases declarations? value <;> cases declarations <;> rfl
  | text =>
    rw [RuleParts.add?, RulePart.read?]
    cases optionalScalar? value <;> cases text <;> rfl
  | children => exact absurd rfl other

/-- The members of an object are added one after the other. -/
theorem memberParts?_eq_foldlM (parts : RuleParts) (members : List (String × Value)) :
    memberParts? parts members = members.foldlM addMember? parts := by
  induction members generalizing parts with
  | nil =>
    rw [memberParts?]
    rfl
  | cons x members ih =>
    obtain ⟨key, value⟩ := x
    rw [memberParts?, List.foldlM_cons, addMember?]
    dsimp only
    have known : ∀ field : RuleField, field ≠ .children →
        ((parts.add? field value).bind fun parts => memberParts? parts members) =
          ((RulePart.read? value field).bind parts.put?).bind fun parts =>
            members.foldlM addMember? parts := by
      intro field other
      rw [add?_eq_put? parts value other]
      exact congrArg _ (funext ih)
    cases RuleField.ofKey? key with
    | none => exact ih parts
    | some field =>
      cases field with
      | name => exact known .name (by decide)
      | style => exact known .style (by decide)
      | text => exact known .text (by decide)
      | children =>
        have children : (rules? value).bind parts.addChildren? =
            (RulePart.read? value .children).bind parts.put? := by
          rw [RulePart.read?]
          cases rules? value <;> rfl
        refine (Option.bind_assoc _ _ _).symm.trans ?_
        rw [children]
        exact congrArg _ (funext ih)

/-! ## Written members -/

/-- Unknown members say nothing. -/
theorem foldlM_addMember?_unknown {extra : List (String × Value)}
    (unknown : ∀ x ∈ extra, RuleField.ofKey? x.1 = none) (parts : RuleParts) :
    extra.foldlM addMember? parts = some parts := by
  induction extra with
  | nil => rfl
  | cons x extra ih =>
    obtain ⟨first, others⟩ := List.forall_mem_cons.1 unknown
    rw [List.foldlM_cons, addMember?, first]
    exact ih others

theorem exists_name_of_writesKind {kind : Rule.Kind} {members : List (String × Value)}
    (written : WritesKind kind members)
    (named : ∀ name, kind = .element (some name) → Text.trim name ≠ directiveMark) :
    ∃ name : Option (Option String), Rule.Kind.ofName (name.getD none) = kind ∧
      members.foldlM addMember? {} = some { name } := by
  cases written with
  | directive mark => exact ⟨some (some _), if_pos mark, rfl⟩
  | element written =>
    cases written with
    | absent => exact ⟨none, rfl, rfl⟩
    | null => exact ⟨some none, rfl, rfl⟩
    | string s => exact ⟨some (some s), if_neg (named s rfl), rfl⟩

theorem exists_style_of_writesStyle {declarations : Attributes String}
    {members : List (String × Value)} (written : WritesStyle declarations members)
    (name : Option (Option String)) :
    ∃ style : Option (Attributes String), style.getD ∅ = declarations ∧
      members.foldlM addMember? { name } = some { name, declarations := style } := by
  cases written with
  | absent => exact ⟨none, rfl, rfl⟩
  | object same =>
    refine ⟨some declarations, rfl, ?_⟩
    have field : RuleField.ofKey? "style" = some .style := by decide
    rw [List.foldlM_cons, addMember?, field]
    dsimp only
    rw [RulePart.read?, declarations?_object same]
    rfl

theorem exists_text_of_writesText {text : Option String} {members : List (String × Value)}
    (written : WritesText "text" text members) (name : Option (Option String))
    (declarations : Option (Attributes String)) :
    ∃ read : Option (Option String), read.getD none = text ∧
      members.foldlM addMember? { name, declarations } =
        some { name, declarations, text := read } := by
  cases written with
  | absent => exact ⟨none, rfl, rfl⟩
  | null => exact ⟨some none, rfl, rfl⟩
  | string s => exact ⟨some (some s), rfl, rfl⟩

/-- The members of a rule are read as the rule, with the children that they hold. -/
theorem ruleParts?_of_writesRule {rule : Rule} {children members : List (String × Value)}
    (written : WritesRule rule children members)
    (named : ∀ name, rule.kind = .element (some name) → Text.trim name ≠ directiveMark)
    {below : Option (Forest Rule)}
    (inside : ∀ name declarations text, children.foldlM addMember? { name, declarations, text } =
      some { name, declarations, text, children := below }) :
    ∃ parts, ruleParts? (.object members) = some parts ∧ parts.rule = rule ∧
      parts.children = below := by
  obtain ⟨kindWritten, styleWritten, textWritten, unknown, anyOrder⟩ := written
  obtain ⟨name, kind, afterName⟩ := exists_name_of_writesKind kindWritten named
  obtain ⟨declarations, style, afterStyle⟩ := exists_style_of_writesStyle styleWritten name
  obtain ⟨text, same, afterText⟩ := exists_text_of_writesText textWritten name declarations
  refine ⟨⟨name, declarations, text, below⟩, ?_, ?_, rfl⟩
  · rw [ruleParts?, memberParts?_eq_foldlM, Json.foldlM_perm addMember?_comm anyOrder]
    simp only [List.foldlM_append, Option.bind_eq_bind, afterName, afterStyle, afterText, inside,
      foldlM_addMember?_unknown unknown, Option.bind_some]
  · rw [RuleParts.rule, kind, style, same]

/-! ## Written documents -/

theorem NoElementMarked.cons {rule : Rule} {below rest : Forest Rule}
    (named : NoElementMarked (.cons rule below rest)) :
    (∀ name, rule.kind = .element (some name) → Text.trim name ≠ directiveMark) ∧
      NoElementMarked below ∧ NoElementMarked rest := by
  refine ⟨named rule List.mem_cons_self, fun other member => named other ?_,
    fun other member => named other ?_⟩
  · exact List.mem_cons_of_mem rule (List.mem_append_left _ member)
  · exact List.mem_cons_of_mem rule (List.mem_append_right _ member)

/-- Values that write rules are read as the rules. -/
theorem ruleForest?_of_writesRules {rules : Forest Rule} {values : List Value}
    (written : WritesRules rules values) (named : NoElementMarked rules) :
    ruleForest? values = some rules := by
  induction written with
  | nil => rw [ruleForest?]
  | leaf written _ ih =>
    obtain ⟨first, -, rest⟩ := named.cons
    obtain ⟨parts, read, rule, children⟩ :=
      ruleParts?_of_writesRule written first fun _ _ _ => rfl
    rw [ruleForest?, read, ih rest]
    dsimp only [Option.bind_eq_bind, Option.bind_some]
    rw [RuleParts.tree, rule, children]
    rfl
  | @branch rule below rest key members inner values isKey _ written _ inside others =>
    obtain ⟨first, named, rest⟩ := named.cons
    have field : RuleField.ofKey? key = some .children := by
      obtain rfl | rfl := isKey <;> decide
    have add : ∀ name declarations text,
        [(key, Value.list inner)].foldlM addMember? { name, declarations, text } =
          some { name, declarations, text, children := some below } := by
      intro name declarations text
      rw [List.foldlM_cons, addMember?, field]
      dsimp only
      rw [RulePart.read?, rules?, inside named]
      rfl
    obtain ⟨parts, read, same, children⟩ := ruleParts?_of_writesRule written first add
    rw [ruleForest?, read, others rest]
    dsimp only [Option.bind_eq_bind, Option.bind_some]
    rw [RuleParts.tree, same, children]
    rfl

/-- The only rule there is may stand by itself. -/
theorem documentRules?_single {value : Value} {rules : Forest Rule}
    (read : ruleForest? [value] = some rules) (isObject : ∃ members, value = .object members) :
    documentRules? value = some rules := by
  obtain ⟨members, rfl⟩ := isObject
  rw [ruleForest?, ruleForest?] at read
  rw [documentRules?, rules?]
  · cases parts : ruleParts? (.object members) with
    | none => rw [parts] at read; cases read
    | some parts' => rw [parts] at read; exact read
  · rintro _ ⟨⟩

theorem readDocument_of_textOf {space text space' : List Char} {value : Value}
    {rules : Forest Rule} (blank : Blanks space) (blank' : Blanks space')
    (spelt : TextOf Json.maxDepth text value) (read : documentRules? value = some rules) :
    readDocument (String.ofList (space ++ (text ++ space'))) = .ok rules := by
  obtain ⟨-, -, -, -, outcome⟩ :=
    (Json.readsText_of_textOf spelt).behind blank (Json.endsNumber_of_blanks blank')
  obtain ⟨shorter, result⟩ := Json.exists_ok_of_outcome outcome
  rw [readDocument, String.toList_ofList, result]
  dsimp only
  rw [read, Json.finished_blanks blank']

/-- Every text that writes rules is read as them, if no element bears the name of a directive. -/
theorem readDocument_of_documentText {rules : Forest Rule} {text : List Char}
    (written : DocumentText rules text) (named : NoElementMarked rules) :
    readDocument (String.ofList text) = .ok rules := by
  cases written with
  | list blank blank' written spelt =>
    refine readDocument_of_textOf blank blank' spelt ?_
    rw [documentRules?, rules?, ruleForest?_of_writesRules written named]
  | single blank blank' written spelt =>
    refine readDocument_of_textOf blank blank' spelt
      (documentRules?_single (ruleForest?_of_writesRules written named) ?_)
    cases written with
    | leaf _ _ => exact ⟨_, rfl⟩
    | branch _ _ _ _ => exact ⟨_, rfl⟩

/-- A directive with a tab before its name, over an element with a face for its text. -/
def tabbedDirective : Forest Rule :=
  .cons ⟨.directive, ∅, none⟩ (.cons ⟨.element none, ∅, some "😀"⟩ .nil .nil) .nil

/-- The directive by itself, with escapes in a key and in its strings, behind an unknown member. -/
theorem readDocument_tabbedDirective :
    let text := ("\n\x7b \"note\" : [ ] ,\"\\u003E\":[\x7b\"text\":\"\\ud83d\\uDE00\"\x7d]," ++
      "\"name\":\"\\t*\"\x7d").toList
    NoElementMarked tabbedDirective ∧ DocumentText tabbedDirective text ∧
      readDocument (String.ofList text) = .ok tabbedDirective := by
  intro text
  have named : NoElementMarked tabbedDirective := by
    intro rule member name kind
    rcases List.mem_cons.1 member with rfl | member
    · cases kind
    · rw [List.mem_singleton.1 member] at kind
      cases kind
  have nothing : Blanks [] := by decide
  have one : Blanks [' '] := by decide
  -- The text of the element below the directive.
  have face : Json.StringText
      ['"', '\\', 'u', 'd', '8', '3', 'd', '\\', 'u', 'D', 'E', '0', '0', '"'] "😀" :=
    ⟨_, rfl, .cons (@Json.SpellsChar.pair ['d', '8', '3', 'd'] ['D', 'E', '0', '0'] 0xD83D 0xDE00
      '😀' rfl rfl (by decide) (by decide) (by decide) (by decide) (by decide)) .nil⟩
  have element : TextOf 125 _ (.object [("text", .string "😀")]) :=
    .object (.items nothing (.mk (Json.stringText_writtenString "text") nothing nothing
      (Json.textOf_scalar (.string face) 124)) (.close nothing))
  have children : TextOf 126 _ (.list [.object [("text", .string "😀")]]) :=
    .list (.items nothing element (.close nothing))
  have note : TextOf 126 _ (.list []) := .list (.empty one)
  have arrow : Json.StringText ['"', '\\', 'u', '0', '0', '3', 'E', '"'] ">" :=
    ⟨_, rfl, .cons (@Json.SpellsChar.unit ['0', '0', '3', 'E'] '>' rfl (by decide)) .nil⟩
  have name : Json.StringText ['"', '\\', 't', '*', '"'] "\t*" :=
    ⟨_, rfl, .cons (.letter rfl) (.cons (.plain (by decide) (by decide) (by decide)) .nil)⟩
  have spelt : TextOf Json.maxDepth _ (.object [("note", .list []),
      (">", .list [.object [("text", .string "😀")]]), ("name", .string "\t*")]) :=
    .object (.items one (.mk (Json.stringText_writtenString "note") one one note)
      (.next one nothing (.mk arrow nothing nothing children)
        (.next nothing nothing (.mk (Json.stringText_writtenString "name") nothing nothing
          (Json.textOf_scalar (.string name) 126)) (.close nothing))))
  have inside : WritesRules (.cons ⟨.element none, ∅, some "😀"⟩ .nil .nil)
      [.object [("text", .string "😀")]] :=
    .leaf (.mk (.element .absent) .absent (.string "😀") (List.forall_mem_nil _) (.refl _)) .nil
  have mark : WritesKind .directive [("name", .string "\t*")] := .directive (by decide)
  have unknown : ∀ x ∈ [(("note", .list []) : String × Value)], RuleField.ofKey? x.1 = none :=
    List.forall_mem_singleton.2 (by decide)
  have anyOrder := List.reverse_perm [("name", Value.string "\t*"),
    (">", .list [.object [("text", .string "😀")]]), ("note", .list [])]
  have written : WritesRules tabbedDirective [.object [("note", .list []),
      (">", .list [.object [("text", .string "😀")]]), ("name", .string "\t*")]] :=
    .branch (.inr rfl) inside (.mk mark .absent .absent unknown anyOrder) .nil
  have document : DocumentText tabbedDirective text :=
    @DocumentText.single _ ['\n'] _ [] _ (by decide) nothing written spelt
  exact ⟨named, document, readDocument_of_documentText document named⟩

end Folio
