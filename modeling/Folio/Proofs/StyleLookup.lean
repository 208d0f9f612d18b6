import Folio.Proofs.Folding

/-!
# What a style says about one attribute

Styles are made by folds: declarations are set one after the other, defaults are filled in one
after the other, and a directive is taken over value by value. Nothing downstream cares about the
order of those steps, so this module states each of them as one equation about a single look-up:

* `Style.get?_ofDeclarations`: the last of the spellings of a name decides;
* `Style.get?_completed`: a default stands where there is nothing else;
* `Style.get?_merged`: a written value stays, and a directive's written value stands in for a
  default.

`Style.get?_merged_completed` puts them together for an element behind a directive. Together with
`Attributes.ext_get?` they decide every question about the style of an element.
-/

namespace Folio

namespace Attributes

variable {β γ : Type}

/-- A filtered map holds what the function makes of the values. -/
theorem get?_filterMap (f : β → Option γ) (m : Attributes β) (name : String) :
    (m.filterMap f).get? name = (m.get? name).bind f := by
  obtain ⟨entries, ordered⟩ := m
  simp only [filterMap, get?]
  induction entries with
  | nil => rfl
  | cons head rest ih =>
    obtain ⟨key, value⟩ := head
    rw [List.pairwise_cons] at ordered
    rw [List.filterMap_cons]
    by_cases same : name = key
    · subst same
      rw [lookup_cons_self, Option.bind_some]
      cases image : f value with
      | none =>
        -- The name is gone, and no later entry has it.
        simpa [lookup_eq_none_of_lt ordered.1] using ih ordered.2
      | some b => exact lookup_cons_self name b _
    · rw [lookup_cons_of_ne value rest same, ← ih ordered.2]
      cases f value with
      | none => rfl
      | some b => exact lookup_cons_of_ne b _ same

theorem get?_of_mem {m : Attributes β} {name : String} {value : β}
    (member : (name, value) ∈ m.entries) : m.get? name = some value := by
  obtain ⟨entries, ordered⟩ := m
  simp only [get?] at member ⊢
  induction entries with
  | nil => cases member
  | cons head rest ih =>
    obtain ⟨key, old⟩ := head
    rw [List.pairwise_cons] at ordered
    rcases List.mem_cons.1 member with same | later
    · cases same
      exact lookup_cons_self name value rest
    · have different : name ≠ key := by
        rintro rfl
        exact String.lt_irrefl _ (ordered.1 (name, value) later)
      rw [lookup_cons_of_ne old rest different]
      exact ih ordered.2 later

/-! ## The entries of some of the names -/

/-- Setting a name leaves the entries of all other names alone. -/
theorem filter_insertEntry_of_false (picks : String → Bool) {name : String} (value : β)
    (entries : List (String × β)) (other : picks name = false) :
    (insertEntry name value entries).filter (fun entry => picks entry.1) =
      entries.filter fun entry => picks entry.1 := by
  induction entries with
  | nil => simp [insertEntry, other]
  | cons head rest ih =>
    obtain ⟨key, old⟩ := head
    unfold insertEntry
    split
    · simp [other]
    · split
      · rename_i same
        subst same
        simp [other]
      · rw [List.filter_cons, List.filter_cons, ih]

/-- Setting a name that is the first of its kind makes it the only one. -/
theorem filter_insertEntry_of_fresh (picks : String → Bool) {name : String} (value : β)
    {entries : List (String × β)} (picked : picks name = true)
    (fresh : entries.filter (fun entry => picks entry.1) = []) :
    (insertEntry name value entries).filter (fun entry => picks entry.1) = [(name, value)] := by
  induction entries with
  | nil => simp [insertEntry, picked]
  | cons head rest ih =>
    obtain ⟨key, old⟩ := head
    rw [List.filter_eq_nil_iff] at fresh
    have headOut : picks key = false := by simpa using fresh (key, old) List.mem_cons_self
    have restOut : rest.filter (fun entry => picks entry.1) = [] :=
      List.filter_eq_nil_iff.2 fun entry member => fresh entry (List.mem_cons_of_mem _ member)
    unfold insertEntry
    split
    · simp [picked, headOut, restOut]
    · split
      · simp [picked, restOut]
      · simp [headOut, ih restOut]

end Attributes

namespace Style

/-! ## Declarations -/

/-- A declaration sets the folded name and nothing else; a nameless one sets nothing. -/
theorem get?_declare (style : Style) (key text name : String) (named : name ≠ "") :
    (style.declare key text).get? name =
      if foldName key = name then some ⟨Text.trim text, .declared⟩ else style.get? name := by
  unfold declare
  by_cases empty : foldName key = ""
  · rw [if_pos empty, if_neg (empty ▸ named.symm)]
  · rw [if_neg empty, Attributes.get?_insert]
    simp only [eq_comm]

theorem get?_declare_nameless (style : Style) (key text : String) :
    (style.declare key text).get? "" = style.get? "" := by
  unfold declare
  by_cases empty : foldName key = ""
  · rw [if_pos empty]
  · rw [if_neg empty, Attributes.get?_insert, if_neg (Ne.symm empty)]

/-- The value that a declaration with a text comes to. -/
def declaredValue (text : String) : StyleValue := ⟨Text.trim text, .declared⟩

/-- Of declarations set one after the other, the last that folds to a name decides. -/
theorem get?_foldl_declare (entries : List (String × String)) (style : Style) (name : String)
    (named : name ≠ "") :
    (entries.foldl (fun style (key, text) => style.declare key text) style).get? name =
      (((entries.filter fun entry => foldName entry.1 == name).getLast?.map
        fun entry => declaredValue entry.2).or (style.get? name)) := by
  induction entries generalizing style with
  | nil => rfl
  | cons head rest ih =>
    obtain ⟨key, text⟩ := head
    rw [List.foldl_cons, ih, get?_declare style key text name named, List.filter_cons]
    by_cases folds : foldName key = name
    · simp only [folds, beq_self_eq_true, if_true, List.getLast?_cons, declaredValue]
      cases (rest.filter fun entry => foldName entry.1 == name).getLast? <;> rfl
    · simp [folds]

theorem get?_foldl_declare_nameless (entries : List (String × String)) (style : Style) :
    (entries.foldl (fun style (key, text) => style.declare key text) style).get? "" =
      style.get? "" := by
  induction entries generalizing style with
  | nil => rfl
  | cons head rest ih => rw [List.foldl_cons, ih, get?_declare_nameless]

/-- The declarations that fold to a name, in the order in which they are set: those that are
spelled in lower case come last. -/
def spellings (declarations : Attributes String) (name : String) : List (String × String) :=
  (declarations.entries.filter fun entry => foldName entry.1 == name && !isFolded entry.1) ++
    declarations.entries.filter fun entry => foldName entry.1 == name && isFolded entry.1

/-- The style of declarations holds the last spelling of every name. -/
theorem get?_ofDeclarations (declarations : Attributes String) (name : String)
    (named : name ≠ "") :
    (ofDeclarations declarations).get? name =
      (spellings declarations name).getLast?.map fun entry => declaredValue entry.2 := by
  unfold ofDeclarations spellings
  rw [get?_foldl_declare _ _ _ named, List.filter_append, List.filter_filter, List.filter_filter,
    Attributes.get?_empty, Option.or_none]

theorem spellings_eq_nil_iff (declarations : Attributes String) (name : String) :
    spellings declarations name = [] ↔
      ∀ entry ∈ declarations.entries, foldName entry.1 ≠ name := by
  unfold spellings
  rw [List.append_eq_nil_iff, List.filter_eq_nil_iff, List.filter_eq_nil_iff]
  constructor
  · rintro ⟨noOther, noFolded⟩ entry member folds
    cases spelled : isFolded entry.1 with
    | false => exact noOther entry member (by simp [folds, spelled])
    | true => exact noFolded entry member (by simp [folds, spelled])
  · intro none
    exact ⟨fun entry member => by simp [none entry member],
      fun entry member => by simp [none entry member]⟩

/-- Setting an attribute does not touch the spellings of another. -/
theorem spellings_insert_of_ne (declarations : Attributes String) {key name : String}
    (text : String) (other : foldName key ≠ name) :
    spellings (declarations.insert key text) name = spellings declarations name := by
  unfold spellings Attributes.insert
  dsimp only
  rw [Attributes.filter_insertEntry_of_false
      (fun key => foldName key == name && !isFolded key) text _ (by simp [other]),
    Attributes.filter_insertEntry_of_false
      (fun key => foldName key == name && isFolded key) text _ (by simp [other])]

/-- Setting a folded name that was not there in any spelling makes it the only spelling. -/
theorem spellings_insert_of_fresh (declarations : Attributes String) {key : String} (text : String)
    (folded : foldName key = key) (fresh : spellings declarations key = []) :
    spellings (declarations.insert key text) key = [(key, text)] := by
  have spelled : isFolded key = true := by
    rw [← folded]
    exact isFolded_foldName key
  unfold spellings Attributes.insert at *
  rw [List.append_eq_nil_iff] at fresh
  dsimp only
  rw [Attributes.filter_insertEntry_of_false
      (fun other => foldName other == key && !isFolded other) text _ (by simp [spelled]),
    Attributes.filter_insertEntry_of_fresh
      (fun other => foldName other == key && isFolded other) text (by simp [folded, spelled])
      fresh.2,
    fresh.1, List.nil_append]

theorem get?_ofDeclarations_nameless (declarations : Attributes String) :
    (ofDeclarations declarations).get? "" = none := by
  unfold ofDeclarations
  rw [get?_foldl_declare_nameless, Attributes.get?_empty]

/-- Everything in the style of declarations is declared. -/
theorem origin_ofDeclarations {declarations : Attributes String} {name : String}
    {value : StyleValue} (found : (ofDeclarations declarations).get? name = some value) :
    value.origin = .declared := by
  by_cases named : name = ""
  · rw [named, get?_ofDeclarations_nameless] at found
    cases found
  · rw [get?_ofDeclarations _ _ named, Option.map_eq_some_iff] at found
    obtain ⟨entry, -, rfl⟩ := found
    rfl

theorem ne_nameless_of_get?_ofDeclarations {declarations : Attributes String} {name : String}
    {value : StyleValue} (found : (ofDeclarations declarations).get? name = some value) :
    name ≠ "" := by
  rintro rfl
  rw [get?_ofDeclarations_nameless] at found
  cases found

/-- The names in the style of declarations are folded and the values are trimmed. -/
theorem folded_of_get?_ofDeclarations {declarations : Attributes String} {name : String}
    {value : StyleValue} (found : (ofDeclarations declarations).get? name = some value) :
    foldName name = name ∧ declaredValue value.text = value := by
  rw [get?_ofDeclarations _ _ (ne_nameless_of_get?_ofDeclarations found),
    Option.map_eq_some_iff] at found
  obtain ⟨entry, last, rfl⟩ := found
  have spelled := List.mem_of_getLast? last
  rw [spellings, List.mem_append, List.mem_filter, List.mem_filter] at spelled
  have folds : foldName entry.1 = name := by
    rcases spelled with ⟨-, spelled⟩ | ⟨-, spelled⟩
    · exact beq_iff_eq.1 (Bool.and_eq_true_iff.1 spelled).1
    · exact beq_iff_eq.1 (Bool.and_eq_true_iff.1 spelled).1
  rw [← folds, foldName_foldName, declaredValue, declaredValue, Text.trim_trim]
  exact ⟨rfl, rfl⟩

/-! ## Defaults -/

/-- What default completion has for a name. -/
def defaultValue? (name : String) : Option StyleValue :=
  (defaults.lookup name).map (⟨·, .default⟩)

/-- Completion fills in a default where there is no value. -/
theorem get?_completed (style : Style) (name : String) :
    style.completed.get? name = (style.get? name).or (defaultValue? name) := by
  unfold completed defaultValue?
  generalize defaults = entries
  induction entries generalizing style with
  | nil => simp
  | cons head rest ih =>
    obtain ⟨key, text⟩ := head
    rw [List.foldl_cons, ih]
    by_cases same : name = key
    · subst same
      rw [Attributes.lookup_cons_self]
      cases present : style.get? name with
      | none => simp [Attributes.contains, present]
      | some value => simp [Attributes.contains, present]
    · rw [Attributes.lookup_cons_of_ne text rest same]
      dsimp only
      split
      · rfl
      · rw [Attributes.get?_insert, if_neg same]

/-! ## Directives -/

theorem hasWritten_eq (style : Style) (name : String) :
    style.hasWritten name =
      ((style.get? name).map fun value => value.origin.isWritten).getD false := by
  unfold hasWritten originOf?
  rw [Option.map_map]
  rfl

/-- A directive's value as it is passed on, unless it is a default there. -/
def passOn? (value : StyleValue) : Option StyleValue :=
  if value.origin.isWritten then some ⟨value.text, .directive⟩ else none

theorem get?_adopt (style : Style) (key : String) (value : StyleValue) (name : String) :
    (style.adopt key value).get? name =
      if name = key ∧ style.hasWritten name = false then
        (passOn? value).or (style.get? name)
      else style.get? name := by
  unfold adopt passOn?
  by_cases same : name = key
  · subst same
    by_cases written : value.origin.isWritten
    · by_cases taken : style.hasWritten name
      · simp [written, taken]
      · simp [written, taken]
    · simp [written]
  · have other : ¬(name = key ∧ style.hasWritten name = false) := fun both => same both.1
    rw [if_neg other]
    split
    · rfl
    · rw [Attributes.get?_insert, if_neg same]

/-- Taking values over one after the other: a written value stays, and else the first value that
is passed on counts. -/
theorem get?_foldl_adopt {entries : List (String × StyleValue)}
    (ordered : entries.Pairwise fun a b => a.1 < b.1) (style : Style) (name : String) :
    (entries.foldl (fun style (key, value) => style.adopt key value) style).get? name =
      if style.hasWritten name then style.get? name
      else ((entries.lookup name).bind passOn?).or (style.get? name) := by
  induction entries generalizing style with
  | nil => simp
  | cons head rest ih =>
    obtain ⟨key, value⟩ := head
    rw [List.pairwise_cons] at ordered
    rw [List.foldl_cons, ih ordered.2]
    have step := get?_adopt style key value name
    by_cases same : name = key
    · subst same
      -- No later entry speaks of the name, so this one settles it.
      rw [Attributes.lookup_cons_self, Attributes.lookup_eq_none_of_lt ordered.1]
      by_cases taken : style.hasWritten name
      · rw [if_neg (by simp [taken])] at step
        simp [step, taken]
      · rw [if_pos (by simp [taken])] at step
        simp [step, taken]
    · rw [if_neg fun both => same both.1] at step
      rw [Attributes.lookup_cons_of_ne value rest same, hasWritten_eq, step, ← hasWritten_eq]

/-- Merging a directive: a written value stays, then comes what the directive passes on, and a
default fills the gap. -/
theorem get?_merged (style directive : Style) (name : String) :
    (style.merged directive).get? name =
      (if style.hasWritten name then style.get? name
        else ((directive.get? name).bind passOn?).or (style.get? name)).or
          (defaultValue? name) := by
  unfold merged
  rw [get?_completed, get?_foldl_adopt directive.ordered]
  rfl

theorem origin_defaultValue? {name : String} {value : StyleValue}
    (found : defaultValue? name = some value) : value.origin = .default := by
  unfold defaultValue? at found
  rw [Option.map_eq_some_iff] at found
  obtain ⟨text, -, rfl⟩ := found
  rfl

/-- A default is never passed on, so completing a directive changes nothing for others. -/
theorem bind_passOn?_completed (directive : Style) (name : String) :
    (directive.completed.get? name).bind passOn? = (directive.get? name).bind passOn? := by
  rw [get?_completed]
  cases directive.get? name with
  | some value => rfl
  | none =>
    rw [Option.none_or, Option.bind_none]
    cases found : defaultValue? name with
    | none => rfl
    | some value => simp [passOn?, origin_defaultValue? found, Origin.isWritten]

/-- The style of an element behind a directive of its level, where `own` and `directive` are the
styles that the two rules declare: own values, then those of the directive, then defaults. -/
theorem get?_merged_completed (own directive : Style) (name : String)
    (declared : ∀ value, own.get? name = some value → value.origin = .declared) :
    (own.completed.merged directive.completed).get? name =
      ((own.get? name).or ((directive.get? name).bind passOn?)).or (defaultValue? name) := by
  rw [get?_merged, bind_passOn?_completed, hasWritten_eq, get?_completed]
  cases present : own.get? name with
  | some value => simp [declared value present, Origin.isWritten]
  | none =>
    cases filled : defaultValue? name with
    | none => simp
    | some value => simp [origin_defaultValue? filled, Origin.isWritten]

end Style

end Folio
