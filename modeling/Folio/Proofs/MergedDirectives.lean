import Folio.Proofs.StyleLookup

/-!
# Directives one after the other

A style can be behind several directives, each merged into what the ones before have left. A merge
replaces defaults, so a later directive may only touch what no earlier one has written; but it also
fills defaults in, and these are for the next one to replace.

What comes of it is that the first wins (`foldl_merged_firstWins`). For one attribute, a merge
settles an entry by what the directive has for it (`settle`), and the invariant is that an entry
that was settled twice was settled once, by the first of the two that had anything
(`settle_settle`). So a directive that was merged before has nothing left to say.
-/

namespace Folio

/-! ## One attribute -/

/-- The value that some directives have for an attribute: that of the first which holds one that is
no default. -/
def firstWritten? (directives : List Style) (name : String) : Option StyleValue :=
  (directives.filterMap (·.get? name)).find? (·.origin ≠ .default)

/-- The entry of an attribute in a style behind some directives: its own if somebody wrote it, or
else the value of the first directive that has written one, or else its own default, or else that of
the table. -/
def Style.entryBehind? (own : Style) (directives : List Style) (name : String) :
    Option StyleValue :=
  match own.get? name with
  | some ⟨text, .declared⟩ => some ⟨text, .declared⟩
  | some ⟨text, .directive⟩ => some ⟨text, .directive⟩
  | held =>
    match firstWritten? directives name with
    | some given => some ⟨given.text, .directive⟩
    | none =>
      match held with
      | some value => some value
      | none => (Style.defaults.lookup name).map (⟨·, .default⟩)

/-- The entry behind a merge, by the entry before, by what the directive gives, and by the default:
what is written stays, and what is given comes before what is held. -/
def settle (held given filled : Option StyleValue) : Option StyleValue :=
  (if (held.map fun value => value.origin.isWritten).getD false then held
    else given.or held).or filled

/-- An entry that is settled again is settled by the first that gives anything. -/
theorem settle_settle {held given filled : Option StyleValue}
    (written : ∀ value ∈ given, value.origin.isWritten = true)
    (unwritten : ∀ value ∈ filled, value.origin.isWritten = false) (later : Option StyleValue) :
    settle (settle held given filled) later filled = settle held (given.or later) filled := by
  cases given with
  | some value =>
    have isWritten := written value rfl
    cases held with
    | none => simp [settle, isWritten]
    | some own => cases ownWritten : own.origin.isWritten <;> simp [settle, isWritten, ownWritten]
  | none =>
    cases held with
    | some own => cases ownWritten : own.origin.isWritten <;> simp [settle, ownWritten]
    | none =>
      cases filled with
      | none => simp [settle]
      | some value => simp [settle, unwritten value rfl]

namespace Style

theorem get?_merged_eq_settle (own directive : Style) (name : String) :
    (own.merged directive).get? name =
      settle (own.get? name) ((directive.get? name).bind passOn?) (defaultValue? name) := by
  rw [get?_merged, hasWritten_eq, settle]

theorem isWritten_of_passOn? {held : Option StyleValue} :
    ∀ value ∈ held.bind passOn?, value.origin.isWritten = true := by
  intro value passed
  obtain ⟨source, -, given⟩ := Option.bind_eq_some_iff.1 passed
  rw [passOn?] at given
  split at given
  · cases given
    rfl
  · cases given

theorem isWritten_defaultValue? (name : String) :
    ∀ value ∈ defaultValue? name, value.origin.isWritten = false := by
  intro value filled
  rw [origin_defaultValue? filled]
  rfl

end Style

/-! ## Directives in a row -/

/-- A value as a directive gives it. -/
def StyleValue.given (value : StyleValue) : StyleValue := ⟨value.text, .directive⟩

/-- The first of the directives that gives anything. -/
theorem map_given_firstWritten?_cons (directive : Style) (others : List Style) (name : String) :
    (firstWritten? (directive :: others) name).map StyleValue.given =
      ((directive.get? name).bind Style.passOn?).or
        ((firstWritten? others name).map StyleValue.given) := by
  rw [firstWritten?, firstWritten?, List.filterMap_cons]
  cases directive.get? name with
  | none => rfl
  | some value =>
    obtain ⟨text, origin⟩ := value
    cases origin <;> rfl

/-- A directive that is there already is never the first. -/
theorem firstWritten?_append_of_mem {directives : List Style} {directive : Style}
    (member : directive ∈ directives) (name : String) :
    firstWritten? (directives ++ [directive]) name = firstWritten? directives name := by
  rw [firstWritten?, List.filterMap_append, List.find?_append, ← firstWritten?]
  cases first : firstWritten? directives name with
  | some value => rfl
  | none =>
    rw [Option.none_or, List.find?_eq_none]
    intro value held
    obtain ⟨source, single, found⟩ := List.mem_filterMap.1 held
    cases List.mem_singleton.1 single
    exact List.find?_eq_none.1 first value (List.mem_filterMap.2 ⟨directive, member, found⟩)

/-- Any number of merges settle an entry once, by what the first that has anything gives. -/
theorem get?_foldl_merged (own first : Style) (others : List Style) (name : String) :
    ((first :: others).foldl Style.merged own).get? name =
      settle (own.get? name) ((firstWritten? (first :: others) name).map StyleValue.given)
        (Style.defaultValue? name) := by
  induction others generalizing own first with
  | nil =>
    rw [List.foldl_cons, List.foldl_nil, Style.get?_merged_eq_settle, map_given_firstWritten?_cons]
    exact congrArg (settle _ · _) (Option.or_none).symm
  | cons next others ih =>
    rw [List.foldl_cons, ih, Style.get?_merged_eq_settle, map_given_firstWritten?_cons first]
    exact settle_settle Style.isWritten_of_passOn? (Style.isWritten_defaultValue? name) _

theorem settle_eq_entryBehind? (own : Style) (directives : List Style) (name : String) :
    settle (own.get? name) ((firstWritten? directives name).map StyleValue.given)
        (Style.defaultValue? name) =
      own.entryBehind? directives name := by
  rw [Style.entryBehind?]
  cases own.get? name with
  | none => cases firstWritten? directives name <;> rfl
  | some value =>
    obtain ⟨text, origin⟩ := value
    cases origin with
    | declared => rfl
    | directive => rfl
    | default => cases firstWritten? directives name <;> rfl

/-- A directive that was merged is merged again with no effect. -/
theorem merged_foldl_merged_of_mem {directives : List Style} {directive : Style}
    (member : directive ∈ directives) (own : Style) :
    (directives.foldl Style.merged own).merged directive = directives.foldl Style.merged own := by
  have behind : (directives ++ [directive]).foldl Style.merged own =
      (directives.foldl Style.merged own).merged directive := List.foldl_concat ..
  cases directives with
  | nil => cases member
  | cons first others =>
    refine Attributes.ext_get? fun name => ?_
    rw [← behind, List.cons_append, get?_foldl_merged, ← List.cons_append,
      firstWritten?_append_of_mem member, ← get?_foldl_merged]

/-- Behind directives that were merged one after the other, an attribute has the entry of the style
itself if somebody wrote it, or else the value of the first of the directives that holds one which
is no default, or else the default. And a directive that was merged before can be merged again, at
any later point, with no effect. -/
theorem foldl_merged_firstWins (own : Style) :
    (∀ (first : Style) (others : List Style) (name : String),
      ((first :: others).foldl Style.merged own).get? name =
        own.entryBehind? (first :: others) name) ∧
    ∀ (before between after : List Style) (directive : Style),
      (before ++ directive :: between ++ directive :: after).foldl Style.merged own =
        (before ++ directive :: between ++ after).foldl Style.merged own := by
  refine ⟨fun first others name => ?_, fun before between after directive => ?_⟩
  · rw [get?_foldl_merged, settle_eq_entryBehind?]
  · have member : directive ∈ before ++ directive :: between :=
      List.mem_append_right before List.mem_cons_self
    rw [List.foldl_append, List.foldl_cons, merged_foldl_merged_of_mem member,
      ← List.foldl_append]

end Folio
