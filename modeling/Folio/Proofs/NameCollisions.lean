import Folio.Proofs.StyleLookup
import Folio.Proofs.Utf8Text

/-!
# Names in several spellings

A rule can declare one attribute in any number of spellings: with blanks around the name and with
letters in either case. Of those in lower case, if there are any, and else of all of them, the last
in the order of the bytes gives the value (`Style.ofDeclarations_resolves`).

The entries of a map are in this order already, so the one that counts is the last of its kind, and
the last is the greatest.
-/

namespace Folio

/-! ## The greatest of a kind -/

/-- Whether a name is of a kind, and the greatest of it in the order of the bytes. -/
def IsGreatest (kind : String → Prop) (name : String) : Prop :=
  kind name ∧ ∀ other, kind other → Text.encode other ≤ Text.encode name

theorem IsGreatest.congr {kind other : String → Prop} (same : ∀ name, kind name ↔ other name)
    (name : String) : IsGreatest kind name ↔ IsGreatest other name := by
  rw [funext fun name => propext (same name)]

/-- The last of entries in the order of their names has the greatest name. -/
theorem getLast?_eq_some_iff_of_ordered {β : Type} {entries : List (String × β)}
    (ordered : entries.Pairwise fun a b => a.1 < b.1) (entry : String × β) :
    entries.getLast? = some entry ↔
      entry ∈ entries ∧ ∀ other ∈ entries, Text.encode other.1 ≤ Text.encode entry.1 := by
  rcases List.eq_nil_or_concat entries with rfl | ⟨front, last, rfl⟩
  · exact iff_of_false nofun fun both => List.not_mem_nil both.1
  rw [List.concat_eq_append] at ordered ⊢
  rw [List.getLast?_concat, Option.some_inj]
  obtain ⟨-, -, before⟩ := List.pairwise_append.1 ordered
  have front_lt : ∀ other ∈ front, Text.encode other.1 < Text.encode last.1 := fun other member =>
    Text.encode_lt_encode (before other member last List.mem_cons_self)
  constructor
  · rintro rfl
    refine ⟨List.mem_append_right _ List.mem_cons_self, fun other member => ?_⟩
    rcases List.mem_append.1 member with inFront | isLast
    · exact List.le_of_lt (front_lt other inFront)
    · rw [List.mem_singleton.1 isLast]
      exact List.le_refl _
  · rintro ⟨member, greatest⟩
    rcases List.mem_append.1 member with inFront | isLast
    · have beyond := greatest last (List.mem_append_right _ List.mem_cons_self)
      exact absurd (front_lt entry inFront) beyond
    · exact (List.mem_singleton.1 isLast).symm

namespace Attributes

variable {β : Type} (m : Attributes β)

theorem mem_entries_iff {entry : String × β} :
    entry ∈ m.entries ↔ m.get? entry.1 = some entry.2 := by
  refine ⟨get?_of_mem, fun found => ?_⟩
  obtain ⟨before, behind, split, -⟩ := List.lookup_eq_some_iff.1 found
  rw [split]
  exact List.mem_append_right _ List.mem_cons_self

/-- The last entry whose name is picked has the greatest of the names that are picked. -/
theorem getLast?_filter_eq_some_iff (picks : String → Bool) (entry : String × β) :
    (m.entries.filter fun entry => picks entry.1).getLast? = some entry ↔
      m.get? entry.1 = some entry.2 ∧
        IsGreatest (fun name => m.contains name = true ∧ picks name = true) entry.1 := by
  rw [getLast?_eq_some_iff_of_ordered (m.ordered.filter _), List.mem_filter, mem_entries_iff]
  constructor
  · rintro ⟨⟨found, picked⟩, greatest⟩
    refine ⟨found, ⟨Option.isSome_of_eq_some found, picked⟩, ?_⟩
    rintro other ⟨contained, pickedOther⟩
    obtain ⟨value, foundOther⟩ := Option.isSome_iff_exists.1 contained
    exact greatest (other, value) (List.mem_filter.2 ⟨m.mem_entries_iff.2 foundOther, pickedOther⟩)
  · rintro ⟨found, ⟨-, picked⟩, greatest⟩
    refine ⟨⟨found, picked⟩, fun other member => ?_⟩
    obtain ⟨listed, pickedOther⟩ := List.mem_filter.1 member
    have foundOther := m.mem_entries_iff.1 listed
    exact greatest other.1 ⟨Option.isSome_of_eq_some foundOther, pickedOther⟩

end Attributes

/-! ## Spellings -/

/-- Whether a map has a value for a key that is a spelling of a name. -/
def IsSpelling (declarations : Attributes String) (name key : String) : Prop :=
  declarations.contains key = true ∧ foldName key = name

/-- The key of a map that gives an attribute its value. -/
inductive SpeaksFor (declarations : Attributes String) (name key : String) : Prop
  /-- The greatest spelling in lower case. -/
  | lowered (greatest : IsGreatest
      (fun key => IsSpelling declarations name key ∧ Style.isFolded key = true) key)
  /-- The greatest spelling, where none is in lower case. -/
  | other (none : ∀ key, IsSpelling declarations name key → Style.isFolded key = false)
      (greatest : IsGreatest (IsSpelling declarations name) key)

namespace Style

variable (declarations : Attributes String)

/-- The last spelling speaks for the attribute. -/
theorem getLast?_spellings_eq_some_iff (name : String) (entry : String × String) :
    (spellings declarations name).getLast? = some entry ↔
      declarations.get? entry.1 = some entry.2 ∧ SpeaksFor declarations name entry.1 := by
  have lowered := declarations.getLast?_filter_eq_some_iff
    fun key => foldName key == name && isFolded key
  have others := declarations.getLast?_filter_eq_some_iff
    fun key => foldName key == name && !isFolded key
  have loweredKind : ∀ key, declarations.contains key = true ∧
      (foldName key == name && isFolded key) = true ↔
        IsSpelling declarations name key ∧ isFolded key = true := by
    intro key
    rw [Bool.and_eq_true, beq_iff_eq, IsSpelling, and_assoc]
  rw [spellings, List.getLast?_append]
  cases last : (declarations.entries.filter fun entry =>
      foldName entry.1 == name && isFolded entry.1).getLast? with
  | some found =>
    rw [Option.some_or, ← last, lowered, IsGreatest.congr loweredKind]
    refine and_congr_right fun _ => ⟨.lowered, fun speaks => ?_⟩
    rcases speaks with greatest | ⟨none, -⟩
    · exact greatest
    · obtain ⟨-, kind, -⟩ := (lowered found).1 last
      obtain ⟨spelling, folded⟩ := (loweredKind found.1).1 kind
      exact absurd folded (Bool.eq_false_iff.1 (none found.1 spelling))
  | none =>
    have none : ∀ key, IsSpelling declarations name key → isFolded key = false := by
      intro key spelling
      obtain ⟨text, found⟩ := Option.isSome_iff_exists.1 spelling.1
      rw [List.getLast?_eq_none_iff, List.filter_eq_nil_iff] at last
      have unpicked := last (key, text) (declarations.mem_entries_iff.2 found)
      rw [beq_iff_eq.2 spelling.2, Bool.true_and] at unpicked
      exact Bool.eq_false_iff.2 unpicked
    have otherKind : ∀ key, declarations.contains key = true ∧
        (foldName key == name && !isFolded key) = true ↔ IsSpelling declarations name key := by
      intro key
      rw [Bool.and_eq_true, beq_iff_eq, ← and_assoc, ← IsSpelling, Bool.not_eq_true']
      exact and_iff_left_of_imp (none key)
    rw [Option.none_or, others, IsGreatest.congr otherKind]
    refine and_congr_right fun _ => ⟨.other none, fun speaks => ?_⟩
    rcases speaks with ⟨⟨spelling, folded⟩, -⟩ | ⟨-, greatest⟩
    · exact absurd folded (Bool.eq_false_iff.1 (none entry.1 spelling))
    · exact greatest

theorem isSome_getLast?_spellings_iff (name : String) :
    (spellings declarations name).getLast?.isSome = true ↔
      ∃ key, IsSpelling declarations name key := by
  rw [Option.isSome_iff_ne_none, ne_eq, List.getLast?_eq_none_iff, spellings_eq_nil_iff]
  constructor
  · intro some
    obtain ⟨entry, spelled⟩ := not_forall.1 some
    obtain ⟨listed, folds⟩ := Classical.not_imp.1 spelled
    have found := declarations.mem_entries_iff.1 listed
    exact ⟨entry.1, Option.isSome_of_eq_some found, not_not.1 folds⟩
  · intro spelled none
    obtain ⟨key, contained, folds⟩ := spelled
    obtain ⟨text, found⟩ := Option.isSome_iff_exists.1 contained
    exact none (key, text) (declarations.mem_entries_iff.2 found) folds

/-- The style of declarations has the names that are spelled in them and are not empty, and every
name has the value of the key that speaks for it. -/
theorem ofDeclarations_resolves (name : String) :
    ((ofDeclarations declarations).contains name = true ↔
        name ≠ "" ∧ ∃ key, IsSpelling declarations name key) ∧
      ∀ value, (ofDeclarations declarations).get? name = some value ↔
        name ≠ "" ∧ ∃ key text, SpeaksFor declarations name key ∧
          declarations.get? key = some text ∧ value = ⟨Text.trim text, .declared⟩ := by
  by_cases nameless : name = ""
  · rw [Attributes.contains, nameless, get?_ofDeclarations_nameless]
    exact ⟨iff_of_false Bool.false_ne_true fun both => both.1 rfl,
      fun value => iff_of_false (Option.some_ne_none value).symm fun both => both.1 rfl⟩
  rw [Attributes.contains, get?_ofDeclarations declarations name nameless, Option.isSome_map,
    isSome_getLast?_spellings_iff, and_iff_right nameless]
  refine ⟨Iff.rfl, fun value => ?_⟩
  rw [and_iff_right nameless, Option.map_eq_some_iff]
  constructor
  · intro spoken
    obtain ⟨entry, last, rfl⟩ := spoken
    obtain ⟨found, speaks⟩ := (getLast?_spellings_eq_some_iff declarations name entry).1 last
    exact ⟨entry.1, entry.2, speaks, found, rfl⟩
  · intro spoken
    obtain ⟨key, text, speaks, found, rfl⟩ := spoken
    have last := (getLast?_spellings_eq_some_iff declarations name (key, text)).2 ⟨found, speaks⟩
    exact ⟨(key, text), last, rfl⟩

/-- The spelling in lower case counts, though others come behind it. -/
example : (ofDeclarations (.ofList [("Color", "#111111"), (" color", " #222222 "),
    ("COLOR", "#333333")])).get? "color" = some ⟨"#222222", .declared⟩ := by
  decide +kernel

end Style

end Folio
