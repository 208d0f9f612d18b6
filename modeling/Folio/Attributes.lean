/-!
# Attribute maps

A finite map from attribute names to values, kept in the order of the names. The order is that of
the code points, which is also the byte order of the names in UTF-8. Since the entries are strictly
ordered, two maps with the same look-ups are equal: `ext` says so.
-/

namespace Folio

/-- A map from names to values, with its entries in strictly ascending order of the names. -/
structure Attributes (β : Type) where
  entries : List (String × β)
  ordered : entries.Pairwise fun a b => a.1 < b.1

namespace Attributes

variable {β γ : Type}

/-- Puts an entry at its place among ordered entries, in the place of one with its name. -/
def insertEntry (name : String) (value : β) : List (String × β) → List (String × β)
  | [] => [(name, value)]
  | (other, old) :: rest =>
    if name < other then (name, value) :: (other, old) :: rest
    else if name = other then (name, value) :: rest
    else (other, old) :: insertEntry name value rest

theorem mem_insertEntry {name : String} {value : β} {entries : List (String × β)}
    {entry : String × β} (h : entry ∈ insertEntry name value entries) :
    entry = (name, value) ∨ entry ∈ entries := by
  induction entries with
  | nil => simpa [insertEntry] using h
  | cons head rest ih =>
    unfold insertEntry at h
    split at h
    · simpa using h
    · split at h
      · simp at h ⊢
        rcases h with h | h
        · exact Or.inl h
        · exact Or.inr (Or.inr h)
      · simp at h ⊢
        rcases h with h | h
        · exact Or.inr (Or.inl h)
        · rcases ih h with h | h
          · exact Or.inl h
          · exact Or.inr (Or.inr h)

theorem ordered_insertEntry (name : String) (value : β) {entries : List (String × β)}
    (h : entries.Pairwise fun a b => a.1 < b.1) :
    (insertEntry name value entries).Pairwise fun a b => a.1 < b.1 := by
  induction entries with
  | nil => simp [insertEntry]
  | cons head rest ih =>
    rw [List.pairwise_cons] at h
    unfold insertEntry
    split
    · rename_i before
      refine List.pairwise_cons.2 ⟨?_, List.pairwise_cons.2 h⟩
      intro entry member
      rcases List.mem_cons.1 member with rfl | member
      · exact before
      · exact String.lt_trans before (h.1 entry member)
    · split
      · rename_i same
        subst same
        exact List.pairwise_cons.2 h
      · rename_i notBefore different
        refine List.pairwise_cons.2 ⟨?_, ih h.2⟩
        intro entry member
        rcases mem_insertEntry member with rfl | member
        · exact Std.lt_of_le_of_ne (String.not_lt.1 notBefore) (Ne.symm different)
        · exact h.1 entry member

/-- The map without entries. -/
def empty : Attributes β :=
  ⟨[], List.Pairwise.nil⟩

instance : EmptyCollection (Attributes β) := ⟨empty⟩

/-- Sets the value of a name. -/
def insert (m : Attributes β) (name : String) (value : β) : Attributes β :=
  ⟨insertEntry name value m.entries, ordered_insertEntry name value m.ordered⟩

/-- The value of a name. -/
def get? (m : Attributes β) (name : String) : Option β :=
  m.entries.lookup name

/-- Whether the map has a value for a name. -/
def contains (m : Attributes β) (name : String) : Bool :=
  (m.get? name).isSome

/-- The number of entries. -/
def size (m : Attributes β) : Nat :=
  m.entries.length

/-- Whether the map has no entries. -/
def isEmpty (m : Attributes β) : Bool :=
  m.entries.isEmpty

/-- Sets the entries of a list one after the other. -/
def ofList (entries : List (String × β)) : Attributes β :=
  entries.foldl (fun m (name, value) => m.insert name value) ∅

/-- The entries that a function gives a value to, with those values. -/
def filterMap (f : β → Option γ) (m : Attributes β) : Attributes γ where
  entries := m.entries.filterMap fun (name, value) => (f value).map ((name, ·))
  ordered := by
    refine List.Pairwise.filterMap _ ?_ m.ordered
    intro a a' h b hb b' hb'
    simp only [Option.map_eq_some_iff] at hb hb'
    obtain ⟨_, _, rfl⟩ := hb
    obtain ⟨_, _, rfl⟩ := hb'
    exact h

/-! ## Look-ups -/

@[simp] theorem lookup_cons_self (name : String) (value : β) (rest : List (String × β)) :
    ((name, value) :: rest).lookup name = some value := by
  simp

theorem lookup_cons_of_ne {name other : String} (value : β) (rest : List (String × β))
    (h : name ≠ other) : ((other, value) :: rest).lookup name = rest.lookup name := by
  simp [List.lookup_cons, beq_eq_false_iff_ne.2 h]

theorem lookup_eq_none_of_lt {name : String} {entries : List (String × β)}
    (h : ∀ entry ∈ entries, name < entry.1) : entries.lookup name = none := by
  induction entries with
  | nil => rfl
  | cons head rest ih =>
    have different : (name == head.1) = false := by
      rw [beq_eq_false_iff_ne]
      rintro rfl
      exact String.lt_irrefl _ (h head (by simp))
    obtain ⟨key, old⟩ := head
    simp only at different
    rw [List.lookup_cons, different]
    exact ih fun entry member => h entry (by simp [member])

/-- A name that comes before the first one of entries in order has no value among them. -/
theorem lookup_cons_eq_none_of_lt {name key : String} {value : β} {rest : List (String × β)}
    (ordered : ((key, value) :: rest).Pairwise fun a b => a.1 < b.1) (before : name < key) :
    ((key, value) :: rest).lookup name = none := by
  refine lookup_eq_none_of_lt fun entry member => ?_
  rcases List.mem_cons.1 member with rfl | member
  · exact before
  · exact String.lt_trans before ((List.pairwise_cons.1 ordered).1 entry member)

@[simp] theorem get?_empty (name : String) : (∅ : Attributes β).get? name = none := rfl

/-- Setting a name changes its value and no other. -/
theorem get?_insert (m : Attributes β) (name other : String) (value : β) :
    (m.insert name value).get? other = if other = name then some value else m.get? other := by
  obtain ⟨entries, ordered⟩ := m
  simp only [insert, get?]
  induction entries with
  | nil =>
    by_cases same : other = name
    · simp [insertEntry, same]
    · simp [insertEntry, same, lookup_cons_of_ne]
  | cons head rest ih =>
    obtain ⟨key, old⟩ := head
    rw [List.pairwise_cons] at ordered
    unfold insertEntry
    split
    · by_cases same : other = name
      · simp [same]
      · simp [same, lookup_cons_of_ne]
    · split
      · rename_i same
        subst same
        by_cases same : other = name
        · simp [same]
        · simp [same, lookup_cons_of_ne]
      · rename_i different
        by_cases same : other = key
        · subst same
          simp [Ne.symm different]
        · rw [lookup_cons_of_ne old _ same, lookup_cons_of_ne old _ same]
          exact ih ordered.2

@[simp] theorem get?_insert_self (m : Attributes β) (name : String) (value : β) :
    (m.insert name value).get? name = some value := by
  simp [get?_insert]

theorem entries_ext {first second : List (String × β)}
    (hf : first.Pairwise fun a b => a.1 < b.1) (hs : second.Pairwise fun a b => a.1 < b.1)
    (same : ∀ name, first.lookup name = second.lookup name) : first = second := by
  induction first generalizing second with
  | nil =>
    cases second with
    | nil => rfl
    | cons head rest =>
      obtain ⟨key, value⟩ := head
      have := same key
      rw [lookup_cons_self] at this
      cases this
  | cons head rest ih =>
    obtain ⟨key, value⟩ := head
    cases second with
    | nil =>
      have := same key
      rw [lookup_cons_self] at this
      cases this
    | cons head' rest' =>
      obtain ⟨key', value'⟩ := head'
      have keys : key = key' := by
        by_cases before : key < key'
        · have missing := (same key).trans (lookup_cons_eq_none_of_lt hs before)
          simp at missing
        · by_cases after : key' < key
          · have missing := (same key').symm.trans (lookup_cons_eq_none_of_lt hf after)
            simp at missing
          · exact String.le_antisymm (String.not_lt.1 after) (String.not_lt.1 before)
      rw [List.pairwise_cons] at hf hs
      subst keys
      have values : value = value' := by simpa using same key
      subst values
      congr 1
      refine ih hf.2 hs.2 fun name => ?_
      by_cases at_key : name = key
      · subst at_key
        rw [lookup_eq_none_of_lt hf.1, lookup_eq_none_of_lt hs.1]
      · have := same name
        rwa [lookup_cons_of_ne _ _ at_key, lookup_cons_of_ne _ _ at_key] at this

/-- Two maps with the same look-ups are equal. -/
theorem ext_get? {m m' : Attributes β} (same : ∀ name, m.get? name = m'.get? name) : m = m' := by
  obtain ⟨entries, ordered⟩ := m
  obtain ⟨entries', ordered'⟩ := m'
  have := entries_ext ordered ordered' same
  subst this
  rfl

end Attributes

end Folio
