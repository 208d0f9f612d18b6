import Folio.Json.Record
import Folio.Proofs.JsonText

/-!
# Records filled in any order

A draft of a record is filled member by member. Members for different slots can change places, and
so can two for one slot, since the second of them is refused whichever it is (`Slot.Apart`). So the
members of an object fill the draft alike in any order, with unknown ones anywhere among them
(`fillMembers_of_perm`), and so does the list of their values (`fillItems_of_fillMembers`).
-/

namespace Folio.Json

variable {σ α β : Type}

/-! ## Slots -/

/-- Puts a value into a slot, if the slot is free and the value fits. -/
def Slot.put? (slot : Slot σ) (draft : σ) (value : Value) : Option σ :=
  if slot.isFilled draft then none else (slot.fill draft value).toOption

/-- Whether it does not matter which of two slots is filled first. -/
def Slot.Apart (first second : Slot σ) : Prop :=
  ∀ draft value other, (first.put? draft value).bind (second.put? · other) =
    (second.put? draft other).bind (first.put? · value)

theorem Slot.Apart.symm {first second : Slot σ} (apart : first.Apart second) :
    second.Apart first :=
  fun draft value other => (apart draft other value).symm

/-- Whether slots can be filled in any order. -/
def SlotsApart (slots : List (Slot σ)) : Prop :=
  ∀ first ∈ slots, ∀ second ∈ slots, first.Apart second

theorem slotsApart_cons {slot : Slot σ} {slots : List (Slot σ)} :
    SlotsApart (slot :: slots) ↔
      slot.Apart slot ∧ (∀ other ∈ slots, slot.Apart other) ∧ SlotsApart slots := by
  unfold SlotsApart
  simp only [List.forall_mem_cons]
  constructor
  · rintro ⟨⟨self, first⟩, others⟩
    exact ⟨self, first, fun other member => (others other member).2⟩
  · rintro ⟨self, first, others⟩
    exact ⟨⟨self, first⟩, fun other member => ⟨(first other member).symm, others other member⟩⟩

section Of

variable {key key' : String} {get : σ → Option α} {get' : σ → Option β} {set : σ → α → σ}
  {set' : σ → β → σ} {read : Value → Except Cause α} {read' : Value → Except Cause β}

theorem Slot.put?_of (draft : σ) (value : Value) :
    (Slot.of key get set read).put? draft value =
      if (get draft).isSome then none else (read value).toOption.map (set draft) := by
  have filled :
      ((read value).map (set draft)).toOption = (read value).toOption.map (set draft) := by
    cases read value <;> rfl
  rw [← filled]
  rfl

/-- Nothing is put into one slot twice. -/
theorem Slot.apart_self_of (fills : ∀ draft a, get (set draft a) = some a) :
    (Slot.of key get set read).Apart (Slot.of key get set read) := by
  have twice : ∀ draft value other, ((Slot.of key get set read).put? draft value).bind
      ((Slot.of key get set read).put? · other) = none := by
    intro draft value other
    rw [Option.bind_eq_none_iff]
    intro filled put
    rw [Slot.put?_of] at put ⊢
    split at put
    · cases put
    · obtain ⟨a, -, rfl⟩ := Option.map_eq_some_iff.1 put
      rw [fills, Option.isSome_some, if_pos rfl]
  exact fun draft value other => (twice draft value other).trans (twice draft other value).symm

/-- Slots for different places can be filled in either order. -/
theorem Slot.apart_of (first : ∀ draft b, get (set' draft b) = get draft)
    (second : ∀ draft a, get' (set draft a) = get' draft)
    (both : ∀ draft a b, set' (set draft a) b = set (set' draft b) a) :
    (Slot.of key get set read).Apart (Slot.of key' get' set' read') := by
  intro draft value other
  simp only [Slot.put?_of]
  cases place : get draft <;> cases place' : get' draft <;> cases (read value).toOption <;>
    cases (read' other).toOption <;> simp [first, second, both, place, place']

end Of

/-! ## Members -/

section Members

variable {slots : List (Slot σ)}

/-- Adds a member to a draft; an unknown one adds nothing. -/
def addSlot? (slots : List (Slot σ)) (draft : σ) (x : String × Value) : Option σ :=
  match slots.find? (·.key == x.1) with
  | none => some draft
  | some slot => slot.put? draft x.2

/-- A draft is filled member by member. -/
theorem fillMembers_toOption (slots : List (Slot σ)) (draft : σ)
    (members : List (String × Value)) :
    (fillMembers slots draft members).toOption = members.foldlM (addSlot? slots) draft := by
  induction members generalizing draft with
  | nil => rfl
  | cons x members ih =>
    obtain ⟨key, value⟩ := x
    rw [fillMembers, List.foldlM_cons, addSlot?]
    dsimp only
    cases slots.find? (·.key == key) with
    | none => exact ih draft
    | some slot =>
      dsimp only
      rw [Slot.put?]
      by_cases filled : slot.isFilled draft
      · rw [if_pos filled, if_pos filled]
        rfl
      · rw [if_neg filled, if_neg filled]
        cases slot.fill draft value with
        | error _ => rfl
        | ok draft => exact ih draft

theorem addSlot?_unknown {x : String × Value} (unknown : x.1 ∉ slots.map Slot.key) (draft : σ) :
    addSlot? slots draft x = some draft := by
  have none : slots.find? (·.key == x.1) = none := by
    rw [List.find?_eq_none]
    intro slot member same
    exact unknown (List.mem_map.2 ⟨slot, member, beq_iff_eq.1 same⟩)
  rw [addSlot?, none]

/-- Members can change places. -/
theorem addSlot?_comm (apart : SlotsApart slots) (draft : σ) (x y : String × Value) :
    (addSlot? slots draft x).bind (addSlot? slots · y) =
      (addSlot? slots draft y).bind (addSlot? slots · x) := by
  unfold addSlot?
  cases found : slots.find? (·.key == x.1) with
  | none => exact (Option.bind_fun_some _).symm
  | some first =>
    cases found' : slots.find? (·.key == y.1) with
    | none => exact Option.bind_fun_some _
    | some second =>
      exact apart first (List.mem_of_find?_eq_some found) second
        (List.mem_of_find?_eq_some found') draft x.2 y.2

theorem foldlM_addSlot?_unknown {extra : List (String × Value)}
    (unknown : ∀ x ∈ extra, x.1 ∉ slots.map Slot.key) (draft : σ) :
    extra.foldlM (addSlot? slots) draft = some draft := by
  induction extra with
  | nil => rfl
  | cons x extra ih =>
    obtain ⟨first, others⟩ := List.forall_mem_cons.1 unknown
    rw [List.foldlM_cons, addSlot?_unknown first]
    exact ih others

/-- The members of an object fill a draft alike in any order and among unknown ones. -/
theorem fillMembers_of_perm (apart : SlotsApart slots) {draft full : σ}
    {known extra members : List (String × Value)}
    (fills : fillMembers slots draft known = .ok full)
    (unknown : ∀ x ∈ extra, x.1 ∉ slots.map Slot.key) (anyOrder : members.Perm (known ++ extra)) :
    fillMembers slots draft members = .ok full := by
  have filled : (fillMembers slots draft members).toOption = some full := by
    rw [fillMembers_toOption, foldlM_perm (addSlot?_comm apart) anyOrder, List.foldlM_append,
      ← fillMembers_toOption, fills]
    exact foldlM_addSlot?_unknown unknown full
  cases result : fillMembers slots draft members with
  | error _ =>
    rw [result] at filled
    cases filled
  | ok draft =>
    rw [result] at filled
    exact congrArg _ (Option.some.inj filled)

end Members

/-! ## Items -/

theorem find?_key_append {before behind : List (Slot σ)} {slot : Slot σ}
    (distinct : ((before ++ slot :: behind).map Slot.key).Nodup) :
    (before ++ slot :: behind).find? (·.key == slot.key) = some slot := by
  rw [List.map_append, List.map_cons, List.nodup_append] at distinct
  obtain ⟨-, -, apart⟩ := distinct
  have others : before.find? (·.key == slot.key) = none := by
    rw [List.find?_eq_none]
    intro other member same
    exact apart other.key (List.mem_map_of_mem member) slot.key List.mem_cons_self
      (beq_iff_eq.1 same)
  rw [List.find?_append, others, Option.none_or]
  exact List.find?_cons_of_pos (beq_self_eq_true slot.key)

/-- Members with the keys of the last slots in order fill a draft as the list of their values
does. -/
theorem fillItems_behind {done slots : List (Slot σ)} {fields : List (String × Value)}
    (distinct : ((done ++ slots).map Slot.key).Nodup)
    (keys : fields.map Prod.fst = slots.map Slot.key) {draft full : σ}
    (fills : fillMembers (done ++ slots) draft fields = .ok full) (name : String) (filled : Nat) :
    fillItems name filled draft slots (fields.map Prod.snd) = .ok full := by
  induction slots generalizing done fields draft filled with
  | nil =>
    rw [List.map_nil, List.map_eq_nil_iff] at keys
    rw [keys] at fills ⊢
    exact fills
  | cons slot slots ih =>
    cases fields with
    | nil => cases keys
    | cons x fields =>
      obtain ⟨key, value⟩ := x
      rw [List.map_cons, List.map_cons, List.cons.injEq] at keys
      obtain ⟨rfl, keys⟩ := keys
      rw [fillMembers, find?_key_append distinct] at fills
      dsimp only at fills
      split at fills
      · cases fills
      · rw [List.map_cons, fillItems]
        cases put : slot.fill draft value with
        | error cause =>
          rw [put] at fills
          cases fills
        | ok draft =>
          rw [put] at fills
          change fillMembers (done ++ slot :: slots) draft fields = .ok full at fills
          rw [List.append_cons] at distinct fills
          exact ih distinct keys fills (filled + 1)

/-- Members with the keys of the slots in order fill a draft as the list of their values does. -/
theorem fillItems_of_fillMembers {slots : List (Slot σ)} {fields : List (String × Value)}
    (distinct : (slots.map Slot.key).Nodup) (keys : fields.map Prod.fst = slots.map Slot.key)
    {draft full : σ} (fills : fillMembers slots draft fields = .ok full) (name : String) :
    fillItems name 0 draft slots (fields.map Prod.snd) = .ok full := by
  rw [← List.nil_append slots] at distinct fills
  exact fillItems_behind distinct keys fills name 0

end Folio.Json
