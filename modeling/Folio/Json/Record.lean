import Folio.Json.Fault

/-!
# Records in JSON

A record is written as an object, whose members may come in any order among unknown ones, or as the
list of its values in the order of its slots. Values are put into a draft of the record one after
the other, so the first that does not fit is the one reported.
-/

namespace Folio.Json

/-- A place in a draft: the key of its member, whether it is filled, and how a value fills it. -/
structure Slot (σ : Type) where
  key : String
  isFilled : σ → Bool
  fill : σ → Value → Except Cause σ

/-- A slot for a value that is read by itself and put into its place. -/
def Slot.of {σ α : Type} (key : String) (get : σ → Option α) (set : σ → α → σ)
    (read : Value → Except Cause α) : Slot σ where
  key := key
  isFilled draft := (get draft).isSome
  fill draft value := (read value).map (set draft)

/-- Fills a draft with the members of an object. Unknown keys are passed over, and a slot is filled
once. -/
def fillMembers {σ : Type} (slots : List (Slot σ)) (draft : σ) :
    List (String × Value) → Except Cause σ
  | [] => .ok draft
  | (key, value) :: rest =>
    match slots.find? (·.key == key) with
    | none => fillMembers slots draft rest
    | some slot =>
      if slot.isFilled draft then .error (.repeatedField key)
      else do
        let draft ← slot.fill draft value
        fillMembers slots draft rest

/-- A number of elements in words. -/
def elementCount (n : Nat) : String :=
  toString n ++ (if n = 1 then " element" else " elements")

/-- Fills a draft with the items of a list, one for each slot; `name` is what the record is called
and `filled` the number of slots before these. -/
def fillItems {σ : Type} (name : String) (filled : Nat) (draft : σ) :
    List (Slot σ) → List Value → Except Cause σ
  | [], [] => .ok draft
  | [], extra =>
    .error (.wrongLength (filled + extra.length) (elementCount filled ++ " in sequence"))
  | slot :: slots, [] =>
    .error (.wrongLength filled
      (name ++ " with " ++ elementCount (filled + (slot :: slots).length)))
  | slot :: slots, value :: rest => do
    let draft ← slot.fill draft value
    fillItems name (filled + 1) draft slots rest

/-- The content of a slot that must have been filled. -/
def required {α : Type} (key : String) (content : Option α) : Except Cause α :=
  match content with
  | some a => .ok a
  | none => .error (.missingField key)

end Folio.Json
