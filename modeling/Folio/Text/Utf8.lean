/-!
# Reading UTF-8

Bytes from outside are text only if they are well-formed UTF-8. A fault says where the first
character that is not well formed begins, and how many of its bytes were taken before it went wrong;
a text that ends in the middle of a character is incomplete.
-/

namespace Folio.Text

/-- Why bytes are no text: the place of the first wrong character, and the bytes it got wrong; none
if the bytes ended before the character did. -/
structure Utf8Fault where
  index : Nat
  length : Option Nat
  deriving DecidableEq, Repr

/-- The message of a fault. -/
def Utf8Fault.message (fault : Utf8Fault) : String :=
  match fault.length with
  | some length =>
    "invalid utf-8 sequence of " ++ toString length ++ " bytes from index " ++ toString fault.index
  | none => "incomplete utf-8 byte sequence from index " ++ toString fault.index

/-- What the first byte of a longer character says: its part of the code point, how many bytes
follow, and the range of the next one, which rules out long forms, surrogates and code points that
are too great. -/
structure Lead where
  part : Nat
  following : Nat
  low : Nat
  high : Nat

/-- The lead of a byte, if a character of several bytes can begin with it. -/
def Lead.ofByte? (byte : Nat) : Option Lead :=
  if 0xC2 ≤ byte ∧ byte ≤ 0xDF then some ⟨byte - 0xC0, 1, 0x80, 0xBF⟩
  else if byte = 0xE0 then some ⟨0, 2, 0xA0, 0xBF⟩
  else if byte = 0xED then some ⟨0xD, 2, 0x80, 0x9F⟩
  else if 0xE1 ≤ byte ∧ byte ≤ 0xEF then some ⟨byte - 0xE0, 2, 0x80, 0xBF⟩
  else if byte = 0xF0 then some ⟨0, 3, 0x90, 0xBF⟩
  else if 0xF1 ≤ byte ∧ byte ≤ 0xF3 then some ⟨byte - 0xF0, 3, 0x80, 0xBF⟩
  else if byte = 0xF4 then some ⟨4, 3, 0x80, 0x8F⟩
  else none

/-- Takes the bytes that follow a lead. The error is the number of bytes taken before a wrong one,
or none at the end of the bytes. -/
def takeFollowing (part taken low high : Nat) :
    Nat → (bytes : List UInt8) →
      Except (Option Nat) (Nat × { rest : List UInt8 // rest.length ≤ bytes.length })
  | 0, bytes => .ok (part, ⟨bytes, Nat.le_refl _⟩)
  | _ + 1, [] => .error none
  | more + 1, byte :: bytes =>
    if low ≤ byte.toNat ∧ byte.toNat ≤ high then
      (takeFollowing (64 * part + byte.toNat % 64) (taken + 1) 0x80 0xBF more bytes).map
        fun (code, ⟨rest, h⟩) => (code, ⟨rest, Nat.le_succ_of_le h⟩)
    else .error (some taken)

/-- The characters of bytes that come behind `index` others. -/
def decodeFrom (index : Nat) (bytes : List UInt8) : Except Utf8Fault (List Char) :=
  match bytes with
  | [] => .ok []
  | byte :: rest =>
    if byte.toNat < 0x80 then (decodeFrom (index + 1) rest).map (Char.ofNat byte.toNat :: ·)
    else match Lead.ofByte? byte.toNat with
      | none => .error ⟨index, some 1⟩
      | some lead =>
        match takeFollowing lead.part 1 lead.low lead.high lead.following rest with
        | .error length => .error ⟨index, length⟩
        | .ok (code, ⟨behind, _⟩) =>
          (decodeFrom (index + 1 + lead.following) behind).map (Char.ofNat code :: ·)
termination_by bytes.length
decreasing_by all_goals (simp only [List.length_cons]; omega)

/-- The text of bytes. -/
def decode (bytes : List UInt8) : Except Utf8Fault String :=
  (decodeFrom 0 bytes).map String.ofList

/-- The bytes of a text. -/
def encode (text : String) : List UInt8 :=
  text.toUTF8.toList

end Folio.Text
