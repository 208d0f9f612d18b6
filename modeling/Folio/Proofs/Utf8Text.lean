import Folio.Text.Utf8
import Mathlib.Tactic.SplitIfs

/-!
# Texts in UTF-8 and back

The bytes of a text are those of its characters one after the other (`encode_eq_flatMap`), and each
character is read back from its own, so a text comes back from its bytes (`decode_encode`). The byte
nought stands for the character NUL and for nothing else. A text that is before another by its
characters is before it by its bytes (`encode_lt_encode`).
-/

namespace Folio.Text

/-! ## Bytes of a text -/

theorem toList_loop_eq (bytes : ByteArray) (i : Nat) (before : List UInt8) :
    ByteArray.toList.loop bytes i before = before.reverse ++ bytes.data.toList.drop i := by
  fun_induction ByteArray.toList.loop bytes i before with
  | case1 i before within ih =>
    have inside : i < bytes.data.toList.length := within
    rw [ih, List.drop_eq_getElem_cons inside]
    simp [ByteArray.get!, within]
  | case2 i before outside =>
    have beyond : bytes.data.toList.length ≤ i := Nat.le_of_not_lt outside
    rw [List.drop_eq_nil_of_le beyond, List.append_nil]

/-- The bytes of a text are those of its characters. -/
theorem encode_eq_flatMap (text : String) :
    encode text = text.toList.flatMap String.utf8EncodeChar := by
  rw [encode, ByteArray.toList, toList_loop_eq, List.drop_zero, List.reverse_nil, List.nil_append,
    String.toUTF8, ← String.utf8Encode_toList, List.utf8Encode, List.toList_data_toByteArray]

/-! ## Characters read back -/

theorem takeFollowing_nil {part taken low high code : Nat} (same : part = code)
    (rest : List UInt8) :
    ∃ h, takeFollowing part taken low high 0 rest = .ok (code, ⟨rest, h⟩) := by
  subst same
  exact ⟨Nat.le_refl _, rfl⟩

theorem takeFollowing_cons {part taken low high more code : Nat} {byte : UInt8}
    {bytes rest : List UInt8} (within : low ≤ byte.toNat ∧ byte.toNat ≤ high)
    (next : ∃ h, takeFollowing (64 * part + byte.toNat % 64) (taken + 1) 0x80 0xBF more bytes =
      .ok (code, ⟨rest, h⟩)) :
    ∃ h, takeFollowing part taken low high (more + 1) (byte :: bytes) = .ok (code, ⟨rest, h⟩) := by
  obtain ⟨h, next⟩ := next
  refine ⟨Nat.le_succ_of_le h, ?_⟩
  rw [takeFollowing, if_pos within, next]
  rfl

theorem decodeFrom_lead {index code : Nat} {c : Char} {byte : UInt8} {lead : Lead}
    {bytes rest : List UInt8} (leads : Lead.ofByte? byte.toNat = some lead)
    (long : ¬ byte.toNat < 0x80)
    (followed : ∃ h, takeFollowing lead.part 1 lead.low lead.high lead.following bytes =
      .ok (code, ⟨rest, h⟩)) (char : Char.ofNat code = c) :
    ∃ behind, decodeFrom index (byte :: bytes) = (decodeFrom behind rest).map (c :: ·) := by
  obtain ⟨h, followed⟩ := followed
  refine ⟨index + 1 + lead.following, ?_⟩
  rw [decodeFrom, if_neg long, leads, ← char]
  dsimp only
  rw [followed]

/-- The first byte of a character of two bytes, and the range of the next. -/
theorem ofByte?_two {n : Nat} (low : 0x7F < n) (high : n ≤ 0x7FF) :
    Lead.ofByte? (n / 64 + 192) = some ⟨n / 64, 1, 0x80, 0xBF⟩ := by
  rw [Lead.ofByte?, if_pos (by omega), Nat.add_sub_cancel]

/-- The first byte of a character of three bytes, and the range of the next, which rules out the
halves of pairs. -/
theorem ofByte?_three {n : Nat} (low : 0x7FF < n) (high : n ≤ 0xFFFF)
    (whole : n < 0xD800 ∨ 0xDFFF < n) :
    ∃ lead : Lead, Lead.ofByte? (n / 4096 + 224) = some lead ∧ lead.part = n / 4096 ∧
      lead.following = 2 ∧ lead.low ≤ n / 64 % 64 + 128 ∧ n / 64 % 64 + 128 ≤ lead.high := by
  rw [Lead.ofByte?, if_neg (by omega)]
  by_cases first : n / 4096 + 224 = 0xE0
  · refine ⟨_, if_pos first, ?_, rfl, ?_, ?_⟩ <;> dsimp only <;> omega
  by_cases surrogates : n / 4096 + 224 = 0xED
  · rw [if_neg first]
    refine ⟨_, if_pos surrogates, ?_, rfl, ?_, ?_⟩ <;> dsimp only <;> omega
  rw [if_neg first, if_neg surrogates]
  refine ⟨_, if_pos (by omega), ?_, rfl, ?_, ?_⟩ <;> dsimp only <;> omega

/-- The first byte of a character of four bytes, and the range of the next. -/
theorem ofByte?_four {n : Nat} (low : 0xFFFF < n) (high : n < 0x110000) :
    ∃ lead : Lead, Lead.ofByte? (n / 262144 + 240) = some lead ∧ lead.part = n / 262144 ∧
      lead.following = 3 ∧ lead.low ≤ n / 4096 % 64 + 128 ∧ n / 4096 % 64 + 128 ≤ lead.high := by
  rw [Lead.ofByte?, if_neg (by omega), if_neg (by omega), if_neg (by omega), if_neg (by omega)]
  by_cases first : n / 262144 + 240 = 0xF0
  · refine ⟨_, if_pos first, ?_, rfl, ?_, ?_⟩ <;> dsimp only <;> omega
  by_cases last : n / 262144 + 240 = 0xF4
  · rw [if_neg first, if_neg (by omega)]
    refine ⟨_, if_pos last, ?_, rfl, ?_, ?_⟩ <;> dsimp only <;> omega
  rw [if_neg first]
  refine ⟨_, if_pos (by omega), ?_, rfl, ?_, ?_⟩ <;> dsimp only <;> omega

/-- A character is read back from its bytes. -/
theorem decodeFrom_encodeChar (index : Nat) (c : Char) (rest : List UInt8) :
    ∃ behind, decodeFrom index (String.utf8EncodeChar c ++ rest) =
      (decodeFrom behind rest).map (c :: ·) := by
  have valid : c.toNat < 0xD800 ∨ 0xDFFF < c.toNat ∧ c.toNat < 0x110000 := c.valid
  have char : Char.ofNat c.toNat = c := Char.ofNat_toNat c
  have code : c.val.toNat = c.toNat := rfl
  unfold String.utf8EncodeChar
  dsimp only
  rw [code]
  generalize c.toNat = n at *
  split
  · rename_i one
    have byte : (UInt8.ofNat n).toNat = n := by
      rw [UInt8.toNat_ofNat']
      omega
    refine ⟨index + 1, ?_⟩
    rw [List.singleton_append, decodeFrom, byte, if_pos (by omega), char]
  have following : ∀ part, (UInt8.ofNat (part % 64 + 128)).toNat = part % 64 + 128 := by
    intro part
    rw [UInt8.toNat_ofNat']
    omega
  have last := following n
  have middle := following (n / 64)
  have second := following (n / 4096)
  split
  · rename_i more two
    have lead : (UInt8.ofNat (n / 64 % 32 + 192)).toNat = n / 64 + 192 := by
      rw [UInt8.toNat_ofNat']
      omega
    have leads := ofByte?_two (by omega) two
    rw [← lead] at leads
    refine decodeFrom_lead leads (by omega) ?_ char
    exact takeFollowing_cons (by dsimp only; omega) (takeFollowing_nil (by dsimp only; omega) rest)
  split
  · rename_i more three
    have first : (UInt8.ofNat (n / 4096 % 16 + 224)).toNat = n / 4096 + 224 := by
      rw [UInt8.toNat_ofNat']
      omega
    obtain ⟨lead, leads, part, following, low, high⟩ := ofByte?_three (by omega) three (by omega)
    rw [← first] at leads
    refine decodeFrom_lead leads (by omega) ?_ char
    rw [following]
    exact takeFollowing_cons (by omega) (takeFollowing_cons (by omega)
      (takeFollowing_nil (by omega) rest))
  · rename_i more
    have first : (UInt8.ofNat (n / 262144 % 8 + 240)).toNat = n / 262144 + 240 := by
      rw [UInt8.toNat_ofNat']
      omega
    obtain ⟨lead, leads, part, following, low, high⟩ := @ofByte?_four n (by omega) (by omega)
    rw [← first] at leads
    refine decodeFrom_lead leads (by omega) ?_ char
    rw [following]
    exact takeFollowing_cons (by omega) (takeFollowing_cons (by omega)
      (takeFollowing_cons (by omega) (takeFollowing_nil (by omega) rest)))

/-- A text comes back from its bytes. -/
theorem decode_encode (text : String) : decode (encode text) = .ok text := by
  have chars : ∀ (chars : List Char) (index : Nat),
      decodeFrom index (chars.flatMap String.utf8EncodeChar) = .ok chars := by
    intro chars
    induction chars with
    | nil =>
      intro index
      rw [List.flatMap_nil, decodeFrom]
    | cons c chars ih =>
      intro index
      obtain ⟨behind, read⟩ := decodeFrom_encodeChar index c (chars.flatMap String.utf8EncodeChar)
      rw [List.flatMap_cons, read, ih]
      rfl
  rw [decode, encode_eq_flatMap, chars]
  exact congrArg Except.ok String.ofList_toList

/-! ## The byte nought -/

/-- The byte nought is the only byte of NUL, and no byte of another character. -/
theorem zero_mem_encodeChar {c : Char} (member : 0 ∈ String.utf8EncodeChar c) : c = '\x00' := by
  have valid : c.toNat < 0xD800 ∨ 0xDFFF < c.toNat ∧ c.toNat < 0x110000 := c.valid
  have code : c.val.toNat = c.toNat := rfl
  have nonzero : ∀ n, n < 256 → n ≠ 0 → (0 : UInt8) ≠ UInt8.ofNat n := by
    intro n small nonzero same
    have value := congrArg UInt8.toNat same
    rw [UInt8.toNat_ofNat', UInt8.toNat_zero] at value
    omega
  have zero : c.toNat = 0 := by
    unfold String.utf8EncodeChar at member
    dsimp only at member
    rw [code] at member
    generalize c.toNat = n at *
    refine Decidable.byContradiction fun positive => ?_
    split at member
    · exact nonzero n (by omega) positive (List.mem_singleton.1 member)
    split at member
    · simp only [List.mem_cons, List.not_mem_nil, or_false] at member
      rcases member with first | last
      · exact nonzero _ (by omega) (by omega) first
      · exact nonzero _ (by omega) (by omega) last
    split at member <;> simp only [List.mem_cons, List.not_mem_nil, or_false] at member
    · rcases member with first | middle | last
      · exact nonzero _ (by omega) (by omega) first
      · exact nonzero _ (by omega) (by omega) middle
      · exact nonzero _ (by omega) (by omega) last
    · rcases member with first | second | middle | last
      · exact nonzero _ (by omega) (by omega) first
      · exact nonzero _ (by omega) (by omega) second
      · exact nonzero _ (by omega) (by omega) middle
      · exact nonzero _ (by omega) (by omega) last
  rw [← Char.ofNat_toNat c, zero]

theorem zero_notMem_encode {text : String} (noNul : '\x00' ∉ text.toList) : 0 ∉ encode text := by
  rw [encode_eq_flatMap, List.mem_flatMap]
  rintro ⟨c, member, zero⟩
  rw [zero_mem_encodeChar zero] at member
  exact noNul member

/-! ## The order of the bytes -/

/-- A smaller byte decides, and of equal bytes what is behind them. -/
theorem ofNat_cons_lt {m n : Nat} {rest rest' : List UInt8} (small : n < 256) (le : m ≤ n)
    (next : m = n → rest < rest') : UInt8.ofNat m :: rest < UInt8.ofNat n :: rest' := by
  rw [List.cons_lt_cons_iff]
  rcases Nat.lt_or_eq_of_le le with less | same
  · left
    rw [UInt8.lt_iff_toNat_lt, UInt8.toNat_ofNat_of_lt' (Nat.lt_trans less small),
      UInt8.toNat_ofNat_of_lt' small]
    exact less
  · exact .inr ⟨congrArg UInt8.ofNat same, next same⟩

/-- The bytes of the smaller of two characters come first, whatever follows. -/
theorem encodeChar_append_lt {c d : Char} (before : c < d) (rest rest' : List UInt8) :
    String.utf8EncodeChar c ++ rest < String.utf8EncodeChar d ++ rest' := by
  have less : c.toNat < d.toNat := before
  have valid : d.toNat < 0xD800 ∨ 0xDFFF < d.toNat ∧ d.toNat < 0x110000 := d.valid
  have code : c.val.toNat = c.toNat := rfl
  have code' : d.val.toNat = d.toNat := rfl
  unfold String.utf8EncodeChar
  dsimp only
  rw [code, code']
  generalize c.toNat = m at *
  generalize d.toNat = n at *
  -- One goal for each pair of lengths, the second not the shorter: the first byte tells unlike
  -- lengths apart, and for like ones the parts of the smaller code are no greater one by one until
  -- they differ.
  split_ifs <;> try omega
  all_goals
    simp only [List.cons_append, List.nil_append]
    repeat' refine ofNat_cons_lt (by omega) (by omega) fun _ => ?_
    omega

theorem flatMap_encodeChar_lt {chars others : List Char} (before : chars < others) :
    chars.flatMap String.utf8EncodeChar < others.flatMap String.utf8EncodeChar := by
  induction chars generalizing others with
  | nil =>
    cases others with
    | nil => exact absurd before (List.lt_irrefl [])
    | cons d others =>
      rw [List.flatMap_nil, List.flatMap_cons]
      cases bytes : String.utf8EncodeChar d with
      | nil => exact absurd bytes String.utf8EncodeChar_ne_nil
      | cons byte more => exact List.nil_lt_cons byte _
  | cons c chars ih =>
    cases others with
    | nil => exact absurd before (List.not_lt_nil _)
    | cons d others =>
      rw [List.flatMap_cons, List.flatMap_cons]
      rcases List.cons_lt_cons_iff.1 before with less | ⟨rfl, later⟩
      · exact encodeChar_append_lt less _ _
      · exact List.append_left_lt (ih later)

theorem encode_lt_encode {text other : String} (before : text < other) :
    encode text < encode other := by
  rw [encode_eq_flatMap, encode_eq_flatMap]
  exact flatMap_encodeChar_lt before

end Folio.Text
