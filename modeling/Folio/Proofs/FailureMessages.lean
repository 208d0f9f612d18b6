import Folio.Proofs.CommandFaults
import Folio.Service

/-!
# What a failure says

The message of a failure is made of fixed words, of numbers, of quoted strings, and of the name of
an unknown call or alignment. Numbers are digits and marks, and a quoted string has its control
characters escaped, so only such a name can bring a control character into a message
(`Json.Cause.plain_message`). A message has a NUL exactly if a command has one in a name that is
not known (`nul_mem_message_iff`).
-/

namespace Folio

theorem Json.plain_appendText {first second : String} :
    Plain (first ++ second).toList ↔ Plain first.toList ∧ Plain second.toList := by
  rw [String.toList_append, plain_append]

open Json (Plain plain_appendText plain_append plain_cons plain_toDigits plain_toString)

/-! ## Digits -/

theorem plain_hexDigits (n : Nat) : Plain (Text.hexDigits n) := by
  rw [Text.hexDigits]
  have digit : ∀ d < 16, Plain [d.digitChar] := by decide
  induction n using Nat.strongRecOn with
  | ind n ih =>
    rcases Nat.lt_or_ge n 16 with small | great
    · rw [Nat.toDigits_of_lt_base small]
      exact digit n small
    · rw [Nat.toDigits_of_base_le (by decide) great, plain_append]
      exact ⟨ih _ (Nat.div_lt_self (Nat.lt_of_lt_of_le (by decide) great) (by decide)),
        digit _ (Nat.mod_lt n (by decide))⟩

theorem plain_replicate {c : Char} (plain : Plain [c]) (n : Nat) : Plain (List.replicate n c) := by
  intro c' member
  rw [(List.mem_replicate.1 member).2]
  exact plain c List.mem_cons_self

/-! ## Numbers -/

namespace Number

theorem plain_exponentMark (e : Int) : Plain (exponentMark e) := by
  refine plain_cons.2 ⟨by decide, plain_cons.2 ⟨?_, plain_toDigits _⟩⟩
  split <;> decide

theorem plain_withoutTrailingZeros (n : Nat) : Plain (withoutTrailingZeros n).1 := by
  intro c member
  have inDigits : c ∈ (Nat.toDigits 10 n).reverse :=
    (List.dropWhile_sublist _).mem (List.mem_reverse.1 member)
  exact plain_toDigits n c (List.mem_reverse.1 inDigits)

variable {layout : Layout} (mark : Plain layout.wholeMark)
include mark

theorem Layout.plain_digits {digits : List Char} (plain : Plain digits) (first : Int) :
    Plain (layout.digits digits first) := by
  unfold Layout.digits
  split
  · split
    · exact plain_append.2 ⟨plain_cons.2 ⟨by decide, plain_cons.2
        ⟨by decide, plain_replicate (by decide) _⟩⟩, plain⟩
    · dsimp only
      split
      · exact plain_append.2 ⟨plain_append.2 ⟨plain, plain_replicate (by decide) _⟩, mark⟩
      · exact plain_append.2 ⟨fun c member => plain c (List.mem_of_mem_take member),
          plain_cons.2 ⟨by decide, fun c member => plain c (List.mem_of_mem_drop member)⟩⟩
  · split
    · exact plain
    · exact plain_cons.2 ⟨(plain_cons.1 plain).1, plain_exponentMark _⟩
    · obtain ⟨digit, others⟩ := plain_cons.1 plain
      exact plain_cons.2 ⟨digit, plain_append.2
        ⟨plain_cons.2 ⟨by decide, others⟩, plain_exponentMark _⟩⟩

/-- However a number is laid out, its digits and marks can be seen. -/
theorem Layout.plain_finite (format : Format) (negative : Bool) (magnitude : Nat) :
    Plain (layout.finite format negative magnitude) := by
  have sign : Plain (if negative then ['-'] else []) := by
    split <;> decide
  unfold Layout.finite
  dsimp only
  split
  · exact plain_append.2 ⟨sign, Layout.plain_digits mark (by decide) 0⟩
  · refine plain_append.2 ⟨sign, Layout.plain_digits mark ?_ _⟩
    exact plain_withoutTrailingZeros _

omit mark in
theorem plain_plainText (x : Float32) : Plain (plainText x).toList := by
  unfold plainText
  split
  · decide
  split
  · rw [String.toList_ofList]
    exact Layout.plain_finite (by decide) _ _ _
  · split <;> decide

end Number

/-! ## Quoted strings -/

theorem plain_quotedChar (c : Char) : Plain (Text.quotedChar c) := by
  unfold Text.quotedChar
  split
  · decide
  split
  · decide
  split
  · decide
  split
  · decide
  split
  · decide
  split
  · decide
  split
  · rename_i seen
    have least : 0x20 ≤ c.toNat := by
      unfold Text.isSeen at seen
      dsimp only at seen
      split at seen
      · exact of_decide_eq_true seen
      · omega
    exact plain_cons.2 ⟨.inr least, Json.plain_nil⟩
  · exact plain_append.2 ⟨plain_append.2 ⟨by decide, plain_hexDigits _⟩, by decide⟩

theorem plain_quoted (text : String) : Plain (Text.quoted text).toList := by
  rw [Text.quoted, String.toList_ofList]
  refine plain_append.2 ⟨plain_cons.2 ⟨by decide, ?_⟩, by decide⟩
  intro c member
  obtain ⟨c', -, member⟩ := List.mem_flatMap.1 member
  exact plain_quotedChar c' c member

/-! ## Messages -/

namespace Json

theorem plain_ticked {name : String} (plain : Plain name.toList) : Plain (ticked name).toList :=
  plain_appendText.2 ⟨plain_appendText.2 ⟨by decide, plain⟩, by decide⟩

theorem plain_text (n : Number) : Plain n.text.toList := by
  cases n with
  | natural n => exact plain_toString n
  | negative n => exact plain_appendText.2 ⟨by decide, plain_toString n⟩
  | real x =>
    rw [Number.text, String.toList_ofList]
    exact Folio.Number.Layout.plain_finite (by decide) _ _ _

theorem plain_kindText (kind : Kind) : Plain kind.text.toList := by
  cases kind with
  | null => decide
  | bool b => cases b <;> decide
  | number n =>
    have number := plain_ticked (plain_text n)
    cases n <;> exact plain_appendText.2 ⟨by decide, number⟩
  | string s => exact plain_appendText.2 ⟨by decide, plain_quoted s⟩
  | list => decide
  | object => decide

/-- The names that are known, with commas between them. -/
theorem plain_intercalate {names : List String} (plain : ∀ name ∈ names, Plain name.toList) :
    Plain (", ".intercalate (names.map ticked)).toList := by
  induction names with
  | nil => decide
  | cons name names ih =>
    obtain ⟨first, others⟩ := List.forall_mem_cons.1 plain
    cases names with
    | nil =>
      rw [List.map_cons, List.map_nil, String.intercalate_singleton]
      exact plain_ticked first
    | cons next names =>
      rw [List.map_cons, List.map_cons, String.intercalate_cons_cons, ← List.map_cons]
      exact plain_appendText.2 ⟨plain_appendText.2 ⟨plain_ticked first, by decide⟩, ih others⟩

/-- A message in own words has no control character unless it names a call or an alignment that is
not known. -/
theorem Cause.plain_message {cause : Cause} (known : cause.InOwnWords) :
    (∃ name names, cause = .unknownVariant name names) ∨ Plain cause.message.toList := by
  cases cause
  case unknownVariant name names => exact .inl ⟨name, names, rfl⟩
  all_goals refine .inr ?_
  case missingField name => exact plain_appendText.2 ⟨by decide, plain_ticked known⟩
  case repeatedField name => exact plain_appendText.2 ⟨by decide, plain_ticked known⟩
  case wrongKind found wanted =>
    exact plain_appendText.2 ⟨plain_appendText.2 ⟨plain_appendText.2
      ⟨by decide, plain_kindText found⟩, by decide⟩, known⟩
  case wrongValue found wanted =>
    exact plain_appendText.2 ⟨plain_appendText.2 ⟨plain_appendText.2
      ⟨by decide, plain_kindText found⟩, by decide⟩, known⟩
  case wrongLength found wanted =>
    exact plain_appendText.2 ⟨plain_appendText.2 ⟨plain_appendText.2
      ⟨by decide, plain_toString found⟩, by decide⟩, known⟩
  case misspelt what text =>
    exact plain_appendText.2 ⟨plain_appendText.2 ⟨plain_appendText.2
      ⟨by decide, known⟩, by decide⟩, plain_quoted text⟩
  all_goals decide

theorem Cause.nul_mem_message_unknownVariant {name : String} {names : List String}
    (known : ∀ name ∈ names, Plain name.toList) :
    '\x00' ∈ (Cause.unknownVariant name names).message.toList ↔ '\x00' ∈ name.toList := by
  have front : '\x00' ∉ ("unknown variant " ++ "\x60").toList := by decide
  have behind : '\x00' ∉ ("\x60" ++ ", expected one of ").toList := by decide
  have others := nul_notMem_of_plain (plain_intercalate known)
  rw [String.toList_append, List.mem_append, not_or] at front behind
  change '\x00' ∈ ("unknown variant " ++ ("\x60" ++ name ++ "\x60") ++ ", expected one of " ++
    ", ".intercalate (names.map ticked)).toList ↔ _
  simp only [String.toList_append, List.mem_append, front, behind, others, false_or, or_false]

/-- A message in own words has a NUL exactly if it names a call or an alignment with one. -/
theorem Cause.nul_mem_message_iff {cause : Cause} (known : cause.InOwnWords) :
    '\x00' ∈ cause.message.toList ↔
      ∃ name names, cause = .unknownVariant name names ∧ '\x00' ∈ name.toList := by
  rcases Cause.plain_message known with ⟨name, names, rfl⟩ | plain
  · rw [Cause.nul_mem_message_unknownVariant known]
    constructor
    · intro member
      exact ⟨name, names, rfl, member⟩
    · rintro ⟨_, _, ⟨⟩, member⟩
      exact member
  · refine iff_of_false (nul_notMem_of_plain plain) ?_
    rintro ⟨name, names, rfl, member⟩
    exact nul_notMem_of_plain plain ((Cause.nul_mem_message_unknownVariant known).2 member)

theorem Error.nul_mem_message (error : Error) :
    '\x00' ∈ error.message.toList ↔ '\x00' ∈ error.cause.message.toList := by
  have place : Plain (" at line " ++ toString error.place.line ++ " column " ++
      toString error.place.column).toList :=
    plain_appendText.2 ⟨plain_appendText.2 ⟨plain_appendText.2
      ⟨by decide, plain_toString _⟩, by decide⟩, plain_toString _⟩
  have notThere := nul_notMem_of_plain place
  simp only [String.toList_append, List.mem_append, not_or] at notThere
  simp only [Error.message, String.toList_append, List.mem_append, notThere, or_false]

end Json

/-! ## Failures -/

/-- What the parts of a failure can be: a document is refused for its letters or its shape, and a
command in own words. -/
def Failure.Known : Failure → Prop
  | .missingPlace => True
  | .notText what _ => Plain what.toList
  | .render (.document error) => error.IsLexical
  | .render (.contentWidth _) => True
  | .commands error => error.cause.InOwnWords
  | .nulInText => True

/-- Whether a failure names an unknown call or alignment whose name has a NUL. -/
def Failure.NamesNul (failure : Failure) : Prop :=
  ∃ name names place, failure = .commands ⟨.unknownVariant name names, place⟩ ∧
    '\x00' ∈ name.toList

theorem plain_utf8Message (fault : Text.Utf8Fault) : Plain fault.message.toList := by
  obtain ⟨index, length⟩ := fault
  cases length with
  | none => exact plain_appendText.2 ⟨by decide, plain_toString index⟩
  | some length =>
    exact plain_appendText.2 ⟨plain_appendText.2 ⟨plain_appendText.2
      ⟨by decide, plain_toString length⟩, by decide⟩, plain_toString index⟩

/-- A document that is refused is refused without a NUL. -/
theorem nul_notMem_renderMessage {error : RenderError} (known : (Failure.render error).Known) :
    '\x00' ∉ error.message.toList := by
  cases error with
  | contentWidth width =>
    have words : Plain "content width must be positive, got ".toList := by decide
    have plain := plain_appendText.2 ⟨words, Number.plain_plainText width⟩
    exact Json.nul_notMem_of_plain plain
  | document error =>
    have words : '\x00' ∉ "invalid style document: ".toList := by decide
    intro member
    change '\x00' ∈ ("invalid style document: " ++ error.message).toList at member
    rw [String.toList_append, List.mem_append, or_iff_right words] at member
    cases error with
    | shape => exact absurd member (by decide)
    | text error =>
      change error.cause.IsLexical at known
      rw [DocumentError.message, Json.Error.nul_mem_message,
        Json.Cause.nul_mem_message_iff (Json.Cause.inOwnWords_of_isLexical known)] at member
      obtain ⟨name, names, cause, -⟩ := member
      rw [cause] at known
      exact known

theorem Failure.nul_mem_message_iff {failure : Failure} (known : failure.Known) :
    '\x00' ∈ failure.message.toList ↔ failure.NamesNul := by
  cases failure with
  | missingPlace =>
    refine iff_of_false (by decide) ?_
    rintro ⟨_, _, _, ⟨⟩, _⟩
  | notText what fault =>
    have plain : Plain (what ++ ": " ++ fault.message).toList :=
      plain_appendText.2 ⟨plain_appendText.2 ⟨known, by decide⟩, plain_utf8Message fault⟩
    refine iff_of_false (Json.nul_notMem_of_plain plain) ?_
    rintro ⟨_, _, _, ⟨⟩, _⟩
  | render error =>
    refine iff_of_false ?_ ?_
    · exact nul_notMem_renderMessage known
    · rintro ⟨_, _, _, ⟨⟩, _⟩
  | commands error =>
    have words : '\x00' ∉ "Invalid command JSON: ".toList := by decide
    change '\x00' ∈ ("Invalid command JSON: " ++ error.message).toList ↔ _
    rw [String.toList_append, List.mem_append, or_iff_right words, Json.Error.nul_mem_message,
      Json.Cause.nul_mem_message_iff known]
    constructor
    · rintro ⟨name, names, cause, member⟩
      obtain ⟨_, place⟩ := error
      cases cause
      exact ⟨name, names, place, rfl, member⟩
    · rintro ⟨name, names, place, same, member⟩
      cases same
      exact ⟨name, names, rfl, member⟩
  | nulInText =>
    refine iff_of_false (by decide) ?_
    rintro ⟨_, _, _, ⟨⟩, _⟩

/-! ## Requests -/

/-- Whether a document is refused for its letters or its shape, or has no width. -/
def RenderError.Known (error : RenderError) : Prop :=
  (Failure.render error).Known

theorem known_drawDocument (text : String) (config : Config) :
    ErrorsIn RenderError.Known (drawDocument text config) := by
  have read : ErrorsIn RenderError.Known ((readDocument text).mapError RenderError.document) :=
    (isLexical_readDocument text).mapError fun _ => id
  refine ErrorsIn.map (read.bind fun rules => ?_) _
  unfold layoutRules
  split
  · exact errorsIn_ok _
  · exact errorsIn_error trivial

theorem known_decode {what : String} (plain : Plain what.toList) (bytes : List UInt8) :
    ErrorsIn Failure.Known ((Text.decode bytes).mapError (Failure.notText what)) :=
  errorsIn_mapError fun _ => plain

theorem known_pagesOfInput (bytes : List UInt8) (config : Config) :
    ErrorsIn Failure.Known (pagesOfInput bytes config) := by
  refine (known_decode (by decide) bytes).bind fun text => ?_
  refine ErrorsIn.bind ?_ fun _ => errorsIn_ok _
  exact ((known_drawDocument text config).map _).mapError fun _ => id

theorem errorsIn_handOver {p : Failure → Prop} (refused : p .nulInText) (text : String) :
    ErrorsIn p (handOver text) := by
  unfold handOver
  split
  · exact errorsIn_error refused
  · exact errorsIn_ok _

theorem known_commandsOfInput (bytes : List UInt8) (config : Config) :
    ErrorsIn Failure.Known (commandsOfInput bytes config) := by
  refine (known_decode (by decide) bytes).bind fun text => ?_
  refine ErrorsIn.bind ?_ fun _ => errorsIn_handOver trivial _
  exact (known_drawDocument text config).mapError fun _ => id

theorem known_pagesOfCommands (bytes : List UInt8) (config : Config) :
    ErrorsIn Failure.Known (pagesOfCommands bytes config) := by
  refine (known_decode (by decide) (untilNul bytes)).bind fun text => ?_
  refine ErrorsIn.bind ?_ fun _ => errorsIn_ok _
  exact (inOwnWords_readCommands text).mapError fun _ => id

theorem known_result (request : Request) : ErrorsIn Failure.Known request.result := by
  unfold Request.result
  split
  · split
    · exact known_pagesOfInput _ _
    · exact known_pagesOfInput _ _
    · exact known_commandsOfInput _ _
    · exact known_pagesOfCommands _ _
  · exact errorsIn_error trivial

/-- The message of a request that fails has a NUL exactly if the request names an unknown call or
alignment with one. -/
theorem nul_mem_message_iff {request : Request} {failure : Failure}
    (failed : request.result = .error failure) :
    '\x00' ∈ failure.message.toList ↔ failure.NamesNul :=
  Failure.nul_mem_message_iff (known_result request failure failed)

end Folio
