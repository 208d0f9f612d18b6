import Mathlib.Data.List.Forall2
import Folio.Proofs.NumeralText
import Folio.Proofs.StringText

/-!
# The texts of JSON values

A JSON text is a scalar, or a list or object whose parts stand between brackets with commas between
them and blanks wherever they may be. `TextOf` says that a text is one of the texts of a value, with
a limit on the brackets that are open at once; it says nothing about how a text is read. That every
such text is read as its value is `readsText_of_textOf`.

The loops over items and members are followed for any reader of them, and up to the first that is
refused, so they serve the draw commands too, which are decoded while the text is read.
-/

namespace Folio.Json

variable {α β σ : Type}

/-! ## Brackets -/

/-- Whether a text is made of blanks. -/
def Blanks (text : List Char) : Prop :=
  ∀ c ∈ text, isSpace c = true

instance (text : List Char) : Decidable (Blanks text) :=
  List.decidableBAll _ text

/-- Whether a text goes on behind the first item of a bracket, with more items up to its end. -/
inductive TailText (closing : Char) (Item : List Char → α → Prop) : List Char → List α → Prop
  | close {space : List Char} (blank : Blanks space) : TailText closing Item (space ++ [closing]) []
  | next {space space' text rest : List Char} {x : α} {xs : List α} (blank : Blanks space)
      (blank' : Blanks space') (item : Item text x) (others : TailText closing Item rest xs) :
      TailText closing Item (space ++ ',' :: (space' ++ (text ++ rest))) (x :: xs)

/-- Whether a text is a bracket with items inside it. -/
inductive BracketText (opening closing : Char) (Item : List Char → α → Prop) :
    List Char → List α → Prop
  | empty {space : List Char} (blank : Blanks space) :
      BracketText opening closing Item (opening :: (space ++ [closing])) []
  | items {space text rest : List Char} {x : α} {xs : List α} (blank : Blanks space)
      (item : Item text x) (others : TailText closing Item rest xs) :
      BracketText opening closing Item (opening :: (space ++ (text ++ rest))) (x :: xs)

/-- Whether a text is a member of an object: a key, a colon and a value. -/
inductive MemberText (Item : List Char → α → Prop) : List Char → String × α → Prop
  | mk {name space space' text : List Char} {key : String} {x : α} (named : StringText name key)
      (blank : Blanks space) (blank' : Blanks space') (item : Item text x) :
      MemberText Item (name ++ (space ++ ':' :: (space' ++ text))) (key, x)

section Map

open List (Forall₂)

variable {opening closing : Char} {Item : List Char → α → Prop} {Item' : List Char → β → Prop}
  {Related : α → β → Prop}

theorem TailText.relate (each : ∀ text x y, Item text x → Related x y → Item' text y)
    {text : List Char} {xs : List α} (tail : TailText closing Item text xs) {ys : List β}
    (related : Forall₂ Related xs ys) : TailText closing Item' text ys := by
  induction tail generalizing ys with
  | close blank =>
    cases related
    exact .close blank
  | next blank blank' item _ ih =>
    cases related with
    | cons same related => exact .next blank blank' (each _ _ _ item same) (ih related)

/-- A bracket of items is one of what its texts are items of in another way. -/
theorem BracketText.relate (each : ∀ text x y, Item text x → Related x y → Item' text y)
    {text : List Char} {xs : List α} (bracket : BracketText opening closing Item text xs)
    {ys : List β} (related : Forall₂ Related xs ys) :
    BracketText opening closing Item' text ys := by
  cases bracket with
  | empty blank =>
    cases related
    exact .empty blank
  | items blank item others =>
    cases related with
    | cons same related =>
      exact .items blank (each _ _ _ item same) (others.relate each related)

theorem BracketText.map {f : α → β} (each : ∀ text x, Item text x → Item' text (f x))
    {text : List Char} {xs : List α} (bracket : BracketText opening closing Item text xs) :
    BracketText opening closing Item' text (xs.map f) := by
  refine bracket.relate (fun text x y item same => ?_)
    (List.forall₂_map_right_iff.2 (List.forall₂_same.2 fun x _ => (rfl : f x = f x)))
  rw [← same]
  exact each text x item

theorem BracketText.front {text : List Char} {xs : List α}
    (bracket : BracketText opening closing Item text xs) : ∃ others, text = opening :: others := by
  cases bracket with
  | empty _ => exact ⟨_, rfl⟩
  | items _ _ _ => exact ⟨_, rfl⟩

theorem BracketText.imp {Item' : List Char → α → Prop} (each : ∀ text x, Item text x → Item' text x)
    {text : List Char} {xs : List α} (bracket : BracketText opening closing Item text xs) :
    BracketText opening closing Item' text xs := by
  have mapped := bracket.map (f := id) each
  rwa [List.map_id] at mapped

theorem MemberText.imp {Item' : List Char → α → Prop} (each : ∀ text x, Item text x → Item' text x)
    {text : List Char} {x : String × α} (member : MemberText Item text x) :
    MemberText Item' text x := by
  cases member with
  | mk named blank blank' item => exact .mk named blank blank' (each _ _ item)

end Map

/-! ## Values -/

/-- Whether a text is a value that opens no bracket. -/
inductive ScalarText : List Char → Value → Prop
  | null : ScalarText ['n', 'u', 'l', 'l'] .null
  | bool (b : Bool) : ScalarText (boolText b).toList (.bool b)
  | number {text : List Char} {n : Number} (numeral : NumberText text n) :
      ScalarText text (.number n)
  | string {text : List Char} {s : String} (spelt : StringText text s) :
      ScalarText text (.string s)

/-- Whether a text is a value whose lists and objects hold values with the texts of `Nested`. -/
inductive ValueText (Nested : List Char → Value → Prop) : List Char → Value → Prop
  | scalar {text : List Char} {x : Value} (spelt : ScalarText text x) : ValueText Nested text x
  | list {text : List Char} {xs : List Value} (bracket : BracketText '[' ']' Nested text xs) :
      ValueText Nested text (.list xs)
  | object {text : List Char} {xs : List (String × Value)}
      (bracket : BracketText '\x7b' '\x7d' (MemberText Nested) text xs) :
      ValueText Nested text (.object xs)

/-- Whether a text is a value, with at most so many brackets open at once. -/
def TextOf : Nat → List Char → Value → Prop
  | 0 => ScalarText
  | brackets + 1 => ValueText (TextOf brackets)

theorem textOf_scalar {text : List Char} {x : Value} (spelt : ScalarText text x) :
    ∀ brackets, TextOf brackets text x
  | 0 => spelt
  | _ + 1 => .scalar spelt

/-! ## Blanks -/

theorem skipSpace_blanks {space : List Char} (blank : Blanks space) (text : List Char) :
    skipSpace (space ++ text) = skipSpace text :=
  List.dropWhile_append_of_pos blank

theorem skipSpace_cons_of_not {c : Char} (noSpace : isSpace c = false) (text : List Char) :
    skipSpace (c :: text) = c :: text :=
  List.dropWhile_cons_of_neg (by rw [noSpace]; decide)

/-- Blanks in front of a mark are skipped. -/
theorem skipSpace_mark {space : List Char} (blank : Blanks space) {mark : Char}
    (noSpace : isSpace mark = false) (behind rest : List Char) :
    skipSpace (space ++ mark :: behind ++ rest) = mark :: (behind ++ rest) := by
  rw [List.append_assoc, skipSpace_blanks blank]
  exact skipSpace_cons_of_not noSpace (behind ++ rest)

theorem endsNumber_cons {c : Char} (other : c.isDigit = false ∧ c ≠ '.' ∧ c ≠ 'e' ∧ c ≠ 'E')
    (text : List Char) : EndsNumber (c :: text) := by
  rintro _ ⟨⟩
  exact other

theorem endsNumber_blanks {space : List Char} (blank : Blanks space) {text : List Char}
    (ends : EndsNumber text) : EndsNumber (space ++ text) := by
  cases space with
  | nil => exact ends
  | cons c space =>
    have isBlank := blank c List.mem_cons_self
    simp only [isSpace, Bool.or_eq_true, beq_iff_eq] at isBlank
    refine endsNumber_cons ?_ _
    obtain ((rfl | rfl) | rfl) | rfl := isBlank <;> decide

theorem endsNumber_of_blanks {space : List Char} (blank : Blanks space) : EndsNumber space := by
  have nothing : EndsNumber [] := by
    rintro _ ⟨⟩
  have ends := endsNumber_blanks blank nothing
  rwa [List.append_nil] at ends

/-- Nothing but blanks may be left of a text. -/
theorem finished_blanks {space : List Char} (blank : Blanks space) : finished space = .ok () := by
  have empty := skipSpace_blanks blank []
  rw [List.append_nil] at empty
  rw [finished, empty]
  rfl

/-- A number ends where the bracket that it stands in goes on. -/
theorem endsNumber_tail {closing : Char} (closes : EndsNumber [closing])
    {Item : List Char → α → Prop} {text : List Char} {xs : List α}
    (tail : TailText closing Item text xs) (rest : List Char) : EndsNumber (text ++ rest) := by
  cases tail with
  | close blank =>
    rw [List.append_assoc]
    exact endsNumber_blanks blank (endsNumber_cons (closes closing rfl) _)
  | next blank _ _ _ =>
    rw [List.append_assoc]
    exact endsNumber_blanks blank (endsNumber_cons (by decide) _)

/-! ## Loops -/

/-- What a reader makes of a text, behind blanks and before what can follow it. -/
def ReadsText (item : Reader α) (text : List Char) (result : Option α) : Prop :=
  Opens text ∧ ∀ before rest, EndsNumber rest → skipSpace before = text ++ rest →
    outcome (item before) = result.map fun x => (x, rest)

/-- How an item stands behind blanks. -/
theorem ReadsText.behind {item : Reader α} {text : List Char} {result : Option α}
    (read : ReadsText item text result) {space rest : List Char} (blank : Blanks space)
    (ends : EndsNumber rest) :
    ∃ c others, skipSpace (space ++ (text ++ rest)) = c :: others ∧ c ≠ ']' ∧
      outcome (item (space ++ (text ++ rest))) = result.map fun x => (x, rest) := by
  obtain ⟨opens, read⟩ := read
  have start : skipSpace (space ++ (text ++ rest)) = text ++ rest := by
    rw [skipSpace_blanks blank, skipSpace_of_opens opens]
  obtain ⟨c, others, rfl, -, noClose⟩ := opens
  exact ⟨c, others ++ rest, start, noClose, read _ rest ends start⟩

/-- The items behind the first of a list are read one after the other, up to the first that is
refused. -/
theorem outcome_items_tail {item : Reader α} {text : List Char} {results : List (Option α)}
    (tail : TailText ']' (ReadsText item) text results) (rest : List Char) :
    outcome (items item false (text ++ rest)) = (results.mapM id).map fun xs => (xs, rest) := by
  induction tail with
  | close blank =>
    exact outcome_items_close (skipSpace_mark blank (by decide) [] rest)
  | @next space space' text behind result results blank blank' read tail ih =>
    have ends := endsNumber_tail (endsNumber_cons (by decide) []) tail rest
    obtain ⟨c, others, goesOn, noClose, first⟩ := read.behind blank' ends
    have start : skipSpace (space ++ ',' :: (space' ++ (text ++ behind)) ++ rest) =
        ',' :: (space' ++ (text ++ (behind ++ rest))) := by
      rw [skipSpace_mark blank (by decide), List.append_assoc, List.append_assoc]
    rw [outcome_items_next start goesOn noClose, first, List.mapM_cons]
    cases result with
    | none => rfl
    | some x =>
      dsimp only [Option.map_some, Option.bind_some]
      rw [ih]
      cases results.mapM id <;> rfl

/-- A list is read item by item, and refused with the first item that is. -/
theorem outcome_items_bracket {item : Reader α} {text : List Char} {results : List (Option α)}
    (bracket : BracketText '[' ']' (ReadsText item) text results) :
    ∃ body, text = '[' :: body ∧ ∀ rest, outcome (items item true (body ++ rest)) =
      (results.mapM id).map fun xs => (xs, rest) := by
  cases bracket with
  | @empty space blank =>
    exact ⟨_, rfl, fun rest => outcome_items_close (skipSpace_mark blank (by decide) [] rest)⟩
  | @items space text behind result results blank read tail =>
    refine ⟨_, rfl, fun rest => ?_⟩
    have ends := endsNumber_tail (endsNumber_cons (by decide) []) tail rest
    obtain ⟨c, others, goesOn, noClose, first⟩ := read.behind blank ends
    rw [List.append_assoc, List.append_assoc, outcome_items_first goesOn noClose, first,
      List.mapM_cons]
    cases result with
    | none => rfl
    | some x =>
      dsimp only [Option.map_some, Option.bind_some]
      rw [outcome_items_tail tail]
      cases results.mapM id <;> rfl

/-- Whether a reader of members takes a text for a member: behind the key, it makes of what was
read before what `step` does. -/
def ReadsMember (member : σ → String → Reader σ) (step : σ → String × α → Option σ)
    (text : List Char) (x : String × α) : Prop :=
  ∃ name behind, text = name ++ behind ∧ StringText name x.1 ∧
    ∀ before rest, EndsNumber rest →
      outcome (member before x.1 (behind ++ rest)) = (step before x).map fun after => (after, rest)

/-- A member is read by its key and then by what is behind it. -/
theorem ReadsMember.read {member : σ → String → Reader σ} {step : σ → String × α → Option σ}
    {text : List Char} {x : String × α} (read : ReadsMember member step text x)
    {space rest : List Char} (blank : Blanks space) (ends : EndsNumber rest) :
    ∃ named, skipSpace (space ++ (text ++ rest)) = '"' :: named ∧
      ∀ before, ((outcome (stringBody named)).bind fun key => outcome (member before key.1 key.2)) =
        (step before x).map fun after => (after, rest) := by
  obtain ⟨name, behind, rfl, ⟨body, rfl, spelt⟩, read⟩ := read
  have start : skipSpace (space ++ ('"' :: (body ++ ['"']) ++ behind ++ rest)) =
      '"' :: (body ++ '"' :: (behind ++ rest)) := by
    rw [skipSpace_blanks blank]
    simp only [List.cons_append, List.append_assoc, List.nil_append]
    exact skipSpace_cons_of_not (by decide) _
  refine ⟨_, start, fun before => ?_⟩
  rw [outcome_stringBody_spelled spelt, Option.bind_some]
  exact read before rest ends

/-- The members behind the first of an object are read one after the other. -/
theorem outcome_members_tail {member : σ → String → Reader σ} {step : σ → String × α → Option σ}
    {text : List Char} {xs : List (String × α)}
    (tail : TailText '\x7d' (ReadsMember member step) text xs) (before : σ) (rest : List Char) :
    outcome (members member before false (text ++ rest)) =
      (xs.foldlM step before).map fun after => (after, rest) := by
  induction tail generalizing before with
  | close blank =>
    exact outcome_members_close (skipSpace_mark blank (by decide) [] rest)
  | @next space space' text behind x xs blank blank' read tail ih =>
    have ends := endsNumber_tail (endsNumber_cons (by decide) []) tail rest
    obtain ⟨named, goesOn, first⟩ := read.read blank' ends
    have start : skipSpace (space ++ ',' :: (space' ++ (text ++ behind)) ++ rest) =
        ',' :: (space' ++ (text ++ (behind ++ rest))) := by
      rw [skipSpace_mark blank (by decide), List.append_assoc, List.append_assoc]
    rw [outcome_members_next start goesOn, ← Option.bind_assoc, first, List.foldlM_cons]
    cases step before x with
    | none => rfl
    | some after => exact ih after

/-- An object is read member by member, and refused with the first member that is. -/
theorem outcome_members_bracket {member : σ → String → Reader σ}
    {step : σ → String × α → Option σ} {text : List Char} {xs : List (String × α)}
    (bracket : BracketText '\x7b' '\x7d' (ReadsMember member step) text xs) :
    ∃ body, text = '\x7b' :: body ∧ ∀ before rest,
      outcome (members member before true (body ++ rest)) =
        (xs.foldlM step before).map fun after => (after, rest) := by
  cases bracket with
  | @empty space blank =>
    exact ⟨_, rfl, fun before rest =>
      outcome_members_close (skipSpace_mark blank (by decide) [] rest)⟩
  | @items space text behind x xs blank read tail =>
    refine ⟨_, rfl, fun before rest => ?_⟩
    have ends := endsNumber_tail (endsNumber_cons (by decide) []) tail rest
    obtain ⟨named, start, first⟩ := read.read blank ends
    rw [List.append_assoc, List.append_assoc, outcome_members_first start, ← Option.bind_assoc,
      first, List.foldlM_cons]
    cases step before x with
    | none => rfl
    | some after => exact outcome_members_tail tail after rest

/-- Steps that can change places come to the same in any order. -/
theorem foldlM_perm {step : σ → α → Option σ}
    (comm : ∀ state x y, (step state x).bind (step · y) = (step state y).bind (step · x))
    {xs ys : List α} (perm : xs.Perm ys) (state : σ) :
    xs.foldlM step state = ys.foldlM step state := by
  induction perm generalizing state with
  | nil => rfl
  | cons x _ ih =>
    rw [List.foldlM_cons, List.foldlM_cons]
    exact congrArg _ (funext ih)
  | swap x y xs =>
    simp only [List.foldlM_cons, Option.bind_eq_bind, ← Option.bind_assoc]
    rw [comm]
  | trans _ _ first second => exact (first state).trans (second state)

/-! ## Values read back -/

theorem opens_of_isDigit {c : Char} (digit : c.isDigit = true) (rest : List Char) :
    Opens (c :: rest) := by
  have other : ∀ {mark : Char}, mark.isDigit = false → c ≠ mark := ne_of_isDigit digit
  refine ⟨c, rest, rfl, ?_, other rfl⟩
  simp only [isSpace, Bool.or_eq_false_iff, beq_eq_false_iff_ne]
  exact ⟨⟨⟨other rfl, other rfl⟩, other rfl⟩, other rfl⟩

/-- A number starts with a minus sign or with a digit. -/
theorem NumberText.front {text : List Char} {n : Number} (numeral : NumberText text n) :
    ∃ c others, text = c :: others ∧ (c = '-' ∨ c.isDigit = true) := by
  obtain ⟨digits, x, ⟨formed, exponent, -, rfl⟩, -, rfl⟩ := numeral
  obtain ⟨someDigit, allDigits⟩ := formed.whole
  cases x.negative with
  | true => exact ⟨'-', _, rfl, .inl rfl⟩
  | false =>
    cases whole : x.whole with
    | nil => exact absurd whole someDigit
    | cons d others =>
      exact ⟨d, _, rfl, .inr (allDigits d (by rw [whole]; exact List.mem_cons_self))⟩

theorem readsText_number {text : List Char} {n : Number} (numeral : NumberText text n)
    (nested : Option (Reader Value)) :
    ReadsText (valueWith nested) text (some (.number n)) := by
  obtain ⟨digits, x, spelt, value, rfl⟩ := numeral
  have read : ∀ rest, EndsNumber rest →
      outcome (number x.negative (digits ++ rest)) = some (n, rest) := by
    intro rest ends
    rw [outcome_number spelt ends, value]
    rfl
  have front : ∃ d others, digits = d :: others ∧ d.isDigit = true := by
    obtain ⟨formed, exponent, -, rfl⟩ := spelt
    obtain ⟨someDigit, allDigits⟩ := formed.whole
    cases whole : x.whole with
    | nil => exact absurd whole someDigit
    | cons d whole' => exact ⟨d, _, rfl, allDigits d (by rw [whole]; exact List.mem_cons_self)⟩
  obtain ⟨d, others, rfl, digit⟩ := front
  cases sign : x.negative with
  | true =>
    rw [sign] at read
    refine ⟨⟨'-', _, rfl, by decide, by decide⟩, fun before rest ends start => ?_⟩
    rw [outcome_valueWith_minus start]
    exact congrArg _ (read rest ends)
  | false =>
    rw [sign] at read
    refine ⟨opens_of_isDigit digit others, fun before rest ends start => ?_⟩
    rw [outcome_valueWith_digit start digit]
    exact congrArg _ (read rest ends)

theorem readsText_scalar {text : List Char} {x : Value} (spelt : ScalarText text x)
    (nested : Option (Reader Value)) : ReadsText (valueWith nested) text (some x) := by
  cases spelt with
  | null =>
    exact ⟨⟨'n', _, rfl, by decide, by decide⟩, fun _ _ _ start => outcome_valueWith_null start⟩
  | bool b =>
    cases b with
    | true =>
      exact ⟨⟨'t', _, rfl, by decide, by decide⟩, fun _ _ _ start => outcome_valueWith_true start⟩
    | false =>
      exact ⟨⟨'f', _, rfl, by decide, by decide⟩, fun _ _ _ start => outcome_valueWith_false start⟩
  | number numeral => exact readsText_number numeral nested
  | string spelt =>
    obtain ⟨body, rfl, spelt⟩ := spelt
    refine ⟨⟨'"', _, rfl, by decide, by decide⟩, fun before rest _ start => ?_⟩
    rw [List.cons_append, List.append_assoc] at start
    rw [outcome_valueWith_string start, List.singleton_append, outcome_stringBody_spelled spelt]
    rfl

theorem readsText_list {item : Reader Value} {text : List Char} {results : List (Option Value)}
    (bracket : BracketText '[' ']' (ReadsText item) text results) :
    ReadsText (valueWith (some item)) text ((results.mapM id).map .list) := by
  obtain ⟨body, rfl, read⟩ := outcome_items_bracket bracket
  refine ⟨⟨'[', body, rfl, by decide, by decide⟩, fun before rest _ start => ?_⟩
  rw [List.cons_append] at start
  rw [outcome_valueWith_list start, read, Option.map_map, Option.map_map]
  rfl

/-- Puts a member in front of those before it. -/
def pushMember (before : List (String × Value)) (x : String × Value) :
    Option (List (String × Value)) :=
  some (x :: before)

theorem foldlM_pushMember (xs before : List (String × Value)) :
    xs.foldlM pushMember before = some (xs.reverse ++ before) := by
  induction xs generalizing before with
  | nil => rfl
  | cons x xs ih =>
    rw [List.foldlM_cons, List.reverse_cons, List.append_assoc]
    exact ih (x :: before)

theorem readsMember_entry {item : Reader Value} {text : List Char} {x : String × Value}
    (spelt : MemberText (fun text x => ReadsText item text (some x)) text x) :
    ReadsMember (entry item) pushMember text x := by
  cases spelt with
  | @mk name space space' text key x named blank blank' read =>
    refine ⟨name, _, rfl, named, fun before rest ends => ?_⟩
    obtain ⟨c, others, -, -, read⟩ := read.behind blank' ends
    have start : skipSpace (space ++ ':' :: (space' ++ text) ++ rest) =
        ':' :: (space' ++ (text ++ rest)) := by
      rw [skipSpace_mark blank (by decide), List.append_assoc]
    rw [outcome_entry start, read]
    rfl

theorem readsText_object {item : Reader Value} {text : List Char} {xs : List (String × Value)}
    (bracket : BracketText '\x7b' '\x7d' (ReadsMember (entry item) pushMember) text xs) :
    ReadsText (valueWith (some item)) text (some (.object xs)) := by
  obtain ⟨body, rfl, read⟩ := outcome_members_bracket bracket
  refine ⟨⟨'\x7b', body, rfl, by decide, by decide⟩, fun before rest _ start => ?_⟩
  rw [List.cons_append] at start
  rw [outcome_valueWith_object start, read, foldlM_pushMember, Option.map_some, List.append_nil,
    Option.map_some, List.reverse_reverse]
  rfl

theorem mapM_id_map_some (xs : List α) : (xs.map some).mapM id = some xs := by
  rw [List.mapM_map]
  exact List.mapM_pure.trans (congrArg some (List.map_id' xs))

/-- Every text of a value is read as it. -/
theorem readsText_of_textOf {brackets : Nat} {text : List Char} {x : Value}
    (spelt : TextOf brackets text x) : ReadsText (value brackets) text (some x) := by
  induction brackets generalizing text x with
  | zero => exact readsText_scalar spelt none
  | succ brackets ih =>
    cases spelt with
    | scalar spelt => exact readsText_scalar spelt _
    | list bracket =>
      have read := readsText_list (bracket.map fun _ _ spelt => ih spelt)
      rwa [mapM_id_map_some] at read
    | object bracket =>
      refine readsText_object (bracket.imp fun _ _ member => readsMember_entry ?_)
      exact member.imp fun _ _ spelt => ih spelt

end Folio.Json
