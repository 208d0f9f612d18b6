import Folio.Json.Reader

/-!
# What readers make of a text

A reader says what it read, what is left of the text, and why that is shorter. Only the first two
matter to the meaning of a text, so the loops over lists and objects are stated here for their
`outcome`: what one step of a loop makes of a text that starts like this or like that. The texts of
the steps may have blanks in front.
-/

namespace Folio.Json

variable {α β σ : Type}

/-- What was read and what is left of the text, unless something was wrong. -/
def outcome {text : List Char} (result : Except Fault (α × Rest text)) :
    Option (α × List Char) :=
  match result with
  | .ok (x, rest) => some (x, rest.val)
  | .error _ => none

theorem outcome_bind {text text' : List Char} {result : Except Fault (α × Rest text)}
    {next : α × Rest text → Except Fault (β × Rest text')}
    {onwards : α × List Char → Option (β × List Char)}
    (steps : ∀ x rest, outcome (next (x, rest)) = onwards (x, rest.val)) :
    outcome (result >>= next) = (outcome result).bind onwards := by
  cases result with
  | error fault => rfl
  | ok read => exact steps read.1 read.2

theorem outcome_map {text text' : List Char} {result : Except Fault (α × Rest text)}
    {f : α × Rest text → β × Rest text'} {g : α × List Char → β × List Char}
    (steps : ∀ x rest, ((f (x, rest)).1, (f (x, rest)).2.val) = g (x, rest.val)) :
    outcome (result.map f) = (outcome result).map g := by
  cases result with
  | error fault => rfl
  | ok read => exact congrArg some (steps read.1 read.2)

theorem exists_ok_of_outcome {text rest : List Char} {x : α}
    {result : Except Fault (α × Rest text)} (read : outcome result = some (x, rest)) :
    ∃ shorter, result = .ok (x, ⟨rest, shorter⟩) := by
  cases result with
  | error fault => cases read
  | ok result =>
    obtain ⟨y, rest', shorter⟩ := result
    cases read
    exact ⟨shorter, rfl⟩

/-! ## Blanks -/

/-- Whether a text begins with something that is no blank and closes no list. -/
def Opens (text : List Char) : Prop :=
  ∃ c rest, text = c :: rest ∧ isSpace c = false ∧ c ≠ ']'

theorem skipSpace_of_opens {text : List Char} (opens : Opens text) (rest : List Char) :
    skipSpace (text ++ rest) = text ++ rest := by
  obtain ⟨c, others, rfl, noSpace, -⟩ := opens
  exact List.dropWhile_cons_of_neg (by rw [noSpace]; decide)

/-! ## Lists -/

theorem outcome_items_close {item : Reader α} {first : Bool} {text rest : List Char}
    (start : skipSpace text = ']' :: rest) :
    outcome (items item first text) = some ([], rest) := by
  rw [items]
  split
  · rename_i other
    rw [start] at other
    cases other
  · rename_i c behind other
    rw [start] at other
    cases other
    rfl

theorem outcome_items_first {item : Reader α} {text rest : List Char} {c : Char}
    (start : skipSpace text = c :: rest) (goesOn : c ≠ ']') :
    outcome (items item true text) = (outcome (item text)).bind fun read =>
      (outcome (items item false read.2)).map fun others => (read.1 :: others.1, others.2) := by
  rw [items]
  split
  · rename_i other
    rw [start] at other
    cases other
  · rename_i c behind other
    rw [start] at other
    cases other
    rw [if_neg goesOn, if_pos rfl]
    refine outcome_bind fun x rest => ?_
    rw [Option.map_eq_bind]
    exact outcome_bind fun xs rest => rfl

theorem outcome_items_next {item : Reader α} {text rest behind : List Char} {c : Char}
    (start : skipSpace text = ',' :: rest) (goesOn : skipSpace rest = c :: behind)
    (other : c ≠ ']') :
    outcome (items item false text) = (outcome (item rest)).bind fun read =>
      (outcome (items item false read.2)).map fun others => (read.1 :: others.1, others.2) := by
  rw [items]
  split
  · rename_i empty
    rw [start] at empty
    cases empty
  · rename_i c' behind' same
    rw [start] at same
    cases same
    rw [if_neg (by decide), if_neg (by decide), if_pos rfl]
    split
    · rename_i empty
      rw [goesOn] at empty
      cases empty
    · rename_i closed
      rw [goesOn] at closed
      cases closed
      exact absurd rfl other
    · refine outcome_bind fun x rest => ?_
      rw [Option.map_eq_bind]
      exact outcome_bind fun xs rest => rfl

/-! ## Objects -/

section Members

variable {member : σ → String → Reader σ} {state : σ} {text rest : List Char}

theorem outcome_members_close {first : Bool} (start : skipSpace text = '\x7d' :: rest) :
    outcome (members member state first text) = some (state, rest) := by
  rw [members]
  split
  · rename_i empty
    rw [start] at empty
    cases empty
  · rename_i c behind same
    rw [start] at same
    cases same
    rfl

theorem outcome_members_first (start : skipSpace text = '"' :: rest) :
    outcome (members member state true text) = (outcome (stringBody rest)).bind fun key =>
      (outcome (member state key.1 key.2)).bind fun read =>
        outcome (members member read.1 false read.2) := by
  rw [members]
  split
  · rename_i empty
    rw [start] at empty
    cases empty
  · rename_i c behind same
    rw [start] at same
    cases same
    rw [if_neg (by decide), if_pos rfl, if_pos rfl]
    refine outcome_bind fun key rest => ?_
    refine outcome_bind fun state rest => ?_
    exact (outcome_bind fun state rest => rfl).trans (Option.bind_fun_some _)

theorem outcome_members_next {behind : List Char} (start : skipSpace text = ',' :: rest)
    (goesOn : skipSpace rest = '"' :: behind) :
    outcome (members member state false text) = (outcome (stringBody behind)).bind fun key =>
      (outcome (member state key.1 key.2)).bind fun read =>
        outcome (members member read.1 false read.2) := by
  rw [members]
  split
  · rename_i empty
    rw [start] at empty
    cases empty
  · rename_i c behind' same
    rw [start] at same
    cases same
    rw [if_neg (by decide), if_neg (by decide), if_pos rfl]
    split
    · rename_i empty
      rw [goesOn] at empty
      cases empty
    · rename_i same'
      rw [goesOn] at same'
      cases same'
      refine outcome_bind fun key rest => ?_
      refine outcome_bind fun state rest => ?_
      exact (outcome_bind fun state rest => rfl).trans (Option.bind_fun_some _)
    · rename_i closed
      rw [goesOn] at closed
      cases closed
    · rename_i noQuote _
      exact absurd goesOn (noQuote _)

end Members

theorem outcome_colon {text rest : List Char} (start : skipSpace text = ':' :: rest) :
    outcome (colon text) = some ((), rest) := by
  rw [colon]
  split
  · rename_i empty
    rw [start] at empty
    cases empty
  · rename_i c behind same
    rw [start] at same
    cases same
    rfl

/-! ## Values -/

theorem length_lt_of_rest {text rest rest' : List Char} (shorter' : rest'.length < rest.length)
    (shorter : rest.length < text.length) : rest'.length < text.length :=
  Nat.lt_trans shorter' shorter

/-- Reads a member of an object whose values are read by `item`, from behind its key. -/
def entry (item : Reader Value) (before : List (String × Value)) (key : String) :
    Reader (List (String × Value)) := fun text => do
  let ⟨(), rest, shorter⟩ ← colon text
  let ⟨x, rest', shorter'⟩ ← item rest
  return ((key, x) :: before, ⟨rest', length_lt_of_rest shorter' shorter⟩)

theorem outcome_entry {item : Reader Value} {before : List (String × Value)} {key : String}
    {text rest : List Char} (start : skipSpace text = ':' :: rest) :
    outcome (entry item before key text) =
      (outcome (item rest)).map fun read => ((key, read.1) :: before, read.2) := by
  have passed : outcome (entry item before key text) = (outcome (colon text)).bind fun read =>
      (outcome (item read.2)).map fun read => ((key, read.1) :: before, read.2) := by
    refine outcome_bind fun nothing rest => ?_
    rw [Option.map_eq_bind]
    exact outcome_bind fun x rest => rfl
  rw [passed, outcome_colon start, Option.bind_some]

section Value

variable {nested : Option (Reader Value)} {text rest : List Char}

theorem outcome_valueWith_null (start : skipSpace text = 'n' :: 'u' :: 'l' :: 'l' :: rest) :
    outcome (valueWith nested text) = some (.null, rest) := by
  rw [valueWith]
  split
  · rename_i empty
    rw [start] at empty
    cases empty
  · rename_i c behind same
    rw [start] at same
    cases same
    rfl

theorem outcome_valueWith_true (start : skipSpace text = 't' :: 'r' :: 'u' :: 'e' :: rest) :
    outcome (valueWith nested text) = some (.bool true, rest) := by
  rw [valueWith]
  split
  · rename_i empty
    rw [start] at empty
    cases empty
  · rename_i c behind same
    rw [start] at same
    cases same
    rfl

theorem outcome_valueWith_false
    (start : skipSpace text = 'f' :: 'a' :: 'l' :: 's' :: 'e' :: rest) :
    outcome (valueWith nested text) = some (.bool false, rest) := by
  rw [valueWith]
  split
  · rename_i empty
    rw [start] at empty
    cases empty
  · rename_i c behind same
    rw [start] at same
    cases same
    rfl

theorem outcome_valueWith_string (start : skipSpace text = '"' :: rest) :
    outcome (valueWith nested text) =
      (outcome (stringBody rest)).map fun read => (.string read.1, read.2) := by
  rw [valueWith]
  split
  · rename_i empty
    rw [start] at empty
    cases empty
  · rename_i c behind same
    rw [start] at same
    cases same
    exact outcome_map fun s rest => rfl

theorem outcome_valueWith_minus (start : skipSpace text = '-' :: rest) :
    outcome (valueWith nested text) =
      (outcome (number true rest)).map fun read => (.number read.1, read.2) := by
  rw [valueWith]
  split
  · rename_i empty
    rw [start] at empty
    cases empty
  · rename_i c behind same
    rw [start] at same
    cases same
    exact outcome_map fun n rest => rfl

theorem ne_of_isDigit {c mark : Char} (digit : c.isDigit = true) (noDigit : mark.isDigit = false) :
    c ≠ mark := by
  rintro rfl
  rw [noDigit] at digit
  cases digit

theorem outcome_valueWith_digit {c : Char} (start : skipSpace text = c :: rest)
    (digit : c.isDigit = true) :
    outcome (valueWith nested text) =
      (outcome (number false (c :: rest))).map fun read => (.number read.1, read.2) := by
  rw [valueWith]
  split
  · rename_i empty
    rw [start] at empty
    cases empty
  · rename_i c' behind same
    rw [start] at same
    cases same
    have other : ∀ {mark : Char}, mark.isDigit = false → c ≠ mark := ne_of_isDigit digit
    rw [if_neg (other rfl), if_neg (other rfl), if_neg (other rfl), if_neg (other rfl),
      if_pos digit]
    exact outcome_map fun n rest => rfl

theorem outcome_valueWith_list {item : Reader Value} (start : skipSpace text = '[' :: rest) :
    outcome (valueWith (some item) text) =
      (outcome (items item true rest)).map fun read => (.list read.1, read.2) := by
  rw [valueWith]
  split
  · rename_i empty
    rw [start] at empty
    cases empty
  · rename_i c behind same
    rw [start] at same
    cases same
    exact outcome_map fun xs rest => rfl

theorem outcome_valueWith_object {item : Reader Value} (start : skipSpace text = '\x7b' :: rest) :
    outcome (valueWith (some item) text) =
      (outcome (members (entry item) [] true rest)).map fun read =>
        (.object read.1.reverse, read.2) := by
  rw [valueWith]
  split
  · rename_i empty
    rw [start] at empty
    cases empty
  · rename_i c behind same
    rw [start] at same
    cases same
    exact outcome_map fun entries rest => rfl

end Value

end Folio.Json
