import Folio.Json.Lexical

/-!
# Reading JSON

A value is read by recursion on the number of brackets that may still be opened inside it, so the
limit on nesting is the measure that the recursion ends by. Lists and objects are read by loops
that take the reader of an item or of a member: the same loops serve the values of a style document
and the draw commands, which are decoded while the text is read.
-/

namespace Folio.Json

/-- Reads the colon between a key and its value. -/
def colon : Reader Unit := fun text =>
  match h : skipSpace text with
  | [] => .error ⟨.objectUnfinished, 0⟩
  | c :: rest =>
    if c = ':' then
      .ok ((), ⟨rest, length_lt_of_skipSpace h⟩)
    else .error (faultAfterByte .colonExpected (c :: rest))

/-- Reads the items of a list, from behind its opening bracket or an item of it to behind its
closing bracket. -/
def items {α : Type} (item : Reader α) (first : Bool) (text : List Char) :
    Except Fault (List α × Rest text) :=
  match h : skipSpace text with
  | [] => .error ⟨.listUnfinished, 0⟩
  | c :: rest =>
    have shorter : rest.length < text.length := length_lt_of_skipSpace h
    if c = ']' then .ok ([], ⟨rest, shorter⟩)
    else if first then do
      let ⟨x, rest, _⟩ ← item text
      let ⟨xs, rest, _⟩ ← items item false rest
      return (x :: xs, ⟨rest, by omega⟩)
    else if c = ',' then
      match skipSpace rest with
      | [] => .error ⟨.valueUnfinished, 0⟩
      | ']' :: behind => .error (faultBefore .trailingComma behind)
      | _ => do
        let ⟨x, rest, _⟩ ← item rest
        let ⟨xs, rest, _⟩ ← items item false rest
        return (x :: xs, ⟨rest, by omega⟩)
    else .error (faultAfterByte .listCommaExpected (c :: rest))
termination_by text.length
decreasing_by all_goals omega

/-- Reads the members of an object, from behind its opening bracket or a member of it to behind its
closing bracket. The reader of a member gets what the members before it came to and the key, and
goes on from behind the key. -/
def members {σ : Type} (member : σ → String → Reader σ) (state : σ) (first : Bool)
    (text : List Char) : Except Fault (σ × Rest text) :=
  match h : skipSpace text with
  | [] => .error ⟨.objectUnfinished, 0⟩
  | c :: rest =>
    have shorter : rest.length < text.length := length_lt_of_skipSpace h
    if c = '\x7d' then .ok (state, ⟨rest, shorter⟩)
    else if first then
      if c = '"' then do
        let ⟨key, rest, _⟩ ← stringBody rest
        let ⟨state, rest, _⟩ ← member state key rest
        let ⟨state, rest, _⟩ ← members member state false rest
        return (state, ⟨rest, by omega⟩)
      else .error (faultAfterByte .keyNotString (c :: rest))
    else if c = ',' then
      match h' : skipSpace rest with
      | [] => .error ⟨.valueUnfinished, 0⟩
      | '"' :: behind => do
        have shorter' : behind.length < rest.length := length_lt_of_skipSpace h'
        let ⟨key, rest, _⟩ ← stringBody behind
        let ⟨state, rest, _⟩ ← member state key rest
        let ⟨state, rest, _⟩ ← members member state false rest
        return (state, ⟨rest, by omega⟩)
      | '\x7d' :: behind => .error (faultBefore .trailingComma behind)
      | other => .error (faultAfterByte .keyNotString other)
    else .error (faultAfterByte .objectCommaExpected (c :: rest))
termination_by text.length
decreasing_by all_goals omega

/-- Carries what was read behind some characters over to the text that starts with them. -/
def Rest.behind {text inner : List Char} (h : inner.length ≤ text.length) (rest : Rest inner) :
    Rest text :=
  ⟨rest.val, Nat.lt_of_lt_of_le rest.property h⟩

/-- Reads a value whose lists and objects hold values read by `nested`; without it no bracket may be
opened. -/
def valueWith (nested : Option (Reader Value)) : Reader Value := fun text =>
  match h : skipSpace text with
  | [] => .error ⟨.valueUnfinished, 0⟩
  | c :: rest =>
    have shorter : rest.length < text.length := length_lt_of_skipSpace h
    if c = 'n' then
      (readWord ['u', 'l', 'l'] rest).map fun ⟨rest, _⟩ => (.null, ⟨rest, by omega⟩)
    else if c = 't' then
      (readWord ['r', 'u', 'e'] rest).map fun ⟨rest, _⟩ => (.bool true, ⟨rest, by omega⟩)
    else if c = 'f' then
      (readWord ['a', 'l', 's', 'e'] rest).map fun ⟨rest, _⟩ => (.bool false, ⟨rest, by omega⟩)
    else if c = '-' then
      (number true rest).map fun (n, rest) => (.number n, rest.behind (Nat.le_of_lt shorter))
    else if c.isDigit then
      (number false (c :: rest)).map fun (n, ⟨rest, _⟩) =>
        (.number n, ⟨rest, by simp at *; omega⟩)
    else if c = '"' then
      (stringBody rest).map fun (s, rest) => (.string s, rest.behind (Nat.le_of_lt shorter))
    else if c = '[' then
      match nested with
      | none => .error (faultBefore .tooDeep rest)
      | some item =>
        (items item true rest).map fun (xs, rest) =>
          (.list xs, rest.behind (Nat.le_of_lt shorter))
    else if c = '\x7b' then
      match nested with
      | none => .error (faultBefore .tooDeep rest)
      | some item =>
        let member (before : List (String × Value)) (key : String) :
            Reader (List (String × Value)) := fun text => do
          let ⟨(), rest, _⟩ ← colon text
          let ⟨x, rest, _⟩ ← item rest
          return ((key, x) :: before, ⟨rest, by omega⟩)
        (members member [] true rest).map fun (entries, rest) =>
          (.object entries.reverse, rest.behind (Nat.le_of_lt shorter))
    else .error (faultAfterByte .valueExpected (c :: rest))

/-- Reads a value inside which at most the given number of brackets may be open at once. -/
def value : Nat → Reader Value
  | 0 => valueWith none
  | depth + 1 => valueWith (some (value depth))

/-- How many brackets may be open at once. -/
def maxDepth : Nat := 127

/-- Refuses a text that has anything but blanks left. -/
def finished (text : List Char) : Except Fault Unit :=
  match skipSpace text with
  | [] => .ok ()
  | rest => .error (faultAfterByte .trailingCharacters rest)

end Folio.Json
