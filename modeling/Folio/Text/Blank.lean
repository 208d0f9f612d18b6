/-!
# Blank characters

Every text that a style document carries is read with the blanks around it ignored, and shorthand
values are split at the blanks inside them. Blank means the Unicode property of white space, which
is wider than the blanks of a JSON text. The functions work on lists of characters, where they can
be reasoned about, and `trim` carries the result over to strings.
-/

namespace Folio.Text

/-- The characters with the Unicode property of white space. -/
def isBlank (c : Char) : Bool :=
  let code := c.toNat
  (9 ≤ code && code ≤ 13) || code == 0x20 || code == 0x85 || code == 0xA0 || code == 0x1680 ||
    (0x2000 ≤ code && code ≤ 0x200A) || code == 0x2028 || code == 0x2029 || code == 0x202F ||
    code == 0x205F || code == 0x3000

/-- Drops the characters of a class from the end. -/
def dropEndWhile (drops : Char → Bool) (text : List Char) : List Char :=
  (text.reverse.dropWhile drops).reverse

/-- The text without the blanks at its two ends. -/
def trimBlanks (text : List Char) : List Char :=
  dropEndWhile isBlank (text.dropWhile isBlank)

/-- The text without the blanks at its two ends. -/
def trim (text : String) : String :=
  String.ofList (trimBlanks text.toList)

/-- Cuts at every blank; two blanks in a row enclose an empty piece. -/
def pieces : List Char → List (List Char)
  | [] => [[]]
  | c :: rest =>
    if isBlank c then [] :: pieces rest
    else match pieces rest with
      | [] => [[c]]
      | piece :: others => (c :: piece) :: others

/-- The words of a text: its longest runs without a blank. -/
def words (text : String) : List String :=
  ((pieces text.toList).filter (!·.isEmpty)).map String.ofList

end Folio.Text
