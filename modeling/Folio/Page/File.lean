import Folio.Page.Content

/-!
# Page files

Pages as the bytes of a file that page readers open: a header, numbered objects, a table of where
they are, and a trailer. Object 1 is the catalog, object 2 the list of pages, object 3 the title;
then come the fonts, and two objects for every page.
-/

namespace Folio

/-- An object with its number. -/
def fileObject (number : Nat) (body : String) : String :=
  toString number ++ " 0 obj\n" ++ body ++ "\nendobj\n"

/-- A dictionary of entries. -/
def dictionary (entries : List (String × String)) : String :=
  "<< " ++ spaced (entries.map fun (key, value) => "/" ++ key ++ " " ++ value) ++ " >>"

/-- A reference to an object. -/
def reference (number : Nat) : String :=
  toString number ++ " 0 R"

/-- A stream of lines. -/
def streamOf (lines : List String) : String :=
  let body := "\n".intercalate lines
  dictionary [("Length", toString body.utf8ByteSize)] ++ "\nstream\n" ++ body ++ "\nendstream"

/-- A text as code units of sixteen bits in base sixteen. -/
def unitString (text : String) : String :=
  let units := text.toList.flatMap fun c =>
    let code := c.toNat
    if code < 0x10000 then [code]
    else [0xD800 + (code - 0x10000) / 0x400, 0xDC00 + (code - 0x10000) % 0x400]
  String.ofList ('<' :: (0xFEFF :: units).flatMap (Text.hexPadded 4) ++ ['>'])

namespace PageSet

/-- The number of the first page object. -/
def firstPage (set : PageSet) : Nat :=
  4 + set.fonts.length

/-- The dictionary of the fonts by their names on a page. -/
def fontResources (set : PageSet) : String :=
  dictionary (set.fonts.zipIdx.map fun (font, i) => (font.key, reference (4 + i)))

/-- The objects of the fonts. -/
def fontObjects (set : PageSet) : List String :=
  set.fonts.map fun font =>
    dictionary [("Type", "/Font"), ("Subtype", "/Type1"), ("BaseFont", "/" ++ font.name),
      ("Encoding", "/WinAnsiEncoding")]

/-- The two objects of a page. -/
def pageObjects (set : PageSet) (index : Nat) (page : List PageOp) : List String :=
  let box := "[0 0 " ++ toString (paperSize set.width) ++ " " ++ toString (paperSize set.height) ++
    "]"
  [dictionary [("Type", "/Page"), ("Parent", reference 2), ("MediaBox", box),
     ("Resources", dictionary [("Font", set.fontResources)]),
     ("Contents", reference (set.firstPage + 2 * index + 1))],
   streamOf (contentLines page)]

/-- The bodies of all objects, in the order of their numbers from one on. -/
def objects (set : PageSet) : List String :=
  let kids := set.pages.zipIdx.map fun (_, i) => reference (set.firstPage + 2 * i)
  [dictionary [("Type", "/Catalog"), ("Pages", reference 2)],
   dictionary [("Type", "/Pages"), ("Kids", "[" ++ spaced kids ++ "]"),
     ("Count", toString set.pages.length)],
   dictionary [("Title", unitString set.title)]] ++
    set.fontObjects ++ set.pages.zipIdx.flatMap fun (page, i) => set.pageObjects i page

/-- A line of the table: where an object is. -/
def tableLine (offset : Nat) : String :=
  let digits := Nat.toDigits 10 offset
  String.ofList (List.replicate (10 - digits.length) '0' ++ digits) ++ " 00000 n \n"

/-- The text of the file. -/
def fileText (set : PageSet) : String :=
  let written := set.objects.zipIdx.map fun (body, i) => fileObject (i + 1) body
  let header := "%PDF-1.4\n"
  let (body, offsets) := written.foldl
    (fun (text, offsets) (object : String) =>
      (text ++ object, offsets ++ [text.utf8ByteSize]))
    (header, ([] : List Nat))
  let size := toString (written.length + 1)
  body ++ "xref\n0 " ++ size ++ "\n0000000000 65535 f \n" ++
    String.join (offsets.map tableLine) ++ "trailer\n" ++
    dictionary [("Size", size), ("Root", reference 1), ("Info", reference 3)] ++
    "\nstartxref\n" ++ toString body.utf8ByteSize ++ "\n%%EOF\n"

end PageSet

end Folio
