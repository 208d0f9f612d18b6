/-!
# Sample documents

Style documents to try things out with. Each exercises another part of the styles: directives, inline
rows, inheritance, borders, fonts, absolute placement, and pages that overflow.
-/

namespace Folio.Sample

/-- Lines as one text. -/
def ofLines (lines : List String) : String :=
  "\n".intercalate lines

/-- An invoice: a block of addresses, and table rows styled by a directive each. Every row is an
empty block followed by inline cells; the next row closes it. -/
def invoice : String := ofLines [
  "[",
  "    \x7b\"name\": \"title\", \"text\": \"Invoice #2024-001\",",
  "     \"style\": \x7b\"display\": \"block\", \"height\": \"26pt\", \"font-size\": \"18pt\",",
  "               \"font-weight\": \"bold\", \"color\": \"#1a365d\"\x7d\x7d,",
  "    \x7b\"name\": \"from\", \"text\": \"Acme Corp, 123 Business St, New York\",",
  "     \"style\": \x7b\"display\": \"block\", \"height\": \"14pt\"\x7d\x7d,",
  "    \x7b\"name\": \"to\", \"text\": \"Client Inc, 456 Client Ave, Los Angeles\",",
  "     \"style\": \x7b\"display\": \"block\", \"height\": \"22pt\"\x7d\x7d,",
  "",
  "    \x7b\"name\": \"head\", \"style\": \x7b\"display\": \"block\", \"height\": \"0pt\"\x7d, \"children\": [",
  "        \x7b\"name\": \"*\", \"style\": \x7b\"display\": \"inline\", \"width\": \"25%\", \"height\": \"18pt\",",
  "                                \"background-color\": \"#e2e8f0\", \"font-weight\": \"bold\",",
  "                                \"border\": \"1pt solid #a0aec0\"\x7d\x7d,",
  "        \x7b\"name\": \"th\", \"text\": \"Item\"\x7d,",
  "        \x7b\"name\": \"th\", \"text\": \"Qty\", \"style\": \x7b\"text-align\": \"right\"\x7d\x7d,",
  "        \x7b\"name\": \"th\", \"text\": \"Price\", \"style\": \x7b\"text-align\": \"right\"\x7d\x7d,",
  "        \x7b\"name\": \"th\", \"text\": \"Total\", \"style\": \x7b\"text-align\": \"right\"\x7d\x7d",
  "    ]\x7d,",
  "    \x7b\"name\": \"row\", \"style\": \x7b\"display\": \"block\", \"height\": \"0pt\"\x7d, \"children\": [",
  "        \x7b\"name\": \"*\", \"style\": \x7b\"display\": \"inline\", \"width\": \"25%\", \"height\": \"16pt\",",
  "                                \"border-bottom\": \"1pt solid #cbd5e0\"\x7d\x7d,",
  "        \x7b\"name\": \"td\", \"text\": \"Web Development\"\x7d,",
  "        \x7b\"name\": \"td\", \"text\": \"40\", \"style\": \x7b\"text-align\": \"right\"\x7d\x7d,",
  "        \x7b\"name\": \"td\", \"text\": \"$150.00\", \"style\": \x7b\"text-align\": \"right\"\x7d\x7d,",
  "        \x7b\"name\": \"td\", \"text\": \"$6,000.00\", \"style\": \x7b\"text-align\": \"right\"\x7d\x7d",
  "    ]\x7d,",
  "    \x7b\"name\": \"row\", \"style\": \x7b\"display\": \"block\", \"height\": \"0pt\"\x7d, \"children\": [",
  "        \x7b\"name\": \"*\", \"style\": \x7b\"display\": \"inline\", \"width\": \"25%\", \"height\": \"16pt\",",
  "                                \"border-bottom\": \"1pt solid #cbd5e0\"\x7d\x7d,",
  "        \x7b\"name\": \"td\", \"text\": \"Design Services\"\x7d,",
  "        \x7b\"name\": \"td\", \"text\": \"20\", \"style\": \x7b\"text-align\": \"right\"\x7d\x7d,",
  "        \x7b\"name\": \"td\", \"text\": \"$120.00\", \"style\": \x7b\"text-align\": \"right\"\x7d\x7d,",
  "        \x7b\"name\": \"td\", \"text\": \"$2,400.00\", \"style\": \x7b\"text-align\": \"right\"\x7d\x7d",
  "    ]\x7d,",
  "    \x7b\"name\": \"total\", \"text\": \"Total due: $8,400.00\",",
  "     \"style\": \x7b\"display\": \"block\", \"height\": \"24pt\", \"text-align\": \"right\",",
  "               \"font-weight\": \"700\"\x7d\x7d",
  "]"]

/-- A report with sections that inherit by keyword. -/
def report : String := ofLines [
  "\x7b",
  "    \"name\": \"report\",",
  "    \"style\": \x7b\"display\": \"block\", \"text-align\": \"center\", \"font-style\": \"italic\",",
  "              \"font-family\": \"times\", \"height\": \"20pt\", \"font-size\": \"14pt\"\x7d,",
  "    \"text\": \"Quarterly Report\",",
  "    \"children\": [",
  "        \x7b\"name\": \"summary\", \"text\": \"Revenue grew in every region.\",",
  "         \"style\": \x7b\"display\": \"block\", \"text-align\": \"inherit\", \"font-style\": \"inherit\",",
  "                   \"font-family\": \"times\", \"height\": \"14pt\"\x7d\x7d,",
  "        \x7b\"name\": \"detail\", \"text\": \"Figures are unaudited.\",",
  "         \"style\": \x7b\"display\": \"block\", \"text-align\": \"initial\", \"font-style\": \"initial\",",
  "                   \"height\": \"14pt\", \"color\": \"#4a5568\"\x7d\x7d,",
  "        \x7b\"name\": \"code\", \"text\": \"ref: Q3-2024\",",
  "         \"style\": \x7b\"display\": \"block\", \"font-family\": \"courier\", \"height\": \"14pt\"\x7d\x7d",
  "    ]",
  "\x7d"]

/-- Colours, borders of single sides, and a stamp that is placed absolutely. -/
def styled : String := ofLines [
  "[",
  "    \x7b\"name\": \"banner\", \"text\": \"Styled document\",",
  "     \"style\": \x7b\"display\": \"block\", \"height\": \"30pt\", \"background-color\": \"#2b6cb0\",",
  "               \"color\": \"#ffffff\", \"font-size\": \"20pt\", \"text-align\": \"center\"\x7d\x7d,",
  "    \x7b\"name\": \"box\", \"text\": \"Left and right borders only\",",
  "     \"style\": \x7b\"display\": \"block\", \"height\": \"20pt\", \"width\": \"60%\",",
  "               \"border-left\": \"2pt solid #e53e3e\", \"border-right\": \"2pt solid #e53e3e\"\x7d\x7d,",
  "    \x7b\"name\": \"box\", \"text\": \"All borders but the top\",",
  "     \"style\": \x7b\"display\": \"block\", \"height\": \"20pt\", \"width\": \"60%\",",
  "               \"border\": \"1pt solid #2f855a\", \"border-top-width\": \"0\"\x7d\x7d,",
  "    \x7b\"name\": \"stamp\", \"text\": \"PAID\",",
  "     \"style\": \x7b\"position\": \"absolute\", \"left\": \"380pt\", \"top\": \"120pt\", \"width\": \"80pt\",",
  "               \"height\": \"24pt\", \"border\": \"1pt solid #c53030\", \"color\": \"#c53030\",",
  "               \"font-weight\": \"bold\", \"text-align\": \"center\"\x7d\x7d",
  "]"]

/-- The smallest useful document. -/
def minimal : String := ofLines [
  "\x7b\"name\": \"p\", \"text\": \"Hello, world!\"\x7d"]

/-- One element for every family of keywords, with values that are no values among them. -/
def allProperties : String := ofLines [
  "[",
  "    \x7b\"name\": \"*\", \"style\": \x7b\"color\": \"#333333\"\x7d\x7d,",
  "    \x7b\"name\": \"align\", \"text\": \"justify\", \"style\": \x7b\"display\": \"block\", \"text-align\": \"justify\"\x7d\x7d,",
  "    \x7b\"name\": \"border-color\", \"text\": \"border-color\",",
  "     \"style\": \x7b\"display\": \"block\", \"border\": \"1pt\", \"border-color\": \"#718096\"\x7d\x7d,",
  "    \x7b\"name\": \"sides\", \"text\": \"per-side\",",
  "     \"style\": \x7b\"display\": \"block\", \"border-top\": \"1pt solid #000000\", \"border-bottom\": \"none\"\x7d\x7d,",
  "    \x7b\"name\": \"fill\", \"text\": \"fill\", \"style\": \x7b\"display\": \"block\", \"background-color\": \"#fefcbf\"\x7d\x7d,",
  "    \x7b\"name\": \"font\", \"text\": \"font\",",
  "     \"style\": \x7b\"display\": \"block\", \"font-family\": \"helvetica\", \"font-size\": 11,",
  "               \"font-weight\": 900, \"font-style\": \"oblique\"\x7d\x7d,",
  "    \x7b\"name\": \"sizes\", \"text\": \"sizes\",",
  "     \"style\": \x7b\"display\": \"block\", \"width\": \"50%\", \"line-height\": \"12pt\"\x7d\x7d,",
  "    \x7b\"name\": \"short-colour\", \"text\": \"short colour ignored\",",
  "     \"style\": \x7b\"display\": \"block\", \"color\": \"#f00\"\x7d\x7d,",
  "    \x7b\"name\": \"row\", \"style\": \x7b\"display\": \"block\", \"height\": \"0pt\"\x7d, \"children\": [",
  "        \x7b\"name\": \"a\", \"text\": \"a\", \"style\": \x7b\"display\": \"inline\", \"width\": \"30%\"\x7d\x7d,",
  "        \x7b\"name\": \"b\", \"text\": \"b\", \"style\": \x7b\"display\": \"inline\", \"width\": \"30%\"\x7d\x7d",
  "    ]\x7d,",
  "    \x7b\"name\": \"end\", \"style\": \x7b\"display\": \"block\", \"left\": \"10%\", \"top\": \"4pt\"\x7d, \"text\": \"offset\"\x7d",
  "]"]

/-- A row of the document with many rows. -/
def row (n : Nat) : String :=
  "\x7b\"name\":\"line\",\"style\":\x7b\"border-bottom\":\"1pt solid #e2e8f0\"," ++
    "\"display\":\"block\",\"height\":\"18pt\"\x7d,\"text\":\"Line item " ++ toString n ++
    "\"\x7d"

/-- Enough rows to fill several pages. -/
def multipage : String :=
  "[" ++ ",".intercalate ((List.range 80).map fun n => row (n + 1)) ++ "]"

/-- The samples by name. -/
def all : List (String × String) :=
  [("invoice", invoice), ("report", report), ("multipage", multipage), ("styled", styled),
   ("minimal", minimal), ("all_properties", allProperties)]

end Folio.Sample
