import Folio.Log
import Folio.Rule.Basic
import Folio.Style

/-!
# Elements

Every element rule becomes an element with a complete style, at its place in the forest and numbered
in pre-order. Directives become nothing: the first of a level is merged into the elements that come
after it there, later ones are ignored, and no directive reaches another level. Of what is said
about a level in the log, only the warnings depend on the directives' own children.
-/

namespace Folio

/-- An element with its style. -/
structure Element where
  name : Option String
  style : Style
  text : Option String

/-- The elements of a document, numbered. -/
abbrev Elements := Forest (Numbered Element)

/-- The style of a rule by itself. -/
def Rule.ownStyle (rule : Rule) : Style :=
  (Style.ofDeclarations rule.declarations).completed

/-- The element of a rule behind a directive of its level, if there is one. -/
def Rule.toElement (rule : Rule) (name : Option String) (directive : Option Style) : Element where
  name := name
  style := match directive with
    | none => rule.ownStyle
    | some directive => rule.ownStyle.merged directive
  text := rule.text

/-- The elements of the rules of a level, behind a directive of the level if there is one. -/
def elementsBehind (directive : Option Style) : Forest Rule → Forest Element
  | .nil => .nil
  | .cons rule below rest =>
    match rule.kind with
    | .directive => elementsBehind (some (directive.getD rule.ownStyle)) rest
    | .element name =>
      .cons (rule.toElement name directive) (elementsBehind none below)
        (elementsBehind directive rest)

/-- The elements of a document. -/
def elementsOf (rules : Forest Rule) : Elements :=
  (elementsBehind none rules).number 0

/-! ## What is above an element -/

/-- The attributes that add up along the elements above and are never inherited. -/
def accumulatedAttributes : List String :=
  ["left", "top", "position", "width", "height"]

/-- The values of an attribute above an element, nearest first, that it can inherit. -/
def inheritedValues (above : List Style) (name : String) : List String :=
  if name ∈ accumulatedAttributes then []
  else above.filterMap (·.text? name)

/-- The styles above an element, nearest first, in which an attribute was written. -/
def writtenAbove (above : List Style) (name : String) : List Style :=
  above.filter (·.hasWritten name)

/-! ## The log -/

/-- The warnings about one level and those below it. The flags say whether the level has had a
directive and an element. -/
def levelLog (directive element : Bool) : Forest Rule → List Record
  | .nil =>
    if directive && !element then [.warn "directive has no siblings to patch"] else []
  | .cons rule below rest =>
    match rule.kind with
    | .directive =>
      let discarded := below.roots.length
      (if discarded = 0 then []
       else [.warn ("directive rule has " ++ toString discarded ++
         " child rule(s); they are discarded")]) ++
        (if directive then [.warn "second directive at the same level is ignored"] else []) ++
        levelLog true element rest
    | .element _ => levelLog false false below ++ levelLog directive true rest

/-- What the log holds about the elements of a document. -/
def elementsLog (rules : Forest Rule) : List Record :=
  let elements := elementsOf rules
  levelLog false false rules ++
    [.debug ("cascade: " ++ toString elements.size ++ " node(s), " ++
      toString elements.roots.length ++ " root(s)")]

end Folio
