import Folio.Config
import Folio.Draw.Boxes
import Folio.Page.Content
import Folio.Rule.Document

/-!
# Rendering documents

From the text of a style document to pages: its rules are read and become elements, items and boxes,
and the commands that draw the boxes are made into pages. Only a text that is no style document and
a content area without a width stop a rendering.
-/

namespace Folio

/-- Why a document is not rendered. -/
inductive RenderError where
  | document (error : DocumentError)
  | contentWidth (width : Float32)
  deriving DecidableEq

/-- The message of a render error. -/
def RenderError.message : RenderError → String
  | .document error => "invalid style document: " ++ error.message
  | .contentWidth width => "content width must be positive, got " ++ Number.plainText width

/-- The items of rules. -/
def itemsOfRules (rules : Forest Rule) : Items :=
  itemsOf (elementsOf rules)

/-- The boxes of rules on paper. -/
def layoutRules (rules : Forest Rule) (config : Config) : Except RenderError (List Box) :=
  match layout? config.contentWidth (itemsOfRules rules) with
  | some boxes => .ok boxes
  | none => .error (.contentWidth config.contentWidth)

/-- The boxes of a document on paper. -/
def layoutDocument (text : String) (config : Config) : Except RenderError (List Box) := do
  let rules ← (readDocument text).mapError RenderError.document
  layoutRules rules config

/-- The commands that draw a document on paper. -/
def drawDocument (text : String) (config : Config) : Except RenderError (List Command) :=
  (layoutDocument text config).map (boxCommands config.marginLeft config.marginTop)

/-- The pages of commands. -/
def makePages (commands : List Command) (config : Config) : PageSet :=
  (Builder.canvas.performAll (.start config.paper) commands).pageSet

/-- The pages of a document, and the commands that they were made of. -/
def renderDocument (text : String) (config : Config) :
    Except RenderError (PageSet × List Command) :=
  (drawDocument text config).map fun commands => (makePages commands config, commands)

/-! ## The log -/

/-- What the log holds about the boxes of rules on paper. -/
def rulesLog (rules : Forest Rule) (config : Config) : List Record :=
  let elements := elementsOf rules
  [.debug ("parsed " ++ toString rules.roots.length ++ " top-level rule(s)")] ++
    elementsLog rules ++
    [.debug ("style tree: " ++ toString elements.size ++ " node(s)")] ++
    itemsLog elements ++ layoutLog config.contentWidth (itemsOf elements)

/-- What the log holds about the commands of a document. -/
def drawLog (text : String) (config : Config) : List Record :=
  match readDocument text with
  | .error _ => []
  | .ok rules =>
    rulesLog rules config ++
      match layoutRules rules config with
      | .ok boxes => boxesLog boxes
      | .error _ => []

/-- What the log holds about making pages of commands. -/
def pagesLog (commands : List Command) (config : Config) : List Record :=
  (Builder.start config.paper).commandsLog commands ++
    [.debug ("writing PDF with " ++ toString (makePages commands config).pages.length ++
      " page(s)")]

/-- What the log holds about rendering a document. -/
def renderLog (text : String) (config : Config) : List Record :=
  drawLog text config ++
    match drawDocument text config with
    | .ok commands => pagesLog commands config
    | .error _ => []

end Folio
