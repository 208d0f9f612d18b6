import Folio.Page.Builder

/-!
# Configuration

The paper that a document is laid out on. All sizes are points.
-/

namespace Folio

/-- Which side of the paper is up. -/
inductive Orientation where
  | portrait
  | landscape
  deriving DecidableEq, Repr

/-- The title of a document, and the size and the margins of its paper: A4 unless said otherwise. -/
structure Config where
  title : String := "hyperpdf output"
  pageWidth : Float32 := 595.28
  pageHeight : Float32 := 841.89
  marginLeft : Float32 := 40
  marginTop : Float32 := 40
  marginRight : Float32 := 40
  orientation : Orientation := .portrait

namespace Config

/-- A4 paper lying on its side. -/
def landscapeA4 : Config := { orientation := .landscape }

/-- The width of the paper as it lies. -/
def width (config : Config) : Float32 :=
  match config.orientation with
  | .portrait => config.pageWidth
  | .landscape => config.pageHeight

/-- The height of the paper as it lies. -/
def height (config : Config) : Float32 :=
  match config.orientation with
  | .portrait => config.pageHeight
  | .landscape => config.pageWidth

/-- The width between the margins. -/
def contentWidth (config : Config) : Float32 :=
  config.width - config.marginLeft - config.marginRight

/-- The paper of the pages; the top margin is kept at the bottom too. -/
def paper (config : Config) : Paper where
  title := config.title
  width := config.width
  height := config.height
  marginLeft := config.marginLeft
  marginTop := config.marginTop
  marginBottom := config.marginTop

end Config

end Folio
