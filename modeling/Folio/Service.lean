import Folio.Draw.Reading
import Folio.Draw.Writing
import Folio.Rendering
import Folio.Text.Utf8

/-!
# The service for other programs

Other programs pass bytes and places for the results, either of which may be missing, and get back a
status: nought for success, and a number for each kind of failure. The service keeps the text of the
last failure. A success leaves it as it was. No text with a NUL character can be handed over: a result
with one is a failure, and a failure text with one is not kept.
-/

namespace Folio

/-- The settings of a caller. A size of nought, like a missing title, means the default. -/
structure CallerConfig where
  title : Option (List UInt8) := none
  pageWidth : Float32 := 0
  pageHeight : Float32 := 0
  marginLeft : Float32 := 0
  marginTop : Float32 := 0
  marginRight : Float32 := 0
  orientation : Orientation := .portrait

/-- The bytes before the first NUL. -/
def untilNul (bytes : List UInt8) : List UInt8 :=
  bytes.takeWhile (· != 0)

/-- A size, or the default for nought. -/
def sizeOr (default value : Float32) : Float32 :=
  if value == 0 then default else value

/-- The configuration that settings mean; a title that is no text means the default. -/
def CallerConfig.config (settings : CallerConfig) : Config :=
  let defaults : Config := {}
  let title := match settings.title with
    | none => defaults.title
    | some bytes =>
      match Text.decode (untilNul bytes) with
      | .ok title => title
      | .error _ => defaults.title
  { title := title
    pageWidth := sizeOr defaults.pageWidth settings.pageWidth
    pageHeight := sizeOr defaults.pageHeight settings.pageHeight
    marginLeft := sizeOr defaults.marginLeft settings.marginLeft
    marginTop := sizeOr defaults.marginTop settings.marginTop
    marginRight := sizeOr defaults.marginRight settings.marginRight
    orientation := settings.orientation }

/-- The configuration of settings that may be missing. -/
def configOf (settings : Option CallerConfig) : Config :=
  match settings with
  | none => {}
  | some settings => settings.config

/-- What a request asks for. -/
inductive Task where
  /-- The pages of a document on default paper. -/
  | pages
  /-- The pages of a document. -/
  | pagesOn (settings : Option CallerConfig)
  /-- The text of the commands that draw a document. -/
  | commands (settings : Option CallerConfig)
  /-- The pages of a text of commands, which ends at its first NUL. -/
  | perform (settings : Option CallerConfig)

/-- A request. The input is missing if there is none, and `hasPlaces` says whether all places for
the results are there. -/
structure Request where
  task : Task
  input : Option (List UInt8)
  hasPlaces : Bool

/-- What a request results in. -/
inductive Product where
  | pages (set : PageSet)
  | text (text : String)

/-- Why a request fails. -/
inductive Failure where
  | missingPlace
  /-- The input is no text; `what` says which input. -/
  | notText (what : String) (fault : Text.Utf8Fault)
  | render (error : RenderError)
  | commands (error : Json.Error)
  /-- The text that would be the result has a NUL. -/
  | nulInText

/-- The status of a failure. -/
def Failure.status : Failure → Nat
  | .missingPlace => 1
  | .notText _ _ => 2
  | .render _ => 3
  | .commands _ => 3
  | .nulInText => 3

/-- The text of a failure. -/
def Failure.message : Failure → String
  | .missingPlace => "Null pointer argument"
  | .notText what fault => what ++ ": " ++ fault.message
  | .render error => error.message
  | .commands error => "Invalid command JSON: " ++ error.message
  | .nulInText => "JSON contained null byte"

/-- A text as the result; for the caller it ends at its first NUL, so it must have none. -/
def handOver (text : String) : Except Failure Product :=
  if text.toList.contains '\x00' then .error .nulInText else .ok (.text text)

/-- The pages of a document in bytes. -/
def pagesOfInput (bytes : List UInt8) (config : Config) : Except Failure Product := do
  let text ← (Text.decode bytes).mapError (Failure.notText "Invalid UTF-8")
  let (pages, _) ← (renderDocument text config).mapError Failure.render
  return .pages pages

/-- The text of the commands that draw a document in bytes. -/
def commandsOfInput (bytes : List UInt8) (config : Config) : Except Failure Product := do
  let text ← (Text.decode bytes).mapError (Failure.notText "Invalid UTF-8")
  let commands ← (drawDocument text config).mapError Failure.render
  handOver (writeCommands commands)

/-- The pages of a text of commands in bytes. -/
def pagesOfCommands (bytes : List UInt8) (config : Config) : Except Failure Product := do
  let text ← (Text.decode (untilNul bytes)).mapError (Failure.notText "Invalid UTF-8 in JSON")
  let commands ← (readCommands text).mapError Failure.commands
  return .pages (makePages commands config)

/-- What a request comes to. -/
def Request.result (request : Request) : Except Failure Product :=
  match request.input, request.hasPlaces with
  | some bytes, true =>
    match request.task with
    | .pages => pagesOfInput bytes {}
    | .pagesOn settings => pagesOfInput bytes (configOf settings)
    | .commands settings => commandsOfInput bytes (configOf settings)
    | .perform settings => pagesOfCommands bytes (configOf settings)
  | _, _ => .error .missingPlace

/-- The service by what it keeps: the text of the last failure. -/
structure Service where
  lastError : Option String := none

/-- A status, and the product of a request that succeeded. -/
structure Reply where
  status : Nat
  product : Option Product

/-- What is kept of the text of a failure. -/
def kept (message : String) : Option String :=
  if message.toList.contains '\x00' then none else some message

/-- Answers a request. -/
def Service.answer (service : Service) (request : Request) : Service × Reply :=
  match request.result with
  | .ok product => (service, ⟨0, some product⟩)
  | .error failure => (⟨kept failure.message⟩, ⟨failure.status, none⟩)

/-- The version of the service. -/
def serviceVersion : String := "0.1.0"

end Folio
