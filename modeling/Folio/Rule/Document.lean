import Folio.Json.Reader
import Folio.Rule.Basic
import Folio.Text.Blank

/-!
# Reading style documents

A document is a list of rules or one rule alone. A rule is an object with the members `name`,
`style`, `text` and `children`, all of them optional, or a list of those four in that order. The
whole JSON value is read first, so a fault of the text is reported before a wrong shape, and a
wrong shape before anything that follows the value.
-/

namespace Folio

open Json (Value)

/-- Why a text is no style document. -/
inductive DocumentError where
  | text (error : Json.Error)
  | shape
  deriving DecidableEq

/-- The message of a document error. -/
def DocumentError.message : DocumentError → String
  | .text error => error.message
  | .shape => "data did not match any variant of untagged enum Document"

/-! ## The parts of a rule -/

/-- The members of a rule that are known. -/
inductive RuleField where
  | name
  | style
  | text
  | children
  deriving DecidableEq, Repr

/-- The members of a rule in the order of the list form. -/
def RuleField.order : List RuleField :=
  [.name, .style, .text, .children]

/-- The member that a key stands for. -/
def RuleField.ofKey? (key : String) : Option RuleField :=
  if key = "name" then some .name
  else if key = "style" then some .style
  else if key = "text" then some .text
  else if key = "children" ∨ key = ">" then some .children
  else none

/-- The members of a rule that were read so far. -/
structure RuleParts where
  name : Option (Option String) := none
  declarations : Option (Attributes String) := none
  text : Option (Option String) := none
  children : Option (Forest Rule) := none

/-- The text of a string, a number or a boolean. -/
def scalarText? : Value → Option String
  | .string s => some s
  | .number n => some n.text
  | .bool b => some (Json.boolText b)
  | _ => none

/-- A scalar or null, which stands for none. -/
def optionalScalar? : Value → Option (Option String)
  | .null => some none
  | value => (scalarText? value).map some

/-- A string or null, which stands for none. -/
def optionalString? : Value → Option (Option String)
  | .null => some none
  | .string s => some (some s)
  | _ => none

/-- The declarations of a style object. The last of equal keys counts, and a null takes the
attribute away. -/
def declarations? : Value → Option (Attributes String)
  | .object members => do
    let entries ← members.mapM fun (key, value) =>
      (optionalScalar? value).map ((key, ·))
    return (Attributes.ofList entries).filterMap id
  | _ => none

/-- Adds a member other than the children; a member may come only once. -/
def RuleParts.add? (parts : RuleParts) (field : RuleField) (value : Value) : Option RuleParts :=
  match field with
  | .name =>
    if parts.name.isSome then none
    else (optionalString? value).map fun name => { parts with name := some name }
  | .style =>
    if parts.declarations.isSome then none
    else (declarations? value).map fun read => { parts with declarations := some read }
  | .text =>
    if parts.text.isSome then none
    else (optionalScalar? value).map fun text => { parts with text := some text }
  | .children => none

/-- Adds the children, which may come only once. -/
def RuleParts.addChildren? (parts : RuleParts) (children : Forest Rule) : Option RuleParts :=
  if parts.children.isSome then none else some { parts with children := some children }

/-- What a name makes of a rule: the directive name does so also with blanks around it. -/
def Rule.Kind.ofName : Option String → Rule.Kind
  | none => .element none
  | some name => if Text.trim name = directiveMark then .directive else .element (some name)

/-- The rule of the parts; what was not read is empty. -/
def RuleParts.rule (parts : RuleParts) : Rule where
  kind := .ofName (parts.name.getD none)
  declarations := parts.declarations.getD ∅
  text := parts.text.getD none

/-- The tree of the parts, before other trees. -/
def RuleParts.tree (parts : RuleParts) (rest : Forest Rule) : Forest Rule :=
  .cons parts.rule (parts.children.getD .nil) rest

/-! ## The shape of a document -/

mutual

/-- The parts of a rule, in either of its forms. -/
def ruleParts? : Value → Option RuleParts
  | .object members => memberParts? {} members
  | .list items => itemParts? {} RuleField.order items
  | _ => none

/-- Adds the members of an object; unknown keys are passed over. -/
def memberParts? (parts : RuleParts) : List (String × Value) → Option RuleParts
  | [] => some parts
  | (key, value) :: rest =>
    match RuleField.ofKey? key with
    | none => memberParts? parts rest
    | some .children => do
      let parts ← parts.addChildren? (← rules? value)
      memberParts? parts rest
    | some field => do
      let parts ← parts.add? field value
      memberParts? parts rest

/-- Adds the items of a list, each for the next member in order. -/
def itemParts? (parts : RuleParts) : List RuleField → List Value → Option RuleParts
  | _, [] => some parts
  | [], _ :: _ => none
  | .children :: fields, value :: rest => do
    let parts ← parts.addChildren? (← rules? value)
    itemParts? parts fields rest
  | field :: fields, value :: rest => do
    let parts ← parts.add? field value
    itemParts? parts fields rest

/-- The rules of a list of rules. -/
def rules? : Value → Option (Forest Rule)
  | .list items => ruleForest? items
  | _ => none

/-- The rules of the items of a list. -/
def ruleForest? : List Value → Option (Forest Rule)
  | [] => some .nil
  | item :: rest => do
    let parts ← ruleParts? item
    return parts.tree (← ruleForest? rest)

end

/-- The rules of a document: a list of rules if it is one, else one rule. -/
def documentRules? (value : Value) : Option (Forest Rule) :=
  match rules? value with
  | some rules => some rules
  | none => (ruleParts? value).map (·.tree .nil)

/-- Reads a style document. -/
def readDocument (text : String) : Except DocumentError (Forest Rule) :=
  let chars := text.toList
  match Json.value Json.maxDepth chars with
  | .error fault => .error (.text (fault.error chars))
  | .ok (value, rest) =>
    match documentRules? value with
    | none => .error .shape
    | some rules =>
      match Json.finished rest.val with
      | .error fault => .error (.text (fault.error chars))
      | .ok () => .ok rules

end Folio
