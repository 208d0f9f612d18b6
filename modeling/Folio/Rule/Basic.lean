import Folio.Attributes
import Folio.Forest

/-!
# Rules

A style document is a forest of rules. An element rule becomes a box; a directive rule only speaks
for the elements that come after it at its level. Which of the two a rule is was settled when it
was read, so that an element may bear any name.
-/

namespace Folio

/-- What a rule becomes. -/
inductive Rule.Kind where
  | element (name : Option String)
  | directive
  deriving DecidableEq, Repr

/-- A rule without the rules below it. The declarations hold the attributes as they were written. -/
structure Rule where
  kind : Rule.Kind
  declarations : Attributes String
  text : Option String

/-- The name that marks a rule as a directive. -/
def directiveMark : String := "*"

/-- The name of a rule; a directive goes by the name that marks it. -/
def Rule.name (rule : Rule) : Option String :=
  match rule.kind with
  | .element name => name
  | .directive => some directiveMark

end Folio
