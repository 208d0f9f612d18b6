/-!
# Ordered forests

Rules, elements and items all come in ordered forests. A forest is empty, or a first tree (a value
with a forest below it) before the rest of its level; stages that look at the nodes above and to the
left are then plain recursions. Nodes are numbered in pre-order, parents before children and
siblings in order.
-/

namespace Folio

/-- An ordered forest of values. -/
inductive Forest (α : Type) where
  | nil
  | cons (value : α) (below : Forest α) (rest : Forest α)
  deriving DecidableEq, Repr

/-- A node of a forest: its value, the values above it from the nearest on, and what is below. -/
structure Position (α : Type) where
  above : List α
  value : α
  below : Forest α

/-- A value with the number of its node. -/
structure Numbered (α : Type) where
  id : Nat
  value : α
  deriving DecidableEq, Repr

namespace Forest

variable {α β γ : Type}

instance : Inhabited (Forest α) := ⟨nil⟩

/-- The number of nodes. -/
def size : Forest α → Nat
  | nil => 0
  | cons _ below rest => 1 + below.size + rest.size

/-- The values of the top level. -/
def roots : Forest α → List α
  | nil => []
  | cons value _ rest => value :: rest.roots

/-- All values, in pre-order. -/
def preorder : Forest α → List α
  | nil => []
  | cons value below rest => value :: (below.preorder ++ rest.preorder)

/-- Changes every value by itself. -/
def map (f : α → β) : Forest α → Forest β
  | nil => nil
  | cons value below rest => cons (f value) (below.map f) (rest.map f)

/-- The trees of one forest before those of another, at one level. -/
def append : Forest α → Forest α → Forest α
  | nil, other => other
  | cons value below rest, other => cons value below (rest.append other)

instance : Append (Forest α) := ⟨append⟩

/-- All nodes in pre-order, under the given values above them. -/
def positions (above : List α) : Forest α → List (Position α)
  | nil => []
  | cons value below rest =>
    ⟨above, value, below⟩ :: (below.positions (value :: above) ++ rest.positions above)

/-- Numbers the nodes in pre-order, from the given number on. -/
def number (next : Nat) : Forest α → Forest (Numbered α)
  | nil => nil
  | cons value below rest =>
    cons ⟨next, value⟩ (below.number (next + 1)) (rest.number (next + 1 + below.size))

/-- The node with a number, in a forest numbered from zero. -/
def position? (forest : Forest α) (id : Nat) : Option (Position α) :=
  (forest.positions [])[id]?

/-! ## Views of one another -/

@[simp] theorem size_map (f : α → β) (forest : Forest α) : (forest.map f).size = forest.size := by
  induction forest with
  | nil => rfl
  | cons _ _ _ below rest => simp [map, size, below, rest]

theorem map_map (g : β → γ) (f : α → β) (forest : Forest α) :
    (forest.map f).map g = forest.map (g ∘ f) := by
  induction forest with
  | nil => rfl
  | cons _ _ _ below rest => simp [map, below, rest]

@[simp] theorem length_preorder (forest : Forest α) : forest.preorder.length = forest.size := by
  induction forest with
  | nil => rfl
  | cons _ _ _ below rest => simp [preorder, size, below, rest]; omega

@[simp] theorem preorder_map (f : α → β) (forest : Forest α) :
    (forest.map f).preorder = forest.preorder.map f := by
  induction forest with
  | nil => rfl
  | cons _ _ _ below rest => simp [map, preorder, below, rest]

/-- Positions list the values in pre-order. -/
@[simp] theorem map_value_positions (above : List α) (forest : Forest α) :
    (forest.positions above).map Position.value = forest.preorder := by
  induction forest generalizing above with
  | nil => rfl
  | cons _ _ _ below rest => simp [positions, preorder, below, rest]

/-- Numbering keeps the values. -/
@[simp] theorem map_value_number (next : Nat) (forest : Forest α) :
    (forest.number next).map Numbered.value = forest := by
  induction forest generalizing next with
  | nil => rfl
  | cons _ _ _ below rest => simp [number, map, below, rest]

end Forest

end Folio
