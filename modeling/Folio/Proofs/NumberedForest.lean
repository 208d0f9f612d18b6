import Folio.Forest

/-!
# Numbers and places in a forest

The positions of a forest say what lies above and below each node, and its numbers run in
pre-order. Here both are tied together: the numbers of a numbered forest are consecutive
(`map_id_preorder_number`), a node has a greater number than what is above it
(`pairwise_above_of_mem_positions`), and what is directly below a node has that node directly above
it and nothing else has (`exists_position_of_mem_roots`, `exists_parent_of_mem_positions`).

What concerns a single node is proved along the way to it (`StandsAt`), which has one case for the
first root, one for what is below that root and one for what is behind.
-/

namespace Folio.Forest

variable {α : Type}

/-- A root of a forest is the value of a position with nothing above it but what is above the
forest. -/
theorem exists_position_of_mem_roots (above : List α) {forest : Forest α} {value : α}
    (member : value ∈ forest.roots) :
    ∃ position ∈ forest.positions above, position.value = value ∧ position.above = above := by
  induction forest with
  | nil => cases member
  | cons root below rest _ ihRest =>
    rw [roots, List.mem_cons] at member
    rw [positions]
    rcases member with rfl | member
    · exact ⟨_, List.mem_cons_self, rfl, rfl⟩
    · obtain ⟨position, inRest, found⟩ := ihRest member
      exact ⟨position, List.mem_cons_of_mem _ (List.mem_append_right _ inRest), found⟩

/-- What is directly below a node lies under that node and what is above it. -/
theorem exists_position_of_mem_below {above : List α} {forest : Forest α} {node : Position α}
    (inForest : node ∈ forest.positions above) {value : α} (member : value ∈ node.below.roots) :
    ∃ position ∈ forest.positions above,
      position.value = value ∧ position.above = node.value :: node.above := by
  induction forest generalizing above with
  | nil => cases inForest
  | cons root below rest ihBelow ihRest =>
    rw [positions, List.mem_cons, List.mem_append] at inForest
    rw [positions]
    rcases inForest with rfl | inBelow | inRest
    · obtain ⟨position, found, same⟩ := exists_position_of_mem_roots (root :: above) member
      exact ⟨position, List.mem_cons_of_mem _ (List.mem_append_left _ found), same⟩
    · obtain ⟨position, found, same⟩ := ihBelow inBelow
      exact ⟨position, List.mem_cons_of_mem _ (List.mem_append_left _ found), same⟩
    · obtain ⟨position, found, same⟩ := ihRest inRest
      exact ⟨position, List.mem_cons_of_mem _ (List.mem_append_right _ found), same⟩

/-- A node is a root, or it is directly below the node that is nearest above it. -/
theorem exists_parent_of_mem_positions {above : List α} {forest : Forest α} {node : Position α}
    (inForest : node ∈ forest.positions above) :
    node.above = above ∧ node.value ∈ forest.roots ∨
      ∃ parent ∈ forest.positions above,
        node.above = parent.value :: parent.above ∧ node.value ∈ parent.below.roots := by
  induction forest generalizing above with
  | nil => cases inForest
  | cons root below rest ihBelow ihRest =>
    rw [positions, List.mem_cons, List.mem_append] at inForest
    rw [positions, roots]
    rcases inForest with rfl | inBelow | inRest
    · exact .inl ⟨rfl, List.mem_cons_self⟩
    · refine .inr ?_
      rcases ihBelow inBelow with ⟨top, member⟩ | ⟨parent, found, same⟩
      · exact ⟨_, List.mem_cons_self, top, member⟩
      · exact ⟨parent, List.mem_cons_of_mem _ (List.mem_append_left _ found), same⟩
    · rcases ihRest inRest with ⟨top, member⟩ | ⟨parent, found, same⟩
      · exact .inl ⟨top, List.mem_cons_of_mem _ member⟩
      · exact .inr ⟨parent, List.mem_cons_of_mem _ (List.mem_append_right _ found), same⟩

/-- Going up from a node ends at a root. -/
theorem exists_root_of_mem_positions {forest : Forest α} {node : Position α}
    (inForest : node ∈ forest.positions []) :
    ∃ root ∈ forest.roots, (node.value :: node.above).getLast? = some root := by
  generalize height : node.above.length = length
  induction length generalizing node with
  | zero =>
    have top := List.eq_nil_of_length_eq_zero height
    obtain ⟨-, member⟩ | ⟨parent, -, up, -⟩ := exists_parent_of_mem_positions inForest
    · exact ⟨node.value, member, by rw [top, List.getLast?_singleton]⟩
    · rw [top] at up
      cases up
  | succ length ih =>
    obtain ⟨top, -⟩ | ⟨parent, found, up, -⟩ := exists_parent_of_mem_positions inForest
    · rw [top] at height
      cases height
    · rw [up, List.length_cons, Nat.add_right_cancel_iff] at height
      obtain ⟨root, member, last⟩ := ih found height
      exact ⟨root, member, by rw [up, List.getLast?_cons_cons, last]⟩

/-- Every node is once among the roots or among what is directly below some node. -/
theorem perm_roots_append_below (above : List α) (forest : Forest α) :
    (forest.roots ++ (forest.positions above).flatMap (·.below.roots)).Perm forest.preorder := by
  induction forest generalizing above with
  | nil => exact .refl _
  | cons root below rest ihBelow ihRest =>
    rw [roots, positions, preorder, List.flatMap_cons, List.flatMap_append, List.cons_append]
    refine List.Perm.cons root ?_
    -- The roots of the rest move behind all that comes from below the first root.
    refine List.Perm.trans ?_ ((ihBelow (root :: above)).append (ihRest above))
    rw [← List.append_assoc below.roots]
    exact List.perm_append_comm_assoc _ _ _

theorem mem_preorder_of_mem_positions {above : List α} {forest : Forest α} {node : Position α}
    (inForest : node ∈ forest.positions above) : node.value ∈ forest.preorder := by
  rw [← map_value_positions above]
  exact List.mem_map_of_mem inForest

/-- What a node lies under is in the forest, or above it. -/
theorem mem_preorder_of_mem_above {above : List α} {forest : Forest α} {node : Position α}
    (inForest : node ∈ forest.positions above) {value : α} (isAbove : value ∈ node.above) :
    value ∈ above ∨ value ∈ forest.preorder := by
  induction forest generalizing above with
  | nil => cases inForest
  | cons root below rest ihBelow ihRest =>
    rw [positions, List.mem_cons, List.mem_append] at inForest
    rw [preorder, List.mem_cons, List.mem_append]
    rcases inForest with rfl | inBelow | inRest
    · exact .inl isAbove
    · rcases ihBelow inBelow with higher | inside
      · rcases List.mem_cons.1 higher with rfl | higher
        · exact .inr (.inl rfl)
        · exact .inl higher
      · exact .inr (.inr (.inl inside))
    · rcases ihRest inRest with higher | inside
      · exact .inl higher
      · exact .inr (.inr (.inr inside))

/-! ## Places -/

@[simp] theorem length_positions (above : List α) (forest : Forest α) :
    (forest.positions above).length = forest.size := by
  rw [← length_preorder, ← map_value_positions above, List.length_map]

/-- The way to the node at a place in pre-order, counted from zero: it is the first root, or it is
below that root, or behind all that is below that root. -/
inductive StandsAt : Forest α → List α → Nat → Position α → Prop
  | root (value : α) (below rest : Forest α) (above : List α) :
      StandsAt (cons value below rest) above 0 ⟨above, value, below⟩
  | inside {value : α} {below : Forest α} {above : List α} {number : Nat} {node : Position α}
      (stands : StandsAt below (value :: above) number node) (within : number < below.size)
      (rest : Forest α) : StandsAt (cons value below rest) above (number + 1) node
  | behind {rest : Forest α} {above : List α} {number : Nat} {node : Position α}
      (stands : StandsAt rest above number node) (value : α) (below : Forest α) :
      StandsAt (cons value below rest) above (below.size + number + 1) node

section Places

variable {forest : Forest α} {above : List α} {number : Nat} {node : Position α}

theorem standsAt_of_getElem? (found : (forest.positions above)[number]? = some node) :
    StandsAt forest above number node := by
  induction forest generalizing above number with
  | nil => cases found
  | cons value below rest ihBelow ihRest =>
    rw [positions] at found
    cases number with
    | zero =>
      cases found
      exact .root value below rest above
    | succ number =>
      rw [List.getElem?_cons_succ] at found
      rcases Nat.lt_or_ge number below.size with within | beyond
      · rw [List.getElem?_append_left (by rwa [length_positions])] at found
        exact .inside (ihBelow found) within rest
      · rw [List.getElem?_append_right (by rwa [length_positions]), length_positions] at found
        have stands := StandsAt.behind (ihRest found) value below
        rwa [Nat.add_sub_cancel' beyond] at stands

/-- A tree ends before the forest does. -/
theorem StandsAt.le_size (stands : StandsAt forest above number node) :
    number + (1 + node.below.size) ≤ forest.size := by
  induction stands with
  | root value below rest above =>
    rw [size, Nat.zero_add]
    exact Nat.le_add_right _ _
  | inside _ _ rest ih =>
    rw [size]
    omega
  | behind _ value below ih =>
    rw [size]
    omega

theorem StandsAt.above_suffix (stands : StandsAt forest above number node) :
    above <:+ node.above := by
  induction stands with
  | root _ _ _ above => exact List.suffix_refl above
  | inside _ _ _ ih => exact (List.suffix_cons _ _).trans ih
  | behind _ _ _ ih => exact ih

/-- The nodes of a tree are one run of the positions. -/
theorem StandsAt.positions_eq (stands : StandsAt forest above number node) :
    ∃ before after, before.length = number ∧
      forest.positions above =
        before ++ node :: node.below.positions (node.value :: node.above) ++ after := by
  induction stands with
  | root value below rest above => exact ⟨[], rest.positions above, rfl, rfl⟩
  | @inside value below above number node _ _ rest ih =>
    obtain ⟨before, after, length, split⟩ := ih
    refine ⟨⟨above, value, below⟩ :: before, after ++ rest.positions above, ?_, ?_⟩
    · rw [List.length_cons, length]
    · rw [positions, split]
      simp only [List.cons_append, List.append_assoc]
  | @behind rest above number node _ value below ih =>
    obtain ⟨before, after, length, split⟩ := ih
    refine ⟨⟨above, value, below⟩ :: (below.positions (value :: above) ++ before), after, ?_, ?_⟩
    · rw [List.length_cons, List.length_append, length_positions, length]
    · rw [positions, split]
      simp only [List.cons_append, List.append_assoc]

/-- What is in a tree is in the forest. -/
theorem StandsAt.tree_subset (stands : StandsAt forest above number node) :
    node.value :: node.below.preorder ⊆ forest.preorder := by
  induction stands with
  | root value below rest above =>
    exact List.cons_subset_cons _ (List.subset_append_left _ _)
  | inside _ _ rest ih =>
    exact fun value member => List.mem_cons_of_mem _ (List.mem_append_left _ (ih member))
  | behind _ value below ih =>
    exact fun value member => List.mem_cons_of_mem _ (List.mem_append_right _ (ih member))

end Places

/-! ## Numbers -/

/-- The numbers are consecutive in pre-order. -/
theorem map_id_preorder_number (next : Nat) (forest : Forest α) :
    (forest.number next).preorder.map Numbered.id = List.range' next forest.size := by
  induction forest generalizing next with
  | nil => rfl
  | cons value below rest ihBelow ihRest =>
    have split : 1 + below.size + rest.size = (below.size + rest.size) + 1 := by omega
    rw [number, preorder, size, List.map_cons, List.map_append, ihBelow, ihRest, split,
      List.range'_succ, List.range'_append_1]

@[simp] theorem size_number (next : Nat) (forest : Forest α) :
    (forest.number next).size = forest.size := by
  rw [← size_map Numbered.value, map_value_number]

theorem id_mem_of_mem_preorder_number {next : Nat} {forest : Forest α} {node : Numbered α}
    (member : node ∈ (forest.number next).preorder) :
    next ≤ node.id ∧ node.id < next + forest.size := by
  have inRange : node.id ∈ List.range' next forest.size := by
    rw [← map_id_preorder_number]
    exact List.mem_map_of_mem member
  exact List.mem_range'_1.1 inRange

/-- A position has the number of its place in the list. -/
theorem id_of_getElem?_positions {next : Nat} {forest : Forest α} {above : List (Numbered α)}
    {i : Nat} {position : Position (Numbered α)}
    (found : ((forest.number next).positions above)[i]? = some position) :
    position.value.id = next + i := by
  have ids := congrArg (·[i]?) (map_id_preorder_number next forest)
  rw [← map_value_positions above, List.map_map] at ids
  simp only [List.getElem?_map, found, Option.map_some, Function.comp_apply] at ids
  obtain ⟨inside, value⟩ := List.getElem?_eq_some_iff.1 ids.symm
  rw [← value, List.getElem_range', Nat.one_mul]

theorem getElem?_id_of_mem_positions {forest : Forest α} {above : List (Numbered α)}
    {position : Position (Numbered α)}
    (member : position ∈ (forest.number 0).positions above) :
    ((forest.number 0).positions above)[position.value.id]? = some position := by
  obtain ⟨i, found⟩ := List.mem_iff_getElem?.1 member
  rwa [id_of_getElem?_positions found, Nat.zero_add]

theorem mem_preorder_of_mem_roots {forest : Forest α} {value : α} (member : value ∈ forest.roots) :
    value ∈ forest.preorder := by
  obtain ⟨position, found, rfl, -⟩ := exists_position_of_mem_roots [] member
  exact mem_preorder_of_mem_positions found

/-- The numbers of siblings rise. -/
theorem pairwise_roots_number (next : Nat) (forest : Forest α) :
    ((forest.number next).roots.map Numbered.id).Pairwise (· < ·) := by
  induction forest generalizing next with
  | nil => exact .nil
  | cons value below rest _ ihRest =>
    rw [number, roots, List.map_cons, List.pairwise_cons]
    refine ⟨?_, ihRest _⟩
    intro id member
    obtain ⟨node, inRest, rfl⟩ := List.mem_map.1 member
    have bounds := id_mem_of_mem_preorder_number (mem_preorder_of_mem_roots inRest)
    dsimp only
    omega

/-- What is below a node of a numbered forest is numbered from behind the node on. -/
theorem below_of_mem_positions_number {next : Nat} {forest : Forest α}
    {above : List (Numbered α)} {position : Position (Numbered α)}
    (member : position ∈ (forest.number next).positions above) :
    ∃ inner : Forest α, position.below = inner.number (position.value.id + 1) := by
  induction forest generalizing next above with
  | nil => cases member
  | cons value below rest ihBelow ihRest =>
    rw [number, positions, List.mem_cons, List.mem_append] at member
    rcases member with rfl | member | member
    · exact ⟨below, rfl⟩
    · exact ihBelow member
    · exact ihRest member

/-- Going up from a node, the numbers fall. -/
theorem pairwise_above_of_mem_positions {next : Nat} {forest : Forest α}
    {above : List (Numbered α)} (falls : (above.map Numbered.id).Pairwise (· > ·))
    (before : ∀ node ∈ above, node.id < next) {position : Position (Numbered α)}
    (member : position ∈ (forest.number next).positions above) :
    ((position.value :: position.above).map Numbered.id).Pairwise (· > ·) := by
  induction forest generalizing next above with
  | nil => cases member
  | cons value below rest ihBelow ihRest =>
    rw [number, positions, List.mem_cons, List.mem_append] at member
    have first : ((⟨next, value⟩ :: above).map Numbered.id).Pairwise (· > ·) := by
      rw [List.map_cons, List.pairwise_cons]
      refine ⟨?_, falls⟩
      intro id isAbove
      obtain ⟨node, inAbove, rfl⟩ := List.mem_map.1 isAbove
      exact before node inAbove
    rcases member with rfl | member | member
    · exact first
    · refine ihBelow first ?_ member
      intro node inAbove
      rcases List.mem_cons.1 inAbove with rfl | inAbove
      · exact Nat.lt_succ_self next
      · exact Nat.lt_succ_of_lt (before node inAbove)
    · refine ihRest falls ?_ member
      intro node inAbove
      have := before node inAbove
      omega

end Folio.Forest
