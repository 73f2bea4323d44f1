import Mathlib.Data.List.Infix

/-!
# Greedy packing

A list is packed into blocks from the front: the largest group of up to `cap`
items is tried first and shrunk until its block fits, down to a single item,
which is taken as it is.  Packing a group may fail, and packing need not be
monotone in the group.

`Packed` and `Fails` say what the outcome must be, without saying how it is
found.  For every list exactly one of them holds, of exactly one outcome.
-/

namespace SupvanCups

namespace GreedyPacking

variable {α β ε : Type} (pack : List α → Except ε β) (fits : β → Bool)
variable (cap : Nat)

/-- A group of `count` items at the front is tried: every larger group packs to
a block that does not fit. -/
structure Tried (rest : List α) (count : Nat) : Prop where
  positive : 1 ≤ count
  bounded : count ≤ min cap rest.length
  larger : ∀ more, count < more → more ≤ min cap rest.length →
    ∃ block, pack (rest.take more) = .ok block ∧ fits block = false

/-- A group of `count` items at the front becomes a block: it was tried, and it
fits or cannot shrink any more. -/
structure Accepted (rest : List α) (count : Nat) (block : β) : Prop extends
    Tried pack fits cap rest count where
  packed : pack (rest.take count) = .ok block
  small : fits block = true ∨ count = 1

/-- The blocks cover the list, group by group. -/
inductive Packed : List α → List β → Prop
  | nil : Packed [] []
  | cons {rest : List α} {count : Nat} {block : β} {blocks : List β}
      (accepted : Accepted pack fits cap rest count block)
      (more : Packed (rest.drop count) blocks) :
      Packed rest (block :: blocks)

/-- Some group that is tried on the way fails to pack. -/
inductive Fails : List α → ε → Prop
  | here {rest : List α} {count : Nat} {error : ε}
      (tried : Tried pack fits cap rest count)
      (failed : pack (rest.take count) = .error error) : Fails rest error
  | later {rest : List α} {count : Nat} {block : β} {error : ε}
      (accepted : Accepted pack fits cap rest count block)
      (fails : Fails (rest.drop count) error) : Fails rest error

variable {pack fits cap}

theorem Accepted.le_of_tried {rest : List α} {count other : Nat} {block : β}
    (accepted : Accepted pack fits cap rest count block)
    (tried : Tried pack fits cap rest other) : count ≤ other := by
  by_contra smaller
  obtain ⟨large, packedLarge, tooLarge⟩ :=
    tried.larger count (by omega) accepted.bounded
  obtain rfl : block = large := by
    simpa [accepted.packed] using packedLarge
  have positive := tried.positive
  rcases accepted.small with fitsBlock | single
  · simp [tooLarge] at fitsBlock
  · omega

theorem Accepted.unique {rest : List α} {count other : Nat}
    {block otherBlock : β}
    (accepted : Accepted pack fits cap rest count block)
    (again : Accepted pack fits cap rest other otherBlock) :
    count = other ∧ block = otherBlock := by
  obtain rfl : count = other := Nat.le_antisymm
    (accepted.le_of_tried again.toTried) (again.le_of_tried accepted.toTried)
  refine ⟨rfl, ?_⟩
  simpa [accepted.packed] using again.packed

theorem Accepted.packs_of_tried {rest : List α} {count other : Nat} {block : β}
    (accepted : Accepted pack fits cap rest count block)
    (tried : Tried pack fits cap rest other) :
    ∃ otherBlock, pack (rest.take other) = .ok otherBlock := by
  rcases (accepted.le_of_tried tried).eq_or_lt with rfl | larger
  · exact ⟨block, accepted.packed⟩
  · obtain ⟨otherBlock, packed, _⟩ := accepted.larger other larger tried.bounded
    exact ⟨otherBlock, packed⟩

theorem Packed.not_fails {rest : List α} {blocks : List β} {error : ε}
    (packed : Packed pack fits cap rest blocks) :
    ¬ Fails pack fits cap rest error := by
  intro fails
  induction fails generalizing blocks with
  | here tried failed =>
      cases packed with
      | nil => simpa using tried.positive.trans tried.bounded
      | cons accepted more =>
          obtain ⟨block, packs⟩ := accepted.packs_of_tried tried
          simp [failed] at packs
  | later accepted fails ih =>
      cases packed with
      | nil =>
          simpa using accepted.positive.trans accepted.bounded
      | cons again more =>
          obtain ⟨rfl, rfl⟩ := accepted.unique again
          exact ih more

/-- Unpacked in order, the blocks give the list back, if every block unpacks to
its group. -/
theorem Packed.unpack_eq {γ δ : Type} {rest : List α} {blocks : List β}
    (packed : Packed pack fits cap rest blocks)
    {unpack : β → Except δ (List γ)} {items : α → List γ}
    (inverts : ∀ group block, pack group = .ok block →
      unpack block = .ok (group.flatMap items)) :
    (blocks.mapM unpack).map List.flatten = .ok (rest.flatMap items) := by
  induction packed with
  | nil => rfl
  | @cons rest count block blocks accepted more ih =>
      have split : (rest.take count).flatMap items ++
          (rest.drop count).flatMap items = rest.flatMap items := by
        rw [← List.flatMap_append, List.take_append_drop]
      rw [List.mapM_cons, inverts _ _ accepted.packed, ← split]
      cases unpacked : blocks.mapM unpack with
      | error error =>
          rw [unpacked] at ih
          cases ih
      | ok pieces =>
          have flat : pieces.flatten = (rest.drop count).flatMap items := by
            rw [unpacked] at ih
            simpa [Except.map] using ih
          rw [← flat]
          rfl

/-- The first blocks give the first items back. -/
theorem Packed.unpack_prefix {γ δ : Type} {rest : List α}
    {blocks first : List β} (packed : Packed pack fits cap rest blocks)
    (isFirst : first <+: blocks)
    {unpack : β → Except δ (List γ)} {items : α → List γ}
    (inverts : ∀ group block, pack group = .ok block →
      unpack block = .ok (group.flatMap items)) :
    ∃ count, (first.mapM unpack).map List.flatten =
      .ok ((rest.take count).flatMap items) := by
  induction packed generalizing first with
  | nil =>
      obtain rfl := List.prefix_nil.mp isFirst
      exact ⟨0, rfl⟩
  | @cons rest count block blocks accepted more ih =>
      rcases List.prefix_cons_iff.mp isFirst with rfl | ⟨left, rfl, isLeft⟩
      · exact ⟨0, by rw [List.take_zero]; rfl⟩
      · obtain ⟨later, unpacked⟩ := ih isLeft
        refine ⟨count + later, ?_⟩
        rw [List.take_add, List.flatMap_append, List.mapM_cons,
          inverts _ _ accepted.packed]
        cases pieces : left.mapM unpack with
        | error error =>
            rw [pieces] at unpacked
            cases unpacked
        | ok parts =>
            have flat : parts.flatten =
                ((rest.drop count).take later).flatMap items := by
              rw [pieces] at unpacked
              simpa [Except.map] using unpacked
            rw [← flat]
            rfl

/-- Every block is an accepted group. -/
theorem Packed.accepted_of_mem {rest : List α} {blocks : List β} {block : β}
    (packed : Packed pack fits cap rest blocks) (member : block ∈ blocks) :
    ∃ items count, Accepted pack fits cap items count block := by
  induction packed with
  | nil => cases member
  | cons accepted more ih =>
      rcases List.mem_cons.mp member with rfl | later
      · exact ⟨_, _, accepted⟩
      · exact ih later

end GreedyPacking

end SupvanCups
