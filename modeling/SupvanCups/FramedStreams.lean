import Mathlib.Data.List.Infix

/-!
# Frames that carry their length

A framing reads the length of a frame off the beginning of a stream, as soon as
enough of it is there.  Such a stream has at most one division into frames.  A
receiver that has only part of a stream of frames sees the first frames of it,
wherever the stream was cut.
-/

namespace SupvanCups

/-- The length of the frame that a stream begins with, once it is known; more
of the stream does not change it. -/
structure Framing (α : Type) where
  size : List α → Option Nat
  size_pos : ∀ {stream length}, size stream = some length → 0 < length
  size_append : ∀ {stream length} (more), size stream = some length →
    size (stream ++ more) = some length

namespace Framing

variable {α : Type} (framing : Framing α)

/-- A frame, alone and whole. -/
def IsFrame (frame : List α) : Prop :=
  framing.size frame = some frame.length

/-- The whole frames a stream begins with. -/
def split (stream : List α) : List (List α) :=
  match _found : framing.size stream with
  | none => []
  | some length =>
      if length ≤ stream.length then
        stream.take length :: split (stream.drop length)
      else []
termination_by stream.length
decreasing_by
  have := framing.size_pos _found
  simp only [List.length_drop]
  omega

variable {framing} {frame part : List α} {frames : List (List α)}

theorem split_of_size {stream : List α} {length : Nat}
    (found : framing.size stream = some length)
    (fits : length ≤ stream.length) :
    framing.split stream =
      stream.take length :: framing.split (stream.drop length) := by
  rw [split]
  split
  · rename_i unknown
    rw [found] at unknown
    cases unknown
  · rename_i other same
    rw [found] at same
    obtain rfl := Option.some.inj same
    rw [if_pos fits]

theorem split_append (isFrame : framing.IsFrame frame) (rest : List α) :
    framing.split (frame ++ rest) = frame :: framing.split rest := by
  rw [split_of_size (framing.size_append rest isFrame) (by simp)]
  simp

/-- Nothing is read off a frame that is still incomplete. -/
theorem split_incomplete (isFrame : framing.IsFrame frame)
    (isPart : part <+: frame) (proper : part ≠ frame) :
    framing.split part = [] := by
  rw [split]
  split
  · rfl
  · rename_i length found
    obtain ⟨missing, rfl⟩ := isPart
    have sameLength := framing.size_append missing found
    rw [isFrame] at sameLength
    obtain rfl := Option.some.inj sameLength
    have nonempty : 0 < missing.length := List.length_pos_iff.mpr <| by
      rintro rfl
      simp at proper
    rw [if_neg (by rw [List.length_append]; omega)]

theorem split_nil : framing.split [] = [] := by
  rw [split]
  split
  · rfl
  · rename_i length found
    rw [if_neg (by simpa using (framing.size_pos found).ne')]

theorem split_flatten_append (areFrames : ∀ frame ∈ frames,
    framing.IsFrame frame) (rest : List α) :
    framing.split (frames.flatten ++ rest) = frames ++ framing.split rest := by
  induction frames with
  | nil => rfl
  | cons frame frames ih =>
      obtain ⟨first, others⟩ := List.forall_mem_cons.mp areFrames
      rw [List.flatten_cons, List.append_assoc, split_append first, ih others]
      rfl

/-- A stream of frames divides into just these frames. -/
theorem split_flatten (areFrames : ∀ frame ∈ frames, framing.IsFrame frame) :
    framing.split frames.flatten = frames := by
  simpa [split_nil] using split_flatten_append areFrames []

/-- Part of any stream divides into the first of its frames. -/
theorem split_mono {part stream : List α} (isPart : part <+: stream) :
    framing.split part <+: framing.split stream := by
  obtain ⟨rest, rfl⟩ := isPart
  induction sized : part.length using Nat.strongRecOn generalizing part with
  | ind total ih =>
      rw [split]
      split
      · exact List.nil_prefix
      · rename_i length found
        split
        · rename_i fits
          have positive := framing.size_pos found
          rw [split_of_size (framing.size_append rest found) (by simp; omega),
            List.take_append_of_le_length fits,
            List.drop_append_of_le_length fits]
          exact List.cons_prefix_cons.mpr ⟨rfl,
            ih _ (by simp only [List.length_drop]; omega) rfl⟩
        · exact List.nil_prefix

/-- Part of a stream of frames divides into the first of them. -/
theorem split_prefix (areFrames : ∀ frame ∈ frames, framing.IsFrame frame)
    (isPart : part <+: frames.flatten) : framing.split part <+: frames := by
  induction frames generalizing part with
  | nil =>
      obtain rfl := List.prefix_nil.mp isPart
      rw [split_nil]
  | cons frame frames ih =>
      obtain ⟨first, others⟩ := List.forall_mem_cons.mp areFrames
      rw [List.flatten_cons] at isPart
      rcases List.prefix_or_prefix_of_prefix isPart
        (List.prefix_append frame frames.flatten) with inside | ⟨rest, rfl⟩
      · by_cases whole : part = frame
        · rw [whole, ← List.append_nil frame, split_append first, split_nil,
            List.append_nil]
          exact List.cons_prefix_cons.mpr ⟨rfl, List.nil_prefix⟩
        · rw [split_incomplete first inside whole]
          exact List.nil_prefix
      · rw [split_append first]
        exact List.cons_prefix_cons.mpr ⟨rfl,
          ih others ((List.prefix_append_right_inj frame).mp isPart)⟩

end Framing

end SupvanCups
