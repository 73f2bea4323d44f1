import Mathlib.Data.List.Basic

/-!
# Words between separators

The words of a list are its pieces between separators, without the empty ones.
Joined by single separators they keep everything but the separators, in order,
and the words of the joined list are the same again.
-/

namespace SupvanCups

variable {α : Type*} [DecidableEq α] {sep : α}

/-- The pieces between separators that are not empty. -/
def wordsBetween (sep : α) (items : List α) : List (List α) :=
  (items.splitOn sep).filter fun word => !word.isEmpty

theorem sep_notMem_of_mem_splitOn {items : List α} :
    ∀ word ∈ items.splitOn sep, sep ∉ word := by
  induction items with
  | nil => simp
  | cons item items ih =>
      rw [List.splitOn_cons_eq_if_modifyHead]
      split_ifs with isSep
      · simpa using ih
      · obtain ⟨first, rest, pieces⟩ :=
          List.exists_cons_of_ne_nil (List.splitOn_ne_nil sep items)
        rw [pieces] at ih ⊢
        obtain ⟨inFirst, inRest⟩ := List.forall_mem_cons.mp ih
        refine List.forall_mem_cons.mpr ⟨?_, inRest⟩
        rw [List.mem_cons, not_or]
        exact ⟨fun same => isSep (beq_iff_eq.mpr same.symm), inFirst⟩

theorem flatten_splitOn (sep : α) (items : List α) :
    (items.splitOn sep).flatten = items.filter (· ≠ sep) := by
  induction items with
  | nil => rfl
  | cons item items ih =>
      rw [List.splitOn_cons_eq_if_modifyHead]
      split_ifs with isSep
      · have same : item = sep := beq_iff_eq.mp isSep
        simpa [same] using ih
      · have other : item ≠ sep := fun same => isSep (beq_iff_eq.mpr same)
        obtain ⟨first, rest, pieces⟩ :=
          List.exists_cons_of_ne_nil (List.splitOn_ne_nil sep items)
        rw [pieces] at ih ⊢
        rw [List.filter_cons_of_pos (by simpa using other), ← ih]
        rfl

theorem ne_nil_of_mem_wordsBetween {items word : List α}
    (member : word ∈ wordsBetween sep items) : word ≠ [] := by
  intro empty
  simp [wordsBetween, empty] at member

theorem sep_notMem_of_mem_wordsBetween {items word : List α}
    (member : word ∈ wordsBetween sep items) : sep ∉ word :=
  sep_notMem_of_mem_splitOn word (List.mem_of_mem_filter member)

/-- The words hold everything but the separators, in order. -/
theorem flatten_wordsBetween (sep : α) (items : List α) :
    (wordsBetween sep items).flatten = items.filter (· ≠ sep) := by
  rw [wordsBetween, List.flatten_filter_not_isEmpty, flatten_splitOn]

theorem wordsBetween_eq_nil_iff {items : List α} :
    wordsBetween sep items = [] ↔ (wordsBetween sep items).flatten = [] := by
  constructor
  · intro none
    rw [none, List.flatten_nil]
  · intro flat
    apply List.eq_nil_iff_forall_not_mem.mpr
    intro word member
    exact ne_nil_of_mem_wordsBetween member
      (List.flatten_eq_nil_iff.mp flat word member)

/-- Joined words are split into themselves. -/
theorem wordsBetween_intercalate {words : List (List α)}
    (nonempty : ∀ word ∈ words, word ≠ [])
    (free : ∀ word ∈ words, sep ∉ word) :
    wordsBetween sep ([sep].intercalate words) = words := by
  rcases words with _ | ⟨first, rest⟩
  · rfl
  · rw [wordsBetween, List.splitOn_intercalate sep free (List.cons_ne_nil _ _),
      List.filter_eq_self]
    intro word member
    simpa using nonempty word member

theorem intercalate_eq_nil_iff {words : List (List α)}
    (nonempty : ∀ word ∈ words, word ≠ [])
    (free : ∀ word ∈ words, sep ∉ word) :
    [sep].intercalate words = [] ↔ words = [] := by
  constructor
  · intro empty
    rw [← wordsBetween_intercalate nonempty free, empty]
    rfl
  · rintro rfl
    rfl

/-- Joining puts nothing but separators between the words. -/
theorem filter_intercalate {words : List (List α)}
    (free : ∀ word ∈ words, sep ∉ word) :
    ([sep].intercalate words).filter (· ≠ sep) = words.flatten := by
  rcases words with _ | ⟨first, rest⟩
  · rfl
  · rw [← flatten_splitOn,
      List.splitOn_intercalate sep free (List.cons_ne_nil _ _)]

end SupvanCups
