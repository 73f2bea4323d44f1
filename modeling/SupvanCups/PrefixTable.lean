import Mathlib.Data.List.Sort

/-!
# Tables searched by longest prefix

A table of entries, each with a key, is sorted once so that longer keys come
first.  A text is then resolved to the first entry whose key starts it.
-/

namespace PrefixTable

variable {α β : Type*} [DecidableEq α]

/-- The entries with the longer keys first, ties in table order. -/
def longestFirst (size : β → Nat) (entries : List β) : List β :=
  entries.mergeSort fun p q => size q ≤ size p

@[simp]
theorem mem_longestFirst (size : β → Nat) (entries : List β) (entry : β) :
    entry ∈ longestFirst size entries ↔ entry ∈ entries :=
  List.mem_mergeSort

/-- The first entry whose key starts the text. -/
def firstMatch (key : β → List α) (entries : List β) (text : List α) :
    Option β :=
  entries.find? fun entry => (key entry).isPrefixOf text

theorem firstMatch_some {key : β → List α} {entries : List β}
    {text : List α} {entry : β}
    (found : firstMatch key entries text = some entry) :
    entry ∈ entries ∧ key entry <+: text := by
  unfold firstMatch at found
  have starts := List.find?_some found
  exact ⟨List.mem_of_find?_eq_some found,
    List.isPrefixOf_iff_prefix.mp starts⟩

theorem firstMatch_none_iff {key : β → List α} {entries : List β}
    {text : List α} :
    firstMatch key entries text = none ↔
      ∀ entry ∈ entries, ¬ key entry <+: text := by
  simp [firstMatch, List.find?_eq_none, List.isPrefixOf_iff_prefix]

/-! ### The longest match -/

/-- The key of the entry starts the text, and no longer key does. -/
def LongestMatch (key : β → List α) (size : β → Nat) (entries : List β)
    (text : List α) (entry : β) : Prop :=
  key entry <+: text ∧
    ∀ other ∈ entries, key other <+: text → size other ≤ size entry

instance (key : β → List α) (size : β → Nat) (entries : List β)
    (text : List α) : DecidablePred (LongestMatch key size entries text) :=
  fun _ => inferInstanceAs (Decidable (_ ∧ _))

section Longest

variable {key : β → List α} {size : β → Nat} {entries : List β}
  {text : List α}

theorem longestMatch_congr {others : List β}
    (same : ∀ entry, entry ∈ others ↔ entry ∈ entries) :
    (fun entry => decide (LongestMatch key size others text entry)) =
      fun entry => decide (LongestMatch key size entries text entry) := by
  ext entry
  exact decide_eq_decide.mpr (by simp only [LongestMatch, same])

/-- In a list with the longer keys first, the first match is the longest. -/
theorem firstMatch_of_sorted
    (sorted : entries.Pairwise fun p q => size q ≤ size p) :
    firstMatch key entries text =
      entries.find? fun entry =>
        LongestMatch key size entries text entry := by
  induction entries with
  | nil => rfl
  | cons entry entries ih =>
      obtain ⟨longest, rest⟩ := List.pairwise_cons.mp sorted
      by_cases starts : key entry <+: text
      · have here : LongestMatch key size (entry :: entries) text entry :=
          ⟨starts, List.forall_mem_cons.mpr
            ⟨fun _ => Nat.le_refl _, fun other member _ =>
              longest other member⟩⟩
        simp [firstMatch, starts, here]
      · have skipped : ∀ other,
            LongestMatch key size (entry :: entries) text other ↔
              LongestMatch key size entries text other := by
          simp [LongestMatch, starts]
        have passed : ¬ LongestMatch key size entries text entry :=
          fun longest => starts longest.1
        have later := ih rest
        simp only [firstMatch] at later ⊢
        simp [starts, skipped, passed, later]

/-- Sorting keeps the order among the longest matches. -/
theorem filter_longestFirst :
    (longestFirst size entries).filter
        (fun entry => LongestMatch key size entries text entry) =
      entries.filter fun entry => LongestMatch key size entries text entry := by
  let isLongest : β → Bool :=
    fun entry => LongestMatch key size entries text entry
  have sameSize : (entries.filter isLongest).Pairwise fun p q =>
      decide (size q ≤ size p) = true := by
    refine List.pairwise_iff_forall_sublist.mpr fun {p q} sublist => ?_
    have both : ∀ entry ∈ [p, q], entry ∈ entries ∧ isLongest entry = true :=
      fun entry member => List.mem_filter.mp (sublist.subset member)
    obtain ⟨-, first⟩ := both p (by simp)
    obtain ⟨listed, second⟩ := both q (by simp)
    have starts := (of_decide_eq_true second).1
    simpa using (of_decide_eq_true first).2 q listed starts
  have kept : (entries.filter isLongest).Sublist (longestFirst size entries) :=
    List.sublist_mergeSort
      (by
        intro p q r
        simp only [decide_eq_true_eq]
        omega)
      (by
        intro p q
        simp only [Bool.or_eq_true, decide_eq_true_eq]
        omega)
      sameSize List.filter_sublist
  have among := kept.filter isLongest
  rw [List.filter_filter] at among
  simp only [Bool.and_self] at among
  refine (among.eq_of_length ?_).symm
  exact ((List.mergeSort_perm entries _).filter isLongest).length_eq.symm

/-- A table resolves a text to the longest match, of several the first in
table order. -/
theorem firstMatch_longestFirst :
    firstMatch key (longestFirst size entries) text =
      entries.find? fun entry =>
        LongestMatch key size entries text entry := by
  have sorted : (longestFirst size entries).Pairwise fun p q =>
      size q ≤ size p := by
    have pairwise : (entries.mergeSort fun p q =>
        decide (size q ≤ size p)).Pairwise fun p q =>
          decide (size q ≤ size p) = true := List.pairwise_mergeSort
      (by
        intro p q r
        simp only [decide_eq_true_eq]
        omega)
      (by
        intro p q
        simp only [Bool.or_eq_true, decide_eq_true_eq]
        omega) entries
    simpa [longestFirst] using pairwise
  rw [firstMatch_of_sorted sorted,
    longestMatch_congr (mem_longestFirst size entries),
    ← List.head?_filter, filter_longestFirst, List.head?_filter]

omit [DecidableEq α] in
/-- Where no key is the start of another one of its size, there is at most one
longest match. -/
theorem LongestMatch.unique
    (apart : ∀ p ∈ entries, ∀ q ∈ entries, key p <+: key q →
      size p = size q → p = q) {p q : β} (pListed : p ∈ entries)
    (qListed : q ∈ entries) (pLongest : LongestMatch key size entries text p)
    (qLongest : LongestMatch key size entries text q) : p = q := by
  have sameSize : size p = size q :=
    Nat.le_antisymm (qLongest.2 p pListed pLongest.1)
      (pLongest.2 q qListed qLongest.1)
  rcases List.prefix_or_prefix_of_prefix pLongest.1 qLongest.1 with
    pq | qp
  · exact apart p pListed q qListed pq sameSize
  · exact (apart q qListed p pListed qp sameSize.symm).symm

omit [DecidableEq α] in
theorem find?_eq_some_iff_of_unique {test : β → Bool}
    (unique : ∀ p ∈ entries, ∀ q ∈ entries, test p → test q → p = q)
    (entry : β) :
    entries.find? test = some entry ↔ entry ∈ entries ∧ test entry := by
  constructor
  · intro found
    exact ⟨List.mem_of_find?_eq_some found, List.find?_some found⟩
  · rintro ⟨listed, passes⟩
    cases found : entries.find? test with
    | none => exact absurd passes (List.find?_eq_none.mp found entry listed)
    | some first =>
        rw [unique first (List.mem_of_find?_eq_some found) entry listed
          (List.find?_some found) passes]

/-- Where no key is the start of another one of its size, the longest match
does not depend on the order of the table. -/
theorem find?_longestMatch_perm {others : List β}
    (apart : ∀ p ∈ entries, ∀ q ∈ entries, key p <+: key q →
      size p = size q → p = q) (reordered : entries.Perm others) :
    (others.find? fun entry => LongestMatch key size others text entry) =
      entries.find? fun entry => LongestMatch key size entries text entry := by
  have unique : ∀ p ∈ entries, ∀ q ∈ entries,
      decide (LongestMatch key size entries text p) = true →
      decide (LongestMatch key size entries text q) = true → p = q := by
    intro p pListed q qListed pLongest qLongest
    exact LongestMatch.unique apart pListed qListed
      (of_decide_eq_true pLongest) (of_decide_eq_true qLongest)
  have member : ∀ entry, entry ∈ others ↔ entry ∈ entries :=
    fun entry => reordered.symm.mem_iff
  ext entry
  rw [longestMatch_congr member,
    find?_eq_some_iff_of_unique unique,
    find?_eq_some_iff_of_unique fun p pListed q qListed =>
      unique p ((member p).mp pListed) q ((member q).mp qListed), member]

end Longest

end PrefixTable
