import Mathlib.Data.List.Basic

/-!
# Checked loops

A loop whose steps can fail, as a fold in `Option`.  A loop goes through when
each of its steps does, under an invariant that the steps keep, and it fails
when one of its steps fails from every state.
-/

namespace SupvanCups

section Folds


variable {State Item : Type*} {step : State → Item → Option State}

/-- A loop whose every step goes through and keeps an invariant goes through
and keeps it. -/
theorem foldlM_isSome_of_keeps {inv : State → Prop} {items : List Item}
    (keeps : ∀ item ∈ items, ∀ state, inv state →
      ∃ next, step state item = some next ∧ inv next)
    {state : State} (holds : inv state) :
    ∃ final, items.foldlM step state = some final ∧ inv final := by
  induction items generalizing state with
  | nil => exact ⟨state, rfl, holds⟩
  | cons item items ih =>
      obtain ⟨next, run, kept⟩ := keeps item (by simp) state holds
      obtain ⟨final, rest, last⟩ := ih
        (fun later member => keeps later (List.mem_cons_of_mem _ member)) kept
      exact ⟨final, by rw [List.foldlM_cons, run]; exact rest, last⟩

/-- A loop that went through kept what each of its steps keeps. -/
theorem foldlM_keeps (inv : State → Prop) {items : List Item}
    (keeps : ∀ item state next, step state item = some next → inv state →
      inv next)
    {state final : State} (run : items.foldlM step state = some final)
    (holds : inv state) : inv final := by
  induction items generalizing state with
  | nil =>
      cases run
      exact holds
  | cons item items ih =>
      rw [List.foldlM_cons] at run
      obtain ⟨next, here, rest⟩ := Option.bind_eq_some_iff.mp run
      exact ih rest (keeps item state next here holds)

/-- A loop fails if one of its steps fails from every state. -/
theorem foldlM_eq_none_of_mem {items : List Item} {item : Item}
    (member : item ∈ items) (fails : ∀ state, step state item = none)
    (state : State) : items.foldlM step state = none := by
  induction items generalizing state with
  | nil => cases member
  | cons first items ih =>
      rw [List.foldlM_cons]
      rcases List.mem_cons.mp member with rfl | later
      · rw [fails]
        rfl
      · cases step state first with
        | none => rfl
        | some next => exact ih later next

/-- A counting loop goes through if each step goes through from the invariant
at its index, and leaves the invariant at the next. -/
theorem foldlM_range_of_keeps {step : State → Nat → Option State}
    {inv : Nat → State → Prop} {count : Nat}
    (keeps : ∀ index < count, ∀ state, inv index state →
      ∃ next, step state index = some next ∧ inv (index + 1) next)
    {state : State} (holds : inv 0 state) :
    ∃ final, (List.range count).foldlM step state = some final ∧
      inv count final := by
  induction count with
  | zero => exact ⟨state, rfl, holds⟩
  | succ count ih =>
      obtain ⟨before, run, kept⟩ := ih fun index earlier =>
        keeps index (Nat.lt_succ_of_lt earlier)
      obtain ⟨final, last, done⟩ :=
        keeps count (Nat.lt_succ_self count) before kept
      refine ⟨final, ?_, done⟩
      rw [List.range_succ, List.foldlM_append, run]
      simpa using last

end Folds

end SupvanCups
