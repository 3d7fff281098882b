import Mathlib.Data.List.Forall2
import Rulefold.Checked

/-!
# Loops that do not fail

A loop has a result if each of its steps has one, and it is the result of the loop without checks.
-/

namespace Rulefold

theorem Checked.ok_bind {α β ε : Type} (result : α) (next : α → Except ε β) :
    (Except.ok result >>= next) = next result := rfl

theorem mapM_eq_ok_iff {α β ε : Type} {step : α → Except ε β} {inputs : List α}
    {outputs : List β} : inputs.mapM step = .ok outputs ↔
      List.Forall₂ (fun input output => step input = .ok output) inputs outputs := by
  induction inputs generalizing outputs with
  | nil => simp [pure, Except.pure, eq_comm]
  | cons input rest ih =>
      rw [List.mapM_cons, List.forall₂_cons_left_iff]
      cases head : step input with
      | error failure => simp [bind, Except.bind]
      | ok output =>
          cases tail : rest.mapM step with
          | error failure =>
              simp only [bind, Except.bind, reduceCtorEq, false_iff, not_exists, not_and]
              intro other others _ related
              rw [← ih, tail] at related
              cases related
          | ok others => simp [bind, Except.bind, pure, Except.pure, ← ih, tail, eq_comm]

section Loops

variable {α β ε : Type} {inputs : List α}

theorem mapM_eq_ok_map {step : α → Except ε β} {result : α → β}
    (steps : ∀ input ∈ inputs, step input = .ok (result input)) :
    inputs.mapM step = .ok (inputs.map result) := by
  rw [mapM_eq_ok_iff, List.forall₂_map_right_iff, List.forall₂_same]
  exact steps

theorem filterMapM_eq_ok_filterMap {step : α → Except ε (Option β)} {result : α → Option β}
    (steps : ∀ input ∈ inputs, step input = .ok (result input)) :
    inputs.filterMapM step = .ok (inputs.filterMap result) := by
  induction inputs with
  | nil => rfl
  | cons input rest ih =>
      rw [List.forall_mem_cons] at steps
      rw [List.filterMapM_cons, steps.1, ih steps.2]
      cases found : result input <;>
        simp [found, bind, Except.bind, pure, Except.pure]

theorem foldlM_eq_ok_foldl {step : β → α → Except ε β} {result : β → α → β}
    (steps : ∀ input ∈ inputs, ∀ state, step state input = .ok (result state input))
    (state : β) : inputs.foldlM step state = .ok (inputs.foldl result state) := by
  induction inputs generalizing state with
  | nil => rfl
  | cons input rest ih =>
      rw [List.forall_mem_cons] at steps
      rw [List.foldlM_cons, steps.1, List.foldl_cons]
      exact ih steps.2 _

theorem anyM_eq_ok_any {step : α → Except ε Bool} {result : α → Bool}
    (steps : ∀ input ∈ inputs, step input = .ok (result input)) :
    inputs.anyM step = .ok (inputs.any result) := by
  induction inputs with
  | nil => rfl
  | cons input rest ih =>
      rw [List.forall_mem_cons] at steps
      rw [List.anyM_cons, steps.1, ih steps.2, List.any_cons]
      cases result input <;> rfl

theorem allM_eq_ok_all {step : α → Except ε Bool} {result : α → Bool}
    (steps : ∀ input ∈ inputs, step input = .ok (result input)) :
    inputs.allM step = .ok (inputs.all result) := by
  induction inputs with
  | nil => rfl
  | cons input rest ih =>
      rw [List.forall_mem_cons] at steps
      rw [List.allM_cons, steps.1, ih steps.2, List.all_cons]
      cases result input <;> rfl

end Loops

end Rulefold
