import Highlighting.Error
import Mathlib.Data.List.Forall2

/-!
# Computations that may fail

A sequence of computations succeeds where each of them does, and fails where the first one fails
that does not.

## Main definitions

* `Succeeds` -- a computation has a result.
-/
namespace Highlighting

/-! ## Results and failures of a sequence -/

/-- A sequence of computations succeeds where both do. -/
theorem bind_eq_ok_iff {α β : Type} {x : Except Failure α} {f : α → Except Failure β} {b : β} :
    (x >>= f) = .ok b ↔ ∃ a, x = .ok a ∧ f a = .ok b := by
  cases x with
  | ok a => simp [bind, Except.bind]
  | error e => simp [bind, Except.bind]

theorem forall₂_of_mapM {α β : Type} {f : α → Except Failure β} {xs : List α} {ys : List β}
    (h : xs.mapM f = .ok ys) : List.Forall₂ (fun x y => f x = .ok y) xs ys := by
  induction xs generalizing ys with
  | nil =>
    cases h
    exact .nil
  | cons x xs ih =>
    rw [List.mapM_cons] at h
    obtain ⟨y, hy, h⟩ := bind_eq_ok_iff.mp h
    obtain ⟨ys', hys, h⟩ := bind_eq_ok_iff.mp h
    cases h
    exact .cons hy (ih hys)

theorem bind_eq_error_iff {α β ε : Type} {x : Except ε α} {f : α → Except ε β} {e : ε} :
    (x >>= f) = .error e ↔ x = .error e ∨ ∃ a, x = .ok a ∧ f a = .error e := by
  cases x with
  | ok a => simp [bind, Except.bind]
  | error e' => simp [bind, Except.bind]

theorem exists_of_mapM_eq_error {α β : Type} {f : α → Except Failure β} {xs : List α} {e : Failure}
    (h : xs.mapM f = .error e) : ∃ x ∈ xs, f x = .error e := by
  induction xs with
  | nil => cases h
  | cons x xs ih =>
    rw [List.mapM_cons] at h
    rcases bind_eq_error_iff.mp h with hx | ⟨y, -, h⟩
    · exact ⟨x, List.mem_cons_self, hx⟩
    · rcases bind_eq_error_iff.mp h with hxs | ⟨ys, -, h⟩
      · obtain ⟨x', hx', hfail⟩ := ih hxs
        exact ⟨x', List.mem_cons_of_mem _ hx', hfail⟩
      · cases h

theorem map_eq_ok_iff {α β ε : Type} {x : Except ε α} {f : α → β} {b : β} :
    x.map f = .ok b ↔ ∃ a, x = .ok a ∧ f a = b := by
  cases x <;> simp [Except.map]

theorem map_eq_error_iff {α β ε : Type} {x : Except ε α} {f : α → β} {e : ε} :
    x.map f = .error e ↔ x = .error e := by
  cases x <;> simp [Except.map]

/-! ## Success -/

/-- The computation has a result. -/
def Succeeds {α : Type} (x : Except Failure α) : Prop := ∃ a, x = .ok a

instance {α : Type} : (x : Except Failure α) → Decidable (Succeeds x)
  | .ok a => isTrue ⟨a, rfl⟩
  | .error _ => isFalse nofun

theorem succeeds_ok {α : Type} (a : α) : Succeeds (.ok a : Except Failure α) := ⟨a, rfl⟩

@[simp] theorem not_succeeds_error {α : Type} (e : Failure) :
    ¬ Succeeds (.error e : Except Failure α) := by
  rintro ⟨a, h⟩
  cases h

theorem succeeds_bind_iff {α β : Type} {x : Except Failure α} {f : α → Except Failure β} :
    Succeeds (x >>= f) ↔ ∃ a, x = .ok a ∧ Succeeds (f a) := by
  constructor
  · rintro ⟨b, hb⟩
    obtain ⟨a, ha, hb⟩ := bind_eq_ok_iff.mp hb
    exact ⟨a, ha, b, hb⟩
  · rintro ⟨a, ha, b, hb⟩
    exact ⟨b, bind_eq_ok_iff.mpr ⟨a, ha, hb⟩⟩

/-- A check in front of a computation. -/
theorem succeeds_check_iff {β : Type} {x : Except Failure Unit} {f : Unit → Except Failure β} :
    Succeeds (x >>= f) ↔ x = .ok () ∧ Succeeds (f ()) := by
  rw [succeeds_bind_iff]
  constructor
  · rintro ⟨⟨⟩, h⟩
    exact h
  · intro h
    exact ⟨(), h⟩

/-- A computation whose result does not matter to whether the rest succeeds. -/
theorem succeeds_bind_const_iff {α β : Type} {x : Except Failure α} {f : α → Except Failure β}
    {p : Prop} (hf : ∀ a, x = .ok a → (Succeeds (f a) ↔ p)) :
    Succeeds (x >>= f) ↔ Succeeds x ∧ p := by
  rw [succeeds_bind_iff]
  constructor
  · rintro ⟨a, ha, h⟩
    exact ⟨⟨a, ha⟩, (hf a ha).mp h⟩
  · rintro ⟨⟨a, ha⟩, h⟩
    exact ⟨a, ha, (hf a ha).mpr h⟩

theorem succeeds_map_iff {α β : Type} {x : Except Failure α} {f : α → β} :
    Succeeds (x.map f) ↔ Succeeds x := by
  cases x with
  | ok a => simp [Succeeds, Except.map]
  | error e => simp [Except.map]

theorem succeeds_mapM_iff {α β : Type} {f : α → Except Failure β} {xs : List α} :
    Succeeds (xs.mapM f) ↔ ∀ x ∈ xs, Succeeds (f x) := by
  induction xs with
  | nil =>
    constructor
    · intro _ x hx
      exact absurd hx List.not_mem_nil
    · intro _
      exact ⟨[], rfl⟩
  | cons x xs ih =>
    rw [List.mapM_cons, succeeds_bind_const_iff, List.forall_mem_cons]
    intro y _
    rw [← ih, succeeds_bind_const_iff (p := True)]
    · simp
    · intro ys _
      simp [Succeeds, pure, Except.pure]

end Highlighting
