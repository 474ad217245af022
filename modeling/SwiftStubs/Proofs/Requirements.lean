import SwiftStubs.Failure
import Mathlib.Data.List.Basic
import Mathlib.Tactic.Common

/-!
# Requirements

A computation that can fail at several places is described by what it requires, in the order in
which this is looked at, and by the failure that each requirement stands for. It succeeds if
everything it requires holds, and fails for the first requirement that does not (`Requires`). What a
computation requires is put together the way the computation is.
-/

namespace SwiftStubs

/-- Something that has to hold, and the failure if it does not. -/
structure Requirement where
  holds : Prop
  otherwise : Failure

/-- The failure of the first requirement that does not hold. -/
inductive FirstBroken : List Requirement → Failure → Prop where
  | here {q : Requirement} (h : ¬ q.holds) (qs : List Requirement) :
      FirstBroken (q :: qs) q.otherwise
  | later {q : Requirement} (h : q.holds) {qs : List Requirement} {e : Failure}
      (hqs : FirstBroken qs e) :
      FirstBroken (q :: qs) e

/-! ### Broken requirements -/

theorem not_firstBroken_nil (e : Failure) :
  ¬ FirstBroken [] e
  := by
  rintro ⟨⟩

theorem FirstBroken.exists_mem {qs : List Requirement} {e : Failure} (h : FirstBroken qs e) :
  ∃ q ∈ qs, ¬ q.holds ∧ q.otherwise = e
  := by
  induction h with
  | here h qs => exact ⟨_, List.mem_cons_self, h, rfl⟩
  | later _ _ ih =>
      obtain ⟨q, hq, hbroken⟩ := ih
      exact ⟨q, List.mem_cons_of_mem _ hq, hbroken⟩

/-- Some requirement is the first that does not hold, unless all hold. -/
theorem exists_firstBroken_iff (qs : List Requirement) :
  (∃ e, FirstBroken qs e) ↔ ¬ ∀ q ∈ qs, q.holds
  := by
  constructor
  · rintro ⟨e, he⟩ hall
    obtain ⟨q, hq, hbroken, -⟩ := he.exists_mem
    apply hbroken (hall q hq)
  · intro h
    induction qs with
    | nil => simp at h
    | cons q qs ih =>
        by_cases hq : q.holds
        · obtain ⟨e, he⟩ := ih (fun hall => h (List.forall_mem_cons.mpr ⟨hq, hall⟩))
          exact ⟨e, .later hq he⟩
        · exact ⟨q.otherwise, .here hq qs⟩

theorem firstBroken_cons_of_holds {q : Requirement} (h : q.holds) (qs : List Requirement)
    (e : Failure) :
  FirstBroken (q :: qs) e ↔ FirstBroken qs e
  := by
  constructor
  · rintro (⟨hq, -⟩ | ⟨-, hqs⟩)
    · exact absurd h hq
    · exact hqs
  · exact .later h

theorem firstBroken_cons_of_not_holds {q : Requirement} (h : ¬ q.holds) (qs : List Requirement)
    (e : Failure) :
  FirstBroken (q :: qs) e ↔ e = q.otherwise
  := by
  constructor
  · rintro (⟨-, -⟩ | ⟨hq, -⟩)
    · rfl
    · exact absurd hq h
  · rintro rfl
    exact .here h qs

theorem firstBroken_append_iff (qs qs' : List Requirement) (e : Failure) :
  FirstBroken (qs ++ qs') e ↔ FirstBroken qs e ∨ ((∀ q ∈ qs, q.holds) ∧ FirstBroken qs' e)
  := by
  induction qs with
  | nil => simp [not_firstBroken_nil]
  | cons q qs ih =>
      rw [List.cons_append, List.forall_mem_cons]
      by_cases hq : q.holds
      · rw [firstBroken_cons_of_holds hq, firstBroken_cons_of_holds hq, ih]
        simp [hq]
      · rw [firstBroken_cons_of_not_holds hq, firstBroken_cons_of_not_holds hq]
        simp [hq]

/-- Requirements that hold need not be looked at. -/
theorem firstBroken_append_of_holds {qs : List Requirement} (h : ∀ q ∈ qs, q.holds)
    (qs' : List Requirement) (e : Failure) :
  FirstBroken (qs ++ qs') e ↔ FirstBroken qs' e
  := by
  rw [firstBroken_append_iff]
  constructor
  · rintro (hqs | ⟨-, hqs'⟩)
    · exact absurd h ((exists_firstBroken_iff qs).mp ⟨e, hqs⟩)
    · exact hqs'
  · exact fun hqs' => .inr ⟨h, hqs'⟩

/-! ### What computations require -/

/-- A computation fails exactly with the failure of the first requirement that does not hold. -/
def Requires {α : Type} (x : Except Failure α) (qs : List Requirement) : Prop :=
  ∀ e, x = .error e ↔ FirstBroken qs e

variable {α β : Type}

theorem requires_ok (a : α) :
  Requires (.ok a) []
  := by
  intro e
  simp [not_firstBroken_nil]

/-- A computation that can fail in one way only. -/
theorem requires_single {x : Except Failure α} {P : Prop} {e : Failure}
    (hok : (∃ a, x = .ok a) ↔ P) (herror : ∀ d, x = .error d → d = e) :
  Requires x [⟨P, e⟩]
  := by
  intro d
  cases x with
  | ok a =>
      rw [firstBroken_cons_of_holds (hok.mp ⟨a, rfl⟩)]
      simp [not_firstBroken_nil]
  | error d' =>
      obtain rfl := herror d' rfl
      have hP : ¬ P := by
        rw [← hok]
        rintro ⟨a, ⟨⟩⟩
      rw [firstBroken_cons_of_not_holds hP]
      simp [eq_comm]

/-- A computation that fails at once unless something holds. -/
theorem requires_guard {P : Prop} [Decidable P] (e : Failure) {x : Except Failure α}
    {qs : List Requirement} (h : Requires x qs) :
  Requires (if P then .error e else x) (⟨¬ P, e⟩ :: qs)
  := by
  intro d
  by_cases hP : P
  · rw [if_pos hP, firstBroken_cons_of_not_holds (not_not.mpr hP)]
    simp [eq_comm]
  · rw [if_neg hP, firstBroken_cons_of_holds hP, h d]

namespace Requires

variable {x : Except Failure α} {qs qs' : List Requirement}

/-- A computation succeeds if everything it requires holds. -/
theorem exists_eq_ok_iff (h : Requires x qs) :
  (∃ a, x = .ok a) ↔ ∀ q ∈ qs, q.holds
  := by
  rw [← not_iff_not, ← exists_firstBroken_iff]
  cases x with
  | ok a => simp [← h _]
  | error e => simpa using ⟨e, (h e).mp rfl⟩

theorem congr (h : Requires x qs) (hqs : ∀ e, FirstBroken qs e ↔ FirstBroken qs' e) :
  Requires x qs'
  := fun e => (h e).trans (hqs e)

/-- Of two computations, one requires what it requires after the other. -/
theorem bind {f : α → Except Failure β} (h : Requires x qs)
    (hf : ∀ a, x = .ok a → Requires (f a) qs') :
  Requires (x >>= f) (qs ++ qs')
  := by
  intro e
  rw [firstBroken_append_iff, ← h e, ← h.exists_eq_ok_iff]
  cases x with
  | error d => simp [Bind.bind, Except.bind]
  | ok a =>
      rw [← hf a rfl e]
      simp [Bind.bind, Except.bind]

/-- Making something of a result requires nothing more. -/
theorem bind_ok (h : Requires x qs) (f : α → β) :
  Requires (x >>= fun a => .ok (f a)) qs
  := by
  rw [← List.append_nil qs]
  exact h.bind (fun a _ => requires_ok (f a))

theorem mapM {f : α → Except Failure β} {g : α → List Requirement} {xs : List α}
    (h : ∀ x ∈ xs, Requires (f x) (g x)) :
  Requires (xs.mapM f) (xs.flatMap g)
  := by
  induction xs with
  | nil => exact requires_ok []
  | cons x xs ih =>
      rw [List.forall_mem_cons] at h
      rw [List.mapM_cons, List.flatMap_cons]
      apply h.1.bind
      intro y _
      apply (ih h.2).bind_ok

end Requires

/-- What is required behind a computation that succeeds. -/
def behind {ε : Type} (x : Except ε α) (g : α → List Requirement) : List Requirement :=
  match x with
  | .ok a => g a
  | .error _ => []

/-- Of two computations, the second may require something about the result of the first. -/
theorem Requires.bind_behind {x : Except Failure α} {qs : List Requirement}
    {f : α → Except Failure β} {g : α → List Requirement} (h : Requires x qs)
    (hf : ∀ a, Requires (f a) (g a)) :
  Requires (x >>= f) (qs ++ behind x g)
  := by
  apply h.bind
  rintro a rfl
  apply hf

/-- The requirement that a computation succeeds. -/
def succeeds (x : Except Failure α) : List Requirement :=
  match x with
  | .ok _ => []
  | .error e => [⟨False, e⟩]

theorem requires_succeeds (x : Except Failure α) :
  Requires x (succeeds x)
  := by
  cases x with
  | ok a => exact requires_ok a
  | error e =>
      apply requires_single
      · simp
      · rintro d ⟨⟩
        rfl

/-! ### Problems -/

/-- Of these requirements, only those can be broken whose failures are problems. -/
def OnlyProblems (qs : List Requirement) : Prop :=
  ∀ q ∈ qs, ∀ b, q.otherwise = .breakdown b → q.holds

namespace OnlyProblems

variable {qs qs' : List Requirement}

theorem not_firstBroken (h : OnlyProblems qs) (b : Breakdown) :
  ¬ FirstBroken qs (.breakdown b)
  := by
  intro hbroken
  obtain ⟨q, hq, hnot, hb⟩ := hbroken.exists_mem
  apply hnot (h q hq b hb)

theorem nil :
  OnlyProblems []
  := by
  intro q hq
  cases hq

theorem cons {q : Requirement} (hq : ∀ b, q.otherwise = .breakdown b → q.holds)
    (h : OnlyProblems qs) :
  OnlyProblems (q :: qs)
  := by
  rw [OnlyProblems, List.forall_mem_cons]
  exact ⟨hq, h⟩

theorem append (h : OnlyProblems qs) (h' : OnlyProblems qs') :
  OnlyProblems (qs ++ qs')
  := by
  rw [OnlyProblems, List.forall_mem_append]
  exact ⟨h, h'⟩

theorem flatMap {g : α → List Requirement} {xs : List α} (h : ∀ x ∈ xs, OnlyProblems (g x)) :
  OnlyProblems (xs.flatMap g)
  := by
  rw [OnlyProblems, List.forall_mem_flatMap]
  exact h

theorem behind {ε : Type} {x : Except ε α} {g : α → List Requirement}
    (h : ∀ a, x = .ok a → OnlyProblems (g a)) :
  OnlyProblems (behind x g)
  := by
  cases x with
  | ok a => exact h a rfl
  | error e => exact nil

theorem succeeds {ε : Type} {f : ε → Failure} (hf : ∀ e b, f e ≠ .breakdown b)
    (x : Except ε α) :
  OnlyProblems (succeeds (mapError f x))
  := by
  cases x with
  | ok a => exact nil
  | error e =>
      apply cons _ nil
      intro b hb
      exact absurd hb (hf e b)

end OnlyProblems

end SwiftStubs
