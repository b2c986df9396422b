import CnpProtocol.Library.Run
import Mathlib.Order.WellFounded

/-!
# Fair schedules

An infinite schedule gives a run for every number of labels. If every label either leaves the
rank of the state as it is or takes it down in a well-founded order, and labels that take it
down come again and again until something holds, then that holds at some point.
-/

namespace Run

variable {σ ε : Type*}

/-- The first `n` labels of an infinite schedule. -/
def firstTurns (schedule : Nat → ε) (n : Nat) : List ε := (List.range n).map schedule

theorem firstTurns_succ (schedule : Nat → ε) (n : Nat) :
    firstTurns schedule (n + 1) = firstTurns schedule n ++ [schedule n] := by
  rw [firstTurns, List.range_succ, List.map_append]
  rfl

theorem forall_mem_firstTurns {p : ε → Prop} {schedule : Nat → ε} {n : Nat}
    (always : ∀ m, p (schedule m)) : ∀ e ∈ firstTurns schedule n, p e := by
  intro e member
  obtain ⟨m, _, rfl⟩ := List.mem_map.mp member
  exact always m

/-- Labels of a kind come again and again. -/
def Again (schedule : Nat → ε) (P : ε → Prop) : Prop := ∀ n, ∃ m, n ≤ m ∧ P (schedule m)

variable (step : σ → ε → σ)

/-- The state after `n` labels. -/
def stateAt (s : σ) (schedule : Nat → ε) (n : Nat) : σ := run step s (firstTurns schedule n)

theorem stateAt_succ (s : σ) (schedule : Nat → ε) (n : Nat) :
    stateAt step s schedule (n + 1) = step (stateAt step s schedule n) (schedule n) := by
  rw [stateAt, firstTurns_succ, run_append]
  rfl

variable {step}

/-- A schedule that never fails to bring a label that takes the rank down ends. -/
theorem ranked_ends {α : Type*} {s : σ} {schedule : Nat → ε} (rank : σ → α) (R : α → α → Prop)
    (wf : WellFounded R) (Done : σ → Prop)
    (quiet : ∀ n,
      rank (stateAt step s schedule (n + 1)) = rank (stateAt step s schedule n) ∨
      R (rank (stateAt step s schedule (n + 1))) (rank (stateAt step s schedule n)))
    (progress : ∀ n, Done (stateAt step s schedule n) ∨ ∃ P, Again schedule P ∧ ∀ m, n ≤ m →
      rank (stateAt step s schedule m) = rank (stateAt step s schedule n) → P (schedule m) →
        R (rank (stateAt step s schedule (m + 1))) (rank (stateAt step s schedule m))) :
    ∃ n, Done (stateAt step s schedule n) := by
  -- from some label on the rank does not go down any more
  obtain ⟨_, ⟨n, rfl⟩, least⟩ := wf.has_min
    (Set.range fun n => rank (stateAt step s schedule n)) ⟨_, ⟨0, rfl⟩⟩
  have later (m : Nat) (after : n ≤ m) :
      rank (stateAt step s schedule m) = rank (stateAt step s schedule n) := by
    induction m, after using Nat.le_induction with
    | base => rfl
    | succ m _ ih =>
      rcases quiet m with same | down
      · exact same.trans ih
      · rw [ih] at down
        exact absurd down (least _ ⟨m + 1, rfl⟩)
  rcases progress n with done | ⟨P, again, down⟩
  · exact ⟨n, done⟩
  · -- but such a label comes
    obtain ⟨m, after, kind⟩ := again n
    have less := down m after (later m after) kind
    rw [later m after] at less
    exact absurd less (least _ ⟨m + 1, rfl⟩)

/-- The same where the state itself goes down. -/
theorem fair_ends {s : σ} {schedule : Nat → ε} (R : σ → σ → Prop) (wf : WellFounded R)
    (Done : σ → Prop)
    (quiet : ∀ n, step (stateAt step s schedule n) (schedule n) = stateAt step s schedule n ∨
      R (step (stateAt step s schedule n) (schedule n)) (stateAt step s schedule n))
    (progress : ∀ n, Done (stateAt step s schedule n) ∨ ∃ P, Again schedule P ∧
      ∀ e, P e → R (step (stateAt step s schedule n) e) (stateAt step s schedule n)) :
    ∃ n, Done (stateAt step s schedule n) := by
  refine ranked_ends id R wf Done (fun n => ?_) (fun n => ?_)
  · rw [stateAt_succ]
    exact quiet n
  · rcases progress n with done | ⟨P, again, down⟩
    · exact Or.inl done
    · refine Or.inr ⟨P, again, fun m _ same kind => ?_⟩
      rw [stateAt_succ, show stateAt step s schedule m = stateAt step s schedule n from same]
      exact down (schedule m) kind

end Run
