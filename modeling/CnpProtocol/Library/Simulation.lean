import CnpProtocol.Library.Run
import Mathlib.Data.List.ReduceOption

/-!
# Simulation

Two systems side by side. An implementation carries out a specification when every step is
one command of the specification or none, and what is seen of the step is the reply to the
command. A system keeps secrets when a run can be freed of the steps that must not be seen,
and whoever sees the others sees the same.
-/

namespace Run

/-! ### Runs without a bad step, from the front -/

section Avoiding

variable {σ ε : Type*} (step : σ → ε → σ) (Bad : σ → ε → Prop)

theorem avoids_cons (s : σ) (e : ε) (labels : List ε) :
    Avoids step Bad s (e :: labels) ↔ ¬ Bad s e ∧ Avoids step Bad (step s e) labels := by
  constructor
  · intro avoids
    exact ⟨avoids [] e labels rfl,
      fun before e' after split => avoids (e :: before) e' after (by rw [split]; rfl)⟩
  · rintro ⟨first, rest⟩ before e' after split
    cases before with
    | nil =>
      obtain ⟨rfl, rfl⟩ := List.cons.inj split
      exact first
    | cons _ before =>
      obtain ⟨rfl, tail⟩ := List.cons.inj split
      exact rest before e' after tail

instance decidableAvoids [∀ s e, Decidable (Bad s e)] (s : σ) :
    ∀ labels : List ε, Decidable (Avoids step Bad s labels)
  | [] => .isTrue (avoids_nil step Bad s)
  | e :: labels =>
    have : Decidable (Avoids step Bad (step s e) labels) := decidableAvoids (step s e) labels
    decidable_of_iff _ (avoids_cons step Bad s e labels).symm

end Avoiding

/-! ### One command for each step -/

section Commands

variable {σ ε β γ ω : Type*} (step : σ → ε → σ) (command : σ → ε → Option γ)
  (seen : σ → ε → Option ω)

/-- The commands of a run, in order. -/
def commands (s : σ) (labels : List ε) : List γ := (outputs step command s labels).reduceOption

theorem commands_cons (s : σ) (e : ε) (labels : List ε) :
    commands step command s (e :: labels) =
      (command s e).toList ++ commands step command (step s e) labels := by
  cases found : command s e with
  | none => exact (congrArg _ (congrArg (· :: _) found)).trans (List.reduceOption_cons_of_none _)
  | some c =>
    exact (congrArg _ (congrArg (· :: _) found)).trans (List.reduceOption_cons_of_some _ _)

variable (abstract : σ → β) (exec : β → γ → β) (reply : β → γ → ω)

/-- One step carries out its command. -/
structure CarriesOut (s : σ) (e : ε) : Prop where
  state : abstract (step s e) = ((command s e).toList).foldl exec (abstract s)
  seen : seen s e = (command s e).map (reply (abstract s))

variable {step command seen abstract exec reply}

theorem CarriesOut.quiet {s : σ} {e : ε} (none : command s e = none)
    (state : abstract (step s e) = abstract s) (unseen : seen s e = Option.none) :
    CarriesOut step command seen abstract exec reply s e where
  state := by rw [none]; exact state
  seen := by rw [none]; exact unseen

theorem CarriesOut.acts {s : σ} {e : ε} {c : γ} (some : command s e = some c)
    (state : abstract (step s e) = exec (abstract s) c)
    (answered : seen s e = Option.some (reply (abstract s) c)) :
    CarriesOut step command seen abstract exec reply s e where
  state := by rw [some]; exact state
  seen := by rw [some]; exact answered

/-- A run in which every step carries out its command carries out all of them in order: it
ends where the specification ends, and shows the replies of the specification. -/
theorem carriesOut_run (I : σ → Prop) (Bad : σ → ε → Prop)
    (keeps : ∀ s e, ¬ Bad s e → I s → I (step s e))
    (carries : ∀ s e, ¬ Bad s e → I s → CarriesOut step command seen abstract exec reply s e)
    (s : σ) (initial : I s) (labels : List ε) (avoids : Avoids step Bad s labels) :
    abstract (run step s labels) = run exec (abstract s) (commands step command s labels) ∧
      commands step seen s labels =
        outputs exec reply (abstract s) (commands step command s labels) := by
  induction labels generalizing s with
  | nil => exact ⟨rfl, rfl⟩
  | cons e rest ih =>
    obtain ⟨good, later⟩ := (avoids_cons step Bad s e rest).mp avoids
    obtain ⟨state, replies⟩ := ih (step s e) (keeps s e good initial) later
    obtain ⟨here, shown⟩ := carries s e good initial
    rw [run_cons, commands_cons, commands_cons, state, replies, shown, here]
    cases command s e with
    | none => exact ⟨rfl, rfl⟩
    | some c => exact ⟨rfl, rfl⟩

end Commands

/-! ### Some steps for each step -/

/-- If every step of one system is a run of the other, so is every run. -/
theorem simulates_run {σ ε τ δ : Type*} (step : σ → ε → σ) (step' : τ → δ → τ) (R : σ → τ → Prop)
    (forward : ∀ s t e, R s t → ∃ labels, R (step s e) (run step' t labels)) (s : σ) (t : τ)
    (related : R s t) (labels : List ε) :
    ∃ labels', R (run step s labels) (run step' t labels') := by
  induction labels generalizing s t with
  | nil => exact ⟨[], related⟩
  | cons e rest ih =>
    obtain ⟨first, once⟩ := forward s t e related
    obtain ⟨later, whole⟩ := ih (step s e) (run step' t first) once
    refine ⟨first ++ later, ?_⟩
    rw [run_cons, run_append]
    exact whole

/-! ### Runs freed of hidden steps -/

section Purging

variable {σ ε ω : Type*} (step : σ → ε → σ) (Visible : σ → ε → Prop) (out : σ → ε → ω)
  [∀ s e, Decidable (Visible s e)]

/-- The run without its hidden steps; which they are depends on the states of the full run. -/
def purge : σ → List ε → List ε
  | _, [] => []
  | s, e :: rest =>
    if Visible s e then e :: purge (step s e) rest else purge (step s e) rest

/-- What the visible steps put out in the full run. -/
def view : σ → List ε → List ω
  | _, [] => []
  | s, e :: rest =>
    if Visible s e then out s e :: view (step s e) rest else view (step s e) rest

variable {step Visible out}

/-- States related by `R` look the same: a hidden step stays in the relation, and a visible
step puts out the same on both sides and stays in it. -/
structure Unwinding (step : σ → ε → σ) (Visible Bad : σ → ε → Prop) (out : σ → ε → ω)
    (R : σ → σ → Prop) : Prop where
  hidden : ∀ s t e, ¬ Bad s e → R s t → ¬ Visible s e → R (step s e) t
  state : ∀ s t e, ¬ Bad s e → R s t → Visible s e → R (step s e) (step t e)
  output : ∀ s t e, ¬ Bad s e → R s t → Visible s e → out s e = out t e

/-- Nobody who sees the visible steps can tell whether the hidden ones were made. -/
theorem Unwinding.purged {Bad : σ → ε → Prop} {R : σ → σ → Prop}
    (unwinding : Unwinding step Visible Bad out R) (s t : σ) (related : R s t) (labels : List ε)
    (avoids : Avoids step Bad s labels) :
    R (run step s labels) (run step t (purge step Visible s labels)) ∧
      view step Visible out s labels = outputs step out t (purge step Visible s labels) := by
  induction labels generalizing s t with
  | nil => exact ⟨related, rfl⟩
  | cons e rest ih =>
    obtain ⟨good, later⟩ := (avoids_cons step Bad s e rest).mp avoids
    by_cases visible : Visible s e
    · obtain ⟨states, views⟩ := ih (step s e) (step t e)
        (unwinding.state s t e good related visible) later
      rw [purge, view, if_pos visible, if_pos visible, run_cons, run_cons, outputs, views,
        unwinding.output s t e good related visible]
      exact ⟨states, rfl⟩
    · rw [purge, view, if_neg visible, if_neg visible, run_cons]
      exact ih (step s e) t (unwinding.hidden s t e good related visible) later

end Purging

end Run
