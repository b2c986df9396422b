import Mathlib.Algebra.BigOperators.Group.Finset.Basic
import Mathlib.Data.Fintype.Basic
import Mathlib.Logic.Function.Basic

/-!
# Runs and interleavings

A deterministic system is a step function `σ → ε → σ`; a run folds it over a list of
labels. An interleaving is the special case in which a label names one of several threads
and the step changes the shared state and the local state of that thread only.
-/

namespace Run

section Runs

variable {σ ε ω : Type*} (step : σ → ε → σ)

def run (s : σ) (labels : List ε) : σ := labels.foldl step s

@[simp] theorem run_nil (s : σ) : run step s [] = s := rfl

@[simp] theorem run_cons (s : σ) (e : ε) (labels : List ε) :
    run step s (e :: labels) = run step (step s e) labels := rfl

theorem run_append (s : σ) (first second : List ε) :
    run step s (first ++ second) = run step (run step s first) second :=
  List.foldl_append

/-- A property of the start that every step with an admitted label keeps holds after
every run over admitted labels. -/
theorem invariant (I : σ → Prop) (admitted : ε → Prop)
    (preserved : ∀ s e, admitted e → I s → I (step s e))
    (s : σ) (initial : I s) (labels : List ε) (all : ∀ e ∈ labels, admitted e) :
    I (run step s labels) := by
  induction labels generalizing s with
  | nil => exact initial
  | cons e rest ih =>
    exact ih (step s e) (preserved s e (all e (by simp)) initial)
      (fun e' member => all e' (List.mem_cons_of_mem _ member))

/-- A reflexive and transitive relation that every step respects relates the two ends of
a run. -/
theorem relation (R : σ → σ → Prop) (refl : ∀ s, R s s)
    (trans : ∀ s t u, R s t → R t u → R s u) (steps : ∀ s e, R s (step s e))
    (s : σ) (labels : List ε) : R s (run step s labels) := by
  induction labels generalizing s with
  | nil => exact refl s
  | cons e rest ih => exact trans _ _ _ (steps s e) (ih (step s e))

/-! ### What a run puts out -/

variable (out : σ → ε → ω)

/-- The outputs of a run, in order. -/
def outputs : σ → List ε → List ω
  | _, [] => []
  | s, e :: rest => out s e :: outputs (step s e) rest

theorem outputs_append (s : σ) (first second : List ε) :
    outputs step out s (first ++ second) =
      outputs step out s first ++ outputs step out (run step s first) second := by
  induction first generalizing s with
  | nil => rfl
  | cons e rest ih => simp only [List.cons_append, outputs, run_cons, ih]

/-- An invariant over the outputs so far and the state. -/
theorem history_invariant (I : List ω → σ → Prop) (admitted : ε → Prop)
    (preserved : ∀ past s e, admitted e → I past s → I (past ++ [out s e]) (step s e))
    (s : σ) (initial : I [] s) (labels : List ε) (all : ∀ e ∈ labels, admitted e) :
    I (outputs step out s labels) (run step s labels) := by
  induction labels using List.reverseRecOn with
  | nil => exact initial
  | append_singleton labels e ih =>
    rw [outputs_append, run_append]
    exact preserved _ _ e (all e (by simp))
      (ih fun e' member => all e' (List.mem_append_left _ member))

end Runs

/-! ### Pasts -/

/-- There was a `P`, and after it every event is a `Q`. -/
def Since {ε : Type*} (P Q : ε → Prop) (past : List ε) : Prop :=
  ∃ before e after, past = before ++ e :: after ∧ P e ∧ ∀ e' ∈ after, Q e'

theorem not_since_nil {ε : Type*} (P Q : ε → Prop) : ¬ Since P Q [] := by
  rintro ⟨before, e, after, split, _⟩
  simp at split

theorem since_concat {ε : Type*} (P Q : ε → Prop) (past : List ε) (e : ε) :
    Since P Q (past ++ [e]) ↔ P e ∨ (Since P Q past ∧ Q e) := by
  constructor
  · rintro ⟨before, e', after, split, holds, later⟩
    rcases List.eq_nil_or_concat after with rfl | ⟨after, last, rfl⟩
    · -- the last event is the `P`
      obtain ⟨_, same⟩ := List.append_inj' split rfl
      exact Or.inl (List.singleton_inj.mp same ▸ holds)
    · -- the last event comes after the `P`
      rw [List.concat_eq_append, ← List.cons_append, ← List.append_assoc] at split
      obtain ⟨rfl, same⟩ := List.append_inj' split rfl
      obtain rfl := List.singleton_inj.mp same
      rw [List.concat_eq_append] at later
      exact Or.inr ⟨⟨before, e', after, rfl, holds, fun e'' member => later e'' (by simp [member])⟩,
        later e (by simp)⟩
  · rintro (holds | ⟨⟨before, e', after, rfl, holds, later⟩, last⟩)
    · exact ⟨past, e, [], rfl, holds, by simp⟩
    · refine ⟨before, e', after ++ [e], by simp, holds, fun e'' member => ?_⟩
      rcases List.mem_append.mp member with old | new
      · exact later e'' old
      · exact List.mem_singleton.mp new ▸ last

/-- If there was a value since, there was a last one. -/
theorem since_last {ε α : Type*} (value? : ε → Option α) (Q : ε → Prop) (past : List ε) :
    Since (fun e => (value? e).isSome = true) Q past ↔
      ∃ v, Since (fun e => value? e = some v) (fun e => Q e ∧ value? e = none) past := by
  induction past using List.reverseRecOn with
  | nil => simp [not_since_nil]
  | append_singleton past e ih =>
    simp only [since_concat, ih]
    cases found : value? e with
    | none => simp
    | some v => simp

/-! ### Runs without a bad step -/

section Avoiding

variable {σ ε : Type*} (step : σ → ε → σ) (Bad : σ → ε → Prop)

/-- No label of the run is bad in the state in which it is taken. -/
def Avoids (s : σ) (labels : List ε) : Prop :=
  ∀ before e after, labels = before ++ e :: after → ¬ Bad (run step s before) e

theorem avoids_nil (s : σ) : Avoids step Bad s [] := by
  intro before e after split
  simp at split

/-- A run can be checked label by label. -/
theorem avoids_of_getElem? {s : σ} {labels : List ε}
    (good : ∀ k e, labels[k]? = some e → ¬ Bad (run step s (labels.take k)) e) :
    Avoids step Bad s labels := by
  rintro before e after rfl
  have here := good before.length e (by simp)
  rwa [List.take_left] at here

theorem Avoids.or {step : σ → ε → σ} {Bad Bad' : σ → ε → Prop} {s : σ} {labels : List ε}
    (avoids : Avoids step Bad s labels) (avoids' : Avoids step Bad' s labels) :
    Avoids step (fun s e => Bad s e ∨ Bad' s e) s labels := by
  rintro before e after split (bad | bad)
  · exact avoids before e after split bad
  · exact avoids' before e after split bad

theorem avoids_concat (s : σ) (labels : List ε) (e : ε) :
    Avoids step Bad s (labels ++ [e]) ↔
      Avoids step Bad s labels ∧ ¬ Bad (run step s labels) e := by
  constructor
  · intro avoids
    exact ⟨fun before e' after split => avoids before e' (after ++ [e]) (by simp [split]),
      avoids labels e [] rfl⟩
  · rintro ⟨avoids, last⟩ before e' after split
    rcases List.eq_nil_or_concat after with rfl | ⟨after, final, rfl⟩
    · -- the last label
      obtain ⟨rfl, same⟩ := List.append_inj' split rfl
      obtain rfl := List.singleton_inj.mp same
      exact last
    · rw [List.concat_eq_append, ← List.cons_append, ← List.append_assoc] at split
      obtain ⟨rfl, _⟩ := List.append_inj' split rfl
      exact avoids before e' after rfl

variable {step Bad}

/-- An invariant of the steps that are not bad holds at the end of a run without a bad
step; after a bad step there is a clash, and it stays. -/
theorem invariant_or_clash (I Clash : σ → Prop) (s : σ) (initial : I s)
    (keeps : ∀ s e, ¬ Bad s e → I s → I (step s e))
    (clashes : ∀ s e, Bad s e → I s → Clash (step s e))
    (stays : ∀ s e, Clash s → Clash (step s e)) (labels : List ε) :
    (Avoids step Bad s labels ∧ I (run step s labels)) ∨
      (¬ Avoids step Bad s labels ∧ Clash (run step s labels)) := by
  induction labels using List.reverseRecOn with
  | nil => exact Or.inl ⟨avoids_nil step Bad s, initial⟩
  | append_singleton labels e ih =>
    rw [avoids_concat, run_append]
    rcases ih with ⟨avoids, holds⟩ | ⟨clashed, clash⟩
    · by_cases bad : Bad (run step s labels) e
      · exact Or.inr ⟨fun h => h.2 bad, clashes _ e bad holds⟩
      · exact Or.inl ⟨⟨avoids, bad⟩, keeps _ e bad holds⟩
    · exact Or.inr ⟨fun h => clashed h.1, stays _ e clash⟩

theorem avoids_invariant (I : σ → Prop) (s : σ) (initial : I s)
    (keeps : ∀ s e, ¬ Bad s e → I s → I (step s e)) (labels : List ε)
    (avoids : Avoids step Bad s labels) : I (run step s labels) := by
  rcases invariant_or_clash I (fun _ => True) s initial keeps (fun _ _ _ _ => trivial)
    (fun _ _ _ => trivial) labels with ⟨_, holds⟩ | ⟨clashed, _⟩
  · exact holds
  · exact absurd avoids clashed

/-- A property of the invariant that the first bad step breaks holds in all states of a run
exactly when the run has no bad step. -/
theorem always_iff_avoids (I P : σ → Prop) (s : σ) (initial : I s)
    (keeps : ∀ s e, ¬ Bad s e → I s → I (step s e)) (holds : ∀ s, I s → P s)
    (breaks : ∀ s e, Bad s e → I s → ¬ P (step s e)) (labels : List ε) :
    (∀ before after, labels = before ++ after → P (run step s before)) ↔
      Avoids step Bad s labels := by
  constructor
  · induction labels using List.reverseRecOn with
    | nil => exact fun _ => avoids_nil step Bad s
    | append_singleton labels e ih =>
      intro always
      rw [avoids_concat]
      have avoids := ih fun before after split => always before (after ++ [e]) (by simp [split])
      refine ⟨avoids, fun bad => ?_⟩
      have broken := breaks _ e bad (avoids_invariant I s initial keeps labels avoids)
      have last := always (labels ++ [e]) [] (by simp)
      rw [run_append] at last
      exact broken last
  · intro avoids before after split
    refine holds _ (avoids_invariant I s initial keeps before fun before' e after' split' => ?_)
    exact avoids before' e (after' ++ after) (by simp [split, split'])

end Avoiding

/-! ### Interleavings -/

/-- Shared state and one local state for each thread. -/
structure Threads (ι σ π : Type*) where
  shared : σ
  phase : ι → π

namespace Threads

variable {ι σ π τ α : Type*} [DecidableEq ι] (act : ι → τ → σ → π → σ × π)

/-- One turn: thread `turn.1` acts with input `turn.2`. -/
def step (sys : Threads ι σ π) (turn : ι × τ) : Threads ι σ π :=
  ⟨(act turn.1 turn.2 sys.shared (sys.phase turn.1)).1,
    Function.update sys.phase turn.1 (act turn.1 turn.2 sys.shared (sys.phase turn.1)).2⟩

theorem step_phase_self (sys : Threads ι σ π) (i : ι) (t : τ) :
    (step act sys (i, t)).phase i = (act i t sys.shared (sys.phase i)).2 := by
  simp [step]

theorem step_phase_of_ne (sys : Threads ι σ π) (i j : ι) (t : τ) (other : j ≠ i) :
    (step act sys (i, t)).phase j = sys.phase j := by
  simp [step, other]

/-- A sum over all threads changes by what the acting thread contributes. -/
theorem sum_step [Fintype ι] (weight : ι → π → Nat) (sys : Threads ι σ π) (i : ι) (t : τ) :
    (∑ j, weight j ((step act sys (i, t)).phase j)) + weight i (sys.phase i) =
      (∑ j, weight j (sys.phase j)) + weight i ((step act sys (i, t)).phase i) := by
  -- split off the summand of thread `i` on both sides
  rw [← Finset.add_sum_erase _ _ (Finset.mem_univ i),
    ← Finset.add_sum_erase _ _ (Finset.mem_univ i)]
  have others : ∑ j ∈ Finset.univ.erase i, weight j ((step act sys (i, t)).phase j) =
      ∑ j ∈ Finset.univ.erase i, weight j (sys.phase j) :=
    Finset.sum_congr rfl fun j member => by
      rw [step_phase_of_ne act sys i j t (Finset.ne_of_mem_erase member)]
  omega

/-- `n` steps of one thread on the shared state. -/
def alone (f : σ → π → σ × π) : Nat → σ × π → σ × π
  | 0, p => p
  | n + 1, p => alone f n (f p.1 p.2)

/-- Turns of one thread in a row. -/
theorem run_replicate (sys : Threads ι σ π) (i : ι) (t : τ) (n : Nat) :
    run (step act) sys (List.replicate n (i, t)) =
      ⟨(alone (act i t) n (sys.shared, sys.phase i)).1,
        Function.update sys.phase i (alone (act i t) n (sys.shared, sys.phase i)).2⟩ := by
  induction n generalizing sys with
  | zero => simp [alone]
  | succ n ih =>
    rw [List.replicate_succ, run_cons, ih, step_phase_self]
    simp only [step, alone, Function.update_idem]

/-- The threads of a list take `n` turns each, one thread after the other. `J` is what a
thread needs of the shared state and leaves to the next one. -/
theorem run_rounds (t : τ) (n : Nat) (J : σ → Prop) (before after : ι → π)
    (one : ∀ i s, J s → J (alone (act i t) n (s, before i)).1 ∧
      (alone (act i t) n (s, before i)).2 = after i)
    (l : List ι) (nodup : l.Nodup) (sys : Threads ι σ π) (start : J sys.shared)
    (phases : ∀ i ∈ l, sys.phase i = before i) :
    J (run (step act) sys (l.flatMap fun i => List.replicate n (i, t))).shared ∧
      ∀ i, (run (step act) sys (l.flatMap fun i => List.replicate n (i, t))).phase i =
        if i ∈ l then after i else sys.phase i := by
  induction l generalizing sys with
  | nil => exact ⟨start, fun i => by simp⟩
  | cons first rest ih =>
    obtain ⟨fresh, tail⟩ := List.nodup_cons.mp nodup
    have result := one first sys.shared start
    rw [← phases first (by simp)] at result
    rw [List.flatMap_cons, run_append, run_replicate]
    obtain ⟨shared, phase⟩ := ih tail ⟨_, Function.update sys.phase first _⟩ result.1
      fun i member => by
        have other : i ≠ first := fun same => fresh (same ▸ member)
        simp only [Function.update_of_ne other]
        exact phases i (List.mem_cons_of_mem _ member)
    refine ⟨shared, fun i => ?_⟩
    rw [phase i]
    by_cases same : i = first
    · -- the first thread is not touched by the later rounds
      subst same
      rw [if_neg fresh, if_pos (by simp)]
      simp only [Function.update_self]
      exact result.2
    · simp only [List.mem_cons, same, false_or, Function.update_of_ne same]

/-- What the turns of thread `i` changed in the shared state, in order. -/
def changesBy (change : σ → σ → List α) (i : ι) : Threads ι σ π → List (ι × τ) → List α
  | _, [] => []
  | sys, turn :: rest =>
    (if turn.1 = i then change sys.shared (step act sys turn).shared else []) ++
      changesBy change i (step act sys turn) rest

theorem changesBy_append (change : σ → σ → List α) (i : ι) (sys : Threads ι σ π)
    (first second : List (ι × τ)) :
    changesBy act change i sys (first ++ second) =
      changesBy act change i sys first ++
        changesBy act change i (run (step act) sys first) second := by
  induction first generalizing sys with
  | nil => rfl
  | cons turn rest ih => simp only [List.cons_append, changesBy, run_cons, ih, List.append_assoc]

end Threads

end Run
