import CnpProtocol.Library.Run

/-!
# Logs

A system writes a log, and some of its entries stand for steps of a smaller system inside it.
The log replays when the inner state is where these steps lead, and every entry is right in
the state that the steps before it lead to.
-/

namespace Run

variable {σ δ ε : Type*}

/-- An entry of a log that has grown is an old one or a new one. -/
theorem split_append {log new before after : List ε} {e : ε}
    (split : log ++ new = before ++ e :: after) :
    (∃ after', log = before ++ e :: after' ∧ after = after' ++ new) ∨ e ∈ new := by
  rcases List.append_eq_append_iff.mp split with ⟨rest, _, rfl⟩ | ⟨rest, rfl, later⟩
  · exact Or.inr (by simp)
  · cases rest with
    | nil =>
      rw [List.nil_append] at later
      exact Or.inr (later ▸ List.mem_cons_self)
    | cons x rest =>
      obtain ⟨rfl, rfl⟩ := List.cons.inj later
      exact Or.inl ⟨rest, rfl, rfl⟩

theorem split_concat {log before after : List ε} {e e' : ε}
    (split : log ++ [e] = before ++ e' :: after) :
    (∃ after', log = before ++ e' :: after' ∧ after = after' ++ [e]) ∨
      (log = before ∧ e = e' ∧ after = []) := by
  rcases List.eq_nil_or_concat after with rfl | ⟨after, final, rfl⟩
  · obtain ⟨same, last⟩ := List.append_inj' split rfl
    exact Or.inr ⟨same, List.singleton_inj.mp last, rfl⟩
  · rw [List.concat_eq_append, ← List.cons_append, ← List.append_assoc] at split
    obtain ⟨earlier, last⟩ := List.append_inj' split rfl
    rw [List.concat_eq_append, List.singleton_inj.mp last]
    exact Or.inl ⟨after, earlier, rfl⟩

/-- What holds of every entry and those before it. -/
def Each (P : List ε → ε → Prop) (log : List ε) : Prop :=
  ∀ before e after, log = before ++ e :: after → P before e

theorem each_nil (P : List ε → ε → Prop) : Each P [] := by
  intro before e after split
  simp at split

theorem Each.concat {P : List ε → ε → Prop} {log : List ε} (each : Each P log) {e : ε}
    (last : P log e) : Each P (log ++ [e]) := by
  intro before e' after split
  rcases split_concat split with ⟨after, earlier, _⟩ | ⟨rfl, rfl, _⟩
  · exact each before e' after earlier
  · exact last

/-- Entries are added that satisfy it whatever is before them. -/
theorem Each.append {P : List ε → ε → Prop} {log : List ε} (each : Each P log) (new : List ε)
    (all : ∀ e ∈ new, ∀ before, P before e) : Each P (log ++ new) := by
  induction new using List.reverseRecOn with
  | nil =>
    rw [List.append_nil]
    exact each
  | append_singleton new e ih =>
    rw [← List.append_assoc]
    exact (ih fun e' member => all e' (List.mem_append_left _ member)).concat
      (all e (by simp) (log ++ new))

structure Replays (step : σ → δ → σ) (label? : ε → Option δ) (right : σ → ε → Prop) (s t : σ)
    (log : List ε) : Prop where
  state : t = run step s (log.filterMap label?)
  entries : Each (fun before e => right (run step s (before.filterMap label?)) e) log

variable {step : σ → δ → σ} {label? : ε → Option δ} {right : σ → ε → Prop} {s t t' : σ}
  {log : List ε}

theorem replays_nil : Replays step label? right s s [] where
  state := rfl
  entries := each_nil _

variable (h : Replays step label? right s t log)

include h

theorem Replays.concat (e : ε) (state : t' = run step t (label? e).toList) (entry : right t e) :
    Replays step label? right s t' (log ++ [e]) where
  state := by
    have last : [e].filterMap label? = (label? e).toList := by
      cases labelled : label? e with
      | none => simp [labelled]
      | some l => simp [labelled]
    rw [state, List.filterMap_append, run_append, ← h.state, last]
  entries := h.entries.concat (h.state ▸ entry)

/-- Entries are added that stand for no step. -/
theorem Replays.append (new : List ε)
    (quiet : ∀ e ∈ new, label? e = none ∧ ∀ s, right s e) :
    Replays step label? right s t (log ++ new) where
  state := by
    have none_ : new.filterMap label? = [] :=
      List.filterMap_eq_nil_iff.mpr fun e member => (quiet e member).1
    rw [List.filterMap_append, none_, List.append_nil]
    exact h.state
  entries := h.entries.append new fun e member _ => (quiet e member).2 _

end Run
