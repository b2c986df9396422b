import Mathlib.Data.List.Infix
import Mathlib.Data.Nat.ModEq
import Mathlib.Logic.Relation

/-!
# Ledgers

A ledger lists credits and debits in the order in which they were made. It is solvent
when no prefix pays out more than was paid in. A bank opens ledgers and appends entries,
a debit only when the ledger covers it. A machine balance holds the funds of a ledger
modulo a word size: it may show less than the funds, never more, so a check of an amount
against the machine balance is enough for solvency.
-/

inductive Entry
  | credit (amount : Nat)
  | debit (amount : Nat)
  deriving DecidableEq, Repr

namespace Ledger

/-- Everything paid in. -/
def credits : List Entry → Nat
  | [] => 0
  | .credit amount :: rest => amount + credits rest
  | .debit _ :: rest => credits rest

/-- Everything paid out. -/
def debits : List Entry → Nat
  | [] => 0
  | .credit _ :: rest => debits rest
  | .debit amount :: rest => amount + debits rest

@[simp] theorem credits_append (l k : List Entry) : credits (l ++ k) = credits l + credits k := by
  induction l with
  | nil => simp [credits]
  | cons e l ih => cases e <;> simp [credits, ih, Nat.add_assoc]

@[simp] theorem debits_append (l k : List Entry) : debits (l ++ k) = debits l + debits k := by
  induction l with
  | nil => simp [debits]
  | cons e l ih => cases e <;> simp [debits, ih, Nat.add_assoc]

def Solvent (l : List Entry) : Prop := ∀ p, p <+: l → debits p ≤ credits p

theorem solvent_nil : Solvent [] := by
  intro p inside
  rw [List.prefix_nil.mp inside]
  exact Nat.le_refl 0

theorem Solvent.append {l : List Entry} (solvent : Solvent l) (e : Entry)
    (covered : debits (l ++ [e]) ≤ credits (l ++ [e])) : Solvent (l ++ [e]) := by
  intro p inside
  rcases List.prefix_concat_iff.mp inside with rfl | old
  · exact covered
  · exact solvent p old

theorem Solvent.le {l : List Entry} (solvent : Solvent l) : debits l ≤ credits l :=
  solvent l (List.prefix_refl l)

theorem credits_perm {l k : List Entry} (perm : l.Perm k) : credits l = credits k := by
  induction perm with
  | nil => rfl
  | cons e _ ih => cases e <;> simp [credits, ih]
  | swap e f l => cases e <;> cases f <;> simp [credits, Nat.add_left_comm]
  | trans _ _ first second => exact first.trans second

theorem debits_perm {l k : List Entry} (perm : l.Perm k) : debits l = debits k := by
  induction perm with
  | nil => rfl
  | cons e _ ih => cases e <;> simp [debits, ih]
  | swap e f l => cases e <;> cases f <;> simp [debits, Nat.add_left_comm]
  | trans _ _ first second => exact first.trans second

/-! ### Banks -/

/-- The open ledgers, by customer. -/
abbrev Bank (κ : Type*) := κ → Option (List Entry)

variable {κ : Type*} [DecidableEq κ]

/-- What a bank may do to its ledgers. -/
inductive Step (b : Bank κ) : Bank κ → Prop
  | idle : Step b b
  | opened (k : κ) (unused : b k = none) : Step b (Function.update b k (some []))
  | credited (k : κ) (l : List Entry) (held : b k = some l) (amount : Nat) :
      Step b (Function.update b k (some (l ++ [.credit amount])))
  | debited (k : κ) (l : List Entry) (held : b k = some l) (amount : Nat)
      (covered : debits l + amount ≤ credits l) :
      Step b (Function.update b k (some (l ++ [.debit amount])))

def AllSolvent (b : Bank κ) : Prop := ∀ k l, b k = some l → Solvent l

omit [DecidableEq κ] in
theorem allSolvent_empty : AllSolvent (fun _ : κ => none) := by
  intro k l held
  cases held

private theorem allSolvent_update {b : Bank κ} (solvent : AllSolvent b) (k : κ) (l : List Entry)
    (updated : Solvent l) : AllSolvent (Function.update b k (some l)) := by
  intro k' l' held
  by_cases same : k' = k
  · subst same
    rw [Function.update_self, Option.some.injEq] at held
    exact held ▸ updated
  · rw [Function.update_of_ne same] at held
    exact solvent k' l' held

theorem Step.allSolvent {b b' : Bank κ} (step : Step b b') (solvent : AllSolvent b) :
    AllSolvent b' := by
  cases step with
  | idle => exact solvent
  | opened k unused => exact allSolvent_update solvent k [] solvent_nil
  | credited k l held amount =>
    -- more credit only adds to what covers the debits
    have covered := (solvent k l held).le
    exact allSolvent_update solvent k _
      ((solvent k l held).append _ (by simp [credits, debits]; omega))
  | debited k l held amount covered =>
    exact allSolvent_update solvent k _
      ((solvent k l held).append _ (by simpa [credits, debits] using covered))

/-- Every ledger of a bank that started empty is solvent. -/
theorem allSolvent_of_steps {b : Bank κ}
    (steps : Relation.ReflTransGen Step (fun _ : κ => none) b) : AllSolvent b := by
  induction steps with
  | refl => exact allSolvent_empty
  | tail _ step ih => exact step.allSolvent ih

/-! ### Machine balances -/

/-- `balance` shows the funds of `l` modulo `m`. -/
structure Shows (m balance : Nat) (l : List Entry) : Prop where
  lt : balance < m
  congr : (balance + debits l) % m = credits l % m

theorem Shows.nil {m : Nat} (positive : 0 < m) : Shows m 0 [] := ⟨positive, rfl⟩

/-- A machine balance never shows more than the funds of a solvent ledger. -/
theorem Shows.le {m balance : Nat} {l : List Entry} (machine : Shows m balance l)
    (solvent : debits l ≤ credits l) : balance + debits l ≤ credits l := by
  obtain ⟨funds, hfunds⟩ := Nat.exists_eq_add_of_le solvent
  have congr := machine.congr
  rw [hfunds, Nat.add_comm (debits l)] at congr
  have same : balance % m = funds % m := Nat.ModEq.add_right_cancel' (debits l) congr
  rw [Nat.mod_eq_of_lt machine.lt] at same
  have := Nat.mod_le funds m
  omega

theorem Shows.credit {m balance : Nat} {l : List Entry} (machine : Shows m balance l)
    (amount : Nat) : Shows m ((balance + amount) % m) (l ++ [.credit amount]) := by
  refine ⟨Nat.mod_lt _ (Nat.zero_lt_of_lt machine.lt), ?_⟩
  have moved : balance + amount + debits l = balance + debits l + amount := by omega
  simp only [debits_append, credits_append, debits, credits, Nat.add_zero]
  rw [Nat.mod_add_mod, moved, Nat.add_mod, machine.congr, ← Nat.add_mod]

theorem Shows.debit {m balance : Nat} {l : List Entry} (machine : Shows m balance l)
    (amount : Nat) (covered : amount ≤ balance) :
    Shows m (balance - amount) (l ++ [.debit amount]) := by
  refine ⟨lt_of_le_of_lt (Nat.sub_le _ _) machine.lt, ?_⟩
  have moved : balance - amount + (debits l + amount) = balance + debits l := by omega
  simp only [debits_append, credits_append, debits, credits, Nat.add_zero]
  rw [moved, machine.congr]

/-- Without a check the balance wraps around. -/
theorem Shows.debit_wrap {m balance : Nat} {l : List Entry} (machine : Shows m balance l)
    (amount : Nat) (small : amount ≤ m) :
    Shows m ((m - amount + balance) % m) (l ++ [.debit amount]) := by
  refine ⟨Nat.mod_lt _ (Nat.zero_lt_of_lt machine.lt), ?_⟩
  have moved : m - amount + balance + (debits l + amount) = m + (balance + debits l) := by omega
  simp only [debits_append, credits_append, debits, credits, Nat.add_zero]
  rw [Nat.mod_add_mod, moved, Nat.add_mod_left, machine.congr]

/-- The order of the entries does not matter to a balance. -/
theorem Shows.perm {m balance : Nat} {l k : List Entry} (machine : Shows m balance l)
    (perm : l.Perm k) : Shows m balance k :=
  ⟨machine.lt, by rw [← debits_perm perm, ← credits_perm perm, machine.congr]⟩

end Ledger
