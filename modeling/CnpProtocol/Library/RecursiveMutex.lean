import Mathlib.Logic.Basic

/-!
# Recursive mutexes

A mutex that is free or belongs to one thread, which can take it again and has to release it
as often. A thread that asks for the mutex of another one waits.
-/

/-- Free, or held by an owner, who took it `again` more times. -/
inductive RecursiveMutex (ι : Type*)
  | free
  | held (owner : ι) (again : Nat)
  deriving DecidableEq

namespace RecursiveMutex

variable {ι : Type*} [DecidableEq ι]

/-- `none` while another thread holds the mutex. -/
def lock (i : ι) : RecursiveMutex ι → Option (RecursiveMutex ι)
  | free => some (held i 0)
  | held owner again => if owner = i then some (held owner (again + 1)) else none

/-- The owner gives one hold back; the mutex of another thread stays as it is. -/
def unlock (i : ι) : RecursiveMutex ι → RecursiveMutex ι
  | free => free
  | held owner 0 => if owner = i then free else held owner 0
  | held owner (again + 1) => if owner = i then held owner again else held owner (again + 1)

@[simp] theorem lock_free (i : ι) : lock i free = some (held i 0) := rfl

@[simp] theorem lock_held_self (i : ι) (again : Nat) :
    lock i (held i again) = some (held i (again + 1)) := by
  rw [lock, if_pos rfl]

theorem lock_held_of_ne {owner i : ι} (other : owner ≠ i) (again : Nat) :
    lock i (held owner again) = none := by
  rw [lock, if_neg other]

/-- A thread gets the mutex while it is free or its own. -/
theorem lock_isSome_iff (m : RecursiveMutex ι) (i : ι) :
    (lock i m).isSome = true ↔ m = free ∨ ∃ again, m = held i again := by
  cases m with
  | free => simp
  | held owner again =>
    by_cases own : owner = i
    · subst own
      simp
    · simp [lock_held_of_ne own, own]

/-- A hold that is given back leaves no trace. -/
theorem unlock_of_lock {m m' : RecursiveMutex ι} {i : ι} (locked : lock i m = some m') :
    unlock i m' = m := by
  cases m with
  | free =>
    cases locked
    rw [unlock, if_pos rfl]
  | held owner again =>
    by_cases own : owner = i
    · subst own
      rw [lock_held_self, Option.some.injEq] at locked
      subst locked
      rw [unlock, if_pos rfl]
    · rw [lock_held_of_ne own] at locked
      cases locked

end RecursiveMutex
