import Mathlib.Data.Finset.Basic
import Mathlib.Logic.Function.Basic

/-!
# Owned handles

Handles are given out by a system and given back to it; the system may give out a handle
again that was given back. Owners hold a handle at most. As long as a new handle is none of
those that are open and an owner forgets the handle it gives back, every open handle has
exactly one owner.
-/

namespace Handles

variable {ι η : Type*}

/-- The open handles are those that are held, each by one owner. -/
structure Owned (holds : ι → Option η) (opened : Finset η) : Prop where
  unique : ∀ i j h, holds i = some h → holds j = some h → i = j
  mem_iff : ∀ h, h ∈ opened ↔ ∃ i, holds i = some h

theorem owned_empty : Owned (fun _ : ι => (none : Option η)) ∅ where
  unique := fun _ _ _ held => (by cases held)
  mem_iff := fun h => by simp

/-- Nothing is open when nothing is held. -/
theorem Owned.eq_empty {holds : ι → Option η} {opened : Finset η} (owned : Owned holds opened)
    (nothing : ∀ i, holds i = none) : opened = ∅ := by
  refine Finset.eq_empty_of_forall_notMem fun h member => ?_
  obtain ⟨i, held⟩ := (owned.mem_iff h).mp member
  rw [nothing i] at held
  cases held

variable [DecidableEq η]

/-- What is open when an owner has given back what it holds. -/
def close (opened : Finset η) : Option η → Finset η
  | some h => opened.erase h
  | none => opened

theorem mem_close_iff (opened : Finset η) (held : Option η) (g : η) :
    g ∈ close opened held ↔ held ≠ some g ∧ g ∈ opened := by
  cases held with
  | none => simp [close]
  | some h => simp [close, eq_comm]

variable [DecidableEq ι] {holds : ι → Option η} {opened : Finset η} (owned : Owned holds opened)

omit [DecidableEq η] in
theorem update_some_iff {i : ι} (free : holds i = none) (h g : η) (j : ι) :
    Function.update holds i (some h) j = some g ↔ (j = i ∧ h = g) ∨ holds j = some g := by
  rw [Function.update_apply]
  split
  next same => simp [same, free]
  next other => simp [other]

omit [DecidableEq η] in
theorem update_none_iff (i j : ι) (g : η) :
    Function.update holds i none j = some g ↔ j ≠ i ∧ holds j = some g := by
  rw [Function.update_apply]
  split
  next same => simp [same]
  next other => simp [other]

include owned

theorem Owned.grant {i : ι} (free : holds i = none) {h : η} (fresh : h ∉ opened) :
    Owned (Function.update holds i (some h)) (insert h opened) where
  unique := by
    have other (j : ι) (held : holds j = some h) : False :=
      fresh ((owned.mem_iff h).mpr ⟨j, held⟩)
    intro j k g first second
    rw [update_some_iff free] at first second
    rcases first with ⟨rfl, rfl⟩ | first
    · rcases second with ⟨rfl, _⟩ | second
      · rfl
      · exact (other k second).elim
    · rcases second with ⟨rfl, rfl⟩ | second
      · exact (other j first).elim
      · exact owned.unique j k g first second
  mem_iff := by
    intro g
    rw [Finset.mem_insert, owned.mem_iff]
    constructor
    · rintro (rfl | ⟨j, held⟩)
      · exact ⟨i, (update_some_iff free g g i).mpr (Or.inl ⟨rfl, rfl⟩)⟩
      · exact ⟨j, (update_some_iff free h g j).mpr (Or.inr held)⟩
    · rintro ⟨j, held⟩
      rcases (update_some_iff free h g j).mp held with ⟨_, same⟩ | held
      · exact Or.inl same.symm
      · exact Or.inr ⟨j, held⟩

theorem Owned.close (i : ι) :
    Owned (Function.update holds i none) (Handles.close opened (holds i)) where
  unique := by
    intro j k g first second
    rw [update_none_iff] at first second
    exact owned.unique j k g first.2 second.2
  mem_iff := by
    intro g
    rw [mem_close_iff, owned.mem_iff]
    constructor
    · rintro ⟨other, j, held⟩
      refine ⟨j, (update_none_iff i j g).mpr ⟨?_, held⟩⟩
      rintro rfl
      exact other held
    · rintro ⟨j, held⟩
      obtain ⟨other, held⟩ := (update_none_iff i j g).mp held
      refine ⟨fun gives => ?_, j, held⟩
      -- the handle that was given back had no other owner
      exact other (owned.unique j i g held gives)

end Handles
