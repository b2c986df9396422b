import Mathlib.Data.List.Pairwise
import Mathlib.Order.Lattice

/-!
# Cursors

A list sorted by a key is read in pages: a query names the key to start from, and the next
one starts behind the last key of its page. What was read is the part of the list before
the cursor, also when the list grows at its end in between.
-/

namespace Cursor

variable {α κ : Type*} [LinearOrder κ] (key : α → κ)

/-- What the pages before a cursor have shown. -/
def before (start : κ) (l : List α) : List α := l.filter fun a => key a < start

/-- What is left to read. -/
def rest (start : κ) (l : List α) : List α := l.filter fun a => start ≤ key a

def page (size : Nat) (start : κ) (l : List α) : List α := (rest key start l).take size

/-- The keys increase strictly. -/
def Sorted (l : List α) : Prop := l.Pairwise fun a b => key a < key b

variable {key} {l : List α}

theorem mem_of_mem_page {size : Nat} {start : κ} {a : α} (member : a ∈ page key size start l) :
    a ∈ l :=
  (List.mem_filter.mp (List.mem_of_mem_take member)).1

theorem before_append_rest (sorted : Sorted key l) (start : κ) :
    before key start l ++ rest key start l = l := by
  induction l with
  | nil => rfl
  | cons a l ih =>
    obtain ⟨above, tail⟩ := List.pairwise_cons.mp sorted
    by_cases low : key a < start
    · have kept : before key start (a :: l) = a :: before key start l := by simp [before, low]
      have skipped : rest key start (a :: l) = rest key start l := by simp [rest, low]
      rw [kept, skipped, List.cons_append, ih tail]
    · -- everything is behind the cursor
      have behind : ∀ b ∈ a :: l, start ≤ key b := by
        intro b member
        rcases List.mem_cons.mp member with rfl | later
        · exact not_lt.mp low
        · exact le_trans (not_lt.mp low) (le_of_lt (above b later))
      have none : before key start (a :: l) = [] :=
        List.filter_eq_nil_iff.mpr fun b member => by simpa using behind b member
      have all : rest key start (a :: l) = a :: l :=
        List.filter_eq_self.mpr fun b member => by simpa using behind b member
      rw [none, all, List.nil_append]

theorem before_initial (sorted : Sorted key l) (start : κ) : before key start l <+: l :=
  ⟨rest key start l, before_append_rest sorted start⟩

/-- The cursor behind a page is before what the page did not show. -/
theorem before_next (sorted : Sorted key l) (size : Nat) (start next : κ) (shown : List α)
    (last : α) (page_eq : page key size start l = shown ++ [last])
    (behind : ∀ k, k < next ↔ k ≤ key last) :
    before key next l = before key start l ++ page key size start l := by
  have split : l = before key start l ++ (shown ++ last :: (rest key start l).drop size) := by
    have pages : shown ++ last :: (rest key start l).drop size = rest key start l := by
      rw [List.append_cons, ← page_eq]
      exact List.take_append_drop size _
    rw [pages, before_append_rest sorted start]
  have member : last ∈ rest key start l :=
    List.mem_of_mem_take (page_eq ▸ List.mem_append_right shown (List.mem_singleton_self last))
  have high : start ≤ key last := by simpa using (List.mem_filter.mp member).2
  have pairs := sorted
  rw [Sorted, split, List.pairwise_append, List.pairwise_append, List.pairwise_cons] at pairs
  obtain ⟨_, ⟨_, ⟨after, _⟩, inside⟩, _⟩ := pairs
  -- the old part and the page are kept, the later elements are dropped
  have old : before key next (before key start l) = before key start l :=
    List.filter_eq_self.mpr fun a hit => by
      have low : key a < start := by simpa using (List.mem_filter.mp hit).2
      simpa using (behind _).mpr (le_of_lt (lt_of_lt_of_le low high))
  have fresh : before key next shown = shown :=
    List.filter_eq_self.mpr fun a hit => by
      simpa using (behind _).mpr (le_of_lt (inside a hit last (by simp)))
  have later : before key next ((rest key start l).drop size) = [] :=
    List.filter_eq_nil_iff.mpr fun a hit => by
      have above : next ≤ key a :=
        not_lt.mp fun low => absurd ((behind _).mp low) (not_le.mpr (after a hit))
      simpa using above
  have here : key last < next := (behind _).mpr le_rfl
  calc before key next l
      = before key next (before key start l ++ (shown ++ last :: (rest key start l).drop size)) :=
        congrArg (before key next) split
    _ = before key next (before key start l) ++ (before key next shown ++
          last :: before key next ((rest key start l).drop size)) := by
        simp [before, here]
    _ = before key start l ++ page key size start l := by
        rw [old, fresh, later, page_eq]

/-- A page that is not full is the last one. -/
theorem before_append_page_short (sorted : Sorted key l) (size : Nat) (start : κ)
    (short : (page key size start l).length < size) :
    before key start l ++ page key size start l = l := by
  have whole : page key size start l = rest key start l := by
    rw [page, List.length_take] at short
    exact List.take_of_length_le (by omega)
  rw [whole, before_append_rest sorted start]

/-- Growth at the end, behind the cursor. -/
theorem before_append (start : κ) (new : List α) (behind : ∀ a ∈ new, start ≤ key a) :
    before key start (l ++ new) = before key start l := by
  have none : before key start new = [] :=
    List.filter_eq_nil_iff.mpr fun a member => by simpa using behind a member
  rw [before, List.filter_append, ← before, ← before, none, List.append_nil]

end Cursor
