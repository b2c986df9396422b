import CnpProtocol.Library.Bytes
import Mathlib.Data.List.GetD

/-!
# Computations that read memory

A computation over a memory as the tree of its reads: every node names an address and goes
on with the cell that is found there. On a memory it has a result and the addresses it
visits, and memories that agree on these addresses give the same result.
-/

/-- A computation with a result in `α` that reads cells in `β` at addresses in `ι`. -/
inductive Reads (ι β α : Type) : Type
  | done (a : α)
  | read (address : ι) (next : β → Reads ι β α)

namespace Reads

variable {ι β α γ : Type}

def run (memory : ι → β) : Reads ι β α → α
  | .done a => a
  | .read address next => (next (memory address)).run memory

/-- The addresses in the order in which they are read. -/
def addresses (memory : ι → β) : Reads ι β α → List ι
  | .done _ => []
  | .read address next => address :: (next (memory address)).addresses memory

/-- A computation that goes on with the result of another one. -/
def andThen (f : α → Reads ι β γ) : Reads ι β α → Reads ι β γ
  | .done a => f a
  | .read address next => .read address fun b => (next b).andThen f

instance : Monad (Reads ι β) where
  pure := .done
  bind x f := x.andThen f

section

variable (memory : ι → β)

@[simp] theorem run_pure (a : α) : (pure a : Reads ι β α).run memory = a := rfl

@[simp] theorem addresses_pure (a : α) : (pure a : Reads ι β α).addresses memory = [] := rfl

@[simp] theorem run_read (address : ι) (next : β → Reads ι β α) :
    (read address next).run memory = (next (memory address)).run memory := rfl

@[simp] theorem addresses_read (address : ι) (next : β → Reads ι β α) :
    (read address next).addresses memory =
      address :: (next (memory address)).addresses memory := rfl

@[simp] theorem run_bind (x : Reads ι β α) (f : α → Reads ι β γ) :
    (x >>= f).run memory = (f (x.run memory)).run memory := by
  induction x with
  | done a => rfl
  | read address next ih => exact ih (memory address)

@[simp] theorem addresses_bind (x : Reads ι β α) (f : α → Reads ι β γ) :
    (x >>= f).addresses memory =
      x.addresses memory ++ (f (x.run memory)).addresses memory := by
  induction x with
  | done a => rfl
  | read address next ih => exact congrArg (address :: ·) (ih (memory address))

end

/-- A computation sees nothing of a memory but the cells it reads. -/
theorem run_congr (x : Reads ι β α) (memory memory' : ι → β)
    (same : ∀ a ∈ x.addresses memory, memory' a = memory a) :
    x.run memory' = x.run memory := by
  induction x with
  | done a => rfl
  | read address next ih =>
    rw [addresses_read] at same
    rw [run_read, run_read, same address (by simp)]
    exact ih (memory address) fun a member => same a (List.mem_cons_of_mem _ member)

/-! ### Bytes -/

/-- The bytes from an address on, one read each. -/
def bytes (address : Nat) : Nat → Reads Nat Byte (List Byte)
  | 0 => pure []
  | n + 1 => .read address fun b => do
    let bs ← bytes (address + 1) n
    pure (b :: bs)

/-- A load of `n` bytes from an address. -/
def load (n address : Nat) : Reads Nat Byte (BitVec (8 * n)) := do
  let bs ← bytes address n
  pure (BitVec.ofNat (8 * n) (Bytes.leNat bs))

theorem run_bytes (memory : Nat → Byte) (address n : Nat) :
    (bytes address n).run memory = (List.range' address n).map memory := by
  induction n generalizing address with
  | zero => rfl
  | succ n ih => simp [bytes, ih, List.range'_succ]

theorem addresses_bytes (memory : Nat → Byte) (address n : Nat) :
    (bytes address n).addresses memory = List.range' address n := by
  induction n generalizing address with
  | zero => rfl
  | succ n ih => simp [bytes, ih, List.range'_succ]

theorem run_load (memory : Nat → Byte) (n address : Nat) :
    (load n address).run memory =
      BitVec.ofNat (8 * n) (Bytes.leNat ((List.range' address n).map memory)) := by
  rw [load, run_bind, run_pure, run_bytes]

@[simp] theorem addresses_load (memory : Nat → Byte) (n address : Nat) :
    (load n address).addresses memory = List.range' address n := by
  rw [load, addresses_bind, addresses_pure, addresses_bytes, List.append_nil]

/-! ### Memory that is a list -/

/-- The byte at an address of a list of bytes; there is nothing but zeros behind its end. -/
def cell (memory : List Byte) (address : Nat) : Byte := memory.getD address 0

theorem headD_drop (memory : List Byte) (address : Nat) :
    (memory.drop address).headD 0 = cell memory address := by
  rw [cell, List.headD_eq_head?_getD, List.head?_drop, List.getD_eq_getElem?_getD]

theorem leNat_cells (memory : List Byte) (address n : Nat) :
    Bytes.leNat ((List.range' address n).map (cell memory)) =
      Bytes.leNat ((memory.drop address).take n) := by
  induction n generalizing address with
  | zero => rfl
  | succ n ih =>
    rw [List.range'_succ, List.map_cons, Bytes.leNat, ih]
    by_cases inside : address < memory.length
    · rw [List.drop_eq_getElem_cons inside, List.take_succ_cons, Bytes.leNat, cell,
        List.getD_eq_getElem _ _ inside]
    · -- both numbers are made of zeros
      have outside := Nat.not_lt.mp inside
      rw [List.drop_eq_nil_of_le outside, List.drop_eq_nil_of_le (Nat.le_succ_of_le outside),
        cell, List.getD_eq_default _ _ outside, List.take_nil, List.take_nil]
      rfl

/-- A load from a list of bytes. -/
theorem run_load_cell (memory : List Byte) (n address : Nat) :
    (load n address).run (cell memory) = Bytes.load n (memory.drop address) := by
  rw [run_load, leNat_cells, Bytes.load]

/-- A list of bytes with one byte set; it is extended with zeros when the address lies behind
its end. -/
def poke (memory : List Byte) (address : Nat) (b : Byte) : List Byte :=
  (memory ++ List.replicate (address + 1) 0).set address b

theorem cell_poke (memory : List Byte) (address : Nat) (b : Byte) (a : Nat) :
    cell (poke memory address b) a = if a = address then b else cell memory a := by
  have inside : address < (memory ++ List.replicate (address + 1) (0 : Byte)).length := by
    rw [List.length_append, List.length_replicate]
    omega
  simp only [cell, poke, List.getD_eq_getElem?_getD]
  by_cases same : a = address
  · subst same
    rw [if_pos rfl, List.getElem?_set_self inside, Option.getD_some]
  · rw [if_neg same, List.getElem?_set_ne (Ne.symm same)]
    by_cases old : a < memory.length
    · rw [List.getElem?_append_left old]
    · -- behind the end there are zeros, with or without the extension
      have outside := Nat.not_lt.mp old
      rw [List.getElem?_append_right outside, List.getElem?_eq_none outside,
        List.getElem?_replicate]
      split
      · rfl
      · rfl

end Reads
