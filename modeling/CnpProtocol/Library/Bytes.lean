import Mathlib.Data.List.TakeWhile
import Mathlib.Tactic.Ring

/-!
# Bytes in memory

Little-endian numbers, zero-terminated strings and fixed-size record images over plain
lists of bytes. A pointer into memory is the list of the bytes from its address on.
-/

abbrev Byte := BitVec 8

namespace Bytes

/-! ### Little-endian numbers -/

/-- The low `n` bytes of `x`, least significant first. -/
def leBytes : Nat → Nat → List Byte
  | 0, _ => []
  | n + 1, x => BitVec.ofNat 8 x :: leBytes n (x / 256)

def leNat : List Byte → Nat
  | [] => 0
  | b :: bs => b.toNat + 256 * leNat bs

@[simp] theorem length_leBytes (n x : Nat) : (leBytes n x).length = n := by
  induction n generalizing x with
  | zero => rfl
  | succ n ih => simp [leBytes, ih]

theorem leNat_leBytes (n x : Nat) : leNat (leBytes n x) = x % 256 ^ n := by
  induction n generalizing x with
  | zero => simp [leBytes, leNat, Nat.mod_one]
  | succ n ih =>
    have digits : x % 256 ^ (n + 1) = x % 256 + 256 * (x / 256 % 256 ^ n) := by
      rw [Nat.pow_succ']
      exact Nat.mod_mul
    rw [leBytes, leNat, ih, BitVec.toNat_ofNat, digits]

theorem leNat_append (first second : List Byte) :
    leNat (first ++ second) = leNat first + 256 ^ first.length * leNat second := by
  induction first with
  | nil => simp [leNat]
  | cons b bs ih =>
    rw [List.cons_append, leNat, leNat, ih, List.length_cons, Nat.pow_succ]
    ring

theorem leNat_lt (memory : List Byte) : leNat memory < 256 ^ memory.length := by
  induction memory with
  | nil => simp [leNat]
  | cons b bs ih =>
    have low := b.isLt
    rw [leNat, List.length_cons, Nat.pow_succ]
    omega

/-- The bytes of a number spell it. -/
theorem leBytes_leNat (memory : List Byte) : leBytes memory.length (leNat memory) = memory := by
  induction memory with
  | nil => rfl
  | cons b bs ih =>
    have low : (b.toNat + 256 * leNat bs) % 256 = b.toNat := by
      have := b.isLt
      omega
    have high : (b.toNat + 256 * leNat bs) / 256 = leNat bs := by
      have := b.isLt
      omega
    rw [List.length_cons, leBytes, leNat, high, ih]
    refine congrArg (· :: bs) (BitVec.eq_of_toNat_eq ?_)
    rw [BitVec.toNat_ofNat]
    exact low

theorem leBytes_mod (n x : Nat) : leBytes n (x % 256 ^ n) = leBytes n x := by
  have spelled := leBytes_leNat (leBytes n x)
  rwa [length_leBytes, leNat_leBytes] at spelled

theorem leBytes_add (m n x : Nat) : leBytes (m + n) x = leBytes m x ++ leBytes n (x / 256 ^ m) := by
  induction m generalizing x with
  | zero => simp [leBytes]
  | succ m ih =>
    rw [Nat.succ_add, leBytes, leBytes, ih, List.cons_append, Nat.div_div_eq_div_mul,
      Nat.pow_succ']

/-- Memory after bytes were written to an offset. -/
def store (memory : List Byte) (offset : Nat) (bytes : List Byte) : List Byte :=
  memory.take offset ++ bytes ++ memory.drop (offset + bytes.length)

theorem length_store (memory : List Byte) (offset : Nat) (bytes : List Byte)
    (inside : offset + bytes.length ≤ memory.length) :
    (store memory offset bytes).length = memory.length := by
  simp only [store, List.length_append, List.length_take, List.length_drop]
  omega

/-- A load of `n` bytes from an address. -/
def load (n : Nat) (memory : List Byte) : BitVec (8 * n) :=
  BitVec.ofNat (8 * n) (leNat (memory.take n))

theorem load_leBytes_append (n : Nat) (x : BitVec (8 * n)) (memory : List Byte) :
    load n (leBytes n x.toNat ++ memory) = x := by
  have whole : (leBytes n x.toNat ++ memory).take n = leBytes n x.toNat :=
    List.take_left' (length_leBytes n x.toNat)
  apply BitVec.eq_of_toNat_eq
  rw [load, whole, leNat_leBytes, BitVec.toNat_ofNat, Nat.pow_mul, Nat.mod_mod]
  exact Nat.mod_eq_of_lt (Nat.pow_mul 2 8 n ▸ x.isLt)

theorem drop_leBytes_append (n x : Nat) (memory : List Byte) :
    (leBytes n x ++ memory).drop n = memory :=
  List.drop_left' (length_leBytes n x)

/-! ### Strings -/

/-- The characters from an address up to the first zero. -/
def cString (memory : List Byte) : List Byte := memory.takeWhile (fun b => decide (b ≠ 0))

def strlen (memory : List Byte) : Nat := (cString memory).length

/-- `strncpy`: at most `n` characters of the source, padded with zeros up to `n`; the
destination keeps what lies beyond. -/
def strncpy (dst src : List Byte) (n : Nat) : List Byte :=
  (cString src).take n ++ List.replicate (n - ((cString src).take n).length) 0 ++ dst.drop n

@[simp] theorem cString_nil : cString [] = [] := rfl

theorem cString_zero (memory : List Byte) : cString (0 :: memory) = [] := by
  rw [cString, List.takeWhile_cons_of_neg (by simp)]

theorem cString_cons (b : Byte) (memory : List Byte) (nonzero : b ≠ 0) :
    cString (b :: memory) = b :: cString memory := by
  rw [cString, List.takeWhile_cons_of_pos (by simpa using nonzero), cString]

theorem take_strlen (memory : List Byte) : memory.take (strlen memory) = cString memory := by
  induction memory with
  | nil => rfl
  | cons b bs ih =>
    by_cases zero : b = 0
    · subst zero
      rw [strlen, cString_zero, List.length_nil, List.take_zero]
    · rw [strlen, cString_cons b bs zero, List.length_cons, List.take_succ_cons]
      exact congrArg (b :: ·) ih

/-- A terminated field hides what lies behind it. -/
theorem cString_append (field memory : List Byte) (terminated : 0 ∈ field) :
    cString (field ++ memory) = cString field := by
  induction field with
  | nil => simp at terminated
  | cons b bs ih =>
    by_cases zero : b = 0
    · -- the terminator: what lies behind it is not read
      subst zero
      rw [List.cons_append, cString_zero, cString_zero]
    · have tail : 0 ∈ bs := by
        rcases List.mem_cons.mp terminated with first | tail
        · exact absurd first.symm zero
        · exact tail
      rw [List.cons_append, cString_cons b _ zero, cString_cons b _ zero, ih tail]

theorem cString_append_zero (s memory : List Byte) (plain : 0 ∉ s) :
    cString (s ++ 0 :: memory) = s := by
  induction s with
  | nil => exact cString_zero memory
  | cons b bs ih =>
    simp only [List.mem_cons, not_or] at plain
    rw [List.cons_append, cString_cons b _ (Ne.symm plain.1), ih plain.2]

theorem zero_notMem_cString (memory : List Byte) : 0 ∉ cString memory := by
  intro member
  have kept := List.mem_takeWhile_imp member
  simp at kept

end Bytes

/-! ### Record images -/

/-- A fixed-size memory image of the records of type `ρ` that determines all their
fields. -/
structure RecordImage (ρ : Type*) where
  size : Nat
  size_pos : 0 < size
  write : ρ → List Byte
  read : List Byte → ρ
  length_write : ∀ r, (write r).length = size
  read_write : ∀ r, read (write r) = r

/-- Records that are their bytes. -/
def RecordImage.raw (n : Nat) (positive : 0 < n) :
    RecordImage { bytes : List Byte // bytes.length = n } where
  size := n
  size_pos := positive
  write r := r.1
  read bytes :=
    if whole : bytes.length = n then ⟨bytes, whole⟩
    else ⟨List.replicate n 0, List.length_replicate⟩
  length_write r := r.2
  read_write r := dif_pos r.2
