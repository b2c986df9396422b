import CnpProtocol.Library.Bytes
import Mathlib.Algebra.BigOperators.Group.List.Basic

/-!
# Packed structures

A structure without padding is the list of its members in declaration order; the width of
a member in bytes is a parameter, so one declaration has a layout for every data model.
Members are unsigned numbers in little-endian order. A published table gives the members
byte ranges instead of an order.
-/

namespace Packed

variable {α : Type*} [DecidableEq α] (width : α → Nat)

/-- `sizeof` a structure with these members. -/
def sizeOf (members : List α) : Nat := (members.map width).sum

/-- `offsetof`; for a name that is no member, the size of the structure. -/
def offset : List α → α → Nat
  | [], _ => 0
  | m :: members, a => if m = a then 0 else width m + offset members a

def encode (members : List α) (value : α → Nat) : List Byte :=
  members.flatMap fun m => Bytes.leBytes (width m) (value m)

/-- An access to a member of the structure at an address. -/
def read (members : List α) (memory : List Byte) (a : α) : Nat :=
  Bytes.leNat ((memory.drop (offset width members a)).take (width a))

/-! ### Sizes and offsets -/

omit [DecidableEq α] in
theorem sizeOf_append (first second : List α) :
    sizeOf width (first ++ second) = sizeOf width first + sizeOf width second := by
  simp [sizeOf]

omit [DecidableEq α] in
@[simp] theorem length_encode (members : List α) (value : α → Nat) :
    (encode width members value).length = sizeOf width members := by
  induction members with
  | nil => rfl
  | cons m members ih =>
    simp only [encode, sizeOf, List.flatMap_cons, List.length_append, Bytes.length_leBytes,
      List.map_cons, List.sum_cons] at ih ⊢
    rw [ih]

omit [DecidableEq α] in
theorem encode_append (first second : List α) (value : α → Nat) :
    encode width (first ++ second) value =
      encode width first value ++ encode width second value :=
  List.flatMap_append

/-! ### Reading -/

/-- The bytes of a member begin at its offset. -/
theorem drop_offset_encode (members : List α) (value : α → Nat) (beyond : List Byte) (a : α)
    (member : a ∈ members) :
    ∃ rest, (encode width members value ++ beyond).drop (offset width members a) =
      Bytes.leBytes (width a) (value a) ++ rest := by
  induction members with
  | nil => cases member
  | cons m members ih =>
    rw [offset, encode, List.flatMap_cons, List.append_assoc]
    split
    next same =>
      subst same
      exact ⟨_, List.drop_zero⟩
    next other =>
      -- skip the bytes of the first member
      rw [← List.drop_drop, Bytes.drop_leBytes_append]
      exact ih ((List.mem_cons.mp member).resolve_left (Ne.symm other))

/-- Every member of an encoded structure is read back, whatever lies behind it. -/
theorem read_encode (members : List α) (value : α → Nat) (beyond : List Byte) (a : α)
    (member : a ∈ members) (fits : value a < 256 ^ width a) :
    read width members (encode width members value ++ beyond) a = value a := by
  obtain ⟨rest, found⟩ := drop_offset_encode width members value beyond a member
  rw [read, found, List.take_left' (Bytes.length_leBytes _ _), Bytes.leNat_leBytes]
  exact Nat.mod_eq_of_lt fits

/-- A member of the front part, read without the rest of the declaration. -/
theorem read_encode_append (first second : List α) (value : α → Nat) (beyond : List Byte) (a : α)
    (member : a ∈ first) (fits : value a < 256 ^ width a) :
    read width first (encode width (first ++ second) value ++ beyond) a = value a := by
  rw [encode_append, List.append_assoc]
  exact read_encode width first value _ a member fits

/-- A read looks at the bytes of its member only. -/
theorem read_congr (members : List α) {memory memory' : List Byte} {n : Nat} (a : α)
    (inside : offset width members a + width a ≤ n) (same : memory.take n = memory'.take n) :
    read width members memory a = read width members memory' a := by
  have window (bytes : List Byte) :
      (bytes.drop (offset width members a)).take (width a) =
        ((bytes.take n).drop (offset width members a)).take (width a) := by
    rw [List.drop_take, List.take_take, Nat.min_eq_left (by omega)]
  rw [read, read, window memory, window memory', same]

theorem read_lt (members : List α) (memory : List Byte) (a : α) :
    read width members memory a < 256 ^ width a := by
  refine lt_of_lt_of_le (Bytes.leNat_lt _) (Nat.pow_le_pow_right (by decide) ?_)
  exact List.length_take_le _ _

/-! ### Byte tables -/

/-- A row of a table: a field with its first and its last byte. -/
structure Row (α : Type*) where
  name : α
  first : Nat
  last : Nat
  deriving DecidableEq

def Row.extent (r : Row α) : Nat := r.last + 1 - r.first

/-- Each field of the table goes to its byte range. -/
def place (value : α → Nat) (rows : List (Row α)) (memory : List Byte) : List Byte :=
  rows.foldl (fun memory r => Bytes.store memory r.first (Bytes.leBytes r.extent (value r.name)))
    memory

/-- The table of a structure whose members start at an offset. -/
def table : Nat → List α → List (Row α)
  | _, [] => []
  | start, m :: members => ⟨m, start, start + width m - 1⟩ :: table (start + width m) members

/-- One more than the last byte of a table. -/
def tableLength (rows : List (Row α)) : Nat := (rows.map fun r => r.last + 1).foldr max 0

omit [DecidableEq α] in
theorem table_append (start : Nat) (first second : List α) :
    table width start (first ++ second) =
      table width start first ++ table width (start + sizeOf width first) second := by
  induction first generalizing start with
  | nil => rfl
  | cons m first ih =>
    rw [List.cons_append, table, table, ih, List.cons_append, sizeOf, sizeOf, List.map_cons,
      List.sum_cons, Nat.add_assoc]

omit [DecidableEq α] in
theorem tableLength_table (start : Nat) (members : List α) (nonempty : members ≠ [])
    (positive : ∀ m ∈ members, 0 < width m) :
    tableLength (table width start members) = start + sizeOf width members := by
  induction members generalizing start with
  | nil => exact absurd rfl nonempty
  | cons m members ih =>
    have := positive m (by simp)
    have last : start + width m - 1 + 1 = start + width m := by omega
    simp only [tableLength, table, List.map_cons, List.foldr_cons, sizeOf, List.sum_cons, last]
    by_cases empty : members = []
    · subst empty
      simp [table]
    · have rest := ih (start + width m) empty fun m' member =>
        positive m' (List.mem_cons_of_mem _ member)
      rw [tableLength, sizeOf] at rest
      rw [rest]
      omega

omit [DecidableEq α] in
/-- Placing the fields by the table of a structure spells the structure. -/
theorem place_table (value : α → Nat) (members : List α) (positive : ∀ m ∈ members, 0 < width m)
    (front memory : List Byte) (room : sizeOf width members = memory.length) :
    place value (table width front.length members) (front ++ memory) =
      front ++ encode width members value := by
  induction members generalizing front memory with
  | nil =>
    have empty : memory = [] := List.eq_nil_of_length_eq_zero room.symm
    rw [empty]
    rfl
  | cons m members ih =>
    have size : (Row.mk m front.length (front.length + width m - 1)).extent = width m := by
      have := positive m (by simp)
      simp only [Row.extent]
      omega
    have written : Bytes.store (front ++ memory) front.length
        (Bytes.leBytes (width m) (value m)) =
          (front ++ Bytes.leBytes (width m) (value m)) ++ memory.drop (width m) := by
      rw [Bytes.store, List.take_left' rfl, Bytes.length_leBytes, ← List.drop_drop,
        List.drop_left' rfl]
    have next := ih (fun m' member => positive m' (List.mem_cons_of_mem _ member))
      (front ++ Bytes.leBytes (width m) (value m)) (memory.drop (width m)) (by
        rw [sizeOf, List.map_cons, List.sum_cons] at room
        rw [List.length_drop, ← room, sizeOf, Nat.add_sub_cancel_left])
    rw [List.length_append, Bytes.length_leBytes] at next
    rw [table, place, List.foldl_cons, size, written]
    rw [place] at next
    rw [next, encode, encode, List.flatMap_cons, List.append_assoc]

end Packed
