import CnpProtocol.Library.Packed

/-!
# Receive buffers

A buffer that is written from its start by every call of `recv`, which is given one byte
less than the buffer has. What is shorter than the last delivery leaves the end of that
delivery behind it, and the last byte stays zero.
-/

/-- A zeroed array of `capacity + 1` bytes after any number of deliveries. -/
structure ReceiveBuffer (capacity : Nat) where
  bytes : List Byte
  length_eq : bytes.length = capacity + 1
  last_eq : bytes.drop capacity = [0]

namespace ReceiveBuffer

variable {capacity : Nat}

def zero : ReceiveBuffer capacity where
  bytes := List.replicate (capacity + 1) 0
  length_eq := List.length_replicate
  last_eq := by rw [List.drop_replicate, Nat.add_sub_cancel_left]; rfl

/-- The delivery of at most `capacity` of the bytes that arrive. -/
def receive (buffer : ReceiveBuffer capacity) (data : List Byte) : ReceiveBuffer capacity where
  bytes := Bytes.store buffer.bytes 0 (data.take capacity)
  length_eq := by
    have inside := List.length_take_le capacity data
    rw [Bytes.length_store _ _ _ (by rw [buffer.length_eq]; omega), buffer.length_eq]
  last_eq := by
    have inside := List.length_take_le capacity data
    rw [Bytes.store, List.take_zero, List.nil_append, Nat.zero_add, List.drop_append,
      List.drop_eq_nil_of_le inside, List.nil_append, List.drop_drop, Nat.add_sub_cancel' inside,
      buffer.last_eq]

theorem bytes_receive (buffer : ReceiveBuffer capacity) (data : List Byte)
    (whole : data.length ≤ capacity) :
    (buffer.receive data).bytes = data ++ buffer.bytes.drop data.length := by
  change Bytes.store buffer.bytes 0 (data.take capacity) = _
  rw [List.take_of_length_le whole, Bytes.store, List.take_zero, List.nil_append, Nat.zero_add]

/-- What fits is in front. -/
theorem take_receive (buffer : ReceiveBuffer capacity) (data : List Byte) (n : Nat)
    (inside : n ≤ data.length) (room : n ≤ capacity) :
    (buffer.receive data).bytes.take n = data.take n := by
  have front : n ≤ (data.take capacity).length := by
    rw [List.length_take]
    omega
  change (Bytes.store buffer.bytes 0 (data.take capacity)).take n = _
  rw [Bytes.store, List.take_zero, List.nil_append, List.take_append_of_le_length front,
    List.take_take, Nat.min_eq_left room]

/-- A member inside a delivery is read from the delivery. -/
theorem read_receive {α : Type*} [DecidableEq α] (width : α → Nat) (members : List α)
    (buffer : ReceiveBuffer capacity) (data beyond : List Byte) (a : α)
    (inside : Packed.offset width members a + width a ≤ data.length)
    (room : Packed.offset width members a + width a ≤ capacity) :
    Packed.read width members ((buffer.receive data).bytes ++ beyond) a =
      Packed.read width members data a := by
  apply Packed.read_congr width members a (Nat.le_refl _)
  rw [List.take_append_of_le_length (by rw [(buffer.receive data).length_eq]; omega),
    take_receive buffer data _ inside room]

end ReceiveBuffer
