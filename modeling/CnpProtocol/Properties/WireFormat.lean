import CnpProtocol.Protocol.Encoding

/-!
# The wire format of two builds

Client and server exchange the memory of their structures. The Win32 build and the 64-bit
Linux build give `DWORD` four and eight bytes, and every message has one in its header.
-/

namespace Cnp

/-- Each build decodes the messages of the other one, and both compute the same sizes. -/
structure SameFormat (m : Message) : Prop where
  toLinux : m.DecodedFrom .linux64 (m.bytes .win32)
  toWin32 : m.DecodedFrom .win32 (m.bytes .linux64)
  getSize : m.getSize .win32 = m.getSize .linux64
  dataLen : m.dataLen .win32 = m.dataLen .linux64

theorem Build.width_le (f : Field) : Build.win32.width f ≤ Build.linux64.width f := by
  rw [Build.width, Build.width]
  generalize f.ctype = type
  cases type <;> decide

theorem sizeOf_le (fields : List Field) :
    Packed.sizeOf Build.win32.width fields ≤ Packed.sizeOf Build.linux64.width fields := by
  induction fields with
  | nil => exact Nat.le_refl _
  | cons f fields ih =>
    have first := Build.width_le f
    simp only [Packed.sizeOf, List.map_cons, List.sum_cons] at ih ⊢
    omega

/-- The header alone is 12 bytes longer on Linux. -/
theorem getSize_add_le (m : Message) : m.getSize .win32 + 12 ≤ m.getSize .linux64 := by
  have hdr : Packed.sizeOf Build.win32.width stdHdr + 12 =
      Packed.sizeOf Build.linux64.width stdHdr := rfl
  have body := sizeOf_le m.type.body
  have transactions := Nat.mul_le_mul_left m.count (sizeOf_le (transaction 0))
  rw [Message.getSize, Message.getSize, MsgType.members, Packed.sizeOf_append,
    Packed.sizeOf_append, ← hdr]
  omega

/-! ### What the other build reads -/

/-- On Linux the message type takes in the data length and the client ID behind it. -/
theorem read_msgType_linux (m : Message) (beyond : List Byte) :
    Packed.read Build.linux64.width m.members (m.bytes .win32 ++ beyond) .msgType =
      m.value .msgType + 2 ^ 32 * m.value .dataLen + 2 ^ 48 * m.value .clientID := by
  have type : m.value .msgType < 2 ^ 32 := m.fits .msgType
  have dataLen : m.value .dataLen < 2 ^ 16 := m.fits .dataLen
  have clientID : m.value .clientID < 2 ^ 16 := m.fits .clientID
  obtain ⟨rest, split⟩ : ∃ rest, m.bytes .win32 ++ beyond =
      Bytes.leBytes 4 (m.value .msgType) ++ (Bytes.leBytes 2 (m.value .dataLen) ++
        (Bytes.leBytes 2 (m.value .clientID) ++ rest)) := by
    refine ⟨Bytes.leBytes 4 (m.value .sequence) ++ (Bytes.leBytes 4 (m.value .context) ++
      (Packed.encode Build.win32.width m.type.body m.value ++
        (Packed.encode Build.win32.width (records m.count) m.value ++ beyond))), ?_⟩
    simp only [Message.bytes, Message.members, MsgType.members, Packed.encode, stdHdr,
      List.flatMap_append, List.flatMap_cons, List.flatMap_nil, List.append_assoc, List.nil_append]
    rfl
  have window : (m.bytes .win32 ++ beyond).take 8 =
      Bytes.leBytes 4 (m.value .msgType) ++ (Bytes.leBytes 2 (m.value .dataLen) ++
        Bytes.leBytes 2 (m.value .clientID)) := by
    rw [split, ← List.append_assoc (Bytes.leBytes 2 _), ← List.append_assoc]
    refine List.take_left' ?_
    simp
  change Bytes.leNat ((m.bytes .win32 ++ beyond).take 8) = _
  rw [window, Bytes.leNat_append, Bytes.leNat_append, Bytes.leNat_leBytes, Bytes.leNat_leBytes,
    Bytes.leNat_leBytes, Bytes.length_leBytes, Bytes.length_leBytes]
  omega

/-- Linux reads the type of a Windows message only when data length and client ID are 0. -/
theorem msgType_read_iff (m : Message) (beyond : List Byte) :
    Packed.read Build.linux64.width m.members (m.bytes .win32 ++ beyond) .msgType =
        m.value .msgType ↔ m.value .dataLen = 0 ∧ m.value .clientID = 0 := by
  rw [read_msgType_linux]
  omega

/-! ### No common format -/

/-- The two builds agree on no message. -/
theorem never_same_format (m : Message) : ¬ SameFormat m := by
  intro same
  have size := getSize_add_le m
  rw [same.getSize] at size
  omega

/-- The first message of a client has 24 bytes on Windows and 40 on Linux, and Linux does
not find its type. -/
theorem connect_request_differs :
    let m := (ConnectRequest.init 0 0 majorVersion minorVersion validationKey 0).message
    m.getSize .win32 = 24 ∧ m.getSize .linux64 = 40 ∧ ¬ SameFormat m := by
  intro m
  refine ⟨rfl, rfl, fun same => ?_⟩
  have read := same.toLinux [] .msgType (by simp [Message.members, MsgType.members, stdHdr])
    (by decide)
  rw [msgType_read_iff] at read
  exact absurd read.1 (by decide)

end Cnp
