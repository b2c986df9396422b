import CnpProtocol.Server.ClientThread

/-!
# Names as bytes

`strlen` starts at the first name and runs on behind a field that holds no zero, into the
last name of an account creation or the PIN of a logon. A terminated field gives both
requests one customer ID; an unterminated one never does for all last names.
-/

namespace Cnp

/-! ### Hashes of a key and one more byte -/

/-- What a hash value gives to the customer ID: its halves, combined. -/
def foldHalves (dwHash : Dword) : Word := ((dwHash >>> 16) ^^^ dwHash).setWidth 16

theorem foldHalves_inj {x y : Dword} (upper : x.toNat / 65536 = y.toNat / 65536)
    (same : foldHalves x = foldHalves y) : x = y := by
  have shifted : x >>> 16 = y >>> 16 := by
    apply BitVec.eq_of_toNat_eq
    rw [BitVec.toNat_ushiftRight, BitVec.toNat_ushiftRight, Nat.shiftRight_eq_div_pow,
      Nat.shiftRight_eq_div_pow]
    exact upper
  rw [foldHalves, foldHalves, shifted, BitVec.setWidth_xor, BitVec.setWidth_xor,
    BitVec.xor_right_inj] at same
  have lower := congrArg BitVec.toNat same
  rw [BitVec.toNat_setWidth, BitVec.toNat_setWidth] at lower
  apply BitVec.eq_of_toNat_eq
  omega

/-- Of three values close to each other two have the same upper half. -/
theorem foldHalves_three {x y z : Dword} (d d' : Nat) (above : 0 < d) (above' : 0 < d')
    (close : d + d' ≤ 65536) (second : y.toNat = (x.toNat + d) % 2 ^ 32)
    (third : z.toNat = (x.toNat + d + d') % 2 ^ 32) :
    ¬ (foldHalves x = foldHalves y ∧ foldHalves y = foldHalves z) := by
  rintro ⟨first, last⟩
  have := x.isLt
  -- the upper half would have to change twice
  have apart : x.toNat / 65536 ≠ y.toNat / 65536 := fun upper => by
    have := congrArg BitVec.toNat (foldHalves_inj upper first)
    omega
  have apart' : y.toNat / 65536 ≠ z.toNat / 65536 := fun upper => by
    have := congrArg BitVec.toNat (foldHalves_inj upper last)
    omega
  omega

theorem toNat_fnvRound (dwHash x : Dword) :
    (fnvRound dwHash x).toNat = 31 * (dwHash ^^^ x).toNat % 2 ^ 32 := by
  have := (dwHash ^^^ x).isLt
  rw [fnvRound, BitVec.toNat_sub, BitVec.toNat_shiftLeft, Nat.shiftLeft_eq]
  omega

/-- A small operand changes the last two bits only. -/
theorem toNat_xor_small (dwHash x : Dword) (small : x.toNat < 2 ^ 2) :
    (dwHash ^^^ x).toNat = 4 * (dwHash.toNat / 4) + (dwHash.toNat % 4 ^^^ x.toNat) := by
  have upper : (dwHash.toNat ^^^ x.toNat) / 2 ^ 2 = dwHash.toNat / 4 := by
    rw [Nat.xor_div_two_pow, Nat.div_eq_of_lt small, Nat.xor_zero]
  have lower : (dwHash.toNat ^^^ x.toNat) % 2 ^ 2 = dwHash.toNat % 4 ^^^ x.toNat := by
    rw [Nat.xor_mod_two_pow, Nat.mod_eq_of_lt small]
  rw [BitVec.toNat_xor]
  omega

/-- The last bytes 1, 2 and 3 do not all give one hash. -/
theorem exists_foldHalves_ne (dwHash : Dword) (bits : Word) :
    ∃ b : Byte, b ≠ 0 ∧ foldHalves (fnvRound dwHash (b.signExtend 32)) ≠ bits := by
  by_contra constant
  push Not at constant
  have one := constant 1 (by decide)
  have two := constant 2 (by decide)
  have three := constant 3 (by decide)
  have value (b : Byte) (n : Nat) (char : (b.signExtend 32 : Dword).toNat = n) (small : n < 2 ^ 2) :
      (fnvRound dwHash (b.signExtend 32)).toNat =
        31 * (4 * (dwHash.toNat / 4) + (dwHash.toNat % 4 ^^^ n)) % 2 ^ 32 := by
    rw [toNat_fnvRound, toNat_xor_small dwHash _ (char ▸ small), char]
  have first := value 1 1 (by decide) (by decide)
  have second := value 2 2 (by decide) (by decide)
  have third := value 3 3 (by decide) (by decide)
  have last : dwHash.toNat % 4 = 0 ∨ dwHash.toNat % 4 = 1 ∨ dwHash.toNat % 4 = 2 ∨
      dwHash.toNat % 4 = 3 := by omega
  -- the last two bits of the hash tell how the three values are ordered
  rcases last with zero | one' | two' | three'
  · simp only [zero, Nat.reduceXor] at first second third
    exact foldHalves_three 31 31 (by decide) (by decide) (by decide) (by omega)
      (by omega) ⟨one.trans two.symm, two.trans three.symm⟩
  · simp only [one', Nat.reduceXor] at first second third
    exact foldHalves_three 62 31 (by decide) (by decide) (by decide) (by omega)
      (by omega) ⟨one.trans three.symm, three.trans two.symm⟩
  · simp only [two', Nat.reduceXor] at first second third
    exact foldHalves_three 31 62 (by decide) (by decide) (by decide) (by omega)
      (by omega) ⟨two.trans three.symm, three.trans one.symm⟩
  · simp only [three', Nat.reduceXor] at first second third
    exact foldHalves_three 31 31 (by decide) (by decide) (by decide) (by omega)
      (by omega) ⟨three.trans two.symm, two.trans one.symm⟩

/-- The block loop reads a key of whole blocks and leaves what lies behind it. -/
theorem fnv1aBlocks_append (key : List Byte) (n : Nat) (blocks : key.length = 4 * n)
    (dwHash : Dword) :
    ∃ dwHash' : Dword, ∀ (rest : List Byte) (r : Nat), r < 4 →
      fnv1aBlocks 4 dwHash (key ++ rest) (4 * n + r) = (dwHash', rest, r) := by
  induction n generalizing key dwHash with
  | zero =>
    obtain rfl := List.length_eq_zero_iff.mp blocks
    refine ⟨dwHash, fun rest r short => ?_⟩
    have cases_ : r = 0 ∨ r = 1 ∨ r = 2 ∨ r = 3 := by omega
    rcases cases_ with rfl | rfl | rfl | rfl <;> rfl
  | succ n ih =>
    obtain ⟨dwHash', result⟩ := ih (key.drop 4) (by rw [List.length_drop]; omega)
      (fnvRound dwHash (Bytes.load 4 key))
    refine ⟨dwHash', fun rest r short => ?_⟩
    have load : Bytes.load 4 (key ++ rest) = Bytes.load 4 key := by
      rw [Bytes.load, Bytes.load, List.take_append_of_le_length (by omega)]
    have drop : (key ++ rest).drop 4 = key.drop 4 ++ rest :=
      List.drop_append_of_le_length (by omega)
    have length : 4 * (n + 1) + r = 4 * n + r + 4 := by omega
    rw [length, fnv1aBlocks, load, drop]
    exact result rest r short

/-- No value is the hash of a key of whole blocks with every byte behind it. -/
theorem exists_nameBits_ne (key : List Byte) (n : Nat) (blocks : key.length = 4 * n)
    (bits : Word) : ∃ b : Byte, b ≠ 0 ∧ nameBits (key ++ [b]) ≠ bits := by
  obtain ⟨dwHash, result⟩ := fnv1aBlocks_append key n blocks (BitVec.ofNat 32 2166136261)
  obtain ⟨b, nonzero, different⟩ := exists_foldHalves_ne dwHash bits
  refine ⟨b, nonzero, ?_⟩
  -- the blocks end with the key, and the byte is the tail
  have length : (key ++ [b]).length = 4 * n + 1 := by simp [blocks]
  have hash : nameBits (key ++ [b]) = foldHalves (fnvRound dwHash (b.signExtend 32)) := by
    rw [nameBits, length, fnv1aHash]
    have tail := result [b] 1 (by decide)
    rw [tail]
    rfl
  rw [hash]
  exact different

/-! ### Customer IDs -/

/-- Every account creation and every logon in the receive buffer that have this first-name
field and this PIN get one customer ID. -/
def SameCustomerID (field : NameField) (wPIN : Word) : Prop :=
  ∀ (rgBuffer rgBuffer' : RgBuffer) (m : CreateAccountRequest) (m' : LogonRequest)
    (beyond beyond' : List Byte),
    requestAt rgBuffer.bytes = some (.createAccount m beyond) →
    requestAt rgBuffer'.bytes = some (.logon m' beyond') →
    m.request.firstName = field → m.request.pin = wPIN →
    m'.request.firstName = field → m'.request.pin = wPIN →
      m.customerID beyond = m'.customerID beyond'

/-- A terminated name ends inside its field in both requests. -/
theorem sameCustomerID_of_terminated (field : NameField) (wPIN : Word)
    (terminated : 0 ∈ field.bytes) : SameCustomerID field wPIN := by
  intro _ _ m m' beyond beyond' _ _ name pin name' pin'
  rw [CreateAccountRequest.customerID, LogonRequest.customerID, generateCustomerID_eq_iff,
    CreateAccountRequest.getFirstName, LogonRequest.getFirstName, name, name',
    Bytes.cString_append _ _ terminated, Bytes.cString_append _ _ terminated]
  exact ⟨rfl, pin.trans pin'.symm⟩

/-- A name field of one character. -/
def NameField.char (b : Byte) : NameField := ⟨b :: List.replicate (maxNameLen - 1) 0, rfl⟩

/-- An account creation with a last name of one character. -/
def createWith (field : NameField) (wPIN : Word) (b : Byte) : CreateAccountRequest where
  hdr := requestHdr .createAccount Prim.sizeofCreateAccountRequest 1 1 0
  request := ⟨field, .char b, .zero, wPIN, 0, 0⟩

def logonWith (field : NameField) (wPIN : Word) : LogonRequest where
  hdr := requestHdr .logon Prim.sizeofLogonRequest 2 1 0
  request := ⟨field, wPIN⟩

/-- Every message can stand in the buffer. -/
theorem exists_buffer (t : MsgType) (hdr : StdHdr) (body : Field → Nat) :
    ∃ (rgBuffer : RgBuffer) (beyond : List Byte),
      rgBuffer.bytes = t.encode hdr body ++ beyond := by
  have short : (t.encode hdr body).length ≤ sizeofRgBuffer - 1 := by
    rw [MsgType.length_encode]
    cases t <;> decide
  exact ⟨ReceiveBuffer.receive .zero (t.encode hdr body), _,
    ReceiveBuffer.bytes_receive .zero _ short⟩

theorem exists_createWith (field : NameField) (wPIN : Word) (b : Byte) :
    ∃ (rgBuffer : RgBuffer) (beyond : List Byte),
      requestAt rgBuffer.bytes = some (.createAccount (createWith field wPIN b) beyond) := by
  obtain ⟨rgBuffer, beyond, bytes⟩ := exists_buffer .createAccountRequest
    (createWith field wPIN b).hdr (createWith field wPIN b).value
  refine ⟨rgBuffer, rgBuffer.bytes.drop
    (Packed.sizeOf Build.win32.width MsgType.createAccountRequest.members), ?_⟩
  rw [bytes, requestAt_encode _ _ _ _ rfl, MsgType.cast, CreateAccountRequest.at_encode]

theorem exists_logonWith (field : NameField) (wPIN : Word) :
    ∃ (rgBuffer : RgBuffer) (beyond : List Byte),
      requestAt rgBuffer.bytes = some (.logon (logonWith field wPIN) beyond) := by
  obtain ⟨rgBuffer, beyond, bytes⟩ := exists_buffer .logonRequest (logonWith field wPIN).hdr
    (logonWith field wPIN).value
  refine ⟨rgBuffer, rgBuffer.bytes.drop
    (Packed.sizeOf Build.win32.width MsgType.logonRequest.members), ?_⟩
  rw [bytes, requestAt_encode _ _ _ _ rfl, MsgType.cast, LogonRequest.at_encode]

/-- The key of an account creation whose first name is not terminated. -/
theorem cString_createWith (field : NameField) (wPIN : Word) (b : Byte) (nonzero : b ≠ 0)
    (unterminated : 0 ∉ field.bytes) (beyond : List Byte) :
    Bytes.cString ((createWith field wPIN b).getFirstName beyond) = field.bytes ++ [b] := by
  have plain : 0 ∉ field.bytes ++ [b] := by
    rw [List.mem_append, List.mem_singleton, not_or]
    exact ⟨unterminated, Ne.symm nonzero⟩
  -- the last name starts behind the field and ends after its one character
  have memory (rest : List Byte) :
      field.bytes ++ (b :: 0 :: rest) = field.bytes ++ [b] ++ 0 :: rest := by simp
  change Bytes.cString (field.bytes ++ (b :: 0 :: _)) = _
  rw [memory, Bytes.cString_append_zero _ _ plain]

theorem not_sameCustomerID (field : NameField) (wPIN : Word) (unterminated : 0 ∉ field.bytes) :
    ¬ SameCustomerID field wPIN := by
  intro same
  -- one logon against account creations that differ in the last name
  obtain ⟨rgBuffer', beyond', logon⟩ := exists_logonWith field wPIN
  obtain ⟨b, nonzero, different⟩ := exists_nameBits_ne field.bytes 8 field.length_eq
    (nameBits (Bytes.cString ((logonWith field wPIN).getFirstName beyond')))
  obtain ⟨rgBuffer, beyond, create⟩ := exists_createWith field wPIN b
  have ids := same rgBuffer rgBuffer' _ _ beyond beyond' create logon rfl rfl rfl rfl
  rw [CreateAccountRequest.customerID, LogonRequest.customerID, generateCustomerID_eq_iff,
    cString_createWith field wPIN b nonzero unterminated] at ids
  exact different ids.1

/-- The customer ID is a function of the first-name field and the PIN exactly for the fields
that hold a zero. -/
theorem same_customerID_iff (field : NameField) (wPIN : Word) :
    SameCustomerID field wPIN ↔ 0 ∈ field.bytes := by
  constructor
  · intro same
    by_contra unterminated
    exact not_sameCustomerID field wPIN unterminated same
  · exact sameCustomerID_of_terminated field wPIN

/-- An account is created with a first name of 32 letters and the last name `a`; the logon
with the same field and PIN computes another customer ID. -/
theorem unterminated_name_ids :
    let field : NameField := ⟨List.replicate 32 65, rfl⟩
    field.bytes.headD 0 ≠ 0 ∧
      (createWith field 4711 97).customerID [0] = 2315260519 ∧
      (logonWith field 4711).customerID [0] = 2092962407 ∧ ¬ SameCustomerID field 4711 := by
  intro field
  exact ⟨by decide, by decide +kernel, by decide +kernel,
    not_sameCustomerID field 4711 (by decide)⟩

end Cnp
