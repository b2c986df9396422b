import CnpProtocol.Library.Reads
import CnpProtocol.Protocol.Types

/-!
# Name hash and customer IDs

`FNV1A_Hash` over memory and `GenerateCustomerID`. The hash takes the size of a `DWORD`
in bytes, because the block loop loads that many bytes while it advances by four; the
server uses it with the documented size. A second form of the hash names every address it
reads.
-/

namespace Cnp

/-- `((h ^ x) << 5) - (h ^ x)`, the step of all three read widths. -/
def fnvRound {w : Nat} (dwHash x : BitVec w) : BitVec w :=
  ((dwHash ^^^ x) <<< 5) - (dwHash ^^^ x)

/-- The block loop: hash, read position and remaining length. -/
def fnv1aBlocks (cb : Nat) (dwHash : BitVec (8 * cb)) (pKeyLoc : List Byte) :
    Nat → BitVec (8 * cb) × List Byte × Nat
  | cbKeyLen + 4 =>
    -- loads a whole `DWORD`, advances by four bytes
    fnv1aBlocks cb (fnvRound dwHash (Bytes.load cb pKeyLoc)) (pKeyLoc.drop 4) cbKeyLen
  | cbKeyLen => (dwHash, pKeyLoc, cbKeyLen)

/-- The remaining bytes: a `WORD` when bit 1 of the length is set, a signed `char` when
bit 0 is. -/
def fnv1aTail {w : Nat} (dwHash : BitVec w) (pKeyLoc : List Byte) (cbKeyLen : Nat) : BitVec w :=
  let (dwHash, pKeyLoc) :=
    if cbKeyLen &&& 2 ≠ 0 then
      (fnvRound dwHash ((Bytes.load 2 pKeyLoc).setWidth w), pKeyLoc.drop 2)
    else (dwHash, pKeyLoc)
  -- `char` is signed on both targets
  if cbKeyLen &&& 1 ≠ 0 then fnvRound dwHash ((pKeyLoc.headD 0).signExtend w) else dwHash

def fnv1aHash (cb : Nat) (pKey : List Byte) (cbLen : Nat) : BitVec (8 * cb) :=
  let (dwHash, pKeyLoc, cbKeyLen) := fnv1aBlocks cb (BitVec.ofNat (8 * cb) 2166136261) pKey cbLen
  let dwHash := fnv1aTail dwHash pKeyLoc cbKeyLen
  (dwHash >>> 16) ^^^ dwHash

/-- The shift happens in a `DWORD`; only the result is widened to a `QWORD`. -/
def generateCustomerID (szFirstName : List Byte) (cbLen : Nat) (wPIN : Word) : Qword :=
  let dwNameHash : Dword := fnv1aHash 4 szFirstName cbLen
  ((dwNameHash <<< (sizeofWord <<< 3)) ^^^ wPIN.setWidth 32).setWidth 64

/-! ### The bytes the hash reads -/

/-- The block loop with its loads; the source loads every block twice, from one address. -/
def readBlocks (cb : Nat) (dwHash : BitVec (8 * cb)) (pKeyLoc : Nat) :
    Nat → Reads Nat Byte (BitVec (8 * cb) × Nat × Nat)
  | cbKeyLen + 4 => do
    let block ← Reads.load cb pKeyLoc
    readBlocks cb (fnvRound dwHash block) (pKeyLoc + 4) cbKeyLen
  | cbKeyLen => pure (dwHash, pKeyLoc, cbKeyLen)

def readTail {w : Nat} (dwHash : BitVec w) (pKeyLoc cbKeyLen : Nat) :
    Reads Nat Byte (BitVec w) := do
  let (dwHash, pKeyLoc) ←
    if cbKeyLen &&& 2 ≠ 0 then do
      let word ← Reads.load 2 pKeyLoc
      pure (fnvRound dwHash (word.setWidth w), pKeyLoc + 2)
    else pure (dwHash, pKeyLoc)
  if cbKeyLen &&& 1 ≠ 0 then do
    let char ← Reads.read pKeyLoc pure
    pure (fnvRound dwHash (char.signExtend w))
  else pure dwHash

/-- `FNV1A_Hash` with its loads, from an address of the key on. -/
def readHash (cb pKey cbLen : Nat) : Reads Nat Byte (BitVec (8 * cb)) := do
  let (dwHash, pKeyLoc, cbKeyLen) ← readBlocks cb (BitVec.ofNat (8 * cb) 2166136261) pKey cbLen
  let dwHash ← readTail dwHash pKeyLoc cbKeyLen
  pure ((dwHash >>> 16) ^^^ dwHash)

/-! ### The block loop -/

theorem fnv1aBlocks_short (cb : Nat) (dwHash : BitVec (8 * cb)) (memory : List Byte) (n : Nat)
    (short : n < 4) : fnv1aBlocks cb dwHash memory n = (dwHash, memory, n) := by
  rw [fnv1aBlocks]
  rintro m rfl
  omega

theorem readBlocks_short (cb : Nat) (dwHash : BitVec (8 * cb)) (pKeyLoc n : Nat) (short : n < 4) :
    readBlocks cb dwHash pKeyLoc n = pure (dwHash, pKeyLoc, n) := by
  rw [readBlocks]
  rintro m rfl
  omega

/-- Induction along the blocks of a key. -/
theorem blocks_induction (P : Nat → Prop) (last : ∀ n < 4, P n)
    (next : ∀ n, P n → P (n + 4)) (n : Nat) : P n := by
  induction n using Nat.strongRecOn with
  | ind n ih =>
    by_cases short : n < 4
    · exact last n short
    · obtain ⟨m, rfl⟩ := Nat.exists_eq_add_of_le' (Nat.not_lt.mp short)
      exact next m (ih m (by omega))

/-- The block loop ends with less than a block, behind the blocks it went over. -/
theorem fnv1aBlocks_rest (cb : Nat) (dwHash : BitVec (8 * cb)) (memory : List Byte) (n : Nat) :
    (fnv1aBlocks cb dwHash memory n).2 = (memory.drop (4 * (n / 4)), n % 4) := by
  induction n using blocks_induction generalizing dwHash memory with
  | last n short =>
    rw [fnv1aBlocks_short cb dwHash memory n short, Nat.div_eq_of_lt short,
      Nat.mod_eq_of_lt short]
    rfl
  | next n ih =>
    rw [fnv1aBlocks, ih, List.drop_drop, Nat.add_div_right n (by decide), Nat.add_mod_right]
    congr 2
    omega

theorem readBlocks_rest (cb : Nat) (dwHash : BitVec (8 * cb)) (memory : Nat → Byte)
    (pKeyLoc n : Nat) :
    ((readBlocks cb dwHash pKeyLoc n).run memory).2 = (pKeyLoc + 4 * (n / 4), n % 4) := by
  induction n using blocks_induction generalizing dwHash pKeyLoc with
  | last n short =>
    rw [readBlocks_short cb dwHash pKeyLoc n short, Reads.run_pure, Nat.div_eq_of_lt short,
      Nat.mod_eq_of_lt short]
    rfl
  | next n ih =>
    rw [readBlocks, Reads.run_bind, ih, Nat.add_div_right n (by decide), Nat.add_mod_right]
    congr 1
    omega

theorem run_readBlocks (cb : Nat) (dwHash : BitVec (8 * cb)) (memory : List Byte)
    (pKeyLoc n : Nat) :
    ((readBlocks cb dwHash pKeyLoc n).run (Reads.cell memory)).1 =
      (fnv1aBlocks cb dwHash (memory.drop pKeyLoc) n).1 := by
  induction n using blocks_induction generalizing dwHash pKeyLoc with
  | last n short =>
    rw [readBlocks_short cb dwHash pKeyLoc n short, fnv1aBlocks_short cb dwHash _ n short]
    rfl
  | next n ih =>
    rw [readBlocks, Reads.run_bind, Reads.run_load_cell, ih, fnv1aBlocks, List.drop_drop]

theorem run_readTail {w : Nat} (memory : List Byte) (dwHash : BitVec w) (pKeyLoc n : Nat) :
    (readTail dwHash pKeyLoc n).run (Reads.cell memory) =
      fnv1aTail dwHash (memory.drop pKeyLoc) n := by
  simp only [readTail, fnv1aTail]
  by_cases word : n &&& 2 ≠ 0
  · simp only [if_pos word]
    by_cases char : n &&& 1 ≠ 0
    · simp only [if_pos char, Reads.run_bind, Reads.run_read, Reads.run_pure, List.drop_drop,
        Reads.run_load_cell, Reads.headD_drop]
    · simp only [if_neg char, Reads.run_bind, Reads.run_load_cell, Reads.run_pure]
  · simp only [if_neg word]
    by_cases char : n &&& 1 ≠ 0
    · simp only [if_pos char, Reads.run_bind, Reads.run_read, Reads.run_pure, Reads.headD_drop]
    · simp only [if_neg char, Reads.run_bind, Reads.run_pure]

/-- With its loads the hash computes what it computes over the memory from the key on. -/
theorem run_readHash (cb : Nat) (memory : List Byte) (pKey cbLen : Nat) :
    (readHash cb pKey cbLen).run (Reads.cell memory) =
      fnv1aHash cb (memory.drop pKey) cbLen := by
  have rest := fnv1aBlocks_rest cb (BitVec.ofNat (8 * cb) 2166136261) (memory.drop pKey) cbLen
  rw [List.drop_drop] at rest
  simp only [readHash, Reads.run_bind, run_readBlocks, readBlocks_rest, run_readTail,
    Reads.run_pure, fnv1aHash, rest]

/-- Every block is a load from its own address. -/
theorem mem_addresses_readBlocks (cb : Nat) (memory : Nat → Byte) (dwHash : BitVec (8 * cb))
    (pKeyLoc n a : Nat) :
    a ∈ (readBlocks cb dwHash pKeyLoc n).addresses memory ↔
      ∃ i < n / 4, pKeyLoc + 4 * i ≤ a ∧ a < pKeyLoc + 4 * i + cb := by
  induction n using blocks_induction generalizing dwHash pKeyLoc with
  | last n short =>
    rw [readBlocks_short cb dwHash pKeyLoc n short, Reads.addresses_pure, Nat.div_eq_of_lt short]
    simp
  | next n ih =>
    rw [readBlocks, Reads.addresses_bind, List.mem_append, Reads.addresses_load, ih,
      List.mem_range'_1, Nat.add_div_right n (by decide)]
    constructor
    · rintro (first | ⟨i, below, later⟩)
      · exact ⟨0, by omega, by omega⟩
      · exact ⟨i + 1, by omega, by omega⟩
    · rintro ⟨i, below, inside⟩
      cases i with
      | zero => exact Or.inl (by omega)
      | succ i => exact Or.inr ⟨i, by omega, by omega⟩

theorem addresses_readTail {w : Nat} (memory : Nat → Byte) (dwHash : BitVec w)
    (pKeyLoc n : Nat) (short : n < 4) :
    (readTail dwHash pKeyLoc n).addresses memory = List.range' pKeyLoc n := by
  have cases_ : n = 0 ∨ n = 1 ∨ n = 2 ∨ n = 3 := by omega
  rcases cases_ with rfl | rfl | rfl | rfl <;> rfl

/-- The addresses that the hash reads: the blocks, and the bytes of the key behind them. -/
theorem mem_addresses_readHash (cb : Nat) (memory : Nat → Byte) (pKey cbLen a : Nat) :
    a ∈ (readHash cb pKey cbLen).addresses memory ↔
      (∃ i < cbLen / 4, pKey + 4 * i ≤ a ∧ a < pKey + 4 * i + cb) ∨
        (pKey + 4 * (cbLen / 4) ≤ a ∧ a < pKey + cbLen) := by
  have last : cbLen % 4 < 4 := Nat.mod_lt _ (by decide)
  have split : pKey + 4 * (cbLen / 4) + cbLen % 4 = pKey + cbLen := by omega
  simp only [readHash, Reads.addresses_bind, Reads.addresses_pure, List.append_nil,
    List.mem_append, mem_addresses_readBlocks, readBlocks_rest]
  rw [addresses_readTail memory _ _ _ last, List.mem_range'_1, split]

/-- Loads of four bytes stay in the key, and so does a key without a whole block. -/
theorem addresses_readHash_inside {cb cbLen : Nat} (inside : cb ≤ 4 ∨ cbLen < 4)
    (memory : Nat → Byte) (pKey : Nat) :
    ∀ a ∈ (readHash cb pKey cbLen).addresses memory, pKey ≤ a ∧ a < pKey + cbLen := by
  intro a member
  rcases (mem_addresses_readHash cb memory pKey cbLen a).mp member with
    ⟨i, below, first, last⟩ | ⟨first, last⟩
  · omega
  · omega

/-- A hash that reads only its key is the same for the same bytes anywhere. -/
theorem fnv1aHash_cells {cb cbLen : Nat} (inside : cb ≤ 4 ∨ cbLen < 4) (p q : List Byte)
    (same : ∀ i < cbLen, Reads.cell q i = Reads.cell p i) :
    fnv1aHash cb q cbLen = fnv1aHash cb p cbLen := by
  have left := run_readHash cb q 0 cbLen
  have right := run_readHash cb p 0 cbLen
  rw [List.drop_zero] at left right
  rw [← left, ← right]
  refine Reads.run_congr _ _ _ fun a member => same a ?_
  have bound := addresses_readHash_inside inside _ 0 a member
  omega

/-- With four-byte loads the hash reads nothing but its key. -/
theorem fnv1aHash_congr (p q : List Byte) (n : Nat) (same : p.take n = q.take n) :
    fnv1aHash 4 p n = fnv1aHash 4 q n := by
  refine fnv1aHash_cells (Or.inl (Nat.le_refl 4)) q p fun i below => ?_
  have bytes := congrArg (fun l => l.getD i 0) same
  simpa only [Reads.cell, List.getD_eq_getElem?_getD, List.getElem?_take_of_lt below] using bytes

/-! ### What a customer ID is made of -/

/-- The hash bits that reach the customer ID. -/
def nameBits (szFirstName : List Byte) : Word :=
  (fnv1aHash 4 szFirstName szFirstName.length).setWidth 16

/-- The upper half of the hash is shifted out before the value is widened. -/
private theorem shifted_hash (dwNameHash : Dword) (wPIN : Word) :
    ((dwNameHash <<< (sizeofWord <<< 3)) ^^^ wPIN.setWidth 32).setWidth 64 =
      (dwNameHash.setWidth 16 ++ wPIN).setWidth 64 := by
  congr 1
  change (dwNameHash <<< 16) ^^^ wPIN.setWidth 32 = dwNameHash.setWidth 16 ++ wPIN
  ext i bound
  rw [BitVec.getElem_xor, BitVec.getElem_shiftLeft, BitVec.getElem_setWidth]
  grind

/-- An ID is the low half of the hash over the PIN, zero-extended. -/
theorem generateCustomerID_eq (szFirstName : List Byte) (cbLen : Nat) (wPIN : Word) :
    generateCustomerID szFirstName cbLen wPIN =
      ((fnv1aHash 4 szFirstName cbLen).setWidth 16 ++ wPIN).setWidth 64 :=
  shifted_hash _ wPIN

/-- The ID of a name in memory. -/
theorem generateCustomerID_strlen (szFirstName : List Byte) (wPIN : Word) :
    generateCustomerID szFirstName (Bytes.strlen szFirstName) wPIN =
      (nameBits (Bytes.cString szFirstName) ++ wPIN).setWidth 64 := by
  have key : fnv1aHash 4 szFirstName (Bytes.strlen szFirstName) =
      fnv1aHash 4 (Bytes.cString szFirstName) (Bytes.cString szFirstName).length := by
    apply fnv1aHash_congr
    rw [Bytes.take_strlen, Bytes.strlen, List.take_length]
  rw [generateCustomerID_eq, key, nameBits]

theorem joined_toNat (bits wPIN : Word) :
    ((bits ++ wPIN).setWidth 64 : Qword).toNat = bits.toNat * 65536 + wPIN.toNat := by
  rw [BitVec.toNat_setWidth, BitVec.toNat_append, ← Nat.shiftLeft_add_eq_or_of_lt wPIN.isLt,
    Nat.shiftLeft_eq]
  have := bits.isLt
  have := wPIN.isLt
  omega

/-- The half of a customer ID above the PIN. -/
def hashHalf (qwCustomerID : Qword) : Word := (qwCustomerID >>> 16).setWidth 16

theorem hashHalf_joined (bits wPIN : Word) :
    hashHalf ((bits ++ wPIN).setWidth 64) = bits := by
  apply BitVec.eq_of_toNat_eq
  rw [hashHalf, BitVec.toNat_setWidth, BitVec.toNat_ushiftRight, joined_toNat,
    Nat.shiftRight_eq_div_pow]
  have := bits.isLt
  have := wPIN.isLt
  omega

theorem joined_eq_iff (bits bits' wPIN wPIN' : Word) :
    ((bits ++ wPIN).setWidth 64 : Qword) = (bits' ++ wPIN').setWidth 64 ↔
      bits = bits' ∧ wPIN = wPIN' := by
  constructor
  · intro same
    have halves := congrArg BitVec.toNat same
    rw [joined_toNat, joined_toNat] at halves
    have := wPIN.isLt
    have := wPIN'.isLt
    exact ⟨BitVec.eq_of_toNat_eq (by omega), BitVec.eq_of_toNat_eq (by omega)⟩
  · rintro ⟨rfl, rfl⟩
    rfl

/-- The collision classes: equal PINs and equal low halves of the hash. -/
theorem generateCustomerID_eq_iff (szName szName' : List Byte) (wPIN wPIN' : Word) :
    generateCustomerID szName (Bytes.strlen szName) wPIN =
        generateCustomerID szName' (Bytes.strlen szName') wPIN' ↔
      nameBits (Bytes.cString szName) = nameBits (Bytes.cString szName') ∧ wPIN = wPIN' := by
  rw [generateCustomerID_strlen, generateCustomerID_strlen, joined_eq_iff]

/-- A PIN other than `INVALID_PIN` never gives `INVALID_CUSTOMER_ID`. -/
theorem generateCustomerID_ne_zero (szName : List Byte) (wPIN : Word) (valid : wPIN ≠ 0) :
    generateCustomerID szName (Bytes.strlen szName) wPIN ≠ 0 := by
  rw [generateCustomerID_strlen]
  intro zero
  have value := congrArg BitVec.toNat zero
  rw [joined_toNat] at value
  change (nameBits (Bytes.cString szName)).toNat * 65536 + wPIN.toNat = 0 at value
  exact valid (BitVec.eq_of_toNat_eq (by change wPIN.toNat = 0; omega))

end Cnp
