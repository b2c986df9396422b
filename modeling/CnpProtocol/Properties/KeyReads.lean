import CnpProtocol.Protocol.Layout
import CnpProtocol.Server.Hash

/-!
# What the hash reads

The block loop of the hash loads a `DWORD` and advances by four bytes. Where `unsigned long`
has four bytes, no load leaves the key. Where it has eight, the last block of every key of
four bytes or more takes in bytes behind the key, and each of these changes the customer ID.
-/

namespace Cnp

/-- `GenerateCustomerID` in a build: the hash and the shift are in its `unsigned long`. -/
def Build.generateCustomerID (build : Build) (szFirstName : List Byte) (cbLen : Nat)
    (wPIN : Word) : Qword :=
  let dwNameHash := fnv1aHash (build.sizeof .dword) szFirstName cbLen
  ((dwNameHash <<< (sizeofWord <<< 3)) ^^^ wPIN.setWidth (8 * build.sizeof .dword)).setWidth 64

/-- The build with the documented `DWORD`. -/
theorem Build.generateCustomerID_win32 :
    Build.win32.generateCustomerID = Cnp.generateCustomerID := rfl

/-! ### Values that differ in the top byte -/

/-- Two values of 64 bits that differ, but only in the top byte. -/
structure TopDiffers (x y : BitVec 64) : Prop where
  low : x.toNat % 2 ^ 56 = y.toNat % 2 ^ 56
  ne : x ≠ y

theorem TopDiffers.xor {x y : BitVec 64} (differ : TopDiffers x y) (z : BitVec 64) :
    TopDiffers (x ^^^ z) (y ^^^ z) where
  low := by
    rw [BitVec.toNat_xor, BitVec.toNat_xor, Nat.xor_mod_two_pow, Nat.xor_mod_two_pow, differ.low]
  ne same := differ.ne ((BitVec.xor_left_inj z).mp same)

/-- Multiplication by 31 keeps the low bytes equal and loses nothing of the top byte. -/
theorem TopDiffers.round {x y : BitVec 64} (differ : TopDiffers x y) :
    TopDiffers ((x <<< 5) - x) ((y <<< 5) - y) := by
  have value (z : BitVec 64) : ((z <<< 5) - z).toNat = 31 * z.toNat % 2 ^ 64 := by
    have := z.isLt
    rw [BitVec.toNat_sub, BitVec.toNat_shiftLeft, Nat.shiftLeft_eq]
    omega
  have low := differ.low
  refine ⟨by rw [value, value]; omega, fun same => differ.ne (BitVec.eq_of_toNat_eq ?_)⟩
  have product := congrArg BitVec.toNat same
  rw [value, value] at product
  have := x.isLt
  have := y.isLt
  omega

theorem TopDiffers.fnvRound {dwHash dwHash' : BitVec 64} (differ : TopDiffers dwHash dwHash')
    (x : BitVec 64) : TopDiffers (fnvRound dwHash x) (fnvRound dwHash' x) :=
  (differ.xor x).round

theorem TopDiffers.fnvRound_operand {x x' : BitVec 64} (differ : TopDiffers x x')
    (dwHash : BitVec 64) : TopDiffers (Cnp.fnvRound dwHash x) (Cnp.fnvRound dwHash x') := by
  have operands := differ.xor dwHash
  rw [BitVec.xor_comm x, BitVec.xor_comm x'] at operands
  exact operands.round

/-- The last step of the hash and the shift keep the difference. -/
theorem TopDiffers.customerID {x y : BitVec 64} (differ : TopDiffers x y) (wPIN : Word) :
    (((x >>> 16) ^^^ x) <<< 16) ^^^ wPIN.setWidth 64 ≠
      (((y >>> 16) ^^^ y) <<< 16) ^^^ wPIN.setWidth 64 := by
  intro same
  have shifted := congrArg BitVec.toNat ((BitVec.xor_left_inj _).mp same)
  rw [BitVec.toNat_shiftLeft, BitVec.toNat_shiftLeft, Nat.shiftLeft_eq, Nat.shiftLeft_eq] at shifted
  -- the shift leaves 48 bits of the hash
  have kept : ((x >>> 16) ^^^ x).toNat % 2 ^ 48 = ((y >>> 16) ^^^ y).toNat % 2 ^ 48 := by omega
  rw [BitVec.toNat_xor, BitVec.toNat_xor, Nat.xor_mod_two_pow, Nat.xor_mod_two_pow,
    BitVec.toNat_ushiftRight, BitVec.toNat_ushiftRight, Nat.shiftRight_eq_div_pow,
    Nat.shiftRight_eq_div_pow] at kept
  have low : x.toNat % 2 ^ 48 = y.toNat % 2 ^ 48 := by
    have := differ.low
    omega
  rw [low] at kept
  have high := congrArg (· ^^^ (y.toNat % 2 ^ 48)) kept
  simp only [Nat.xor_assoc, Nat.xor_self, Nat.xor_zero] at high
  refine differ.ne (BitVec.eq_of_toNat_eq ?_)
  have := x.isLt
  have := y.isLt
  omega

/-! ### The byte behind the key -/

section Loads

variable {memory memory' : Nat → Byte}

theorem TopDiffers.load (address : Nat)
    (same : ∀ a, address ≤ a → a < address + 7 → memory' a = memory a)
    (different : memory' (address + 7) ≠ memory (address + 7)) :
    TopDiffers ((Reads.load 8 address).run memory) ((Reads.load 8 address).run memory') := by
  have value (m : Nat → Byte) : ((Reads.load 8 address).run m).toNat =
      Bytes.leNat ((List.range' address 7).map m) + 2 ^ 56 * (m (address + 7)).toNat := by
    have split : List.range' address 8 = List.range' address 7 ++ [address + 7] :=
      List.range'_concat
    have low := Bytes.leNat_lt ((List.range' address 7).map m)
    have top := (m (address + 7)).isLt
    rw [List.length_map, List.length_range'] at low
    rw [Reads.run_load, split, List.map_append, Bytes.leNat_append, List.length_map,
      List.length_range', BitVec.toNat_ofNat]
    simp only [List.map_cons, List.map_nil, Bytes.leNat]
    omega
  have low : (List.range' address 7).map memory' = (List.range' address 7).map memory := by
    refine List.map_congr_left fun a member => ?_
    rw [List.mem_range'_1] at member
    exact same a member.1 member.2
  have bound := Bytes.leNat_lt ((List.range' address 7).map memory)
  rw [List.length_map, List.length_range'] at bound
  refine ⟨by rw [value, value, low]; omega, fun equal => different (BitVec.eq_of_toNat_eq ?_)⟩
  have values := congrArg BitVec.toNat equal
  rw [value, value, low] at values
  omega

/-- The last block takes in the byte three bytes behind the blocks. -/
theorem TopDiffers.blocks (pKeyLoc n : Nat) (block : 4 ≤ n)
    (others : ∀ a, a ≠ pKeyLoc + 4 * (n / 4) + 3 → memory' a = memory a)
    (different : memory' (pKeyLoc + 4 * (n / 4) + 3) ≠ memory (pKeyLoc + 4 * (n / 4) + 3))
    (dwHash : BitVec 64) :
    TopDiffers ((readBlocks 8 dwHash pKeyLoc n).run memory).1
      ((readBlocks 8 dwHash pKeyLoc n).run memory').1 := by
  induction n using blocks_induction generalizing dwHash pKeyLoc with
  | last n short => omega
  | next n ih =>
    have count := Nat.add_div_right n (show 0 < 4 by decide)
    rw [count] at others different
    rw [readBlocks, Reads.run_bind, Reads.run_bind]
    by_cases last : n < 4
    · -- this block is the last one
      rw [Nat.div_eq_of_lt last] at others different
      rw [readBlocks_short 8 _ _ n last, readBlocks_short 8 _ _ n last]
      have operand := TopDiffers.load pKeyLoc (fun a _ below => others a (by omega)) different
      exact operand.fnvRound_operand dwHash
    · -- this block lies in the key
      have same : (Reads.load 8 pKeyLoc).run memory' = (Reads.load 8 pKeyLoc).run memory := by
        refine Reads.run_congr _ _ _ fun a member => others a ?_
        rw [Reads.addresses_load, List.mem_range'_1] at member
        omega
      have address : pKeyLoc + 4 + 4 * (n / 4) + 3 = pKeyLoc + 4 * (n / 4 + 1) + 3 := by omega
      rw [same]
      exact ih (pKeyLoc + 4) (by omega) (address ▸ others) (address ▸ different) _

theorem TopDiffers.tail {dwHash dwHash' : BitVec 64} (differ : TopDiffers dwHash dwHash')
    (memory : Nat → Byte) (pKeyLoc n : Nat) (short : n < 4) :
    TopDiffers ((readTail dwHash pKeyLoc n).run memory)
      ((readTail dwHash' pKeyLoc n).run memory) := by
  have lengths : n = 0 ∨ n = 1 ∨ n = 2 ∨ n = 3 := by omega
  rcases lengths with rfl | rfl | rfl | rfl
  · exact differ
  · exact differ.fnvRound _
  · exact differ.fnvRound _
  · exact (differ.fnvRound _).fnvRound _

end Loads

/-- On 64-bit Linux the byte three bytes behind the blocks of the key changes the customer
ID. -/
theorem linux_customerID_ne (buffer buffer' : List Byte) (pKey cbLen : Nat) (wPIN : Word)
    (block : 4 ≤ cbLen)
    (others : ∀ a, a ≠ pKey + 4 * (cbLen / 4) + 3 → Reads.cell buffer' a = Reads.cell buffer a)
    (different : Reads.cell buffer' (pKey + 4 * (cbLen / 4) + 3) ≠
      Reads.cell buffer (pKey + 4 * (cbLen / 4) + 3)) :
    Build.linux64.generateCustomerID (buffer.drop pKey) cbLen wPIN ≠
      Build.linux64.generateCustomerID (buffer'.drop pKey) cbLen wPIN := by
  let start : BitVec 64 := BitVec.ofNat 64 2166136261
  let hash (memory : Nat → Byte) : BitVec 64 :=
    (readTail ((readBlocks 8 start pKey cbLen).run memory).1 (pKey + 4 * (cbLen / 4))
      (cbLen % 4)).run memory
  have value (b : List Byte) : Build.linux64.generateCustomerID (b.drop pKey) cbLen wPIN =
      (((hash (Reads.cell b) >>> 16) ^^^ hash (Reads.cell b)) <<< 16) ^^^ wPIN.setWidth 64 := by
    have run := run_readHash 8 b pKey cbLen
    simp only [readHash, Reads.run_bind, readBlocks_rest, Reads.run_pure] at run
    have shifted : Build.linux64.generateCustomerID (b.drop pKey) cbLen wPIN =
        (((fnv1aHash 8 (b.drop pKey) cbLen : BitVec 64) <<< 16) ^^^ wPIN.setWidth 64).setWidth 64 :=
      rfl
    rw [shifted, ← run]
    exact BitVec.setWidth_eq _
  -- the tail lies in the key
  have last : cbLen % 4 < 4 := Nat.mod_lt _ (by decide)
  have tail (h : BitVec 64) :
      (readTail h (pKey + 4 * (cbLen / 4)) (cbLen % 4)).run (Reads.cell buffer') =
        (readTail h (pKey + 4 * (cbLen / 4)) (cbLen % 4)).run (Reads.cell buffer) := by
    refine Reads.run_congr _ _ _ fun a member => others a ?_
    rw [addresses_readTail _ _ _ _ last, List.mem_range'_1] at member
    omega
  rw [value, value]
  refine TopDiffers.customerID ?_ wPIN
  simp only [hash, tail]
  exact (TopDiffers.blocks pKey cbLen block others different start).tail _ _ _ last

/-! ### Hash and key -/

/-- Every byte that the hash reads belongs to the key. -/
def ReadsInside (build : Build) (buffer : List Byte) (pKey cbLen : Nat) : Prop :=
  ∀ a ∈ (readHash (build.sizeof .dword) pKey cbLen).addresses (Reads.cell buffer),
    pKey ≤ a ∧ a < pKey + cbLen

/-- Two buffers hold the same `cbLen` bytes, each from its own address on. -/
def SameKey (buffer : List Byte) (pKey : Nat) (buffer' : List Byte) (pKey' cbLen : Nat) : Prop :=
  ∀ i < cbLen, Reads.cell buffer' (pKey' + i) = Reads.cell buffer (pKey + i)

/-- The key alone gives the hash. -/
def HashOfKey (build : Build) (buffer : List Byte) (pKey cbLen : Nat) : Prop :=
  ∀ buffer' pKey', SameKey buffer pKey buffer' pKey' cbLen →
    fnv1aHash (build.sizeof .dword) (buffer'.drop pKey') cbLen =
      fnv1aHash (build.sizeof .dword) (buffer.drop pKey) cbLen

/-- The key and the PIN alone give the customer ID. -/
def CustomerIDOfKey (build : Build) (buffer : List Byte) (pKey cbLen : Nat) : Prop :=
  ∀ buffer' pKey' wPIN, SameKey buffer pKey buffer' pKey' cbLen →
    build.generateCustomerID (buffer'.drop pKey') cbLen wPIN =
      build.generateCustomerID (buffer.drop pKey) cbLen wPIN

theorem HashOfKey.customerID {build : Build} {buffer : List Byte} {pKey cbLen : Nat}
    (hash : HashOfKey build buffer pKey cbLen) : CustomerIDOfKey build buffer pKey cbLen := by
  intro buffer' pKey' wPIN same
  rw [Build.generateCustomerID, Build.generateCustomerID, hash buffer' pKey' same]

section

variable (build : Build) (buffer : List Byte) (pKey cbLen : Nat)

/-- Either no load is wider than a block, or there is no block. -/
theorem narrow_of_inside (inside : build = .win32 ∨ cbLen < 4) :
    build.sizeof .dword ≤ 4 ∨ cbLen < 4 := by
  rcases inside with rfl | short
  · exact Or.inl (Nat.le_refl 4)
  · exact Or.inr short

theorem readsInside_iff : ReadsInside build buffer pKey cbLen ↔ build = .win32 ∨ cbLen < 4 := by
  constructor
  · intro reads
    by_contra outside
    obtain ⟨linux, block⟩ := not_or.mp outside
    cases build with
    | win32 => exact linux rfl
    | linux64 =>
      -- the last byte of the last block
      have last := reads (pKey + 4 * (cbLen / 4) + 3)
        ((mem_addresses_readHash 8 _ pKey cbLen _).mpr
          (Or.inl ⟨cbLen / 4 - 1, by omega, by omega, by omega⟩))
      omega
  · intro inside
    exact addresses_readHash_inside (narrow_of_inside build cbLen inside) _ pKey

theorem hashOfKey_of_inside (inside : build = .win32 ∨ cbLen < 4) :
    HashOfKey build buffer pKey cbLen := by
  intro buffer' pKey' same
  refine fnv1aHash_cells (narrow_of_inside build cbLen inside) _ _ fun i below => ?_
  rw [← Reads.headD_drop, ← Reads.headD_drop, List.drop_drop, List.drop_drop, Reads.headD_drop,
    Reads.headD_drop]
  exact same i below

theorem inside_of_customerIDOfKey (customerID : CustomerIDOfKey build buffer pKey cbLen) :
    build = .win32 ∨ cbLen < 4 := by
  by_contra outside
  obtain ⟨linux, block⟩ := not_or.mp outside
  cases build with
  | win32 => exact linux rfl
  | linux64 =>
    -- the buffer with another byte behind the key
    let top := pKey + 4 * (cbLen / 4) + 3
    let buffer' := Reads.poke buffer top (Reads.cell buffer top + 1)
    have others (a : Nat) (other : a ≠ top) : Reads.cell buffer' a = Reads.cell buffer a := by
      simp only [buffer', Reads.cell_poke, if_neg other]
    have different : Reads.cell buffer' top ≠ Reads.cell buffer top := by
      simp only [buffer', Reads.cell_poke, if_true]
      intro same
      have value := congrArg BitVec.toNat same
      rw [BitVec.toNat_add] at value
      have := (Reads.cell buffer top).isLt
      have one : (1 : Byte).toNat = 1 := rfl
      omega
    have same : SameKey buffer pKey buffer' pKey cbLen := fun i below => others _ (by omega)
    exact linux_customerID_ne buffer buffer' pKey cbLen 0 (by omega) others different
      (customerID buffer' pKey 0 same).symm

/-- In each build, for every buffer, every start and every length: the reads stay in the key,
the hash depends on the key alone, and so does the customer ID, if and only if `unsigned
long` has four bytes or the key has less than four. -/
theorem reads_only_key_iff :
    (ReadsInside build buffer pKey cbLen ↔ build = .win32 ∨ cbLen < 4) ∧
      (HashOfKey build buffer pKey cbLen ↔ build = .win32 ∨ cbLen < 4) ∧
      (CustomerIDOfKey build buffer pKey cbLen ↔ build = .win32 ∨ cbLen < 4) := by
  refine ⟨readsInside_iff build buffer pKey cbLen, ⟨fun hash => ?_, ?_⟩, ?_, fun inside => ?_⟩
  · exact inside_of_customerIDOfKey build buffer pKey cbLen hash.customerID
  · exact hashOfKey_of_inside build buffer pKey cbLen
  · exact inside_of_customerIDOfKey build buffer pKey cbLen
  · exact (hashOfKey_of_inside build buffer pKey cbLen inside).customerID

end

/-- `Anna` with her terminator in two buffers that differ two bytes later: the loads go behind
the four bytes of her name, and on 64-bit Linux she has two customer IDs. -/
theorem anna_two_ids :
    let buffer : List Byte := [65, 110, 110, 97, 0, 0, 0, 0]
    let buffer' : List Byte := [65, 110, 110, 97, 0, 0, 0, 9]
    7 ∈ (readHash (Build.linux64.sizeof .dword) 0 4).addresses (Reads.cell buffer) ∧
      SameKey buffer 0 buffer' 0 4 ∧
      Build.linux64.generateCustomerID buffer 4 4711 ≠
        Build.linux64.generateCustomerID buffer' 4 4711 ∧
      ¬ ReadsInside .linux64 buffer 0 4 ∧ ¬ HashOfKey .linux64 buffer 0 4 ∧
      ¬ CustomerIDOfKey .linux64 buffer 0 4 := by
  intro buffer buffer'
  have same : SameKey buffer 0 buffer' 0 4 := by
    unfold SameKey
    decide
  have different : Build.linux64.generateCustomerID buffer 4 4711 ≠
      Build.linux64.generateCustomerID buffer' 4 4711 := by
    decide +kernel
  have read : 7 ∈ (readHash (Build.linux64.sizeof .dword) 0 4).addresses (Reads.cell buffer) := by
    decide +kernel
  refine ⟨read, same, different, fun reads => ?_, fun hash => ?_, fun customerID => ?_⟩
  · exact absurd (reads 7 read).2 (by decide)
  · exact different (hash.customerID buffer' 0 4711 same).symm
  · exact different (customerID buffer' 0 4711 same).symm

end Cnp
