import CnpProtocol.Server.Hash
import CnpProtocol.Server.Tables

/-!
# What a customer ID determines

The name hash is shifted in a `DWORD` before it is widened, so of its 32 bits the lower
sixteen reach the ID. They stand above the PIN, and nothing else is in the ID.
-/

namespace Cnp

/-- The lower half of an ID is the PIN. -/
theorem setWidth_generateCustomerID (szFirstName : List Byte) (cbLen : Nat) (wPIN : Word) :
    (generateCustomerID szFirstName cbLen wPIN).setWidth 16 = wPIN := by
  rw [generateCustomerID_eq]
  apply BitVec.eq_of_toNat_eq
  rw [BitVec.toNat_setWidth, joined_toNat]
  have := wPIN.isLt
  omega

/-- The upper half of the lower `DWORD` is the lower half of the hash. -/
theorem hashHalf_generateCustomerID (szFirstName : List Byte) (cbLen : Nat) (wPIN : Word) :
    hashHalf (generateCustomerID szFirstName cbLen wPIN) =
      (fnv1aHash 4 szFirstName cbLen).setWidth 16 := by
  rw [generateCustomerID_eq, hashHalf_joined]

/-- A valid PIN gives a valid ID. -/
theorem generateCustomerID_valid (szFirstName : List Byte) (cbLen : Nat) (wPIN : Word)
    (valid : isValidPIN wPIN = true) :
    isValidCustomerID (generateCustomerID szFirstName cbLen wPIN) = true := by
  rw [isValidPIN, bne_iff_ne] at valid
  rw [isValidCustomerID, bne_iff_ne]
  intro invalid
  -- the PIN of the invalid ID is the invalid PIN
  have pin := setWidth_generateCustomerID szFirstName cbLen wPIN
  rw [invalid] at pin
  exact valid pin.symm

/-- For all names and PINs: the ID ends in the PIN, so a valid PIN gives a valid ID, and two
IDs are equal exactly when the PINs and the lower halves of the hashes are. -/
theorem customerID_determines (n₁ n₂ : List Byte) (p₁ p₂ : Word) :
    (generateCustomerID n₁ n₁.length p₁).setWidth 16 = p₁ ∧
      (isValidPIN p₁ = true →
        isValidCustomerID (generateCustomerID n₁ n₁.length p₁) = true) ∧
      (generateCustomerID n₁ n₁.length p₁ = generateCustomerID n₂ n₂.length p₂ ↔
        p₁ = p₂ ∧ (fnv1aHash 4 n₁ n₁.length).setWidth 16 =
          (fnv1aHash 4 n₂ n₂.length).setWidth 16) := by
  refine ⟨setWidth_generateCustomerID n₁ n₁.length p₁,
    generateCustomerID_valid n₁ n₁.length p₁, ⟨fun same => ⟨?_, ?_⟩, ?_⟩⟩
  · rw [← setWidth_generateCustomerID n₁ n₁.length p₁, same, setWidth_generateCustomerID]
  · rw [← hashHalf_generateCustomerID n₁ n₁.length p₁, same, hashHalf_generateCustomerID]
  · rintro ⟨rfl, bits⟩
    rw [generateCustomerID_eq, generateCustomerID_eq, bits]

/-- The PIN of `Anna` is valid, and so is her ID. -/
theorem customerID_determines_anna :
    isValidCustomerID (generateCustomerID [65, 110, 110, 97] 4 4711) = true :=
  (customerID_determines [65, 110, 110, 97] [] 4711 0).2.1 (by decide)

end Cnp
