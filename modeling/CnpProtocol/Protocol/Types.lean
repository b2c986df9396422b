import CnpProtocol.Library.Bytes
import Mathlib.Order.Std

/-!
# Protocol types

The scalar types, enumerations and constants of `CNP_Protocol.h`, with `DWORD` at its
documented width of 32 bits, and the standard message header.
-/

instance BitVec.linearOrder {w : Nat} : LinearOrder (BitVec w) := .ofStd _

namespace Cnp

abbrev Word := BitVec 16
abbrev Dword := BitVec 32
abbrev Qword := BitVec 64

def majorVersion : Word := 1
def minorVersion : Word := 1

def validationKey : Dword := 0x00DEAD01

def maxNameLen : Nat := 32

def invalidClientID : Word := ~~~0
def invalidPin : Word := 0

/-! ### Message types -/

inductive CnpMsgType
  | invalid | connect | createAccount | logon | logoff | deposit | withdrawal
  | balanceQuery | transactionQuery | purchaseStamps
  deriving DecidableEq, Repr

def CnpMsgType.code : CnpMsgType → Dword
  | .invalid => 0x00
  | .connect => 0x50
  | .createAccount => 0x51
  | .logon => 0x52
  | .logoff => 0x53
  | .deposit => 0x54
  | .withdrawal => 0x55
  | .balanceQuery => 0x56
  | .transactionQuery => 0x57
  | .purchaseStamps => 0x58

inductive CnpMsgSubtype
  | invalid | request | response
  deriving DecidableEq, Repr

def CnpMsgSubtype.code : CnpMsgSubtype → Dword
  | .invalid => 0x00
  | .request => 0x01
  | .response => 0x02

/-- `MAKE_MSG_TYPE`; the enumerators of `MSG_TYPE` are its values. -/
def makeMsgType (type : CnpMsgType) (sub : CnpMsgSubtype) : Dword :=
  (sub.code <<< 16) + type.code

/-! ### Result codes -/

inductive CfcType
  | connect | credentials | functional | account | undefined
  deriving DecidableEq, Repr

def CfcType.code : CfcType → Dword
  | .connect => 0
  | .credentials => 1
  | .functional => 2
  | .account => 3
  | .undefined => 4

def makeErrorResult (facility : CfcType) (sub : Dword) : Dword := (facility.code <<< 16) + sub

inductive CerType
  | success | authenicationFailed | unsupportedProtocol | invalidClientID | invalidNamePin
  | invalidArguments | clientNotLoggedon | drawerBlocked | insufficientFunds
  | accountNotFound | accountExists | error
  deriving DecidableEq, Repr

def CerType.code : CerType → Dword
  | .success => 0
  | .authenicationFailed => makeErrorResult .connect 0x01
  | .unsupportedProtocol => makeErrorResult .connect 0x02
  | .invalidClientID => makeErrorResult .credentials 0x01
  | .invalidNamePin => makeErrorResult .credentials 0x02
  | .invalidArguments => makeErrorResult .functional 0x01
  | .clientNotLoggedon => makeErrorResult .functional 0x02
  | .drawerBlocked => makeErrorResult .functional 0x03
  | .insufficientFunds => makeErrorResult .account 0x01
  | .accountNotFound => makeErrorResult .account 0x02
  | .accountExists => makeErrorResult .account 0x03
  | .error => ~~~0

/-- Different results have different codes on the wire. -/
theorem CerType.code_injective : Function.Injective CerType.code := by
  intro a b same
  revert same
  cases a <;> cases b <;> decide

inductive DepositType
  | invalid | cash | check
  deriving DecidableEq, Repr

def DepositType.code : DepositType → Word
  | .invalid => 0
  | .cash => 0x01
  | .check => 0x02

inductive TransactionType
  | invalid | deposit | withdrawal | stampPurchase
  deriving DecidableEq, Repr

def TransactionType.code : TransactionType → Word
  | .invalid => 0
  | .deposit => 0x01
  | .withdrawal => 0x02
  | .stampPurchase => 0x03

theorem TransactionType.code_injective : Function.Injective TransactionType.code := by
  intro a b same
  revert same
  cases a <;> cases b <;> decide

/-! ### Records and headers -/

/-- Sizes in bytes; the structures are packed. -/
def sizeofWord : Nat := 2
def sizeofDword : Nat := 4
def sizeofQword : Nat := 8

/-- `cnp::TRANSACTION`. -/
structure Transaction where
  id : Dword
  dateTime : Qword
  amount : Dword
  type : Word
  deriving DecidableEq, Repr

def sizeofTransaction : Nat := sizeofDword + sizeofQword + sizeofDword + sizeofWord

/-- A `char[MAX_NAME_LEN]` member. -/
structure NameField where
  bytes : List Byte
  length_eq : bytes.length = maxNameLen
  deriving DecidableEq

def NameField.zero : NameField := ⟨List.replicate maxNameLen 0, List.length_replicate⟩

/-- The field at an address. -/
def NameField.at (memory : List Byte) : NameField where
  bytes := (memory ++ List.replicate maxNameLen 0).take maxNameLen
  length_eq := by simp

theorem NameField.at_append (field : NameField) (memory : List Byte) :
    NameField.at (field.bytes ++ memory) = field := by
  cases field with
  | mk bytes length_eq =>
    simp only [NameField.at, List.append_assoc, NameField.mk.injEq]
    exact List.take_left' length_eq

theorem NameField.drop_append (field : NameField) (memory : List Byte) :
    (field.bytes ++ memory).drop maxNameLen = memory :=
  List.drop_left' field.length_eq

/-- The string a field holds when it is terminated inside the field. -/
def NameField.string (field : NameField) : List Byte := Bytes.cString field.bytes

/-- `set_FirstName` and its siblings: `strncpy` of at most `COUNTOF(field) - 1` bytes. -/
def NameField.set (field : NameField) (szSet : List Byte) : NameField where
  bytes := Bytes.strncpy field.bytes szSet (maxNameLen - 1)
  length_eq := by
    have := field.length_eq
    simp only [Bytes.strncpy, List.length_append, List.length_take, List.length_replicate,
      List.length_drop, maxNameLen] at *
    omega

/-- A setter on a cleared field stores at most 31 characters and terminates them. -/
theorem NameField.bytes_set_zero (szSet : List Byte) :
    (NameField.zero.set szSet).bytes = (Bytes.cString szSet).take (maxNameLen - 1) ++ 0 ::
      List.replicate (maxNameLen - 1 - ((Bytes.cString szSet).take (maxNameLen - 1)).length)
        0 := by
  -- the last byte is beyond the reach of `strncpy` and keeps its zero
  have last : NameField.zero.bytes.drop (maxNameLen - 1) = List.replicate 1 0 := rfl
  change Bytes.strncpy NameField.zero.bytes szSet (maxNameLen - 1) = _
  rw [Bytes.strncpy, last, List.append_assoc, List.replicate_append_replicate, List.replicate_succ]

theorem NameField.zero_mem_set_zero (szSet : List Byte) :
    0 ∈ (NameField.zero.set szSet).bytes := by
  simp [NameField.bytes_set_zero]

theorem NameField.string_set_zero (szSet : List Byte) :
    (NameField.zero.set szSet).string = (Bytes.cString szSet).take (maxNameLen - 1) := by
  rw [NameField.string, NameField.bytes_set_zero]
  apply Bytes.cString_append_zero
  exact fun member => Bytes.zero_notMem_cString szSet (List.mem_of_mem_take member)

/-- `cnp::STD_HDR`. -/
structure StdHdr where
  msgType : Dword
  dataLen : Word
  clientID : Word
  sequence : Dword
  context : Dword
  deriving DecidableEq, Repr

/-- The initialization constructor, with its parameters in the order of the source. -/
def StdHdr.init (dwMsgType : Dword) (wDataLen : Word) (wClientID : Word) (dwSequence : Dword)
    (dwContext : Dword) : StdHdr :=
  ⟨dwMsgType, wDataLen, wClientID, dwSequence, dwContext⟩

def sizeofStdHdr : Nat := sizeofDword + sizeofWord + sizeofWord + sizeofDword + sizeofDword

end Cnp
