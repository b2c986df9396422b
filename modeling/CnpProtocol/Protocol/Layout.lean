import CnpProtocol.Library.Packed
import CnpProtocol.Protocol.Messages

/-!
# Message layouts

There is no serialiser: a message on the wire is the memory of its packed structure. This
module lists the members of the eighteen structures of `CNP_Protocol.h` in declaration
order, so that a layout follows from the sizes a compiler gives the three integer types.
`DWORD` is `unsigned long`, which the two supported builds do not agree on.
-/

namespace Cnp

/-! ### Types and fields -/

inductive CType
  | word | dword | qword
  /-- `char[MAX_NAME_LEN]`. -/
  | name
  /-- A structure without members. -/
  | empty
  deriving DecidableEq

/-- The Visual C++ build for Win32 and the Makefile build on 64-bit Linux. -/
inductive Build
  | win32 | linux64
  deriving DecidableEq

def Build.sizeof : Build → CType → Nat
  | _, .word => sizeofWord
  -- `unsigned long`
  | .win32, .dword => sizeofDword
  | .linux64, .dword => 8
  | _, .qword => sizeofQword
  | _, .name => maxNameLen
  | _, .empty => Prim.sizeofEmptyRequest

/-- The members of all messages; `m_wClientID` occurs in the header and in the response to
a connect, and the transaction records are numbered. -/
inductive Field
  | msgType | dataLen | clientID | sequence | context
  | majorVersion | minorVersion | validationKey
  | result | newClientID
  | firstName | lastName | emailAddress | pin | ssNumber | dlNumber
  | amount | depositType
  | startID | transactionCount
  | balance
  | id (i : Nat) | dateTime (i : Nat) | transactionAmount (i : Nat) | transactionType (i : Nat)
  /-- The byte of an `m_Request` without members. -/
  | empty
  deriving DecidableEq

def Field.ctype : Field → CType
  | .msgType => .dword
  | .dataLen => .word
  | .clientID => .word
  | .sequence => .dword
  | .context => .dword
  | .majorVersion => .word
  | .minorVersion => .word
  | .validationKey => .dword
  | .result => .dword
  | .newClientID => .word
  | .firstName => .name
  | .lastName => .name
  | .emailAddress => .name
  | .pin => .word
  | .ssNumber => .dword
  | .dlNumber => .dword
  | .amount => .dword
  | .depositType => .word
  | .startID => .dword
  | .transactionCount => .word
  | .balance => .dword
  | .id _ => .dword
  | .dateTime _ => .qword
  | .transactionAmount _ => .dword
  | .transactionType _ => .word
  | .empty => .empty

def Build.width (b : Build) (f : Field) : Nat := b.sizeof f.ctype

theorem Build.width_pos (b : Build) (f : Field) : 0 < b.width f := by
  rw [Build.width]
  generalize f.ctype = type
  cases b <;> cases type <;> decide

theorem Build.zero_fits (b : Build) (f : Field) : 0 < 256 ^ b.width f := Nat.pow_pos (by decide)

/-! ### Structures -/

/-- `MSG_TYPE` without `MT_INVALID`. -/
inductive MsgType
  | connectRequest | connectResponse
  | createAccountRequest | createAccountResponse
  | logonRequest | logonResponse
  | logoffRequest | logoffResponse
  | depositRequest | depositResponse
  | withdrawalRequest | withdrawalResponse
  | balanceQueryRequest | balanceQueryResponse
  | transactionQueryRequest | transactionQueryResponse
  | purchaseStampsRequest | purchaseStampsResponse
  deriving DecidableEq

def MsgType.code : MsgType → Dword
  | .connectRequest => makeMsgType .connect .request
  | .connectResponse => makeMsgType .connect .response
  | .createAccountRequest => makeMsgType .createAccount .request
  | .createAccountResponse => makeMsgType .createAccount .response
  | .logonRequest => makeMsgType .logon .request
  | .logonResponse => makeMsgType .logon .response
  | .logoffRequest => makeMsgType .logoff .request
  | .logoffResponse => makeMsgType .logoff .response
  | .depositRequest => makeMsgType .deposit .request
  | .depositResponse => makeMsgType .deposit .response
  | .withdrawalRequest => makeMsgType .withdrawal .request
  | .withdrawalResponse => makeMsgType .withdrawal .response
  | .balanceQueryRequest => makeMsgType .balanceQuery .request
  | .balanceQueryResponse => makeMsgType .balanceQuery .response
  | .transactionQueryRequest => makeMsgType .transactionQuery .request
  | .transactionQueryResponse => makeMsgType .transactionQuery .response
  | .purchaseStampsRequest => makeMsgType .purchaseStamps .request
  | .purchaseStampsResponse => makeMsgType .purchaseStamps .response

def MsgType.all : List MsgType :=
  [.connectRequest, .connectResponse, .createAccountRequest, .createAccountResponse,
    .logonRequest, .logonResponse, .logoffRequest, .logoffResponse, .depositRequest,
    .depositResponse, .withdrawalRequest, .withdrawalResponse, .balanceQueryRequest,
    .balanceQueryResponse, .transactionQueryRequest, .transactionQueryResponse,
    .purchaseStampsRequest, .purchaseStampsResponse]

/-- The label of a `switch` over the message type that a value selects. -/
def MsgType.ofCode? (dwMsgType : Dword) : Option MsgType :=
  MsgType.all.find? fun t => decide (t.code = dwMsgType)

theorem MsgType.ofCode?_code (t : MsgType) : MsgType.ofCode? t.code = some t := by
  cases t <;> decide

/-- `STD_HDR`. -/
def stdHdr : List Field := [.msgType, .dataLen, .clientID, .sequence, .context]

/-- `TRANSACTION`, the record with number `i`. -/
def transaction (i : Nat) : List Field :=
  [.id i, .dateTime i, .transactionAmount i, .transactionType i]

/-- `m_Request` or `m_Response`; the flexible array of the transaction records has no
members. -/
def MsgType.body : MsgType → List Field
  | .connectRequest => [.majorVersion, .minorVersion, .validationKey]
  | .connectResponse => [.result, .majorVersion, .minorVersion, .newClientID]
  | .createAccountRequest => [.firstName, .lastName, .emailAddress, .pin, .ssNumber, .dlNumber]
  | .createAccountResponse => [.result]
  | .logonRequest => [.firstName, .pin]
  | .logonResponse => [.result]
  | .logoffRequest => [.empty]
  | .logoffResponse => [.result]
  | .depositRequest => [.amount, .depositType]
  | .depositResponse => [.result]
  | .withdrawalRequest => [.amount]
  | .withdrawalResponse => [.result]
  | .balanceQueryRequest => [.empty]
  | .balanceQueryResponse => [.result, .balance]
  | .transactionQueryRequest => [.startID, .transactionCount]
  | .transactionQueryResponse => [.result, .transactionCount]
  | .purchaseStampsRequest => [.amount]
  | .purchaseStampsResponse => [.result]

/-- `m_Hdr` and the body. -/
def MsgType.members (t : MsgType) : List Field := stdHdr ++ t.body

def records (n : Nat) : List Field := (List.range n).flatMap transaction

/-! ### Messages -/

/-- A message with values that fit the documented widths of its fields. -/
structure Message where
  type : MsgType
  value : Field → Nat
  fits : ∀ f, value f < 256 ^ Build.win32.width f

namespace Message

variable (b : Build) (m : Message)

/-- The number of records behind the structure. -/
def count : Nat :=
  match m.type with
  | .transactionQueryResponse => m.value .transactionCount
  | _ => 0

def members : List Field := m.type.members ++ records m.count

/-- The message in memory. -/
def bytes : List Byte := Packed.encode b.width m.members m.value

/-- `get_Size`: `sizeof(*this)`, and for the transactions also their number times
`sizeof(TRANSACTION)`. -/
def getSize : Nat :=
  Packed.sizeOf b.width m.type.members + m.count * Packed.sizeOf b.width (transaction 0)

/-- `m_wDataLen` as the constructor computes it, cut to a `WORD`. -/
def dataLen : Nat :=
  (Packed.sizeOf b.width m.type.body + m.count * Packed.sizeOf b.width (transaction 0)) % 2 ^ 16

/-- The accessors of a build give back the values of a message, whatever lies behind the
bytes. -/
def DecodedFrom (sent : List Byte) : Prop :=
  ∀ beyond, ∀ f ∈ m.members, f ≠ .empty →
    Packed.read b.width m.members (sent ++ beyond) f = m.value f

end Message

/-! ### Sizes -/

theorem sizeOf_records (b : Build) (n : Nat) :
    Packed.sizeOf b.width (records n) = n * Packed.sizeOf b.width (transaction 0) := by
  induction n with
  | zero => simp [records, Packed.sizeOf]
  | succ n ih =>
    have one : Packed.sizeOf b.width (transaction n) = Packed.sizeOf b.width (transaction 0) := rfl
    rw [records, List.range_succ, List.flatMap_append, List.flatMap_singleton,
      Packed.sizeOf_append, one]
    rw [records] at ih
    rw [ih, Nat.succ_mul]

/-- `get_Size` is the number of bytes of the message. -/
theorem Message.length_bytes (b : Build) (m : Message) : (m.bytes b).length = m.getSize b := by
  rw [Message.bytes, Packed.length_encode, Message.members, Packed.sizeOf_append, sizeOf_records,
    Message.getSize]

/-- A build decodes what it has sent. -/
theorem Message.decodedFrom_bytes (m : Message) : m.DecodedFrom .win32 (m.bytes .win32) :=
  fun beyond f member _ => Packed.read_encode _ _ _ beyond f member (m.fits f)

/-- The sizes the constructors write into `m_wDataLen`. -/
def MsgType.sizeofBody : MsgType → Nat
  | .connectRequest => Prim.sizeofConnectRequest
  | .connectResponse => Prim.sizeofConnectResponse
  | .createAccountRequest => Prim.sizeofCreateAccountRequest
  | .logonRequest => Prim.sizeofLogonRequest
  | .logoffRequest => Prim.sizeofEmptyRequest
  | .depositRequest => Prim.sizeofDepositRequest
  | .withdrawalRequest => Prim.sizeofAmountRequest
  | .balanceQueryRequest => Prim.sizeofEmptyRequest
  | .balanceQueryResponse => Prim.sizeofBalanceQueryResponse
  | .transactionQueryRequest => Prim.sizeofTransactionQueryRequest
  | .transactionQueryResponse => Prim.sizeofTransactionQueryResponse
  | .purchaseStampsRequest => Prim.sizeofAmountRequest
  | _ => Prim.sizeofResultResponse

theorem MsgType.sizeofBody_eq (t : MsgType) :
    Packed.sizeOf Build.win32.width t.body = t.sizeofBody := by
  cases t <;> rfl

end Cnp
