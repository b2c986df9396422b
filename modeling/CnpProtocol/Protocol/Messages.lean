import CnpProtocol.Protocol.Types

/-!
# Messages

The request and response structures of `CNP_Protocol.h` with their initialization
constructors. A request constructor takes the value of `g_dwSequenceNumber` that it
consumes as its first argument; a default argument of the source is passed explicitly.
-/

namespace Cnp

/-! ### Message primitives -/

namespace Prim

structure ConnectRequest where
  majorVersion : Word
  minorVersion : Word
  validationKey : Dword
  deriving DecidableEq

structure ConnectResponse where
  result : Dword
  majorVersion : Word
  minorVersion : Word
  clientID : Word
  deriving DecidableEq

structure CreateAccountRequest where
  firstName : NameField
  lastName : NameField
  emailAddress : NameField
  pin : Word
  ssNumber : Dword
  dlNumber : Dword
  deriving DecidableEq

structure LogonRequest where
  firstName : NameField
  pin : Word
  deriving DecidableEq

/-- `_LOGOFF_REQUEST` and `_BALANCE_QUERY_REQUEST` have no members. -/
structure EmptyRequest where
  deriving DecidableEq

structure DepositRequest where
  amount : Dword
  type : Word
  deriving DecidableEq

/-- `_WITHDRAWAL_REQUEST` and `_STAMP_PURCHASE_REQUEST`. -/
structure AmountRequest where
  amount : Dword
  deriving DecidableEq

structure TransactionQueryRequest where
  startID : Dword
  transactionCount : Word
  deriving DecidableEq

/-- The response primitives that hold a result and nothing else. -/
structure ResultResponse where
  result : Dword
  deriving DecidableEq

structure BalanceQueryResponse where
  result : Dword
  balance : Dword
  deriving DecidableEq

structure TransactionQueryResponse where
  result : Dword
  transactionCount : Word
  transactions : List Transaction
  deriving DecidableEq

def CreateAccountRequest.init (szFirstName szLastName szEmailAddress : List Byte) (wPIN : Word)
    (dwSSNumber dwDLNumber : Dword) : CreateAccountRequest where
  firstName := NameField.zero.set szFirstName
  lastName := NameField.zero.set szLastName
  emailAddress := NameField.zero.set szEmailAddress
  pin := wPIN
  ssNumber := dwSSNumber
  dlNumber := dwDLNumber

def LogonRequest.init (szFirstName : List Byte) (wPIN : Word) : LogonRequest where
  firstName := NameField.zero.set szFirstName
  pin := wPIN

/-! The sizes the compiler gives the packed structures; a structure without members takes
one byte, and a flexible array member takes none. -/

def sizeofConnectRequest : Nat := sizeofWord + sizeofWord + sizeofDword
def sizeofConnectResponse : Nat := sizeofDword + sizeofWord + sizeofWord + sizeofWord
def sizeofCreateAccountRequest : Nat :=
  maxNameLen + maxNameLen + maxNameLen + sizeofWord + sizeofDword + sizeofDword
def sizeofLogonRequest : Nat := maxNameLen + sizeofWord
def sizeofEmptyRequest : Nat := 1
def sizeofDepositRequest : Nat := sizeofDword + sizeofWord
def sizeofAmountRequest : Nat := sizeofDword
def sizeofTransactionQueryRequest : Nat := sizeofDword + sizeofWord
def sizeofResultResponse : Nat := sizeofDword
def sizeofBalanceQueryResponse : Nat := sizeofDword + sizeofDword
def sizeofTransactionQueryResponse : Nat := sizeofDword + sizeofWord

end Prim

/-! ### Requests -/

structure ConnectRequest where
  hdr : StdHdr
  request : Prim.ConnectRequest
  deriving DecidableEq

structure CreateAccountRequest where
  hdr : StdHdr
  request : Prim.CreateAccountRequest
  deriving DecidableEq

structure LogonRequest where
  hdr : StdHdr
  request : Prim.LogonRequest
  deriving DecidableEq

structure LogoffRequest where
  hdr : StdHdr
  request : Prim.EmptyRequest
  deriving DecidableEq

structure DepositRequest where
  hdr : StdHdr
  request : Prim.DepositRequest
  deriving DecidableEq

structure WithdrawalRequest where
  hdr : StdHdr
  request : Prim.AmountRequest
  deriving DecidableEq

structure BalanceQueryRequest where
  hdr : StdHdr
  request : Prim.EmptyRequest
  deriving DecidableEq

structure TransactionQueryRequest where
  hdr : StdHdr
  request : Prim.TransactionQueryRequest
  deriving DecidableEq

structure StampPurchaseRequest where
  hdr : StdHdr
  request : Prim.AmountRequest
  deriving DecidableEq

/-- The header every request constructor builds. -/
def requestHdr (type : CnpMsgType) (sizeofRequest : Nat) (dwSequence : Dword) (wClientID : Word)
    (dwContext : Dword) : StdHdr :=
  .init (makeMsgType type .request) (BitVec.ofNat 16 sizeofRequest) wClientID dwSequence dwContext

def ConnectRequest.init (dwSequence : Dword) (wClientID wMajorVersion wMinorVersion : Word)
    (dwValidationKey dwContext : Dword) : ConnectRequest where
  hdr := requestHdr .connect Prim.sizeofConnectRequest dwSequence wClientID dwContext
  request := ⟨wMajorVersion, wMinorVersion, dwValidationKey⟩

def CreateAccountRequest.init (dwSequence : Dword) (wClientID : Word)
    (szFirstName szLastName szEmailAddress : List Byte) (wPIN : Word)
    (dwSSN dwDLN dwClientContext : Dword) : CreateAccountRequest where
  hdr := requestHdr .createAccount Prim.sizeofCreateAccountRequest dwSequence wClientID
    dwClientContext
  request := .init szFirstName szLastName szEmailAddress wPIN dwSSN dwDLN

def LogonRequest.init (dwSequence : Dword) (wClientID : Word) (szFirstName : List Byte)
    (wPIN : Word) (dwContext : Dword) : LogonRequest where
  hdr := requestHdr .logon Prim.sizeofLogonRequest dwSequence wClientID dwContext
  request := .init szFirstName wPIN

def LogoffRequest.init (dwSequence : Dword) (wClientID : Word) (dwContext : Dword) :
    LogoffRequest where
  hdr := requestHdr .logoff Prim.sizeofEmptyRequest dwSequence wClientID dwContext
  request := ⟨⟩

def DepositRequest.init (dwSequence : Dword) (wClientID : Word) (dwAmount : Dword)
    (type : DepositType) (dwContext : Dword) : DepositRequest where
  hdr := requestHdr .deposit Prim.sizeofDepositRequest dwSequence wClientID dwContext
  request := ⟨dwAmount, type.code⟩

def WithdrawalRequest.init (dwSequence : Dword) (wClientID : Word) (dwAmount dwContext : Dword) :
    WithdrawalRequest where
  hdr := requestHdr .withdrawal Prim.sizeofAmountRequest dwSequence wClientID dwContext
  request := ⟨dwAmount⟩

def BalanceQueryRequest.init (dwSequence : Dword) (wClientID : Word) (dwContext : Dword) :
    BalanceQueryRequest where
  hdr := requestHdr .balanceQuery Prim.sizeofEmptyRequest dwSequence wClientID dwContext
  request := ⟨⟩

def TransactionQueryRequest.init (dwSequence : Dword) (wClientID : Word) (dwStartID : Dword)
    (wTransactionCount : Word) (dwContext : Dword) : TransactionQueryRequest where
  hdr := requestHdr .transactionQuery Prim.sizeofTransactionQueryRequest dwSequence wClientID
    dwContext
  request := ⟨dwStartID, wTransactionCount⟩

def StampPurchaseRequest.init (dwSequence : Dword) (wClientID : Word)
    (dwAmount dwContext : Dword) : StampPurchaseRequest where
  hdr := requestHdr .purchaseStamps Prim.sizeofAmountRequest dwSequence wClientID dwContext
  request := ⟨dwAmount⟩

/-! ### Responses -/

structure ConnectResponse where
  hdr : StdHdr
  response : Prim.ConnectResponse
  deriving DecidableEq

/-- The responses to `CREATE_ACCOUNT`, `LOGON`, `LOGOFF`, `DEPOSIT`, `WITHDRAWAL` and
`PURCHASE_STAMPS`: six structures of one shape. -/
structure ResultResponse where
  hdr : StdHdr
  response : Prim.ResultResponse
  deriving DecidableEq

structure BalanceQueryResponse where
  hdr : StdHdr
  response : Prim.BalanceQueryResponse
  deriving DecidableEq

structure TransactionQueryResponse where
  hdr : StdHdr
  response : Prim.TransactionQueryResponse
  deriving DecidableEq

def ConnectResponse.init (dwResult : Dword) (wClientID wMajorVersion wMinorVersion : Word)
    (dwSequence dwContext : Dword) : ConnectResponse where
  hdr := .init (makeMsgType .connect .response) (BitVec.ofNat 16 Prim.sizeofConnectResponse)
    wClientID dwSequence dwContext
  response := ⟨dwResult, wMajorVersion, wMinorVersion, wClientID⟩

/-- The constructor body the six result responses share; they differ in the message type. -/
def ResultResponse.init (type : CnpMsgType) (dwResult : Dword) (wClientID : Word)
    (dwSequence dwContext : Dword) : ResultResponse where
  hdr := .init (makeMsgType type .response) (BitVec.ofNat 16 Prim.sizeofResultResponse)
    wClientID dwSequence dwContext
  response := ⟨dwResult⟩

def CreateAccountResponse.init := ResultResponse.init .createAccount
def LogonResponse.init := ResultResponse.init .logon
def LogoffResponse.init := ResultResponse.init .logoff
def DepositResponse.init := ResultResponse.init .deposit
def WithdrawalResponse.init := ResultResponse.init .withdrawal
def StampPurchaseResponse.init := ResultResponse.init .purchaseStamps

/-- Context before sequence, both in the parameters and in the call of the header
constructor, which takes the sequence first. -/
def BalanceQueryResponse.init (dwResult : Dword) (wClientID : Word) (dwBalance dwContext
    dwSequence : Dword) : BalanceQueryResponse where
  hdr := .init (makeMsgType .balanceQuery .response)
    (BitVec.ofNat 16 Prim.sizeofBalanceQueryResponse) wClientID dwContext dwSequence
  response := ⟨dwResult, dwBalance⟩

/-- The records go into the flexible array after the constructor has run. -/
def TransactionQueryResponse.init (dwResult : Dword) (wClientID wTransactionCount : Word)
    (dwSequence dwContext : Dword) : TransactionQueryResponse where
  hdr := .init (makeMsgType .transactionQuery .response)
    (BitVec.ofNat 16
      (Prim.sizeofTransactionQueryResponse + wTransactionCount.toNat * sizeofTransaction))
    wClientID dwSequence dwContext
  response := ⟨dwResult, wTransactionCount, []⟩

/-- Any message a handler sends. -/
inductive Response
  | connect (m : ConnectResponse)
  | result (m : ResultResponse)
  | balanceQuery (m : BalanceQueryResponse)
  | transactionQuery (m : TransactionQueryResponse)
  deriving DecidableEq

def Response.hdr : Response → StdHdr
  | .connect m => m.hdr
  | .result m => m.hdr
  | .balanceQuery m => m.hdr
  | .transactionQuery m => m.hdr

/-- `get_ResponseResult`. -/
def Response.getResponseResult : Response → Dword
  | .connect m => m.response.result
  | .result m => m.response.result
  | .balanceQuery m => m.response.result
  | .transactionQuery m => m.response.result

end Cnp
