import CnpProtocol.Library.OrderedMap
import CnpProtocol.Protocol.Messages

/-!
# Server tables

The records of `CNP_ServerDB.h` and `CNP_Session.h`, the three global maps and the
elementary updates the handlers make to them.
-/

namespace Cnp

/-! ### Common definitions -/

def invalidCustomerID : Qword := 0
def invalidBalance : Dword := ~~~0

def serverMajorVersion : Word := 1
def serverMinorVersion : Word := 1

def isValidCustomerID (qwID : Qword) : Bool := qwID != invalidCustomerID

def isValidPIN (wPIN : Word) : Bool := wPIN != invalidPin

/-- The first character of the string is not its terminator. -/
def isValidName (szName : List Byte) : Bool := szName.headD 0 != 0

theorem isValidName_iff (szName : List Byte) :
    isValidName szName = true ↔ Bytes.cString szName ≠ [] := by
  cases szName with
  | nil => simp [isValidName]
  | cons b bs =>
    by_cases zero : b = 0
    · subst zero
      rw [Bytes.cString_zero]
      simp [isValidName]
    · rw [Bytes.cString_cons b bs zero]
      simpa [isValidName] using zero

/-! ### Records -/

/-- `ACCOUNT_INFO`. -/
structure AccountInfo extends Prim.CreateAccountRequest where
  customerID : Qword
  balance : Dword
  deriving DecidableEq

def AccountInfo.getPrimaryKey (a : AccountInfo) : Qword := a.customerID

def AccountInfo.decrBalance (a : AccountInfo) (dwSet : Dword) : AccountInfo :=
  { a with balance := a.balance - dwSet }

def AccountInfo.incrBalance (a : AccountInfo) (dwSet : Dword) : AccountInfo :=
  { a with balance := a.balance + dwSet }

/-- `TRANSACTION_INFO`. -/
structure TransactionInfo extends Transaction where
  customerID : Qword
  deriving DecidableEq

def TransactionInfo.getPrimaryKey (t : TransactionInfo) : Dword := t.id

/-- A server object `CNP_Socket`; one per accepted connection. -/
abbrev Socket := Nat

inductive SessionState
  | invalid | connected | accountCreated | loggedOn | loggedOff | disconnecting
  deriving DecidableEq, Repr

/-- `SESSION_INFO`; the socket pointer may be null. -/
structure SessionInfo where
  clientID : Word
  state : SessionState
  socket : Option Socket
  customerID : Qword
  deriving DecidableEq

def SessionInfo.init (wClientID : Word) (sState : SessionState) (pSocket : Option Socket) :
    SessionInfo :=
  ⟨wClientID, sState, pSocket, invalidCustomerID⟩

def SessionInfo.setState (s : SessionInfo) (sSet : SessionState) : SessionInfo :=
  { s with state := sSet }

def SessionInfo.setCustomerID (s : SessionInfo) (qwSet : Qword) : SessionInfo :=
  { s with customerID := qwSet }

/-! ### Maps -/

abbrev SessionMap := OrderedMap Word SessionInfo
abbrev AccountMap := OrderedMap Qword AccountInfo
abbrev TransactionMap := OrderedMap Dword TransactionInfo

/-- The globals `g_SessionInfo`, `g_AccountInfo` and `g_TransactionInfo`. -/
structure Server where
  sessionInfo : SessionMap
  accountInfo : AccountMap
  transactionInfo : TransactionMap

namespace Server

/-- The server before the first connection, with what it loaded. -/
def boot (accounts : AccountMap) (transactions : TransactionMap) : Server :=
  ⟨.empty, accounts, transactions⟩

def empty : Server := boot .empty .empty

/-- An update through an iterator into `g_SessionInfo`. -/
def modifySession (s : Server) (wClientID : Word) (f : SessionInfo → SessionInfo) : Server :=
  { s with sessionInfo := s.sessionInfo.modify wClientID f }

/-- An update through an iterator into `g_AccountInfo`. -/
def modifyAccount (s : Server) (qwCustomerID : Qword) (f : AccountInfo → AccountInfo) : Server :=
  { s with accountInfo := s.accountInfo.modify qwCustomerID f }

/-- The section under `g_TransactionMutex`: the next ID is the size plus one, and the
record goes in under it if the ID is free. -/
def recordTransaction (s : Server) (qwNow : Qword) (dwAmount : Dword) (wType : TransactionType)
    (qwCustomerID : Qword) : Server :=
  -- `size_t` is narrowed to a `DWORD`
  let dwNewID : Dword := BitVec.ofNat 32 (s.transactionInfo.size + 1)
  let newTrans : TransactionInfo := ⟨⟨dwNewID, qwNow, dwAmount, wType.code⟩, qwCustomerID⟩
  { s with transactionInfo := s.transactionInfo.insert dwNewID newTrans }

section
variable (s : Server) (w : Word) (q : Qword) (f : SessionInfo → SessionInfo)
  (g : AccountInfo → AccountInfo) (now : Qword) (amount : Dword) (type : TransactionType)

@[simp] theorem modifySession_sessionInfo :
    (s.modifySession w f).sessionInfo = s.sessionInfo.modify w f := rfl
@[simp] theorem modifySession_accountInfo : (s.modifySession w f).accountInfo = s.accountInfo := rfl
@[simp] theorem modifySession_transactionInfo :
    (s.modifySession w f).transactionInfo = s.transactionInfo := rfl

@[simp] theorem modifyAccount_sessionInfo : (s.modifyAccount q g).sessionInfo = s.sessionInfo := rfl
@[simp] theorem modifyAccount_accountInfo :
    (s.modifyAccount q g).accountInfo = s.accountInfo.modify q g := rfl
@[simp] theorem modifyAccount_transactionInfo :
    (s.modifyAccount q g).transactionInfo = s.transactionInfo := rfl

@[simp] theorem recordTransaction_sessionInfo :
    (s.recordTransaction now amount type q).sessionInfo = s.sessionInfo := rfl
@[simp] theorem recordTransaction_accountInfo :
    (s.recordTransaction now amount type q).accountInfo = s.accountInfo := rfl

end

end Server

/-- Client `w` is logged on as customer `q`. -/
def LoggedOnAs (s : Server) (w : Word) (q : Qword) : Prop :=
  ∃ i, s.sessionInfo.find? w = some i ∧ isValidCustomerID i.customerID = true ∧ i.customerID = q

end Cnp
