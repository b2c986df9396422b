import CnpProtocol.Library.JournalBank
import CnpProtocol.Library.Programs
import CnpProtocol.Server.ClientThread

/-!
# The handlers on their threads

The ten functions of `CNP_Messaging.cpp` as programs: their accesses to the three maps, the
three mutexes and the sockets in program order, each access atomic, so that the handlers of
all connections interleave. The maps are read without a lock; a session iterator dangles
once its entry was erased, and using it then has no meaning. A balance update is one access.
-/

namespace Cnp

/-- `g_SessionMutex`, `g_AccountMutex` and `g_TransactionMutex`. -/
inductive Mutex
  | session | account | transaction
  deriving DecidableEq

/-- What the threads share. The fields after `erased` are history: no program reads them. -/
structure Shared (ι : Type) where
  server : Server
  owner : Mutex → Option ι
  sent : List (Socket × Response)
  /-- How often the session of a client ID was erased. -/
  erased : Word → Nat
  /-- The session the call of a thread has found. -/
  inUse : ι → Option Word
  moves : List (ι × Qword × Entry)
  records : List (ι × TransactionInfo)

/-- Before the first access. -/
def Shared.start {ι : Type} (s : Server) : Shared ι :=
  ⟨s, fun _ => none, [], fun _ => 0, fun _ => none, [], []⟩

namespace Concurrent

open Program

variable {ι : Type} [DecidableEq ι] {α : Type}

/-! ### Accesses -/

/-- The constructor of `std::lock_guard`. -/
def lock (i : ι) (m : Mutex) : Program (Shared ι) Unit :=
  .act (fun s =>
    if s.owner m = none then some { s with owner := Function.update s.owner m (some i) }
    else none) fun _ => .ret ()

/-- Its destructor. To unlock a mutex of another thread has no meaning. -/
def unlock (i : ι) (m : Mutex) : Program (Shared ι) Unit :=
  .act (fun s => some { s with owner := Function.update s.owner m none }) fun s =>
    if s.owner m = some i then .ret () else .wrong

/-- An iterator into `g_SessionInfo`, with the number of erasures before it was made. -/
structure SessionIterator where
  key : Word
  generation : Nat

namespace SessionIterator

variable (itS : SessionIterator)

/-- The entry it points to. -/
def target (s : Shared ι) : Option SessionInfo :=
  if s.erased itS.key = itS.generation then s.server.sessionInfo.find? itS.key else none

def read (f : SessionInfo → α) : Program (Shared ι) α :=
  .act some fun s =>
    match itS.target s with
    | some i => .ret (f i)
    | none => .wrong

def update (f : SessionInfo → SessionInfo) : Program (Shared ι) Unit :=
  .act (fun s => some { s with server := s.server.modifySession itS.key f }) fun s =>
    match itS.target s with
    | some _ => .ret ()
    | none => .wrong

end SessionIterator

def findSession (i : ι) (w : Word) : Program (Shared ι) (Option SessionIterator) :=
  .act (fun s => some
    { s with
      inUse := if (s.server.sessionInfo.find? w).isSome then Function.update s.inUse i (some w)
        else s.inUse }) fun s =>
    .ret ((s.server.sessionInfo.find? w).map fun _ => ⟨w, s.erased w⟩)

def insertSession (w : Word) (i : SessionInfo) : Program (Shared ι) Unit :=
  .write fun s => { s with server.sessionInfo := s.server.sessionInfo.insert w i }

def eraseSession (w : Word) : Program (Shared ι) Unit :=
  .write fun s =>
    { s with
      server.sessionInfo := s.server.sessionInfo.erase w
      erased := Function.update s.erased w (s.erased w + 1) }

/-- No account is ever erased, so the key stands for the iterator. -/
def findAccount (q : Qword) : Program (Shared ι) Bool :=
  .read fun s => (s.server.accountInfo.find? q).isSome

def readAccount (q : Qword) (f : AccountInfo → α) : Program (Shared ι) α :=
  .act some fun s =>
    match s.server.accountInfo.find? q with
    | some itA => .ret (f itA)
    | none => .wrong

def updateBalance (i : ι) (q : Qword) (f : AccountInfo → AccountInfo) (entry : Entry) :
    Program (Shared ι) Unit :=
  .act (fun s => some
    { s with
      server := s.server.modifyAccount q f
      moves := s.moves ++ [(i, q, entry)] }) fun s =>
    match s.server.accountInfo.find? q with
    | some _ => .ret ()
    | none => .wrong

def insertAccount (q : Qword) (a : AccountInfo) : Program (Shared ι) Unit :=
  .write fun s => { s with server.accountInfo := s.server.accountInfo.insert q a }

def insertTransaction (i : ι) (t : TransactionInfo) : Program (Shared ι) Unit :=
  .write fun s =>
    { s with
      server.transactionInfo := s.server.transactionInfo.insert t.id t
      records := s.records ++ [(i, t)] }

/-- The response goes out and the call is over. -/
def respond (i : ι) (pSocket : Option Socket) (respMsg : Response) : Program (Shared ι) Unit :=
  .write fun s =>
    { s with
      sent := s.sent ++ send pSocket respMsg
      inUse := Function.update s.inUse i none }

/-! ### Connecting and disconnecting -/

/-- The result code and the client ID it returns. -/
def processConnectRequest (i : ι) (pReqMsg : ConnectRequest) (pSocket : Socket) :
    Program (Shared ι) (CerType × Word) :=
  let answer (cerRR : CerType) (wNewClientID : Word) : Program (Shared ι) (CerType × Word) := do
    respond i (some pSocket) (.connect (ConnectResponse.init cerRR.code wNewClientID
      serverMajorVersion serverMinorVersion pReqMsg.hdr.sequence pReqMsg.hdr.context))
    pure (cerRR, wNewClientID)
  if pReqMsg.request.validationKey = validationKey then
    if pReqMsg.request.majorVersion ≤ serverMajorVersion ∧
        pReqMsg.request.minorVersion ≤ serverMinorVersion then do
      let wNewClientID ← Program.read fun s => newClientID s.server.sessionInfo
      lock i .session
      insertSession wNewClientID (.init wNewClientID .connected (some pSocket))
      unlock i .session
      answer .success wNewClientID
    else answer .unsupportedProtocol invalidClientID
  else answer .authenicationFailed invalidClientID

def processDisconnect (i : ι) (wClientID : Word) : Program (Shared ι) Bool := do
  lock i .session
  let found ← Program.read fun s => (s.server.sessionInfo.find? wClientID).isSome
  if found then
    eraseSession wClientID
    unlock i .session
    pure true
  else
    unlock i .session
    pure false

/-! ### Accounts and logons -/

def processCreateAccountRequest (i : ι) (pReqMsg : CreateAccountRequest) (beyond : List Byte) :
    Program (Shared ι) CerType :=
  let wClientID := pReqMsg.hdr.clientID
  let answer (pSocket : Option Socket) (cerRR : CerType) : Program (Shared ι) CerType := do
    respond i pSocket (.result (CreateAccountResponse.init cerRR.code wClientID
      pReqMsg.hdr.sequence pReqMsg.hdr.context))
    pure cerRR
  findSession i wClientID >>= fun
  | some itS => do
    let pSocket ← itS.read (·.socket)
    if isValidName (pReqMsg.getFirstName beyond) && isValidPIN pReqMsg.request.pin then
      let qwCustomerID := pReqMsg.customerID beyond
      let found ← findAccount qwCustomerID
      if found then answer pSocket .accountExists
      else
        lock i .account
        insertAccount qwCustomerID ⟨pReqMsg.request, qwCustomerID, 0⟩
        itS.update (·.setState .accountCreated)
        unlock i .account
        answer pSocket .success
    else answer pSocket .invalidNamePin
  | none => answer none .invalidClientID

def processLogonRequest (i : ι) (pReqMsg : LogonRequest) (beyond : List Byte) :
    Program (Shared ι) CerType :=
  let wClientID := pReqMsg.hdr.clientID
  let answer (pSocket : Option Socket) (cerRR : CerType) : Program (Shared ι) CerType := do
    respond i pSocket (.result (LogonResponse.init cerRR.code wClientID pReqMsg.hdr.sequence
      pReqMsg.hdr.context))
    pure cerRR
  findSession i wClientID >>= fun
  | some itS => do
    let pSocket ← itS.read (·.socket)
    if isValidName (pReqMsg.getFirstName beyond) && isValidPIN pReqMsg.request.pin then
      let qwCustomerID := pReqMsg.customerID beyond
      let found ← findAccount qwCustomerID
      if found then
        itS.update (·.setCustomerID qwCustomerID)
        itS.update (·.setState .loggedOn)
        answer pSocket .success
      else answer pSocket .accountNotFound
    else answer pSocket .invalidNamePin
  | none => answer none .invalidClientID

def processLogoffRequest (i : ι) (pReqMsg : LogoffRequest) : Program (Shared ι) CerType :=
  let wClientID := pReqMsg.hdr.clientID
  let answer (pSocket : Option Socket) (cerRR : CerType) : Program (Shared ι) CerType := do
    respond i pSocket (.result (LogoffResponse.init cerRR.code wClientID pReqMsg.hdr.sequence
      pReqMsg.hdr.context))
    pure cerRR
  findSession i wClientID >>= fun
  | some itS => do
    let pSocket ← itS.read (·.socket)
    let qwCustomerID ← itS.read (·.customerID)
    if isValidCustomerID qwCustomerID then
      itS.update (·.setCustomerID invalidCustomerID)
      itS.update (·.setState .loggedOff)
      answer pSocket .success
    else
      itS.update (·.setState .loggedOff)
      answer pSocket .clientNotLoggedon
  | none => answer none .invalidClientID

/-! ### Requests on the account of a session -/

/-- The shared part of the account handlers: the socket for the response, the code and what
the response carries. -/
def withAccount (i : ι) (wClientID : Word) (notLoggedon : CerType) (data : α)
    (act : Qword → Program (Shared ι) (CerType × α)) :
    Program (Shared ι) (Option Socket × CerType × α) :=
  findSession i wClientID >>= fun
  | some itS => do
    let pSocket ← itS.read (·.socket)
    let qwCustomerID ← itS.read (·.customerID)
    if isValidCustomerID qwCustomerID then
      let found ← findAccount qwCustomerID
      if found then
        let done ← act qwCustomerID
        pure (pSocket, done)
      else pure (pSocket, .accountNotFound, data)
    else pure (pSocket, notLoggedon, data)
  | none => pure (none, .invalidClientID, data)

/-- The section under `g_TransactionMutex`. -/
def recordTransaction (i : ι) (qwNow : Qword) (dwAmount : Dword) (wType : TransactionType)
    (qwCustomerID : Qword) : Program (Shared ι) Unit := do
  lock i .transaction
  let size ← Program.read fun s => s.server.transactionInfo.size
  insertTransaction i ⟨⟨BitVec.ofNat 32 (size + 1), qwNow, dwAmount, wType.code⟩, qwCustomerID⟩
  unlock i .transaction

def payIn (i : ι) (qwNow : Qword) (dwAmount : Dword) (qwCustomerID : Qword) :
    Program (Shared ι) (CerType × Unit) := do
  updateBalance i qwCustomerID (·.incrBalance dwAmount) (.credit dwAmount.toNat)
  recordTransaction i qwNow dwAmount .deposit qwCustomerID
  pure (.success, ())

def payOut (i : ι) (qwNow : Qword) (dwAmount : Dword) (wType : TransactionType)
    (qwCustomerID : Qword) : Program (Shared ι) (CerType × Unit) := do
  let dwCurBalance ← readAccount qwCustomerID (·.balance)
  if dwAmount ≤ dwCurBalance then
    updateBalance i qwCustomerID (·.decrBalance dwAmount) (.debit dwAmount.toNat)
    recordTransaction i qwNow dwAmount wType qwCustomerID
    pure (.success, ())
  else pure (.insufficientFunds, ())

def processDepositRequest (i : ι) (qwNow : Qword) (pReqMsg : DepositRequest) :
    Program (Shared ι) CerType := do
  let h ← withAccount i pReqMsg.hdr.clientID .invalidNamePin ()
    (payIn i qwNow pReqMsg.request.amount)
  respond i h.1 (.result (DepositResponse.init h.2.1.code pReqMsg.hdr.clientID
    pReqMsg.hdr.sequence pReqMsg.hdr.context))
  pure h.2.1

def processWithdrawalRequest (i : ι) (qwNow : Qword) (pReqMsg : WithdrawalRequest) :
    Program (Shared ι) CerType := do
  let h ← withAccount i pReqMsg.hdr.clientID .invalidNamePin ()
    (payOut i qwNow pReqMsg.request.amount .withdrawal)
  respond i h.1 (.result (WithdrawalResponse.init h.2.1.code pReqMsg.hdr.clientID
    pReqMsg.hdr.sequence pReqMsg.hdr.context))
  pure h.2.1

def processStampPurchaseRequest (i : ι) (qwNow : Qword) (pReqMsg : StampPurchaseRequest) :
    Program (Shared ι) CerType := do
  let h ← withAccount i pReqMsg.hdr.clientID .clientNotLoggedon ()
    (payOut i qwNow pReqMsg.request.amount .stampPurchase)
  respond i h.1 (.result (StampPurchaseResponse.init h.2.1.code pReqMsg.hdr.clientID
    pReqMsg.hdr.sequence pReqMsg.hdr.context))
  pure h.2.1

def processBalanceQueryRequest (i : ι) (pReqMsg : BalanceQueryRequest) :
    Program (Shared ι) CerType := do
  let h ← withAccount i pReqMsg.hdr.clientID .clientNotLoggedon invalidBalance
    fun qwCustomerID => do
      let dwBalance ← readAccount qwCustomerID (·.balance)
      pure (.success, dwBalance)
  respond i h.1 (.balanceQuery (BalanceQueryResponse.init h.2.1.code pReqMsg.hdr.clientID h.2.2
    pReqMsg.hdr.context pReqMsg.hdr.sequence))
  pure h.2.1

/-- `++itT` from the entry with key `k`. -/
def nextTransaction (k : Dword) (t : TransactionMap) : Option (Dword × TransactionInfo) :=
  t.entries.find? fun e => decide (k < e.1)

/-- The keys that may still come. -/
def keysLeft : Option (Dword × TransactionInfo) → Nat
  | some itT => 2 ^ 32 - itT.1.toNat
  | none => 0

theorem keysLeft_nextTransaction (itT : Dword × TransactionInfo) (t : TransactionMap) :
    keysLeft (nextTransaction itT.1 t) < keysLeft (some itT) := by
  have small := itT.1.isLt
  cases found : nextTransaction itT.1 t with
  | none =>
    simp only [keysLeft]
    omega
  | some next =>
    have above := List.find?_some found
    rw [decide_eq_true_eq, BitVec.lt_def] at above
    simp only [keysLeft]
    omega

/-- The loop over the table; a record does not change once it is in. -/
def collectTransactions (qwCustomerID : Qword) (wCount : Word) (n : Word) :
    Option (Dword × TransactionInfo) → Program (Shared ι) (Word × List Transaction)
  | some itT =>
    if n < wCount then
      if itT.2.customerID = qwCustomerID then
        .act some fun s =>
          (collectTransactions qwCustomerID wCount (n + 1)
            (nextTransaction itT.1 s.server.transactionInfo)).bind
              fun r => .ret (r.1, itT.2.toTransaction :: r.2)
      else
        .act some fun s => collectTransactions qwCustomerID wCount n
          (nextTransaction itT.1 s.server.transactionInfo)
    else .ret (n, [])
  | none => .ret (n, [])
termination_by itT => keysLeft itT
decreasing_by
  · exact keysLeft_nextTransaction itT s.server.transactionInfo
  · exact keysLeft_nextTransaction itT s.server.transactionInfo

def processTransactionQueryRequest (i : ι) (pReqMsg : TransactionQueryRequest) :
    Program (Shared ι) CerType := do
  let h ← withAccount i pReqMsg.hdr.clientID .clientNotLoggedon ((0 : Word), [])
    fun qwCustomerID => do
      let itT ← Program.read fun s =>
        (s.server.transactionInfo.lowerBound pReqMsg.request.startID).head?
      let r ← collectTransactions qwCustomerID pReqMsg.request.transactionCount 0 itT
      pure (.success, r)
  let respMsg := TransactionQueryResponse.init h.2.1.code pReqMsg.hdr.clientID h.2.2.1
    pReqMsg.hdr.sequence pReqMsg.hdr.context
  respond i h.1 (.transactionQuery { respMsg with response.transactions := h.2.2.2 })
  pure h.2.1

/-! ### Threads -/

/-- One turn of the switch: the result code, and the client ID of the thread afterwards. -/
def process (i : ι) (pSocket : Socket) (qwNow : Qword) (wClientID : Word) :
    Request → Program (Shared ι) (CerType × Word)
  | .connect m => processConnectRequest i m pSocket
  | .createAccount m beyond => (·, wClientID) <$> processCreateAccountRequest i m beyond
  | .logon m beyond => (·, wClientID) <$> processLogonRequest i m beyond
  | .logoff m => (·, wClientID) <$> processLogoffRequest i m
  | .deposit m => (·, wClientID) <$> processDepositRequest i qwNow m
  | .withdrawal m => (·, wClientID) <$> processWithdrawalRequest i qwNow m
  | .balanceQuery m => (·, wClientID) <$> processBalanceQueryRequest i m
  | .transactionQuery m => (·, wClientID) <$> processTransactionQueryRequest i m
  | .stampPurchase m => (·, wClientID) <$> processStampPurchaseRequest i qwNow m

/-- What a connection delivers to its thread. -/
inductive Input
  | message (qwNow : Qword) (r : Request)
  | closed

/-- The loop of `ClientThreadHandler` on what it receives; the codes of its requests. -/
def clientThread (i : ι) (pSocket : Socket) :
    Word → List Input → Program (Shared ι) (List CerType)
  | _, [] => pure []
  | wClientID, .message qwNow r :: rest => do
    let done ← process i pSocket qwNow wClientID r
    let codes ← clientThread i pSocket done.2 rest
    pure (done.1 :: codes)
  | wClientID, .closed :: _ => do
    let _ ← processDisconnect i wClientID
    pure []

end Concurrent

end Cnp
