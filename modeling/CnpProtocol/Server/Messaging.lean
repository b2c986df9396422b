import CnpProtocol.Server.Hash
import CnpProtocol.Server.Tables

/-!
# Message processing

The handlers of `CNP_Messaging.cpp`, each as one step on the server. A handler takes the
request its message pointer is cast to and returns the tables it leaves, its result code
and what it sends. The clock is an argument. The two handlers that read a name also take
the bytes behind the message in the receive buffer, since `strlen` runs on until it meets
a zero.
-/

namespace Cnp

/-- What a handler leaves behind. The Boolean it returns says whether `cerRR` is
`CER_SUCCESS`. -/
structure Outcome where
  server : Server
  cerRR : CerType
  sent : List (Socket × Response)

/-- `if (pSocket) pSocket->Send(&respMsg, respMsg.get_Size())`. -/
def send (pSocket : Option Socket) (respMsg : Response) : List (Socket × Response) :=
  pSocket.toList.map fun c => (c, respMsg)

/-! ### Connecting -/

/-- One more than the largest client ID in use, in 16 bits. -/
def newClientID (sessions : SessionMap) : Word :=
  match sessions.lastKey? with
  | some last => last + 1
  | none => 1

/-- The session table after a successful connect. -/
def Server.addSession (s : Server) (pSocket : Socket) : Server :=
  let wNewClientID := newClientID s.sessionInfo
  let newSession := SessionInfo.init wNewClientID .connected (some pSocket)
  { s with sessionInfo := s.sessionInfo.insert wNewClientID newSession }

/-- The client ID it returns and the outcome. The ID is computed before the lock on the
session table is taken. -/
def processConnectRequest (s : Server) (pReqMsg : ConnectRequest) (pSocket : Socket) :
    Word × Outcome :=
  let answer (cerRR : CerType) (wNewClientID : Word) (s' : Server) : Word × Outcome :=
    let respMsg := ConnectResponse.init cerRR.code wNewClientID serverMajorVersion
      serverMinorVersion pReqMsg.hdr.sequence pReqMsg.hdr.context
    (wNewClientID, ⟨s', cerRR, send (some pSocket) (.connect respMsg)⟩)
  -- 1. Verify the Validation Key
  if pReqMsg.request.validationKey = validationKey then
    -- 2. Check to see if the server can support the client's protocol version
    if pReqMsg.request.majorVersion ≤ serverMajorVersion ∧
        pReqMsg.request.minorVersion ≤ serverMinorVersion then
      -- 3. and 4. Generate the client ID and update the session state table
      answer .success (newClientID s.sessionInfo) (s.addSession pSocket)
    else answer .unsupportedProtocol invalidClientID s
  else answer .authenicationFailed invalidClientID s

/-! ### Accounts and logons -/

/-- Memory from the address of the first name on. -/
def CreateAccountRequest.getFirstName (m : CreateAccountRequest) (beyond : List Byte) :
    List Byte :=
  m.request.firstName.bytes ++ (m.request.lastName.bytes ++ (m.request.emailAddress.bytes ++
    (Bytes.leBytes 2 m.request.pin.toNat ++ (Bytes.leBytes 4 m.request.ssNumber.toNat ++
      (Bytes.leBytes 4 m.request.dlNumber.toNat ++ beyond)))))

def LogonRequest.getFirstName (m : LogonRequest) (beyond : List Byte) : List Byte :=
  m.request.firstName.bytes ++ (Bytes.leBytes 2 m.request.pin.toNat ++ beyond)

/-- The customer ID the handler computes from the request. -/
def CreateAccountRequest.customerID (m : CreateAccountRequest) (beyond : List Byte) : Qword :=
  let szName := m.getFirstName beyond
  generateCustomerID szName (Bytes.strlen szName) m.request.pin

def LogonRequest.customerID (m : LogonRequest) (beyond : List Byte) : Qword :=
  let szName := m.getFirstName beyond
  generateCustomerID szName (Bytes.strlen szName) m.request.pin

/-- The tables after a successful account creation from session `wClientID`. -/
def Server.addAccount (s : Server) (wClientID : Word) (base : Prim.CreateAccountRequest)
    (qwCustomerID : Qword) : Server :=
  let newAccount : AccountInfo := ⟨base, qwCustomerID, 0⟩
  { s with accountInfo := s.accountInfo.insert qwCustomerID newAccount }.modifySession wClientID
    (·.setState .accountCreated)

def processCreateAccountRequest (s : Server) (pReqMsg : CreateAccountRequest)
    (beyond : List Byte) : Outcome :=
  let wClientID := pReqMsg.hdr.clientID
  let answer (pSocket : Option Socket) (cerRR : CerType) (s' : Server) : Outcome :=
    let respMsg := CreateAccountResponse.init cerRR.code wClientID pReqMsg.hdr.sequence
      pReqMsg.hdr.context
    ⟨s', cerRR, send pSocket (.result respMsg)⟩
  -- 1. Validate the connection
  match s.sessionInfo.find? wClientID with
  | some itS =>
    -- 2. Validate the Name & PIN
    if isValidName (pReqMsg.getFirstName beyond) && isValidPIN pReqMsg.request.pin then
      -- 3. Make sure the Name+PIN combo doesn't already exist
      let qwCustomerID := pReqMsg.customerID beyond
      match s.accountInfo.find? qwCustomerID with
      | some _ => answer itS.socket .accountExists s
      -- 4. and 5. Add the account and update the session state
      | none => answer itS.socket .success (s.addAccount wClientID pReqMsg.request qwCustomerID)
    else answer itS.socket .invalidNamePin s
  | none => answer none .invalidClientID s

def processLogonRequest (s : Server) (pReqMsg : LogonRequest) (beyond : List Byte) : Outcome :=
  let wClientID := pReqMsg.hdr.clientID
  let answer (pSocket : Option Socket) (cerRR : CerType) (s' : Server) : Outcome :=
    let respMsg := LogonResponse.init cerRR.code wClientID pReqMsg.hdr.sequence pReqMsg.hdr.context
    ⟨s', cerRR, send pSocket (.result respMsg)⟩
  -- 1. Validate the connection
  match s.sessionInfo.find? wClientID with
  | some itS =>
    -- 2. Validate the Name & PIN
    if isValidName (pReqMsg.getFirstName beyond) && isValidPIN pReqMsg.request.pin then
      -- 3. Make sure an account with the Name+PIN combo exists
      let qwCustomerID := pReqMsg.customerID beyond
      match s.accountInfo.find? qwCustomerID with
      | some _ =>
        -- 4. Record the client as logged on
        answer itS.socket .success (s.modifySession wClientID
          fun i => (i.setCustomerID qwCustomerID).setState .loggedOn)
      | none => answer itS.socket .accountNotFound s
    else answer itS.socket .invalidNamePin s
  | none => answer none .invalidClientID s

/-- The state becomes `loggedOff` whether or not somebody was logged on. -/
def processLogoffRequest (s : Server) (pReqMsg : LogoffRequest) : Outcome :=
  let wClientID := pReqMsg.hdr.clientID
  let answer (pSocket : Option Socket) (cerRR : CerType) (s' : Server) : Outcome :=
    let respMsg := LogoffResponse.init cerRR.code wClientID pReqMsg.hdr.sequence pReqMsg.hdr.context
    ⟨s', cerRR, send pSocket (.result respMsg)⟩
  -- 1. Validate the connection
  match s.sessionInfo.find? wClientID with
  | some itS =>
    -- 2. Validate they are logged on
    if isValidCustomerID itS.customerID then
      -- 3. Clear their customer ID, but leave them in the session table
      answer itS.socket .success (s.modifySession wClientID
        fun i => (i.setCustomerID invalidCustomerID).setState .loggedOff)
    else
      answer itS.socket .clientNotLoggedon (s.modifySession wClientID (·.setState .loggedOff))
  | none => answer none .invalidClientID s

/-! ### Requests on the account of a session -/

/-- What the shared part of the account handlers hands to the response. -/
structure Handled (α : Type) where
  socket : Option Socket
  cerRR : CerType
  server : Server
  data : α

/-- The decision tree of the account handlers: session, logged-on check, account. They
differ in the code for a session that is not logged on and in what they do with the
account; `data` is what the response carries when nothing was done. -/
def withAccount {α : Type} (s : Server) (wClientID : Word) (notLoggedon : CerType) (data : α)
    (act : Qword → AccountInfo → CerType × Server × α) : Handled α :=
  -- 1. Validate the connection
  match s.sessionInfo.find? wClientID with
  | some itS =>
    -- 2. Validate they have an account and are logged on
    let qwCustomerID := itS.customerID
    if isValidCustomerID qwCustomerID then
      match s.accountInfo.find? qwCustomerID with
      | some itA =>
        let done := act qwCustomerID itA
        ⟨itS.socket, done.1, done.2.1, done.2.2⟩
      | none => ⟨itS.socket, .accountNotFound, s, data⟩
    else ⟨itS.socket, notLoggedon, s, data⟩
  | none => ⟨none, .invalidClientID, s, data⟩

/-- Increase the balance and record a deposit. -/
def payIn (s : Server) (qwNow : Qword) (dwAmount : Dword) (qwCustomerID : Qword)
    (_itA : AccountInfo) : CerType × Server × Unit :=
  (.success, (s.modifyAccount qwCustomerID (·.incrBalance dwAmount)).recordTransaction qwNow
    dwAmount .deposit qwCustomerID, ())

/-- Check the available balance, decrease it and record the transaction. -/
def payOut (s : Server) (qwNow : Qword) (dwAmount : Dword) (wType : TransactionType)
    (qwCustomerID : Qword) (itA : AccountInfo) : CerType × Server × Unit :=
  if dwAmount ≤ itA.balance then
    (.success, (s.modifyAccount qwCustomerID (·.decrBalance dwAmount)).recordTransaction qwNow
      dwAmount wType qwCustomerID, ())
  else (.insufficientFunds, s, ())

def processDepositRequest (s : Server) (qwNow : Qword) (pReqMsg : DepositRequest) : Outcome :=
  let h := withAccount s pReqMsg.hdr.clientID .invalidNamePin ()
    (payIn s qwNow pReqMsg.request.amount)
  let respMsg := DepositResponse.init h.cerRR.code pReqMsg.hdr.clientID pReqMsg.hdr.sequence
    pReqMsg.hdr.context
  ⟨h.server, h.cerRR, send h.socket (.result respMsg)⟩

def processWithdrawalRequest (s : Server) (qwNow : Qword) (pReqMsg : WithdrawalRequest) :
    Outcome :=
  let h := withAccount s pReqMsg.hdr.clientID .invalidNamePin ()
    (payOut s qwNow pReqMsg.request.amount .withdrawal)
  let respMsg := WithdrawalResponse.init h.cerRR.code pReqMsg.hdr.clientID pReqMsg.hdr.sequence
    pReqMsg.hdr.context
  ⟨h.server, h.cerRR, send h.socket (.result respMsg)⟩

/-- Like a withdrawal, but with its own code for a session that is not logged on. -/
def processStampPurchaseRequest (s : Server) (qwNow : Qword) (pReqMsg : StampPurchaseRequest) :
    Outcome :=
  let h := withAccount s pReqMsg.hdr.clientID .clientNotLoggedon ()
    (payOut s qwNow pReqMsg.request.amount .stampPurchase)
  let respMsg := StampPurchaseResponse.init h.cerRR.code pReqMsg.hdr.clientID
    pReqMsg.hdr.sequence pReqMsg.hdr.context
  ⟨h.server, h.cerRR, send h.socket (.result respMsg)⟩

def processBalanceQueryRequest (s : Server) (pReqMsg : BalanceQueryRequest) : Outcome :=
  let h := withAccount s pReqMsg.hdr.clientID .clientNotLoggedon invalidBalance
    fun _ itA => (.success, s, itA.balance)
  -- context before sequence, as in the call of the source
  let respMsg := BalanceQueryResponse.init h.cerRR.code pReqMsg.hdr.clientID h.data
    pReqMsg.hdr.context pReqMsg.hdr.sequence
  ⟨h.server, h.cerRR, send h.socket (.balanceQuery respMsg)⟩

/-- The loop over the table from an iterator on: the counter and the records pushed. -/
def collectTransactions (qwCustomerID : Qword) (wCount : Word) :
    Word → List (Dword × TransactionInfo) → Word × List Transaction
  | i, [] => (i, [])
  | i, itT :: rest =>
    -- the counter moves for the records of the customer only
    if i < wCount then
      if itT.2.customerID = qwCustomerID then
        let r := collectTransactions qwCustomerID wCount (i + 1) rest
        (r.1, itT.2.toTransaction :: r.2)
      else collectTransactions qwCustomerID wCount i rest
    else (i, [])

/-- The response is built in a buffer of 512 bytes on the stack; the model holds its
fields and leaves the extent of the buffer to the results about its size. -/
def processTransactionQueryRequest (s : Server) (pReqMsg : TransactionQueryRequest) : Outcome :=
  let h := withAccount s pReqMsg.hdr.clientID .clientNotLoggedon (0, []) fun qwCustomerID _ =>
    -- without an entry from the start ID on, count and records stay at their defaults
    (.success, s, collectTransactions qwCustomerID pReqMsg.request.transactionCount 0
      (s.transactionInfo.lowerBound pReqMsg.request.startID))
  let respMsg := TransactionQueryResponse.init h.cerRR.code pReqMsg.hdr.clientID h.data.1
    pReqMsg.hdr.sequence pReqMsg.hdr.context
  ⟨h.server, h.cerRR, send h.socket
    (.transactionQuery { respMsg with response.transactions := h.data.2 })⟩

/-! ### Disconnecting -/

/-- The table and whether there was a session. -/
def processDisconnect (s : Server) (wClientID : Word) : Bool × Server :=
  match s.sessionInfo.find? wClientID with
  | some _ => (true, { s with sessionInfo := s.sessionInfo.erase wClientID })
  | none => (false, s)

end Cnp
