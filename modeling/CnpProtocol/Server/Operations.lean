import CnpProtocol.Library.Run
import CnpProtocol.Server.Messaging
import CnpProtocol.Server.Persistence

/-!
# Server operations

The switch of `ClientThreadHandler` over the nine request types, the operations a server
goes through, and what each of them may do to the tables. `Effect` lists the possible
changes once; every invariant of a run is a case analysis on it.
-/

namespace Cnp

/-- A received message after the cast the message type selects. -/
inductive Request
  | connect (m : ConnectRequest)
  | createAccount (m : CreateAccountRequest) (beyond : List Byte)
  | logon (m : LogonRequest) (beyond : List Byte)
  | logoff (m : LogoffRequest)
  | deposit (m : DepositRequest)
  | withdrawal (m : WithdrawalRequest)
  | balanceQuery (m : BalanceQueryRequest)
  | transactionQuery (m : TransactionQueryRequest)
  | stampPurchase (m : StampPurchaseRequest)

namespace Request

def hdr : Request → StdHdr
  | .connect m => m.hdr
  | .createAccount m _ => m.hdr
  | .logon m _ => m.hdr
  | .logoff m => m.hdr
  | .deposit m => m.hdr
  | .withdrawal m => m.hdr
  | .balanceQuery m => m.hdr
  | .transactionQuery m => m.hdr
  | .stampPurchase m => m.hdr

def type : Request → CnpMsgType
  | .connect _ => .connect
  | .createAccount _ _ => .createAccount
  | .logon _ _ => .logon
  | .logoff _ => .logoff
  | .deposit _ => .deposit
  | .withdrawal _ => .withdrawal
  | .balanceQuery _ => .balanceQuery
  | .transactionQuery _ => .transactionQuery
  | .stampPurchase _ => .purchaseStamps

/-- The requests that work on the account the session is logged on to. -/
def OnAccount : Request → Prop
  | .deposit _ | .withdrawal _ | .balanceQuery _ | .transactionQuery _ | .stampPurchase _ => True
  | _ => False

/-- What such a request answers when the session is not logged on. -/
def notLoggedon : Request → CerType
  | .deposit _ | .withdrawal _ => .invalidNamePin
  | _ => .clientNotLoggedon

/-- The first name of a `CreateAccount` or `Logon` is terminated inside its field. -/
def NameTerminated : Request → Prop
  | .createAccount m _ => 0 ∈ m.request.firstName.bytes
  | .logon m _ => 0 ∈ m.request.firstName.bytes
  | _ => True

end Request

/-- The switch: only `ProcessConnectRequest` is told which connection the message came
in on. -/
def dispatch (s : Server) (pSocket : Socket) (qwNow : Qword) : Request → Outcome
  | .connect m => (processConnectRequest s m pSocket).2
  | .createAccount m beyond => processCreateAccountRequest s m beyond
  | .logon m beyond => processLogonRequest s m beyond
  | .logoff m => processLogoffRequest s m
  | .deposit m => processDepositRequest s qwNow m
  | .withdrawal m => processWithdrawalRequest s qwNow m
  | .balanceQuery m => processBalanceQueryRequest s m
  | .transactionQuery m => processTransactionQueryRequest s m
  | .stampPurchase m => processStampPurchaseRequest s qwNow m

/-- One operation of the server: a message on a connection, the disconnect of a client
ID, or a restart of the process. -/
inductive Op
  | message (pSocket : Socket) (qwNow : Qword) (r : Request)
  | disconnect (wClientID : Word)
  | restart (accounts : RecordImage AccountInfo) (transactions : RecordImage TransactionInfo)

/-- The nine handlers and `Disconnect`, without the restart. -/
def Op.Running : Op → Prop
  | .restart _ _ => False
  | _ => True

def Op.NameTerminated : Op → Prop
  | .message _ _ r => r.NameTerminated
  | _ => True

def step (s : Server) : Op → Server
  | .message pSocket qwNow r => (dispatch s pSocket qwNow r).server
  | .disconnect wClientID => (processDisconnect s wClientID).2
  | .restart accounts transactions => restart accounts transactions s

def run (s : Server) (ops : List Op) : Server := Run.run step s ops

/-! ### What an operation may change -/

/-- Every change of the tables, with what is known when it is made. -/
inductive Effect (s : Server) : Op → Server → Prop
  | idle (op : Op) : Effect s op s
  | connected (c : Socket) (now : Qword) (m : ConnectRequest) :
      Effect s (.message c now (.connect m)) (s.addSession c)
  | created (c : Socket) (now : Qword) (m : CreateAccountRequest) (beyond : List Byte)
      (itS : SessionInfo) (session : s.sessionInfo.find? m.hdr.clientID = some itS)
      (name : isValidName (m.getFirstName beyond) = true)
      (pin : isValidPIN m.request.pin = true)
      (unused : s.accountInfo.find? (m.customerID beyond) = none) :
      Effect s (.message c now (.createAccount m beyond))
        (s.addAccount m.hdr.clientID m.request (m.customerID beyond))
  | loggedOn (c : Socket) (now : Qword) (m : LogonRequest) (beyond : List Byte)
      (itS : SessionInfo) (itA : AccountInfo)
      (session : s.sessionInfo.find? m.hdr.clientID = some itS)
      (name : isValidName (m.getFirstName beyond) = true)
      (pin : isValidPIN m.request.pin = true)
      (account : s.accountInfo.find? (m.customerID beyond) = some itA) :
      Effect s (.message c now (.logon m beyond))
        (s.modifySession m.hdr.clientID
          fun i => (i.setCustomerID (m.customerID beyond)).setState .loggedOn)
  | loggedOff (c : Socket) (now : Qword) (m : LogoffRequest) (itS : SessionInfo)
      (session : s.sessionInfo.find? m.hdr.clientID = some itS)
      (customer : isValidCustomerID itS.customerID = true) :
      Effect s (.message c now (.logoff m))
        (s.modifySession m.hdr.clientID
          fun i => (i.setCustomerID invalidCustomerID).setState .loggedOff)
  | notLoggedOff (c : Socket) (now : Qword) (m : LogoffRequest) (itS : SessionInfo)
      (session : s.sessionInfo.find? m.hdr.clientID = some itS)
      (noCustomer : isValidCustomerID itS.customerID = false) :
      Effect s (.message c now (.logoff m))
        (s.modifySession m.hdr.clientID (·.setState .loggedOff))
  | paidIn (op : Op) (qwNow : Qword) (dwAmount : Dword) (q : Qword) (itA : AccountInfo)
      (account : s.accountInfo.find? q = some itA) :
      Effect s op (payIn s qwNow dwAmount q itA).2.1
  | paidOut (op : Op) (qwNow : Qword) (dwAmount : Dword) (wType : TransactionType)
      (debit : wType = .withdrawal ∨ wType = .stampPurchase) (q : Qword) (itA : AccountInfo)
      (account : s.accountInfo.find? q = some itA) (covered : dwAmount ≤ itA.balance) :
      Effect s op (payOut s qwNow dwAmount wType q itA).2.1
  | disconnected (w : Word) :
      Effect s (.disconnect w) { s with sessionInfo := s.sessionInfo.erase w }
  | restarted (accounts : RecordImage AccountInfo)
      (transactions : RecordImage TransactionInfo) :
      Effect s (.restart accounts transactions) (restart accounts transactions s)

/-! ### What the handlers answer -/

/-- A connect answers success exactly when the key and the version are accepted. -/
theorem processConnectRequest_cases (s : Server) (m : ConnectRequest) (c : Socket) :
    (m.request.validationKey = validationKey ∧
      (m.request.majorVersion ≤ serverMajorVersion ∧
        m.request.minorVersion ≤ serverMinorVersion) ∧
      (processConnectRequest s m c).1 = newClientID s.sessionInfo ∧
      (processConnectRequest s m c).2.cerRR = .success ∧
      (processConnectRequest s m c).2.server = s.addSession c) ∨
    ((processConnectRequest s m c).2.cerRR ≠ .success ∧
      (processConnectRequest s m c).2.server = s) := by
  simp only [processConnectRequest]
  split
  next key =>
    split
    next version => exact Or.inl ⟨key, version, rfl, rfl, rfl⟩
    · -- unsupported version
      exact Or.inr ⟨by simp, rfl⟩
  · -- wrong key
    exact Or.inr ⟨by simp, rfl⟩

/-- An account is created, or nothing happens. -/
theorem processCreateAccountRequest_cases (s : Server) (m : CreateAccountRequest)
    (beyond : List Byte) :
    (∃ itS, s.sessionInfo.find? m.hdr.clientID = some itS ∧
      isValidName (m.getFirstName beyond) = true ∧ isValidPIN m.request.pin = true ∧
      s.accountInfo.find? (m.customerID beyond) = none ∧
      (processCreateAccountRequest s m beyond).cerRR = .success ∧
      (processCreateAccountRequest s m beyond).server =
        s.addAccount m.hdr.clientID m.request (m.customerID beyond)) ∨
    ((processCreateAccountRequest s m beyond).cerRR ≠ .success ∧
      (processCreateAccountRequest s m beyond).server = s) := by
  simp only [processCreateAccountRequest]
  split
  next itS session =>
    split
    next valid =>
      obtain ⟨name, pin⟩ := (Bool.and_eq_true _ _).mp valid
      split
      · -- the customer ID is in use
        exact Or.inr ⟨by simp, rfl⟩
      next unused => exact Or.inl ⟨itS, session, name, pin, unused, rfl, rfl⟩
    · -- invalid name or PIN
      exact Or.inr ⟨by simp, rfl⟩
  · -- no such session
    exact Or.inr ⟨by simp, rfl⟩

/-- A logon succeeds, or there is a reason why nothing happens. -/
theorem processLogonRequest_cases (s : Server) (m : LogonRequest) (beyond : List Byte) :
    (∃ itS itA, s.sessionInfo.find? m.hdr.clientID = some itS ∧
      isValidName (m.getFirstName beyond) = true ∧ isValidPIN m.request.pin = true ∧
      s.accountInfo.find? (m.customerID beyond) = some itA ∧
      (processLogonRequest s m beyond).cerRR = .success ∧
      (processLogonRequest s m beyond).server = s.modifySession m.hdr.clientID
        fun i => (i.setCustomerID (m.customerID beyond)).setState .loggedOn) ∨
    ((s.sessionInfo.find? m.hdr.clientID = none ∨ isValidName (m.getFirstName beyond) = false ∨
        isValidPIN m.request.pin = false ∨ s.accountInfo.find? (m.customerID beyond) = none) ∧
      (processLogonRequest s m beyond).cerRR ≠ .success ∧
      (processLogonRequest s m beyond).server = s) := by
  simp only [processLogonRequest]
  split
  next itS session =>
    split
    next valid =>
      obtain ⟨name, pin⟩ := (Bool.and_eq_true _ _).mp valid
      split
      next itA account => exact Or.inl ⟨itS, itA, session, name, pin, account, rfl, rfl⟩
      next unknown =>
        exact Or.inr ⟨Or.inr (Or.inr (Or.inr unknown)), by simp, rfl⟩
    next invalid =>
      -- the condition joins both checks
      refine Or.inr ⟨Or.inr ?_, by simp, rfl⟩
      rcases Bool.and_eq_false_iff.mp (Bool.eq_false_iff.mpr invalid) with name | pin
      · exact Or.inl name
      · exact Or.inr (Or.inl pin)
  next none => exact Or.inr ⟨Or.inl none, by simp, rfl⟩

/-- A logoff clears the customer of a logged-on session; otherwise it keeps the customer
of every session. -/
theorem processLogoffRequest_cases (s : Server) (m : LogoffRequest) :
    (∃ itS, s.sessionInfo.find? m.hdr.clientID = some itS ∧
      isValidCustomerID itS.customerID = true ∧
      (processLogoffRequest s m).cerRR = .success ∧
      (processLogoffRequest s m).server = s.modifySession m.hdr.clientID
        fun i => (i.setCustomerID invalidCustomerID).setState .loggedOff) ∨
    (∃ itS, s.sessionInfo.find? m.hdr.clientID = some itS ∧
      isValidCustomerID itS.customerID = false ∧
      (processLogoffRequest s m).cerRR ≠ .success ∧
      (processLogoffRequest s m).server =
        s.modifySession m.hdr.clientID (·.setState .loggedOff)) ∨
    (s.sessionInfo.find? m.hdr.clientID = none ∧
      (processLogoffRequest s m).cerRR ≠ .success ∧ (processLogoffRequest s m).server = s) := by
  simp only [processLogoffRequest]
  split
  next itS session =>
    split
    next customer => exact Or.inl ⟨itS, session, customer, rfl, rfl⟩
    next noCustomer =>
      exact Or.inr (Or.inl ⟨itS, session, Bool.eq_false_iff.mpr noCustomer, by simp, rfl⟩)
  next none => exact Or.inr (Or.inr ⟨none, by simp, rfl⟩)

/-- The four ways through the decision tree of the account handlers. -/
theorem withAccount_cases {α : Type} (s : Server) (w : Word) (notLoggedon : CerType) (data : α)
    (act : Qword → AccountInfo → CerType × Server × α) :
    (s.sessionInfo.find? w = none ∧
      withAccount s w notLoggedon data act = ⟨none, .invalidClientID, s, data⟩) ∨
    (∃ itS, s.sessionInfo.find? w = some itS ∧ isValidCustomerID itS.customerID = false ∧
      withAccount s w notLoggedon data act = ⟨itS.socket, notLoggedon, s, data⟩) ∨
    (∃ itS, s.sessionInfo.find? w = some itS ∧ isValidCustomerID itS.customerID = true ∧
      s.accountInfo.find? itS.customerID = none ∧
      withAccount s w notLoggedon data act = ⟨itS.socket, .accountNotFound, s, data⟩) ∨
    (∃ itS itA, s.sessionInfo.find? w = some itS ∧ isValidCustomerID itS.customerID = true ∧
      s.accountInfo.find? itS.customerID = some itA ∧
      withAccount s w notLoggedon data act = ⟨itS.socket, (act itS.customerID itA).1,
        (act itS.customerID itA).2.1, (act itS.customerID itA).2.2⟩) := by
  cases session : s.sessionInfo.find? w with
  | none => exact Or.inl ⟨rfl, by simp only [withAccount, session]⟩
  | some itS =>
    right
    cases customer : isValidCustomerID itS.customerID with
    | false => exact Or.inl ⟨itS, rfl, customer, by simp [withAccount, session, customer]⟩
    | true =>
      right
      cases account : s.accountInfo.find? itS.customerID with
      | none => exact Or.inl ⟨itS, rfl, customer, account, by
          simp [withAccount, session, customer, account]⟩
      | some itA => exact Or.inr ⟨itS, itA, rfl, customer, account, by
          simp [withAccount, session, customer, account]⟩

/-- The code of an account handler whose action answers `success` or `insufficientFunds`. -/
private theorem withAccount_cerRR {α : Type} (s : Server) (w : Word) (notLoggedon : CerType)
    (data : α) (act : Qword → AccountInfo → CerType × Server × α)
    (codes : ∀ q itA, (act q itA).1 = .success ∨ (act q itA).1 = .insufficientFunds) :
    let cerRR := (withAccount s w notLoggedon data act).cerRR
    (s.sessionInfo.find? w = none ∧ cerRR = .invalidClientID) ∨
    (∃ itS, s.sessionInfo.find? w = some itS ∧ isValidCustomerID itS.customerID = false ∧
      cerRR = notLoggedon) ∨
    (∃ itS, s.sessionInfo.find? w = some itS ∧ isValidCustomerID itS.customerID = true ∧
      s.accountInfo.find? itS.customerID = none ∧ cerRR = .accountNotFound) ∨
    (∃ itS itA, s.sessionInfo.find? w = some itS ∧ isValidCustomerID itS.customerID = true ∧
      s.accountInfo.find? itS.customerID = some itA ∧
      (cerRR = .success ∨ cerRR = .insufficientFunds)) := by
  intro cerRR
  rcases withAccount_cases s w notLoggedon data act with
    ⟨session, h⟩ | ⟨itS, session, customer, h⟩ | ⟨itS, session, customer, account, h⟩ |
      ⟨itS, itA, session, customer, account, h⟩
  · exact Or.inl ⟨session, congrArg Handled.cerRR h⟩
  · exact Or.inr (Or.inl ⟨itS, session, customer, congrArg Handled.cerRR h⟩)
  · exact Or.inr (Or.inr (Or.inl ⟨itS, session, customer, account, congrArg Handled.cerRR h⟩))
  · have code : cerRR = (act itS.customerID itA).1 := congrArg Handled.cerRR h
    exact Or.inr (Or.inr (Or.inr ⟨itS, itA, session, customer, account,
      code ▸ codes itS.customerID itA⟩))

private theorem payOut_cerRR (s : Server) (qwNow : Qword) (dwAmount : Dword)
    (wType : TransactionType) (q : Qword) (itA : AccountInfo) :
    (payOut s qwNow dwAmount wType q itA).1 = .success ∨
      (payOut s qwNow dwAmount wType q itA).1 = .insufficientFunds := by
  simp only [payOut]
  split
  · exact Or.inl rfl
  · exact Or.inr rfl

/-- What a request on an account finds, and the code it answers. -/
theorem onAccount_cases (s : Server) (c : Socket) (now : Qword) (r : Request)
    (onAccount : r.OnAccount) :
    let cerRR := (dispatch s c now r).cerRR
    (s.sessionInfo.find? r.hdr.clientID = none ∧ cerRR = .invalidClientID) ∨
    (∃ itS, s.sessionInfo.find? r.hdr.clientID = some itS ∧
      isValidCustomerID itS.customerID = false ∧ cerRR = r.notLoggedon) ∨
    (∃ itS, s.sessionInfo.find? r.hdr.clientID = some itS ∧
      isValidCustomerID itS.customerID = true ∧
      s.accountInfo.find? itS.customerID = none ∧ cerRR = .accountNotFound) ∨
    (∃ itS itA, s.sessionInfo.find? r.hdr.clientID = some itS ∧
      isValidCustomerID itS.customerID = true ∧
      s.accountInfo.find? itS.customerID = some itA ∧
      (cerRR = .success ∨ cerRR = .insufficientFunds)) := by
  cases r with
  | deposit m => exact withAccount_cerRR s _ .invalidNamePin _ _ fun _ _ => Or.inl rfl
  | withdrawal m => exact withAccount_cerRR s _ .invalidNamePin _ _ (payOut_cerRR s now _ _)
  | stampPurchase m => exact withAccount_cerRR s _ .clientNotLoggedon _ _ (payOut_cerRR s now _ _)
  | balanceQuery m => exact withAccount_cerRR s _ .clientNotLoggedon _ _ fun _ _ => Or.inl rfl
  | transactionQuery m => exact withAccount_cerRR s _ .clientNotLoggedon _ _ fun _ _ => Or.inl rfl
  | connect m => exact onAccount.elim
  | createAccount m beyond => exact onAccount.elim
  | logon m beyond => exact onAccount.elim
  | logoff m => exact onAccount.elim

/-- An account handler has the effect of its action, or none. -/
private theorem withAccount_effect {α : Type} (s : Server) (op : Op) (w : Word)
    (notLoggedon : CerType) (data : α) (act : Qword → AccountInfo → CerType × Server × α)
    (acts : ∀ q itA, s.accountInfo.find? q = some itA → Effect s op (act q itA).2.1) :
    Effect s op (withAccount s w notLoggedon data act).server := by
  rcases withAccount_cases s w notLoggedon data act with
    ⟨_, h⟩ | ⟨_, _, _, h⟩ | ⟨_, _, _, _, h⟩ | ⟨itS, itA, _, _, account, h⟩
  · rw [h]; exact .idle op
  · rw [h]; exact .idle op
  · rw [h]; exact .idle op
  · rw [h]; exact acts _ itA account

private theorem payOut_effect (s : Server) (op : Op) (qwNow : Qword) (dwAmount : Dword)
    (wType : TransactionType) (debit : wType = .withdrawal ∨ wType = .stampPurchase)
    (q : Qword) (itA : AccountInfo) (account : s.accountInfo.find? q = some itA) :
    Effect s op (payOut s qwNow dwAmount wType q itA).2.1 := by
  by_cases covered : dwAmount ≤ itA.balance
  · exact .paidOut op qwNow dwAmount wType debit q itA account covered
  · simp only [payOut, if_neg covered]
    exact .idle op

/-- Every operation has one of the listed effects. -/
theorem step_effect (s : Server) (op : Op) : Effect s op (step s op) := by
  cases op with
  | disconnect w =>
    simp only [step, processDisconnect]
    split
    · exact .disconnected w
    · exact .idle _
  | restart accounts transactions => exact .restarted accounts transactions
  | message c now r =>
    cases r with
    | connect m =>
      simp only [step, dispatch]
      rcases processConnectRequest_cases s m c with ⟨_, _, _, _, server⟩ | ⟨_, server⟩
      · rw [server]; exact .connected c now m
      · rw [server]; exact .idle _
    | createAccount m beyond =>
      simp only [step, dispatch]
      rcases processCreateAccountRequest_cases s m beyond with
        ⟨itS, session, name, pin, unused, _, server⟩ | ⟨_, server⟩
      · rw [server]; exact .created c now m beyond itS session name pin unused
      · rw [server]; exact .idle _
    | logon m beyond =>
      simp only [step, dispatch]
      rcases processLogonRequest_cases s m beyond with
        ⟨itS, itA, session, name, pin, account, _, server⟩ | ⟨_, _, server⟩
      · rw [server]; exact .loggedOn c now m beyond itS itA session name pin account
      · rw [server]; exact .idle _
    | logoff m =>
      simp only [step, dispatch]
      rcases processLogoffRequest_cases s m with
        ⟨itS, session, customer, _, server⟩ | ⟨itS, session, noCustomer, _, server⟩ |
          ⟨_, _, server⟩
      · rw [server]; exact .loggedOff c now m itS session customer
      · rw [server]; exact .notLoggedOff c now m itS session noCustomer
      · rw [server]; exact .idle _
    | deposit m =>
      exact withAccount_effect s _ _ _ _ _ fun q itA account =>
        .paidIn _ now m.request.amount q itA account
    | withdrawal m =>
      exact withAccount_effect s _ _ _ _ _ fun q itA account =>
        payOut_effect s _ now m.request.amount .withdrawal (Or.inl rfl) q itA account
    | stampPurchase m =>
      exact withAccount_effect s _ _ _ _ _ fun q itA account =>
        payOut_effect s _ now m.request.amount .stampPurchase (Or.inr rfl) q itA account
    | balanceQuery m => exact withAccount_effect s _ _ _ _ _ fun _ _ _ => .idle _
    | transactionQuery m => exact withAccount_effect s _ _ _ _ _ fun _ _ _ => .idle _

end Cnp
