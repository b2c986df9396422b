import CnpProtocol.Properties.History
import CnpProtocol.Properties.Isolation

/-!
# Logons and the history

A session keeps one customer ID, but who may move money is a fact about the whole run:
the customer of the last successful logon, unless a successful logoff or a disconnect
came after it. Both agree in every run of the nine handlers and `Disconnect`.
-/

namespace Cnp

/-! ### Events of a client -/

/-- The customer ID of a logon of client `w` that answered success. -/
def Event.logon? (w : Word) : Event → Option Qword
  | ⟨.message _ _ (.logon m beyond), some .success⟩ =>
    if m.hdr.clientID = w then some (m.customerID beyond) else none
  | _ => none

/-- A logoff of client `w` that answered success, or its disconnect. -/
def Event.Ends (w : Word) : Event → Prop
  | ⟨.message _ _ (.logoff m), some .success⟩ => m.hdr.clientID = w
  | ⟨.disconnect wClientID, _⟩ => wClientID = w
  | _ => False

/-- There was a successful logon of `w`, and nothing ended it since. -/
def HasLogon (past : List Event) (w : Word) : Prop :=
  Run.Since (fun e => (e.logon? w).isSome = true) (fun e => ¬ e.Ends w) past

/-- The last successful logon of `w` had the customer ID `q`, and nothing ended it since. -/
def LatestLogon (past : List Event) (w : Word) (q : Qword) : Prop :=
  Run.Since (fun e => e.logon? w = some q) (fun e => ¬ e.Ends w ∧ e.logon? w = none) past

/-! ### Requests on an account -/

/-- What the account handlers do with an account: they read it and the transaction table,
and change nothing but it and that table. -/
structure ActsOn {α : Type} (act : Server → Qword → AccountInfo → CerType × Server × α) :
    Prop where
  reads : ∀ s s₂ q itA, s₂.transactionInfo = s.transactionInfo →
    (act s₂ q itA).1 = (act s q itA).1 ∧ (act s₂ q itA).2.2 = (act s q itA).2.2
  here : ∀ s s₂ q itA, s₂.accountInfo.find? q = s.accountInfo.find? q →
    (act s₂ q itA).2.1.accountInfo.find? q = (act s q itA).2.1.accountInfo.find? q
  elsewhere : ∀ s q itA q', q' ≠ q →
    (act s q itA).2.1.accountInfo.find? q' = s.accountInfo.find? q'
  sessions : ∀ s q itA, (act s q itA).2.1.sessionInfo = s.sessionInfo

/-- An action that only reads. -/
theorem actsOn_read {α : Type} (code : CerType) (data : TransactionMap → Qword → AccountInfo → α) :
    ActsOn fun s q itA => (code, s, data s.transactionInfo q itA) where
  reads s s₂ q itA same := ⟨rfl, by simp only [same]⟩
  here _ _ _ _ same := same
  elsewhere _ _ _ _ _ := rfl
  sessions _ _ _ := rfl

theorem actsOn_payIn (qwNow : Qword) (dwAmount : Dword) :
    ActsOn fun s => payIn s qwNow dwAmount where
  reads _ _ _ _ _ := ⟨rfl, rfl⟩
  here s s₂ q itA same := by
    change (s₂.accountInfo.modify q _).find? q = (s.accountInfo.modify q _).find? q
    rw [OrderedMap.find?_modify, OrderedMap.find?_modify, if_pos rfl, if_pos rfl, same]
  elsewhere s q itA q' other := by
    change (s.accountInfo.modify q _).find? q' = _
    rw [OrderedMap.find?_modify, if_neg other]
  sessions _ _ _ := rfl

theorem actsOn_payOut (qwNow : Qword) (dwAmount : Dword) (wType : TransactionType) :
    ActsOn fun s => payOut s qwNow dwAmount wType where
  reads s s₂ q itA _ := by
    simp only [payOut]
    split
    · exact ⟨rfl, trivial⟩
    · exact ⟨rfl, trivial⟩
  here s s₂ q itA same := by
    simp only [payOut]
    split
    · change (s₂.accountInfo.modify q _).find? q = (s.accountInfo.modify q _).find? q
      rw [OrderedMap.find?_modify, OrderedMap.find?_modify, if_pos rfl, if_pos rfl, same]
    · exact same
  elsewhere s q itA q' other := by
    simp only [payOut]
    split
    · change (s.accountInfo.modify q _).find? q' = _
      rw [OrderedMap.find?_modify, if_neg other]
    · rfl
  sessions s q itA := by
    simp only [payOut]
    split
    · rfl
    · rfl

/-- Every request on an account goes through `withAccount`. -/
theorem dispatch_withAccount (c : Socket) (now : Qword) (r : Request) (onAccount : r.OnAccount) :
    ∃ (α : Type) (data : α) (act : Server → Qword → AccountInfo → CerType × Server × α)
      (respond : CerType → α → Response), ActsOn act ∧ ∀ s,
        let h := withAccount s r.hdr.clientID r.notLoggedon data (act s)
        dispatch s c now r = ⟨h.server, h.cerRR, send h.socket (respond h.cerRR h.data)⟩ := by
  cases r with
  | deposit m =>
    exact ⟨Unit, (), _, fun cerRR _ => .result (DepositResponse.init cerRR.code m.hdr.clientID
      m.hdr.sequence m.hdr.context), actsOn_payIn now m.request.amount, fun _ => rfl⟩
  | withdrawal m =>
    exact ⟨Unit, (), _, fun cerRR _ => .result (WithdrawalResponse.init cerRR.code
      m.hdr.clientID m.hdr.sequence m.hdr.context),
      actsOn_payOut now m.request.amount .withdrawal, fun _ => rfl⟩
  | stampPurchase m =>
    exact ⟨Unit, (), _, fun cerRR _ => .result (StampPurchaseResponse.init cerRR.code
      m.hdr.clientID m.hdr.sequence m.hdr.context),
      actsOn_payOut now m.request.amount .stampPurchase, fun _ => rfl⟩
  | balanceQuery m =>
    exact ⟨Dword, invalidBalance, _, fun cerRR dwBalance => .balanceQuery
      (BalanceQueryResponse.init cerRR.code m.hdr.clientID dwBalance m.hdr.context
        m.hdr.sequence),
      actsOn_read .success fun _ _ itA => itA.balance, fun _ => rfl⟩
  | transactionQuery m =>
    exact ⟨Word × List Transaction, (0, []), _, fun cerRR data => .transactionQuery
      { TransactionQueryResponse.init cerRR.code m.hdr.clientID data.1 m.hdr.sequence
          m.hdr.context with response.transactions := data.2 },
      actsOn_read .success fun transactions q _ =>
        collectTransactions q m.request.transactionCount 0
          (transactions.lowerBound m.request.startID), fun _ => rfl⟩
  | connect m => exact onAccount.elim
  | createAccount m beyond => exact onAccount.elim
  | logon m beyond => exact onAccount.elim
  | logoff m => exact onAccount.elim

theorem dispatch_sessionInfo (s : Server) (c : Socket) (now : Qword) (r : Request)
    (onAccount : r.OnAccount) : (dispatch s c now r).server.sessionInfo = s.sessionInfo := by
  obtain ⟨α, data, act, respond, acts, eq⟩ := dispatch_withAccount c now r onAccount
  rw [eq s]
  rcases withAccount_cases s r.hdr.clientID r.notLoggedon data (act s) with
    ⟨_, h⟩ | ⟨_, _, _, h⟩ | ⟨_, _, _, _, h⟩ | ⟨itS, itA, _, _, _, h⟩
  · simp only [h]
  · simp only [h]
  · simp only [h]
  · simp only [h]
    exact acts.sessions s _ itA

/-! ### What an operation does to a logon -/

theorem loggedOnAs_congr {s s' : Server} {w : Word}
    (same : s'.sessionInfo.find? w = s.sessionInfo.find? w) (q : Qword) :
    LoggedOnAs s' w q ↔ LoggedOnAs s w q := by
  rw [LoggedOnAs, LoggedOnAs, same]

/-- Whoever is logged on after an update of the session is the customer it leaves. -/
theorem LoggedOnAs.of_modifySession {s : Server} {w : Word} {f : SessionInfo → SessionInfo}
    {q : Qword} (loggedOn : LoggedOnAs (s.modifySession w f) w q) :
    ∃ i, s.sessionInfo.find? w = some i ∧ isValidCustomerID (f i).customerID = true ∧
      (f i).customerID = q := by
  obtain ⟨_, found, valid, own⟩ := loggedOn
  rw [Server.modifySession_sessionInfo, OrderedMap.find?_modify, if_pos rfl] at found
  obtain ⟨i, session, rfl⟩ := Option.map_eq_some_iff.mp found
  exact ⟨i, session, valid, own⟩

/-- A session update that keeps the customer keeps every logon. -/
theorem loggedOnAs_modifySession (s : Server) (w₀ : Word) (f : SessionInfo → SessionInfo)
    (customer : ∀ i, (f i).customerID = i.customerID) (w : Word) (q : Qword) :
    LoggedOnAs (s.modifySession w₀ f) w q ↔ LoggedOnAs s w q := by
  by_cases same : w = w₀
  · subst same
    constructor
    · intro loggedOn
      obtain ⟨i, session, valid, own⟩ := loggedOn.of_modifySession
      rw [customer] at valid own
      exact ⟨i, session, valid, own⟩
    · rintro ⟨i, session, valid, own⟩
      rw [← customer] at valid own
      refine ⟨f i, ?_, valid, own⟩
      rw [Server.modifySession_sessionInfo, OrderedMap.find?_modify, if_pos rfl, session,
        Option.map_some]
  · simp only [LoggedOnAs, Server.modifySession_sessionInfo, OrderedMap.find?_modify, if_neg same]

theorem loggedOnAs_modifySession_of_ne (s : Server) (w₀ : Word) (f : SessionInfo → SessionInfo)
    (w : Word) (other : w₀ ≠ w) (q : Qword) :
    LoggedOnAs (s.modifySession w₀ f) w q ↔ LoggedOnAs s w q :=
  loggedOnAs_congr (by
    rw [Server.modifySession_sessionInfo, OrderedMap.find?_modify, if_neg (Ne.symm other)]) q

/-- A new session is logged on as nobody. -/
theorem loggedOnAs_addSession (s : Server) (c : Socket) (w : Word) (q : Qword) :
    LoggedOnAs (s.addSession c) w q ↔ LoggedOnAs s w q := by
  constructor
  · rintro ⟨i, found, valid, own⟩
    rcases s.sessionInfo.find?_insert_cases found with old | ⟨_, rfl, _⟩
    · exact ⟨i, old, valid, own⟩
    · simp [isValidCustomerID, SessionInfo.init] at valid
  · rintro ⟨i, session, valid, own⟩
    exact ⟨i, s.sessionInfo.find?_insert_of_find? _ _ session, valid, own⟩

theorem LogonRequest.customerID_valid (m : LogonRequest) (beyond : List Byte)
    (pin : isValidPIN m.request.pin = true) : isValidCustomerID (m.customerID beyond) = true := by
  have nonzero := generateCustomerID_ne_zero (m.getFirstName beyond) m.request.pin
    ((isValidPIN_iff _).mp pin)
  exact bne_iff_ne.mpr nonzero

/-- The event is no logon and no end of one for `w`. -/
def Event.Neutral (w : Word) (e : Event) : Prop := e.logon? w = none ∧ ¬ e.Ends w

/-- A request that fails starts and ends no logon. -/
theorem Event.neutral_of_failed (w : Word) (c : Socket) (now : Qword) (r : Request)
    (cerRR : CerType) (failed : cerRR ≠ .success) :
    Event.Neutral w ⟨.message c now r, some cerRR⟩ := by
  cases cerRR with
  | success => exact absurd rfl failed
  | _ => cases r <;> exact ⟨rfl, id⟩

/-- What an operation does to the logon of a client: a logon sets it, a logoff or a
disconnect ends it, everything else keeps it. -/
theorem step_logon (s : Server) (op : Op) (running : op.Running) (w : Word) :
    (∃ q, (event s op).logon? w = some q ∧ ∀ q', LoggedOnAs (step s op) w q' ↔ q' = q) ∨
    ((event s op).logon? w = none ∧ (event s op).Ends w ∧
      ∀ q', ¬ LoggedOnAs (step s op) w q') ∨
    ((event s op).Neutral w ∧ ∀ q', LoggedOnAs (step s op) w q' ↔ LoggedOnAs s w q') := by
  cases op with
  | restart accounts transactions => exact running.elim
  | disconnect w₀ =>
    by_cases same : w₀ = w
    · -- the session is gone, if there was one
      refine Or.inr (Or.inl ⟨rfl, same, fun q' => ?_⟩)
      rintro ⟨i, found, _⟩
      simp only [step, processDisconnect] at found
      split at found
      · exact (s.sessionInfo.find?_of_find?_erase found).1 same.symm
      next none =>
        rw [← same, none] at found
        cases found
    · refine Or.inr (Or.inr ⟨⟨rfl, same⟩, loggedOnAs_congr ?_⟩)
      simp only [step, processDisconnect]
      split
      · rw [OrderedMap.find?_erase, if_neg (Ne.symm same)]
      · rfl
  | message c now r =>
    have account (onAccount : r.OnAccount) (q' : Qword) :
        LoggedOnAs (step s (.message c now r)) w q' ↔ LoggedOnAs s w q' :=
      loggedOnAs_congr (by rw [step, dispatch_sessionInfo s c now r onAccount]) q'
    cases r with
    | connect m =>
      refine Or.inr (Or.inr ⟨⟨rfl, id⟩, fun q' => ?_⟩)
      simp only [step, dispatch]
      rcases processConnectRequest_cases s m c with ⟨_, _, _, _, server⟩ | ⟨_, server⟩
      · rw [server]
        exact loggedOnAs_addSession s c w q'
      · rw [server]
    | createAccount m beyond =>
      refine Or.inr (Or.inr ⟨⟨rfl, id⟩, fun q' => ?_⟩)
      simp only [step, dispatch]
      rcases processCreateAccountRequest_cases s m beyond with
        ⟨_, _, _, _, _, _, server⟩ | ⟨_, server⟩
      · rw [server]
        exact loggedOnAs_modifySession s m.hdr.clientID (·.setState .accountCreated)
          (fun _ => rfl) w q'
      · rw [server]
    | logon m beyond =>
      simp only [step, dispatch, event]
      rcases processLogonRequest_cases s m beyond with
        ⟨itS, itA, session, name, pin, account, code, server⟩ | ⟨_, code, server⟩
      · rw [code, server]
        by_cases same : m.hdr.clientID = w
        · -- the logon of `w`
          refine Or.inl ⟨m.customerID beyond, if_pos same, fun q' => ?_⟩
          have found := session_of_logon s m beyond itS session
          rw [same] at found
          simp only [LoggedOnAs, same, found, Option.some.injEq, exists_eq_left']
          exact ⟨fun own => own.2.symm, fun own => ⟨m.customerID_valid beyond pin, own.symm⟩⟩
        · -- the logon of another client
          exact Or.inr (Or.inr ⟨⟨if_neg same, id⟩, loggedOnAs_modifySession_of_ne s _ _ w same⟩)
      · -- a logon that fails
        exact Or.inr (Or.inr ⟨Event.neutral_of_failed w c now _ _ code,
          fun q' => by rw [server]⟩)
    | logoff m =>
      simp only [step, dispatch, event]
      rcases processLogoffRequest_cases s m with
        ⟨itS, session, customer, code, server⟩ | ⟨itS, session, noCustomer, code, server⟩ |
          ⟨none, code, server⟩
      · rw [code, server]
        by_cases same : m.hdr.clientID = w
        · -- the logoff of `w`
          subst same
          refine Or.inr (Or.inl ⟨rfl, rfl, fun q' loggedOn => ?_⟩)
          obtain ⟨_, _, valid, _⟩ := loggedOn.of_modifySession
          cases valid
        · -- the logoff of another client
          exact Or.inr (Or.inr ⟨⟨rfl, same⟩, loggedOnAs_modifySession_of_ne s _ _ w same⟩)
      · -- a logoff that fails keeps the customer, which is nobody
        refine Or.inr (Or.inr ⟨Event.neutral_of_failed w c now _ _ code, fun q' => ?_⟩)
        rw [server]
        exact loggedOnAs_modifySession s m.hdr.clientID (·.setState .loggedOff)
          (fun _ => rfl) w q'
      · -- a logoff of an unknown client
        exact Or.inr (Or.inr ⟨Event.neutral_of_failed w c now _ _ code,
          fun q' => by rw [server]⟩)
    | deposit m => exact Or.inr (Or.inr ⟨⟨rfl, id⟩, account trivial⟩)
    | withdrawal m => exact Or.inr (Or.inr ⟨⟨rfl, id⟩, account trivial⟩)
    | balanceQuery m => exact Or.inr (Or.inr ⟨⟨rfl, id⟩, account trivial⟩)
    | transactionQuery m => exact Or.inr (Or.inr ⟨⟨rfl, id⟩, account trivial⟩)
    | stampPurchase m => exact Or.inr (Or.inr ⟨⟨rfl, id⟩, account trivial⟩)

/-- In every run of handlers and disconnects a session's customer is that of the latest
logon. -/
theorem loggedOnAs_iff_latestLogon (accounts : AccountMap) (transactions : TransactionMap)
    (ops : List Op) (running : ∀ op ∈ ops, op.Running) (w : Word) (q : Qword) :
    LoggedOnAs (run (.boot accounts transactions) ops) w q ↔
      LatestLogon (history (.boot accounts transactions) ops) w q := by
  refine Run.history_invariant step event
    (fun past s => ∀ w q, LoggedOnAs s w q ↔ LatestLogon past w q) Op.Running
    (fun past s op runs same w q => ?_) (.boot accounts transactions) (fun w q => ?_) ops
    running w q
  · rw [LatestLogon, Run.since_concat]
    rcases step_logon s op runs w with
      ⟨q₀, logon, new⟩ | ⟨silent, ended, nobody⟩ | ⟨⟨silent, open_⟩, kept⟩
    · -- a logon of `w` is the latest
      rw [new, logon, Option.some.injEq]
      constructor
      · exact fun own => Or.inl own.symm
      · rintro (own | ⟨_, _, none⟩)
        · exact own.symm
        · cases none
    · -- the logon of `w` ends
      rw [silent]
      refine ⟨fun logged => absurd logged (nobody q), ?_⟩
      rintro (own | ⟨_, going, _⟩)
      · cases own
      · exact absurd ended going
    · -- nothing happens to `w`
      rw [kept, same, silent]
      refine ⟨fun latest => Or.inr ⟨latest, open_, rfl⟩, ?_⟩
      rintro (own | ⟨latest, _⟩)
      · cases own
      · exact latest
  · -- no sessions, no events
    constructor
    · rintro ⟨i, found, _⟩
      cases found
    · exact fun latest => absurd latest (Run.not_since_nil _ _)

/-! ### The logged-on check -/

/-- The handler found a session that is logged on. -/
def PastLogonCheck (s : Server) (c : Socket) (now : Qword) (r : Request) : Prop :=
  (dispatch s c now r).cerRR ≠ .invalidClientID ∧ (dispatch s c now r).cerRR ≠ r.notLoggedon

theorem pastLogonCheck_iff (s : Server) (c : Socket) (now : Qword) (r : Request)
    (onAccount : r.OnAccount) :
    PastLogonCheck s c now r ↔ ∃ q, LoggedOnAs s r.hdr.clientID q := by
  have other (cerRR : CerType) (past : cerRR = .accountNotFound ∨ cerRR = .success ∨
      cerRR = .insufficientFunds) : cerRR ≠ .invalidClientID ∧ cerRR ≠ r.notLoggedon := by
    rcases past with rfl | rfl | rfl <;> cases r <;> simp [Request.notLoggedon]
  rcases onAccount_cases s c now r onAccount with
    ⟨none, code⟩ | ⟨itS, session, noCustomer, code⟩ | ⟨itS, session, customer, _, code⟩ |
      ⟨itS, itA, session, customer, _, code⟩
  · -- the client ID names no session
    refine ⟨fun past => absurd code past.1, ?_⟩
    rintro ⟨q, i, found, _⟩
    cases none.symm.trans found
  · -- the session has no customer
    refine ⟨fun past => absurd code past.2, ?_⟩
    rintro ⟨q, i, found, valid, _⟩
    cases session.symm.trans found
    rw [noCustomer] at valid
    cases valid
  · exact ⟨fun _ => ⟨_, itS, session, customer, rfl⟩, fun _ => other _ (Or.inl code)⟩
  · exact ⟨fun _ => ⟨_, itS, session, customer, rfl⟩, fun _ => other _ (Or.inr code)⟩

/-- The request works on the account with key `q`: it looks for this account, its answer
depends on no other, and it changes no other and records for no other. -/
structure WorksOn (s : Server) (c : Socket) (now : Qword) (r : Request) (q : Qword) : Prop where
  found : (dispatch s c now r).cerRR = .accountNotFound ↔ s.accountInfo.find? q = none
  reads : ∀ s₂ : Server,
    s₂.sessionInfo.find? r.hdr.clientID = s.sessionInfo.find? r.hdr.clientID →
    s₂.accountInfo.find? q = s.accountInfo.find? q → s₂.transactionInfo = s.transactionInfo →
      (dispatch s₂ c now r).cerRR = (dispatch s c now r).cerRR ∧
      (dispatch s₂ c now r).sent = (dispatch s c now r).sent ∧
      (dispatch s₂ c now r).server.accountInfo.find? q =
        (dispatch s c now r).server.accountInfo.find? q
  changes : ∀ q', q' ≠ q →
    (dispatch s c now r).server.accountInfo.find? q' = s.accountInfo.find? q'
  records : ∀ k t, (dispatch s c now r).server.transactionInfo.find? k = some t →
    s.transactionInfo.find? k = some t ∨ t.customerID = q

theorem withAccount_loggedOn {α : Type} (s : Server) (w : Word) (notLoggedon : CerType) (data : α)
    (act : Qword → AccountInfo → CerType × Server × α) (itS : SessionInfo)
    (session : s.sessionInfo.find? w = some itS)
    (customer : isValidCustomerID itS.customerID = true) :
    withAccount s w notLoggedon data act = match s.accountInfo.find? itS.customerID with
      | some itA => ⟨itS.socket, (act itS.customerID itA).1, (act itS.customerID itA).2.1,
          (act itS.customerID itA).2.2⟩
      | none => ⟨itS.socket, .accountNotFound, s, data⟩ := by
  cases account : s.accountInfo.find? itS.customerID with
  | none => simp only [withAccount, session, if_pos customer, account]
  | some itA => simp only [withAccount, session, if_pos customer, account]

theorem worksOn_of_loggedOnAs (s : Server) (c : Socket) (now : Qword) (r : Request)
    (onAccount : r.OnAccount) (q : Qword) (loggedOn : LoggedOnAs s r.hdr.clientID q) :
    WorksOn s c now r q := by
  have confined := dispatch_confined s c now r
    (by cases r <;> simp_all [Request.OnAccount, Request.type])
  obtain ⟨itS, session, customer, rfl⟩ := loggedOn
  obtain ⟨α, data, act, respond, acts, eq⟩ := dispatch_withAccount c now r onAccount
  have outcome (s₂ : Server) (same : s₂.sessionInfo.find? r.hdr.clientID = some itS) :=
    withAccount_loggedOn s₂ r.hdr.clientID r.notLoggedon data (act s₂) itS same customer
  constructor
  · -- the answer tells whether there is an account
    rcases onAccount_cases s c now r onAccount with
      ⟨none, _⟩ | ⟨i, found, noCustomer, _⟩ | ⟨i, found, _, account, code⟩ |
        ⟨i, itA, found, _, account, code⟩
    · cases none.symm.trans session
    · cases session.symm.trans found
      rw [customer] at noCustomer
      cases noCustomer
    · cases session.symm.trans found
      exact ⟨fun _ => account, fun _ => code⟩
    · cases session.symm.trans found
      rw [account]
      rcases code with code | code <;> simp [code]
  · -- a second state that agrees on session, account and transactions
    intro s₂ sessions account transactions
    have here := outcome s session
    have there := outcome s₂ (sessions.trans session)
    rw [account] at there
    rw [eq s, eq s₂, here, there]
    cases found : s.accountInfo.find? itS.customerID with
    | none => exact ⟨rfl, rfl, by rw [account, found]⟩
    | some itA =>
      obtain ⟨code, told⟩ := acts.reads s s₂ itS.customerID itA transactions
      refine ⟨code, ?_, acts.here s s₂ itS.customerID itA account⟩
      simp only [code, told]
  · -- the other accounts
    intro q' other
    have here := outcome s session
    rw [eq s, here]
    cases s.accountInfo.find? itS.customerID with
    | none => rfl
    | some itA => exact acts.elsewhere s itS.customerID itA q' other
  · -- new records
    intro k t found
    rcases confined.recorded k t found with old | ⟨i, found', _, own⟩
    · exact Or.inl old
    · cases session.symm.trans found'
      exact Or.inr own.symm

/-- A request on the account of a live session gets past the logged-on check exactly under
a current logon, and works on the account of the latest one. -/
theorem current_logon_run (accounts : AccountMap) (transactions : TransactionMap)
    (ops : List Op) (running : ∀ op ∈ ops, op.Running) (c : Socket) (now : Qword) (r : Request)
    (onAccount : r.OnAccount) :
    let s := run (.boot accounts transactions) ops
    let past := history (.boot accounts transactions) ops
    (PastLogonCheck s c now r ↔ HasLogon past r.hdr.clientID) ∧
      (PastLogonCheck s c now r →
        ∃ q, LatestLogon past r.hdr.clientID q ∧ WorksOn s c now r q) := by
  intro s past
  have latest := loggedOnAs_iff_latestLogon accounts transactions ops running r.hdr.clientID
  rw [pastLogonCheck_iff s c now r onAccount, HasLogon, Run.since_last]
  constructor
  · exact exists_congr latest
  · rintro ⟨q, loggedOn⟩
    exact ⟨q, (latest q).mp loggedOn, worksOn_of_loggedOnAs s c now r onAccount q loggedOn⟩

/-- Anna's balance query right after her first visit gets past the check and works on her
account. -/
theorem current_logon_run_anna :
    let ops := Client.firstVisit 7 [65, 110, 110, 97] 4711 500
    let s := run (.boot .empty .empty) ops
    let past := history (.boot .empty .empty) ops
    let r := Request.balanceQuery (.init 4 1 0)
    PastLogonCheck s 7 0 r ∧ HasLogon past 1 ∧
      ∃ q, LatestLogon past 1 q ∧ WorksOn s 7 0 r q := by
  intro ops s past r
  have both := current_logon_run .empty .empty ops
    (Client.running_firstVisit 7 [65, 110, 110, 97] 4711 500) 7 0 r trivial
  have session : s.sessionInfo.find? 1 = some ⟨1, .loggedOn, some 7,
      generateCustomerID [65, 110, 110, 97] 4 4711⟩ := by
    decide +kernel
  have passed : PastLogonCheck s 7 0 r :=
    (pastLogonCheck_iff s 7 0 r trivial).mpr ⟨_, _, session, by decide +kernel, rfl⟩
  exact ⟨passed, both.1.mp passed, both.2 passed⟩

end Cnp
