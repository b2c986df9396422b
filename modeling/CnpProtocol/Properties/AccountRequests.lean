import CnpProtocol.Properties.LogonHistory
import CnpProtocol.Server.MoneySteps

/-!
# Requests on an account

Deposit, withdrawal, stamp purchase and the two queries as functions of what they find: the
account of the session and the transaction table. A request that moves money and is covered
is booked, with one balance update and one record; every other one leaves the tables alone.
-/

namespace Cnp

/-- The session is logged on, and its account is there. -/
structure AccountFound (s : Server) (w : Word) (itS : SessionInfo) (itA : AccountInfo) : Prop where
  session : s.sessionInfo.find? w = some itS
  customer : isValidCustomerID itS.customerID = true
  account : s.accountInfo.find? itS.customerID = some itA

instance (s : Server) (w : Word) (itS : SessionInfo) (itA : AccountInfo) :
    Decidable (AccountFound s w itS itA) :=
  decidable_of_iff (s.sessionInfo.find? w = some itS ∧
      isValidCustomerID itS.customerID = true ∧ s.accountInfo.find? itS.customerID = some itA)
    ⟨fun h => ⟨h.1, h.2.1, h.2.2⟩, fun h => ⟨h.session, h.customer, h.account⟩⟩

theorem AccountFound.loggedOnAs {s : Server} {w : Word} {itS : SessionInfo} {itA : AccountInfo}
    (found : AccountFound s w itS itA) : LoggedOnAs s w itS.customerID :=
  ⟨itS, found.session, found.customer, rfl⟩

theorem accountFound_of_loggedOnAs {s : Server} {w : Word} {q : Qword} {a : AccountInfo}
    (loggedOn : LoggedOnAs s w q) (account : s.accountInfo.find? q = some a) :
    ∃ itS, AccountFound s w itS a ∧ itS.customerID = q := by
  obtain ⟨itS, session, customer, rfl⟩ := loggedOn
  exact ⟨itS, ⟨session, customer, account⟩, rfl⟩

/-! ### Booking -/

namespace MoneyRequest

/-- What is checked before money moves; a deposit has no check. -/
def Covered (m : MoneyRequest) (itA : AccountInfo) : Prop := m.Pays → m.amount ≤ itA.balance

instance (m : MoneyRequest) (itA : AccountInfo) : Decidable (m.Covered itA) :=
  inferInstanceAs (Decidable (m.Pays → m.amount ≤ itA.balance))

/-- The tables after the balance update and the record. -/
def book (m : MoneyRequest) (s : Server) (qwNow : Qword) (q : Qword) : Server :=
  (s.modifyAccount q m.update).recordTransaction qwNow m.amount m.transactionType q

section

variable (m : MoneyRequest) (s : Server) (qwNow : Qword) (q : Qword)

@[simp] theorem book_sessionInfo : (m.book s qwNow q).sessionInfo = s.sessionInfo := rfl

@[simp] theorem book_accountInfo :
    (m.book s qwNow q).accountInfo = s.accountInfo.modify q m.update := rfl

/-- A balance update leaves the other data of the account alone. -/
theorem update_base (a : AccountInfo) :
    (m.update a).toCreateAccountRequest = a.toCreateAccountRequest := by
  cases m <;> rfl

theorem update_customerID (a : AccountInfo) : (m.update a).customerID = a.customerID := by
  cases m <;> rfl

theorem book_transactionInfo :
    (m.book s qwNow q).transactionInfo =
      (s.recordTransaction qwNow m.amount m.transactionType q).transactionInfo := rfl

end

end MoneyRequest

namespace Request

def money? : Request → Option MoneyRequest
  | .deposit m => some (.deposit m)
  | .withdrawal m => some (.withdrawal m)
  | .stampPurchase m => some (.stampPurchase m)
  | _ => none

theorem eq_toRequest_of_money? {r : Request} {m : MoneyRequest} (money : r.money? = some m) :
    r = m.toRequest := by
  cases r with
  | deposit m' => cases money; rfl
  | withdrawal m' => cases money; rfl
  | stampPurchase m' => cases money; rfl
  | _ => cases money

/-- The code of the request once the account is found. -/
def codeOn (r : Request) (itA : AccountInfo) : CerType :=
  match r.money? with
  | some m => if m.Covered itA then .success else .insufficientFunds
  | none => .success

/-- The tables the request leaves once the account is found. -/
def bookOn (r : Request) (s : Server) (qwNow : Qword) (q : Qword) (itA : AccountInfo) : Server :=
  match r.money? with
  | some m => if m.Covered itA then m.book s qwNow q else s
  | none => s

/-- The response once the account is found. -/
def respondOn (r : Request) (transactions : TransactionMap) (q : Qword) (itA : AccountInfo) :
    Response :=
  match r with
  -- context before sequence, as in the handler
  | .balanceQuery m => .balanceQuery (BalanceQueryResponse.init CerType.success.code
      m.hdr.clientID itA.balance m.hdr.context m.hdr.sequence)
  | .transactionQuery m =>
    let page := collectTransactions q m.request.transactionCount 0
      (transactions.lowerBound m.request.startID)
    let respMsg := TransactionQueryResponse.init CerType.success.code m.hdr.clientID page.1
      m.hdr.sequence m.hdr.context
    .transactionQuery { respMsg with response.transactions := page.2 }
  | r => .result (.init r.type (r.codeOn itA).code r.hdr.clientID r.hdr.sequence r.hdr.context)

end Request

/-! ### What a request does -/

section Found

variable {s : Server} {itS : SessionInfo} {itA : AccountInfo}

theorem withAccount_found {w : Word} (found : AccountFound s w itS itA) {α : Type}
    (notLoggedon : CerType) (data : α) (act : Qword → AccountInfo → CerType × Server × α) :
    withAccount s w notLoggedon data act = ⟨itS.socket, (act itS.customerID itA).1,
      (act itS.customerID itA).2.1, (act itS.customerID itA).2.2⟩ := by
  have handled := withAccount_loggedOn s w notLoggedon data act itS found.session found.customer
  rwa [found.account] at handled

/-- The handlers of the three money requests. -/
theorem money_found (m : MoneyRequest) (qwNow : Qword)
    (found : AccountFound s m.clientID itS itA) :
    withAccount s m.clientID m.toRequest.notLoggedon () (m.act s qwNow) =
      if m.Covered itA then ⟨itS.socket, .success, m.book s qwNow itS.customerID, ()⟩
      else ⟨itS.socket, .insufficientFunds, s, ()⟩ := by
  rw [withAccount_found found]
  split
  next covered =>
    rw [m.act_covered s qwNow _ itA covered]
    rfl
  next short =>
    -- only a payment can be short
    obtain ⟨pays, above⟩ := Classical.not_imp.mp short
    rw [m.act_short s qwNow _ itA pays above]

/-- A request on an account that is there: its tables, its code and its response. -/
theorem dispatch_found (c : Socket) (qwNow : Qword) (r : Request) (onAccount : r.OnAccount)
    (found : AccountFound s r.hdr.clientID itS itA) :
    dispatch s c qwNow r = ⟨r.bookOn s qwNow itS.customerID itA, r.codeOn itA,
      send itS.socket (r.respondOn s.transactionInfo itS.customerID itA)⟩ := by
  -- the three handlers that move money are one with other parameters
  have money (m : MoneyRequest) (same : r = m.toRequest)
      (handler : let h := withAccount s m.clientID m.toRequest.notLoggedon () (m.act s qwNow)
        dispatch s c qwNow r = ⟨h.server, h.cerRR, send h.socket (.result (.init r.type
          h.cerRR.code r.hdr.clientID r.hdr.sequence r.hdr.context))⟩)
      (booked : r.money? = some m)
      (result : r.respondOn s.transactionInfo itS.customerID itA = .result (.init r.type
        (r.codeOn itA).code r.hdr.clientID r.hdr.sequence r.hdr.context)) :
      dispatch s c qwNow r = ⟨r.bookOn s qwNow itS.customerID itA, r.codeOn itA,
        send itS.socket (r.respondOn s.transactionInfo itS.customerID itA)⟩ := by
    rw [handler, result, money_found m qwNow (same ▸ found), Request.bookOn, Request.codeOn,
      booked]
    by_cases covered : m.Covered itA
    · simp only [if_pos covered]
    · simp only [if_neg covered]
  cases r with
  | deposit m => exact money (.deposit m) rfl rfl rfl rfl
  | withdrawal m => exact money (.withdrawal m) rfl rfl rfl rfl
  | stampPurchase m => exact money (.stampPurchase m) rfl rfl rfl rfl
  | balanceQuery m =>
    have here : AccountFound s m.hdr.clientID itS itA := found
    have handled := withAccount_found here .clientNotLoggedon invalidBalance
      fun _ itA => (.success, s, itA.balance)
    simp only [dispatch, processBalanceQueryRequest]
    rw [handled]
    rfl
  | transactionQuery m =>
    have here : AccountFound s m.hdr.clientID itS itA := found
    have handled := withAccount_found here .clientNotLoggedon (0, [])
      fun q _ => (.success, s, collectTransactions q m.request.transactionCount 0
        (s.transactionInfo.lowerBound m.request.startID))
    simp only [dispatch, processTransactionQueryRequest]
    rw [handled]
    rfl
  | connect m => exact onAccount.elim
  | createAccount m beyond => exact onAccount.elim
  | logon m beyond => exact onAccount.elim
  | logoff m => exact onAccount.elim

end Found

/-- A request on an account books money and succeeds, or the tables stay as they are. -/
theorem dispatch_onAccount (s : Server) (c : Socket) (qwNow : Qword) (r : Request)
    (onAccount : r.OnAccount) :
    (∃ m itS itA, r = MoneyRequest.toRequest m ∧ AccountFound s r.hdr.clientID itS itA ∧
      m.Covered itA ∧ (dispatch s c qwNow r).cerRR = .success ∧
      (dispatch s c qwNow r).server = m.book s qwNow itS.customerID) ∨
    (dispatch s c qwNow r).server = s := by
  obtain ⟨α, data, act, respond, _, eq⟩ := dispatch_withAccount c qwNow r onAccount
  rcases withAccount_cases s r.hdr.clientID r.notLoggedon data (act s) with
    ⟨_, h⟩ | ⟨_, _, _, h⟩ | ⟨_, _, _, _, h⟩ | ⟨itS, itA, session, customer, account, _⟩
  · exact Or.inr (by simp only [eq s, h])
  · exact Or.inr (by simp only [eq s, h])
  · exact Or.inr (by simp only [eq s, h])
  · have found : AccountFound s r.hdr.clientID itS itA := ⟨session, customer, account⟩
    rw [dispatch_found c qwNow r onAccount found]
    simp only [Request.bookOn, Request.codeOn]
    cases money : r.money? with
    | none => exact Or.inr rfl
    | some m =>
      by_cases covered : m.Covered itA
      · exact Or.inl ⟨m, itS, itA, Request.eq_toRequest_of_money? money, found, covered,
          if_pos covered, if_pos covered⟩
      · exact Or.inr (if_neg covered)

/-! ### Runs -/

/-- Every customer that is logged on has an account. -/
def CustomersKnown (s : Server) : Prop :=
  ∀ w q, LoggedOnAs s w q → (s.accountInfo.find? q).isSome = true

theorem customersKnown_boot (accounts : AccountMap) (transactions : TransactionMap) :
    CustomersKnown (.boot accounts transactions) := by
  rintro w q ⟨i, found, _⟩
  cases found

/-- Logons that were there before, and accounts that are still there. -/
theorem CustomersKnown.of_keeps {s s' : Server} (h : CustomersKnown s)
    (logons : ∀ w q, LoggedOnAs s' w q → LoggedOnAs s w q)
    (accounts : ∀ q, (s.accountInfo.find? q).isSome = true →
      (s'.accountInfo.find? q).isSome = true) : CustomersKnown s' :=
  fun w q loggedOn => accounts q (h w q (logons w q loggedOn))

theorem CustomersKnown.effect {s s' : Server} {op : Op} (h : CustomersKnown s)
    (e : Effect s op s') : CustomersKnown s' := by
  cases e with
  | idle => exact h
  | connected c now m =>
    exact h.of_keeps (fun w q => (loggedOnAs_addSession s c w q).mp) fun _ => id
  | created c now m beyond itS session name pin unused =>
    -- the session keeps its customer, and an insertion loses no account
    refine h.of_keeps (fun w q loggedOn => ?_) fun q => s.accountInfo.isSome_find?_insert _ _
    exact (loggedOnAs_modifySession s m.hdr.clientID (·.setState .accountCreated)
      (fun _ => rfl) w q).mp loggedOn
  | loggedOn c now m beyond itS itA session name pin account =>
    intro w q loggedOn
    by_cases own : m.hdr.clientID = w
    · -- the customer whose account the logon has found
      subst own
      obtain ⟨_, _, _, rfl⟩ := loggedOn.of_modifySession
      exact Option.isSome_iff_exists.mpr ⟨itA, account⟩
    · exact h w q ((loggedOnAs_modifySession_of_ne s _ _ w own q).mp loggedOn)
  | loggedOff c now m itS session customer =>
    refine h.of_keeps (fun w q loggedOn => ?_) fun _ => id
    by_cases own : m.hdr.clientID = w
    · -- nobody is logged on there any more
      subst own
      obtain ⟨_, _, valid, _⟩ := loggedOn.of_modifySession
      cases valid
    · exact (loggedOnAs_modifySession_of_ne s _ _ w own q).mp loggedOn
  | notLoggedOff c now m itS session noCustomer =>
    refine h.of_keeps (fun w q loggedOn => ?_) fun _ => id
    exact (loggedOnAs_modifySession s m.hdr.clientID (·.setState .loggedOff)
      (fun _ => rfl) w q).mp loggedOn
  | paidIn _ qwNow dwAmount q itA account =>
    refine h.of_keeps (fun _ _ => id) fun q' known => ?_
    exact (s.accountInfo.isSome_find?_modify q q' _).trans known
  | paidOut _ qwNow dwAmount wType debit q itA account covered =>
    simp only [payOut, if_pos covered]
    refine h.of_keeps (fun _ _ => id) fun q' known => ?_
    exact (s.accountInfo.isSome_find?_modify q q' _).trans known
  | disconnected w =>
    refine h.of_keeps ?_ fun _ => id
    rintro w' q ⟨i, found, rest⟩
    exact ⟨i, (s.sessionInfo.find?_of_find?_erase found).2, rest⟩
  | restarted accounts transactions => exact customersKnown_boot _ _

/-- In every reachable state the account of a logged-on session is there. -/
theorem accountFound_run (accounts : AccountMap) (transactions : TransactionMap) (ops : List Op)
    (w : Word) (q : Qword) (loggedOn : LoggedOnAs (run (.boot accounts transactions) ops) w q) :
    ∃ itS itA, AccountFound (run (.boot accounts transactions) ops) w itS itA ∧
      itS.customerID = q := by
  have known : CustomersKnown (run (.boot accounts transactions) ops) :=
    Run.invariant step CustomersKnown (fun _ => True)
      (fun s op _ h => h.effect (step_effect s op)) _ (customersKnown_boot accounts transactions)
      ops (fun _ _ => trivial)
  obtain ⟨itA, account⟩ := Option.isSome_iff_exists.mp (known w q loggedOn)
  obtain ⟨itS, found, own⟩ := accountFound_of_loggedOnAs loggedOn account
  exact ⟨itS, itA, found, own⟩

/-- Anna's session and account after her first visit. -/
theorem accountFound_anna :
    AccountFound (run (.boot .empty .empty) (Client.firstVisit 7 [65, 110, 110, 97] 4711 500)) 1
      ⟨1, .loggedOn, some 7, generateCustomerID [65, 110, 110, 97] 4 4711⟩
      ⟨.init [65, 110, 110, 97] [] [] 4711 0 0, generateCustomerID [65, 110, 110, 97] 4 4711,
        500⟩ := by
  decide +kernel

end Cnp
