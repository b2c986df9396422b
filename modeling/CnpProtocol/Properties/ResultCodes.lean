import CnpProtocol.Properties.AccountRequests

/-!
# Result codes

The five requests on an account are five copies of one decision tree: session, logon,
account and, for payments, funds. Each exit should have one code. Deposit and withdrawal
answer `CER_INVALID_NAME_PIN` where the three others answer `CER_CLIENT_NOT_LOGGEDON`; all
other exits agree.
-/

namespace Cnp

/-- The amount that must be covered. -/
def Request.payment? : Request → Option Dword
  | .withdrawal m => some m.request.amount
  | .stampPurchase m => some m.request.amount
  | _ => none

/-- There is a session, but nobody is logged on. -/
def WithoutLogon (s : Server) (w : Word) : Prop :=
  ∃ itS, s.sessionInfo.find? w = some itS ∧ isValidCustomerID itS.customerID = false

/-- Every code stands for one exit of the decision tree. -/
structure CodesMean (s : Server) (r : Request) (cerRR : CerType) : Prop where
  invalidClientID : cerRR = .invalidClientID ↔ s.sessionInfo.find? r.hdr.clientID = none
  clientNotLoggedon : ∀ itS, s.sessionInfo.find? r.hdr.clientID = some itS →
    (cerRR = .clientNotLoggedon ↔ isValidCustomerID itS.customerID = false)
  accountNotFound : ∀ itS, s.sessionInfo.find? r.hdr.clientID = some itS →
    isValidCustomerID itS.customerID = true →
      (cerRR = .accountNotFound ↔ s.accountInfo.find? itS.customerID = none)
  insufficientFunds : ∀ itS itA, AccountFound s r.hdr.clientID itS itA →
    ∀ dwAmount, r.payment? = some dwAmount →
      (cerRR = .insufficientFunds ↔ itA.balance < dwAmount)
  success : ∀ itS itA, AccountFound s r.hdr.clientID itS itA →
    (∀ dwAmount, r.payment? = some dwAmount → dwAmount ≤ itA.balance) → cerRR = .success

/-! ### The exits -/

section Exits

variable {s : Server} {r : Request}

theorem codesMean_unknown (none : s.sessionInfo.find? r.hdr.clientID = none) :
    CodesMean s r .invalidClientID where
  invalidClientID := ⟨fun _ => none, fun _ => rfl⟩
  clientNotLoggedon _ session := by cases none.symm.trans session
  accountNotFound _ session := by cases none.symm.trans session
  insufficientFunds _ _ found := by cases none.symm.trans found.session
  success _ _ found := by cases none.symm.trans found.session

/-- In a session that is not logged on one code is the right one. -/
theorem codesMean_withoutLogon_iff (without : WithoutLogon s r.hdr.clientID) (cerRR : CerType) :
    CodesMean s r cerRR ↔ cerRR = .clientNotLoggedon := by
  obtain ⟨itS, session, nobody⟩ := without
  constructor
  · exact fun means => (means.clientNotLoggedon itS session).mpr nobody
  · rintro rfl
    have same (i : SessionInfo) (found : s.sessionInfo.find? r.hdr.clientID = some i) :
        isValidCustomerID i.customerID = false := by
      cases session.symm.trans found
      exact nobody
    exact {
      invalidClientID := ⟨nofun, fun none => by cases none.symm.trans session⟩
      clientNotLoggedon := fun i found => ⟨fun _ => same i found, fun _ => rfl⟩
      accountNotFound := fun i found valid => by cases (same i found).symm.trans valid
      insufficientFunds := fun i _ found => by
        cases (same i found.session).symm.trans found.customer
      success := fun i _ found => by cases (same i found.session).symm.trans found.customer }

theorem codesMean_noAccount {itS : SessionInfo}
    (session : s.sessionInfo.find? r.hdr.clientID = some itS)
    (customer : isValidCustomerID itS.customerID = true)
    (noAccount : s.accountInfo.find? itS.customerID = none) :
    CodesMean s r .accountNotFound where
  invalidClientID := ⟨nofun, fun none => by cases none.symm.trans session⟩
  clientNotLoggedon i found := by
    cases session.symm.trans found
    simp [customer]
  accountNotFound i found _ := by
    cases session.symm.trans found
    exact ⟨fun _ => noAccount, fun _ => rfl⟩
  insufficientFunds i _ found := by
    cases session.symm.trans found.session
    cases noAccount.symm.trans found.account
  success i _ found := by
    cases session.symm.trans found.session
    cases noAccount.symm.trans found.account

theorem codeOn_of_payment {dwAmount : Dword} (payment : r.payment? = some dwAmount)
    (itA : AccountInfo) :
    r.codeOn itA = if dwAmount ≤ itA.balance then .success else .insufficientFunds := by
  cases r with
  | withdrawal m =>
    cases payment
    simp [Request.codeOn, Request.money?, MoneyRequest.Covered, MoneyRequest.Pays,
      MoneyRequest.amount]
  | stampPurchase m =>
    cases payment
    simp [Request.codeOn, Request.money?, MoneyRequest.Covered, MoneyRequest.Pays,
      MoneyRequest.amount]
  | _ => cases payment

/-- Nothing is checked before a deposit or a query. -/
theorem codeOn_of_no_payment (other : r.payment? = none) (itA : AccountInfo) :
    r.codeOn itA = .success := by
  cases r with
  | withdrawal m => cases other
  | stampPurchase m => cases other
  | deposit m =>
    have covered : (MoneyRequest.deposit m).Covered itA := fun pays => absurd pays id
    simp only [Request.codeOn, Request.money?, if_pos covered]
  | _ => rfl

theorem codesMean_found {itS : SessionInfo} {itA : AccountInfo}
    (found : AccountFound s r.hdr.clientID itS itA) : CodesMean s r (r.codeOn itA) := by
  -- with an account only these two codes are left
  have codes : r.codeOn itA = .success ∨ r.codeOn itA = .insufficientFunds := by
    cases payment : r.payment? with
    | none => exact Or.inl (codeOn_of_no_payment payment itA)
    | some dwAmount =>
      rw [codeOn_of_payment payment]
      split
      · exact Or.inl rfl
      · exact Or.inr rfl
  have other (cerRR : CerType) (success : cerRR ≠ .success) (short : cerRR ≠ .insufficientFunds) :
      r.codeOn itA ≠ cerRR := by
    rintro rfl
    exact codes.elim success short
  constructor
  · rw [found.session]
    exact ⟨fun code => absurd code (other _ nofun nofun), nofun⟩
  · intro i there
    cases found.session.symm.trans there
    rw [found.customer]
    exact ⟨fun code => absurd code (other _ nofun nofun), nofun⟩
  · intro i there _
    cases found.session.symm.trans there
    rw [found.account]
    exact ⟨fun code => absurd code (other _ nofun nofun), nofun⟩
  · intro i a there dwAmount payment
    cases found.session.symm.trans there.session
    cases found.account.symm.trans there.account
    rw [codeOn_of_payment payment, ← not_le]
    split
    next covered => exact ⟨nofun, fun short => absurd covered short⟩
    next short => exact ⟨fun _ => short, fun _ => rfl⟩
  · intro i a there covered
    cases found.session.symm.trans there.session
    cases found.account.symm.trans there.account
    cases payment : r.payment? with
    | none => exact codeOn_of_no_payment payment itA
    | some dwAmount => rw [codeOn_of_payment payment, if_pos (covered dwAmount payment)]

end Exits

/-! ### The handlers -/

/-- Every handler meets the table of codes, except a deposit or a withdrawal in a session
that is not logged on. -/
theorem dispatch_codesMean_iff (s : Server) (c : Socket) (now : Qword) (r : Request)
    (onAccount : r.OnAccount) :
    CodesMean s r (dispatch s c now r).cerRR ↔
      ¬ ((r.type = .deposit ∨ r.type = .withdrawal) ∧ WithoutLogon s r.hdr.clientID) := by
  rcases onAccount_cases s c now r onAccount with
    ⟨none, code⟩ | ⟨itS, session, nobody, code⟩ | ⟨itS, session, customer, noAccount, code⟩ |
      ⟨itS, itA, session, customer, account, _⟩
  · rw [code]
    refine ⟨fun _ => ?_, fun _ => codesMean_unknown none⟩
    rintro ⟨_, i, there, _⟩
    cases none.symm.trans there
  · -- the one exit at which the handlers differ
    have without : WithoutLogon s r.hdr.clientID := ⟨itS, session, nobody⟩
    rw [code, codesMean_withoutLogon_iff without]
    cases r with
    | connect m => exact onAccount.elim
    | createAccount m beyond => exact onAccount.elim
    | logon m beyond => exact onAccount.elim
    | logoff m => exact onAccount.elim
    | _ => simp [Request.notLoggedon, Request.type, without]
  · rw [code]
    refine ⟨fun _ => ?_, fun _ => codesMean_noAccount session customer noAccount⟩
    rintro ⟨_, i, there, nobody⟩
    cases session.symm.trans there
    cases customer.symm.trans nobody
  · have found : AccountFound s r.hdr.clientID itS itA := ⟨session, customer, account⟩
    rw [dispatch_found c now r onAccount found]
    refine ⟨fun _ => ?_, fun _ => codesMean_found found⟩
    rintro ⟨_, i, there, nobody⟩
    cases session.symm.trans there
    cases customer.symm.trans nobody

/-- A withdrawal and a stamp purchase with the same client ID and amount have the same code and
the same balances. -/
def SamePayment (s : Server) (now : Qword) (m : WithdrawalRequest) (m' : StampPurchaseRequest) :
    Prop :=
  (processWithdrawalRequest s now m).cerRR = (processStampPurchaseRequest s now m').cerRR ∧
    (processWithdrawalRequest s now m).server.accountInfo =
      (processStampPurchaseRequest s now m').server.accountInfo

theorem samePayment_iff (s : Server) (now : Qword) (m : WithdrawalRequest)
    (m' : StampPurchaseRequest) (client : m'.hdr.clientID = m.hdr.clientID)
    (amount : m'.request.amount = m.request.amount) :
    SamePayment s now m m' ↔ ¬ WithoutLogon s m.hdr.clientID := by
  simp only [SamePayment, processWithdrawalRequest, processStampPurchaseRequest, client, amount]
  cases session : s.sessionInfo.find? m.hdr.clientID with
  | none => simp [withAccount, session, WithoutLogon]
  | some itS =>
    cases customer : isValidCustomerID itS.customerID with
    | false => simp [withAccount, session, customer, WithoutLogon]
    | true =>
      cases account : s.accountInfo.find? itS.customerID with
      | none => simp [withAccount, session, customer, account, WithoutLogon]
      | some itA =>
        -- the two checks are the same, and the records are in another table
        by_cases covered : m.request.amount ≤ itA.balance
        · simp [withAccount, session, customer, account, WithoutLogon, payOut, covered]
        · simp [withAccount, session, customer, account, WithoutLogon, payOut, covered]

/-- The result codes have one meaning across the five handlers in every state and for every
request but a deposit or a withdrawal in a session that is not logged on; a withdrawal and a
stamp purchase agree with the same exception. -/
theorem codes_mean_iff (s : Server) (c : Socket) (now : Qword) :
    (∀ r : Request, r.OnAccount → (CodesMean s r (dispatch s c now r).cerRR ↔
      ¬ ((r.type = .deposit ∨ r.type = .withdrawal) ∧ WithoutLogon s r.hdr.clientID))) ∧
    ∀ (m : WithdrawalRequest) (m' : StampPurchaseRequest), m'.hdr.clientID = m.hdr.clientID →
      m'.request.amount = m.request.amount →
        (SamePayment s now m m' ↔ ¬ WithoutLogon s m.hdr.clientID) :=
  ⟨dispatch_codesMean_iff s c now, samePayment_iff s now⟩

/-- A withdrawal above the balance in a logged-on session, and the stamp purchase that
answers like it. -/
theorem codes_mean_iff_anna :
    let s := run .empty (Client.firstVisit 7 [65, 110, 110, 97] 4711 500)
    CodesMean s (.withdrawal (.init 4 1 900 0))
        (dispatch s 7 0 (.withdrawal (.init 4 1 900 0))).cerRR ∧
      SamePayment s 0 (.init 4 1 900 0) (.init 4 1 900 0) := by
  intro s
  have loggedOn : (s.sessionInfo.find? 1).map (fun i => isValidCustomerID i.customerID) =
      some true := by decide +kernel
  have anna : ¬ WithoutLogon s 1 := by
    rintro ⟨i, session, nobody⟩
    rw [session, Option.map_some, nobody] at loggedOn
    cases loggedOn
  exact ⟨((codes_mean_iff s 7 0).1 (.withdrawal (.init 4 1 900 0)) trivial).mpr fun h => anna h.2,
    ((codes_mean_iff s 7 0).2 _ _ rfl rfl).mpr anna⟩

/-- A deposit right after the connect is refused with `CER_INVALID_NAME_PIN`. -/
theorem deposit_without_logon_code :
    let s := run .empty [Client.sendConnect 7 0]
    (dispatch s 7 0 (.deposit (.init 1 1 500 .cash 0))).cerRR = .invalidNamePin ∧
      ¬ CodesMean s (.deposit (.init 1 1 500 .cash 0))
        (dispatch s 7 0 (.deposit (.init 1 1 500 .cash 0))).cerRR := by
  intro s
  have code : (dispatch s 7 0 (.deposit (.init 1 1 500 .cash 0))).cerRR = .invalidNamePin := by
    decide +kernel
  have session : s.sessionInfo.find? 1 = some (.init 1 .connected (some 7)) := by decide +kernel
  refine ⟨code, fun means => ?_⟩
  have notLoggedon := (means.clientNotLoggedon _ session).mpr (by decide)
  rw [code] at notLoggedon
  cases notLoggedon

end Cnp
