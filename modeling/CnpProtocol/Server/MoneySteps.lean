import CnpProtocol.Server.Operations

/-!
# Calls of the money handlers, step by step

`ProcessDepositRequest`, `ProcessWithdrawalRequest` and `ProcessStampPurchaseRequest` as
the sequence of their accesses to the shared tables. Each client has a thread of its own
and the account table is not locked, so steps of different calls interleave; only the
section under `g_TransactionMutex` is one step. A call that runs alone does what the
handler does.
-/

namespace Cnp

inductive MoneyRequest
  | deposit (m : DepositRequest)
  | withdrawal (m : WithdrawalRequest)
  | stampPurchase (m : StampPurchaseRequest)

namespace MoneyRequest

def toRequest : MoneyRequest → Request
  | .deposit m => .deposit m
  | .withdrawal m => .withdrawal m
  | .stampPurchase m => .stampPurchase m

def clientID (m : MoneyRequest) : Word := m.toRequest.hdr.clientID

def amount : MoneyRequest → Dword
  | .deposit m => m.request.amount
  | .withdrawal m => m.request.amount
  | .stampPurchase m => m.request.amount

def transactionType : MoneyRequest → TransactionType
  | .deposit _ => .deposit
  | .withdrawal _ => .withdrawal
  | .stampPurchase _ => .stampPurchase

/-- Withdrawals and stamp purchases, which check the balance. -/
def Pays : MoneyRequest → Prop
  | .deposit _ => False
  | _ => True

instance (m : MoneyRequest) : Decidable m.Pays :=
  match m with
  | .deposit _ => .isFalse id
  | .withdrawal _ => .isTrue trivial
  | .stampPurchase _ => .isTrue trivial

/-- The balance update. -/
def update : MoneyRequest → AccountInfo → AccountInfo
  | .deposit m, a => a.incrBalance m.request.amount
  | .withdrawal m, a => a.decrBalance m.request.amount
  | .stampPurchase m, a => a.decrBalance m.request.amount

end MoneyRequest

/-- Where a call is between two of its accesses. The customer ID is a local variable of
the call, and so is the iterator to the account with that key. -/
inductive Phase
  | start
  | sessionFound (qwCustomerID : Qword)
  | accountFound (qwCustomerID : Qword)
  | checked (qwCustomerID : Qword)
  | updated (qwCustomerID : Qword)
  | done (cerRR : CerType)
  deriving DecidableEq

/-- The next access of a call. A deposit goes from the account straight to the update. -/
def moneyStep (m : MoneyRequest) (qwNow : Qword) (s : Server) : Phase → Server × Phase
  | .start =>
    match s.sessionInfo.find? m.clientID with
    | some itS =>
      if isValidCustomerID itS.customerID then (s, .sessionFound itS.customerID)
      else (s, .done m.toRequest.notLoggedon)
    | none => (s, .done .invalidClientID)
  | .sessionFound q =>
    match s.accountInfo.find? q with
    | some _ => (s, if m.Pays then .accountFound q else .checked q)
    | none => (s, .done .accountNotFound)
  | .accountFound q =>
    match s.accountInfo.find? q with
    | some itA =>
      if m.amount ≤ itA.balance then (s, .checked q) else (s, .done .insufficientFunds)
    -- no account is ever removed, so the iterator stays valid
    | none => (s, .accountFound q)
  | .checked q => (s.modifyAccount q m.update, .updated q)
  -- the section under `g_TransactionMutex`
  | .updated q => (s.recordTransaction qwNow m.amount m.transactionType q, .done .success)
  | .done cerRR => (s, .done cerRR)

/-! ### What a step may change -/

/-- Every step of a call, with what is known when it is taken. -/
inductive CallEffect (m : MoneyRequest) (qwNow : Qword) (s : Server) :
    Phase → Server → Phase → Prop
  | idle (p : Phase) : CallEffect m qwNow s p s p
  | session (itS : SessionInfo) (found : s.sessionInfo.find? m.clientID = some itS)
      (customer : isValidCustomerID itS.customerID = true) :
      CallEffect m qwNow s .start s (.sessionFound itS.customerID)
  | notLoggedon (itS : SessionInfo) (found : s.sessionInfo.find? m.clientID = some itS)
      (noCustomer : isValidCustomerID itS.customerID = false) :
      CallEffect m qwNow s .start s (.done m.toRequest.notLoggedon)
  | noSession (none : s.sessionInfo.find? m.clientID = none) :
      CallEffect m qwNow s .start s (.done .invalidClientID)
  | account (q : Qword) (itA : AccountInfo) (found : s.accountInfo.find? q = some itA)
      (pays : m.Pays) : CallEffect m qwNow s (.sessionFound q) s (.accountFound q)
  | unchecked (q : Qword) (itA : AccountInfo) (found : s.accountInfo.find? q = some itA)
      (deposit : ¬ m.Pays) : CallEffect m qwNow s (.sessionFound q) s (.checked q)
  | noAccount (q : Qword) (none : s.accountInfo.find? q = none) :
      CallEffect m qwNow s (.sessionFound q) s (.done .accountNotFound)
  | checked (q : Qword) (itA : AccountInfo) (found : s.accountInfo.find? q = some itA)
      (covered : m.amount ≤ itA.balance) : CallEffect m qwNow s (.accountFound q) s (.checked q)
  | insufficient (q : Qword) (itA : AccountInfo) (found : s.accountInfo.find? q = some itA)
      (short : ¬ m.amount ≤ itA.balance) :
      CallEffect m qwNow s (.accountFound q) s (.done .insufficientFunds)
  | updated (q : Qword) :
      CallEffect m qwNow s (.checked q) (s.modifyAccount q m.update) (.updated q)
  | recorded (q : Qword) :
      CallEffect m qwNow s (.updated q)
        (s.recordTransaction qwNow m.amount m.transactionType q) (.done .success)

theorem moneyStep_effect (m : MoneyRequest) (qwNow : Qword) (s : Server) (p : Phase) :
    CallEffect m qwNow s p (moneyStep m qwNow s p).1 (moneyStep m qwNow s p).2 := by
  cases p with
  | start =>
    simp only [moneyStep]
    split
    next itS found =>
      split
      next customer => exact .session itS found customer
      next noCustomer => exact .notLoggedon itS found (Bool.eq_false_iff.mpr noCustomer)
    next none => exact .noSession none
  | sessionFound q =>
    simp only [moneyStep]
    split
    next itA found =>
      split
      next pays => exact .account q itA found pays
      next deposit => exact .unchecked q itA found deposit
    next none => exact .noAccount q none
  | accountFound q =>
    simp only [moneyStep]
    split
    next itA found =>
      split
      next covered => exact .checked q itA found covered
      next short => exact .insufficient q itA found short
    · exact .idle _
  | checked q => exact .updated q
  | updated q => exact .recorded q
  | done cerRR => exact .idle _

/-- The customer whose account a call is working on. -/
def Phase.customer? : Phase → Option Qword
  | .sessionFound q | .accountFound q | .checked q | .updated q => some q
  | _ => none

theorem CallEffect.sessionInfo_eq {m : MoneyRequest} {qwNow : Qword} {s s' : Server}
    {p p' : Phase} (e : CallEffect m qwNow s p s' p') : s'.sessionInfo = s.sessionInfo := by
  cases e with
  | _ => rfl

/-- A call works on the customer of its session, which it reads once. -/
theorem CallEffect.customer {m : MoneyRequest} {qwNow : Qword} {s s' : Server} {p p' : Phase}
    (e : CallEffect m qwNow s p s' p') (q : Qword) (works : p'.customer? = some q) :
    p.customer? = some q ∨
      ∃ itS, s.sessionInfo.find? m.clientID = some itS ∧ itS.customerID = q := by
  cases e with
  | session itS found customer => exact Or.inr ⟨itS, found, Option.some.inj works⟩
  | idle p => exact Or.inl works
  | account q' itA found pays => exact Or.inl works
  | unchecked q' itA found deposit => exact Or.inl works
  | checked q' itA found covered => exact Or.inl works
  | updated q' => exact Or.inl works
  | _ => cases works

/-! ### A call that runs alone -/

theorem moneyStep_start (m : MoneyRequest) (qwNow : Qword) (s : Server) (q : Qword)
    (loggedOn : LoggedOnAs s m.clientID q) :
    moneyStep m qwNow s .start = (s, .sessionFound q) := by
  obtain ⟨itS, session, customer, rfl⟩ := loggedOn
  simp only [moneyStep, session, if_pos customer]

theorem moneyStep_sessionFound (m : MoneyRequest) (qwNow : Qword) (s : Server) (q : Qword)
    (itA : AccountInfo) (account : s.accountInfo.find? q = some itA) :
    moneyStep m qwNow s (.sessionFound q) =
      (s, if m.Pays then .accountFound q else .checked q) := by
  simp only [moneyStep, account]

theorem moneyStep_accountFound (m : MoneyRequest) (qwNow : Qword) (s : Server) (q : Qword)
    (itA : AccountInfo) (account : s.accountInfo.find? q = some itA) :
    moneyStep m qwNow s (.accountFound q) =
      (s, if m.amount ≤ itA.balance then .checked q else .done .insufficientFunds) := by
  simp only [moneyStep, account]
  split
  · rfl
  · rfl

/-- The call from its start, with no other call in between. -/
def runAlone (m : MoneyRequest) (qwNow : Qword) (s : Server) (n : Nat) : Server × Phase :=
  Run.Threads.alone (moneyStep m qwNow) n (s, .start)

/-- What the handler does once it has the account. -/
def MoneyRequest.act (s : Server) (qwNow : Qword) :
    MoneyRequest → Qword → AccountInfo → CerType × Server × Unit
  | .deposit m => payIn s qwNow m.request.amount
  | .withdrawal m => payOut s qwNow m.request.amount .withdrawal
  | .stampPurchase m => payOut s qwNow m.request.amount .stampPurchase

theorem MoneyRequest.dispatch_eq (m : MoneyRequest) (c : Socket) (qwNow : Qword) (s : Server) :
    let h := withAccount s m.clientID m.toRequest.notLoggedon () (m.act s qwNow)
    (dispatch s c qwNow m.toRequest).server = h.server ∧
      (dispatch s c qwNow m.toRequest).cerRR = h.cerRR := by
  cases m with
  | deposit m => exact ⟨rfl, rfl⟩
  | withdrawal m => exact ⟨rfl, rfl⟩
  | stampPurchase m => exact ⟨rfl, rfl⟩

theorem MoneyRequest.act_covered (m : MoneyRequest) (s : Server) (qwNow : Qword) (q : Qword)
    (itA : AccountInfo) (covered : m.Pays → m.amount ≤ itA.balance) :
    m.act s qwNow q itA = (.success, (s.modifyAccount q m.update).recordTransaction qwNow m.amount
      m.transactionType q, ()) := by
  cases m with
  | deposit m => rfl
  | withdrawal m => exact if_pos (covered trivial)
  | stampPurchase m => exact if_pos (covered trivial)

theorem MoneyRequest.act_short (m : MoneyRequest) (s : Server) (qwNow : Qword) (q : Qword)
    (itA : AccountInfo) (pays : m.Pays) (short : ¬ m.amount ≤ itA.balance) :
    m.act s qwNow q itA = (.insufficientFunds, s, ()) := by
  cases m with
  | deposit m => exact pays.elim
  | withdrawal m => exact if_neg short
  | stampPurchase m => exact if_neg short

/-- After the five accesses the tables and the result code are those of the handler. -/
theorem runAlone_eq_dispatch (m : MoneyRequest) (c : Socket) (qwNow : Qword) (s : Server) :
    runAlone m qwNow s 5 =
      ((dispatch s c qwNow m.toRequest).server,
        .done (dispatch s c qwNow m.toRequest).cerRR) := by
  obtain ⟨server, code⟩ := m.dispatch_eq c qwNow s
  rw [server, code]
  rcases withAccount_cases s m.clientID m.toRequest.notLoggedon () (m.act s qwNow) with
    ⟨session, h⟩ | ⟨itS, session, customer, h⟩ | ⟨itS, session, customer, account, h⟩ |
      ⟨itS, itA, session, customer, account, h⟩
  · simp [h, runAlone, Run.Threads.alone, moneyStep, session]
  · simp [h, runAlone, Run.Threads.alone, moneyStep, session, customer]
  · simp [h, runAlone, Run.Threads.alone, moneyStep, session, customer, account]
  · have first := moneyStep_start m qwNow s _ ⟨itS, session, customer, rfl⟩
    have second := moneyStep_sessionFound m qwNow s _ itA account
    have third := moneyStep_accountFound m qwNow s _ itA account
    rw [h]
    by_cases pays : m.Pays
    · -- a payment checks the balance in its third access
      rw [if_pos pays] at second
      by_cases covered : m.amount ≤ itA.balance
      · rw [if_pos covered] at third
        rw [m.act_covered s qwNow _ itA fun _ => covered]
        simp only [runAlone, Run.Threads.alone, first, second, third]
        rfl
      · rw [if_neg covered] at third
        rw [m.act_short s qwNow _ itA pays covered]
        simp only [runAlone, Run.Threads.alone, first, second, third]
        rfl
    · -- a deposit is done one access earlier
      rw [if_neg pays] at second
      rw [m.act_covered s qwNow _ itA fun h => absurd h pays]
      simp only [runAlone, Run.Threads.alone, first, second]
      rfl

/-! ### Interleaved calls -/

section Calls

variable {ι : Type*} [DecidableEq ι] (calls : ι → MoneyRequest)

/-- One turn: a call takes its next step, at a time it reads from the clock. -/
def callStep : Run.Threads ι Server Phase → ι × Qword → Run.Threads ι Server Phase :=
  Run.Threads.step fun i qwNow => moneyStep (calls i) qwNow

/-- The calls from their starts, interleaved as the turns say. -/
def runCalls (s : Server) (turns : List (ι × Qword)) : Run.Threads ι Server Phase :=
  Run.run (callStep calls) ⟨s, fun _ => .start⟩ turns

theorem runCalls_append (s : Server) (first second : List (ι × Qword)) :
    runCalls calls s (first ++ second) =
      Run.run (callStep calls) (runCalls calls s first) second :=
  Run.run_append ..

theorem runCalls_concat (s : Server) (turns : List (ι × Qword)) (turn : ι × Qword) :
    runCalls calls s (turns ++ [turn]) = callStep calls (runCalls calls s turns) turn :=
  runCalls_append calls s turns [turn]

theorem callStep_effect (sys : Run.Threads ι Server Phase) (i : ι) (qwNow : Qword) :
    CallEffect (calls i) qwNow sys.shared (sys.phase i) (callStep calls sys (i, qwNow)).shared
      ((callStep calls sys (i, qwNow)).phase i) := by
  have effect := moneyStep_effect (calls i) qwNow sys.shared (sys.phase i)
  rw [callStep, Run.Threads.step_phase_self]
  exact effect

theorem callStep_phase_of_ne (sys : Run.Threads ι Server Phase) (i j : ι) (qwNow : Qword)
    (other : j ≠ i) : (callStep calls sys (i, qwNow)).phase j = sys.phase j :=
  Run.Threads.step_phase_of_ne _ sys i j qwNow other

theorem callStep_sum [Fintype ι] (weight : ι → Phase → Nat) (sys : Run.Threads ι Server Phase)
    (i : ι) (qwNow : Qword) :
    (∑ j, weight j ((callStep calls sys (i, qwNow)).phase j)) + weight i (sys.phase i) =
      (∑ j, weight j (sys.phase j)) + weight i ((callStep calls sys (i, qwNow)).phase i) :=
  Run.Threads.sum_step _ weight sys i qwNow

/-- No call changes the sessions. -/
theorem runCalls_sessionInfo (s : Server) (turns : List (ι × Qword)) :
    (runCalls calls s turns).shared.sessionInfo = s.sessionInfo :=
  Run.relation (callStep calls)
    (fun sys sys' => sys'.shared.sessionInfo = sys.shared.sessionInfo) (fun _ => rfl)
    (fun _ _ _ one two => two.trans one)
    (fun sys turn => (callStep_effect calls sys turn.1 turn.2).sessionInfo_eq) _ turns

/-- A call only ever works on the customer that its session has had from the start. -/
theorem runCalls_customer (s : Server) (turns : List (ι × Qword)) (i : ι) (q : Qword)
    (works : ((runCalls calls s turns).phase i).customer? = some q) :
    ∃ itS, s.sessionInfo.find? (calls i).clientID = some itS ∧ itS.customerID = q := by
  induction turns using List.reverseRecOn with
  | nil => cases works
  | append_singleton turns turn ih =>
    obtain ⟨j, qwNow⟩ := turn
    rw [runCalls_concat] at works
    by_cases same : i = j
    · subst same
      have effect := callStep_effect calls (runCalls calls s turns) i qwNow
      rcases effect.customer q works with old | read
      · exact ih old
      · rwa [runCalls_sessionInfo] at read
    · rw [callStep_phase_of_ne calls _ j i qwNow same] at works
      exact ih works

end Calls

end Cnp
