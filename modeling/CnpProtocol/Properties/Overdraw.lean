import CnpProtocol.Server.ClientRequests
import CnpProtocol.Server.MoneySteps
import Mathlib.Algebra.Order.BigOperators.Group.Finset

/-!
# Concurrent payments

A payment compares its amount with the balance in one step and subtracts it in another,
so every call that the starting balance covers on its own can pass the check before any
of them subtracts. The account stays covered in all interleavings exactly when these
amounts together are covered too.
-/

namespace Cnp

/-! ### What a step of a payment does -/

/-- The call has passed the check of the balance. -/
def Phase.Passed : Phase → Prop
  | .checked _ | .updated _ | .done .success => True
  | _ => False

namespace MoneyRequest

/-- The amount a payment has taken out of the account. -/
def spent (m : MoneyRequest) : Phase → Nat
  | .updated _ => m.amount.toNat
  | .done .success => m.amount.toNat
  | _ => 0

theorem spent_le (m : MoneyRequest) (balance : Dword) (p : Phase)
    (passed : p.Passed → m.amount ≤ balance) :
    m.spent p ≤ if m.amount ≤ balance then m.amount.toNat else 0 := by
  cases p with
  | updated q => rw [if_pos (passed trivial)]; exact Nat.le_refl _
  | done cerRR =>
    cases cerRR with
    | success => rw [if_pos (passed trivial)]; exact Nat.le_refl _
    | _ => exact Nat.zero_le _
  | _ => exact Nat.zero_le _

theorem update_of_pays (m : MoneyRequest) (pays : m.Pays) (a : AccountInfo) :
    m.update a = a.decrBalance m.amount := by
  cases m with
  | deposit m => exact pays.elim
  | withdrawal m => rfl
  | stampPurchase m => rfl

end MoneyRequest

/-- A step of a payment subtracts, or it leaves the accounts and what it has spent as they
are and passes the check only if the balance covers the amount. -/
theorem CallEffect.payment {m : MoneyRequest} {qwNow : Qword} {s s' : Server} {p p' : Phase}
    (e : CallEffect m qwNow s p s' p') (pays : m.Pays) :
    (s'.accountInfo = s.accountInfo ∧ m.spent p' = m.spent p ∧
      (p'.Passed → p.Passed ∨ ∃ q itA, p = .accountFound q ∧
        s.accountInfo.find? q = some itA ∧ m.amount ≤ itA.balance)) ∨
    (∃ q, p = .checked q ∧ p' = .updated q ∧
      s'.accountInfo = s.accountInfo.modify q m.update) := by
  cases e with
  | updated q => exact Or.inr ⟨q, rfl, rfl, rfl⟩
  | checked q itA found covered =>
    exact Or.inl ⟨rfl, rfl, fun _ => Or.inr ⟨q, itA, rfl, found, covered⟩⟩
  | unchecked q itA found deposit => exact absurd pays deposit
  | idle p => exact Or.inl ⟨rfl, rfl, Or.inl⟩
  | recorded q => exact Or.inl ⟨rfl, rfl, fun _ => Or.inl trivial⟩
  | notLoggedon itS found noCustomer =>
    cases m with
    | deposit m => exact pays.elim
    | withdrawal m => exact Or.inl ⟨rfl, rfl, fun passed => passed.elim⟩
    | stampPurchase m => exact Or.inl ⟨rfl, rfl, fun passed => passed.elim⟩
  | _ => exact Or.inl ⟨rfl, rfl, fun passed => passed.elim⟩

section Payments

variable {ι : Type*} [Fintype ι] [DecidableEq ι] (calls : ι → MoneyRequest) (s : Server)
  (q : Qword) (itA : AccountInfo)

/-- Every call has run to its end. -/
def Complete (turns : List (ι × Qword)) : Prop :=
  ∀ i, ∃ cerRR, (runCalls calls s turns).phase i = .done cerRR

/-- The sum of the amounts of the calls that answered success. -/
def totalPaid (turns : List (ι × Qword)) : Nat :=
  ∑ i, if (runCalls calls s turns).phase i = .done .success then (calls i).amount.toNat else 0

/-- The successful calls paid no more than the account held, and the rest is still there. -/
def Covered (turns : List (ι × Qword)) : Prop :=
  totalPaid calls s turns ≤ itA.balance.toNat ∧
    ∃ a, (runCalls calls s turns).shared.accountInfo.find? q = some a ∧
      a.balance.toNat = itA.balance.toNat - totalPaid calls s turns

/-- The sum of the amounts that the balance covers one by one. -/
def totalCovered : Nat :=
  ∑ i, if (calls i).amount ≤ itA.balance then (calls i).amount.toNat else 0

/-! ### Enough funds for all -/

/-- What holds in an interleaving of payments from one account: the balance is what the
calls have not spent, and only covered amounts have passed the check. -/
structure Funds (turns : List (ι × Qword)) : Prop where
  sessions : (runCalls calls s turns).shared.sessionInfo = s.sessionInfo
  customer : ∀ i q', ((runCalls calls s turns).phase i).customer? = some q' → q' = q
  passed : ∀ i, ((runCalls calls s turns).phase i).Passed → (calls i).amount ≤ itA.balance
  balance : ∃ a, (runCalls calls s turns).shared.accountInfo.find? q = some a ∧
    a.balance.toNat + ∑ i, (calls i).spent ((runCalls calls s turns).phase i) =
      itA.balance.toNat

variable {calls s q itA}

theorem funds_start (account : s.accountInfo.find? q = some itA) : Funds calls s q itA [] where
  sessions := rfl
  customer _ _ works := by cases works
  passed _ passed := passed.elim
  balance := by
    have nothing : ∑ i, (calls i).spent ((runCalls calls s []).phase i) = 0 :=
      Finset.sum_eq_zero fun _ _ => rfl
    exact ⟨itA, account, by rw [nothing, Nat.add_zero]⟩

theorem Funds.concat {turns : List (ι × Qword)} (h : Funds calls s q itA turns)
    (pays : ∀ i, (calls i).Pays) (loggedOn : ∀ i, LoggedOnAs s (calls i).clientID q)
    (enough : totalCovered calls itA ≤ itA.balance.toNat) (i : ι) (qwNow : Qword) :
    Funds calls s q itA (turns ++ [(i, qwNow)]) := by
  have effect := callStep_effect calls (runCalls calls s turns) i qwNow
  have others (j : ι) (other : j ≠ i) :=
    callStep_phase_of_ne calls (runCalls calls s turns) i j qwNow other
  have sum := callStep_sum calls (fun j => (calls j).spent) (runCalls calls s turns) i qwNow
  simp only [← runCalls_concat] at effect others sum
  obtain ⟨a, account, funds⟩ := h.balance
  have sessions := runCalls_sessionInfo calls s (turns ++ [(i, qwNow)])
  have customer (j : ι) (q' : Qword)
      (works : ((runCalls calls s (turns ++ [(i, qwNow)])).phase j).customer? = some q') :
      q' = q := by
    -- the session of the call is logged on as `q`
    obtain ⟨itS, session, own⟩ := runCalls_customer calls s _ j q' works
    obtain ⟨itS', session', _, own'⟩ := loggedOn j
    rw [session', Option.some.injEq] at session
    rw [← own, ← session, own']
  have passedOthers (j : ι) (other : j ≠ i)
      (passed : ((runCalls calls s (turns ++ [(i, qwNow)])).phase j).Passed) :
      (calls j).amount ≤ itA.balance := by
    rw [others j other] at passed
    exact h.passed j passed
  rcases effect.payment (pays i) with ⟨accounts, spent, passed⟩ | ⟨q', before, after, accounts⟩
  · -- the step leaves the accounts alone
    refine ⟨sessions, customer, fun j passes => ?_, a, accounts ▸ account, by omega⟩
    by_cases same : j = i
    · subst same
      rcases passed passes with old | ⟨q', a', before, found, covered⟩
      · exact h.passed j old
      · -- the check compares with a balance that has only gone down
        have own := h.customer j q' (by rw [before]; rfl)
        rw [own, account, Option.some.injEq] at found
        rw [← found] at covered
        have fits : (calls j).amount.toNat ≤ a.balance.toNat := covered
        exact BitVec.le_def.mpr (by omega)
    · exact passedOthers j same passes
  · -- the step subtracts
    have own := h.customer i q' (by rw [before]; rfl)
    have passed : (calls i).amount ≤ itA.balance := h.passed i (by rw [before]; trivial)
    have passes (j : ι) (new : ((runCalls calls s (turns ++ [(i, qwNow)])).phase j).Passed) :
        (calls j).amount ≤ itA.balance := by
      by_cases same : j = i
      · exact same ▸ passed
      · exact passedOthers j same new
    -- what is spent stays below the total, so the subtraction does not wrap
    have total : ∑ j, (calls j).spent ((runCalls calls s (turns ++ [(i, qwNow)])).phase j) ≤
        totalCovered calls itA :=
      Finset.sum_le_sum fun j _ => (calls j).spent_le itA.balance _ (passes j)
    have amount : (calls i).spent ((runCalls calls s (turns ++ [(i, qwNow)])).phase i) =
        (calls i).amount.toNat := by rw [after]; rfl
    have nothing : (calls i).spent ((runCalls calls s turns).phase i) = 0 := by rw [before]; rfl
    rw [amount, nothing] at sum
    have covered : (calls i).amount.toNat ≤ a.balance.toNat := by omega
    refine ⟨sessions, customer, passes, a.decrBalance (calls i).amount, ?_, ?_⟩
    · rw [accounts, own, OrderedMap.find?_modify, if_pos rfl, account, Option.map_some,
        (calls i).update_of_pays (pays i)]
    · have left : (a.decrBalance (calls i).amount).balance.toNat =
          a.balance.toNat - (calls i).amount.toNat :=
        BitVec.toNat_sub_of_le (BitVec.le_def.mpr covered)
      rw [left]
      omega

theorem funds_run (account : s.accountInfo.find? q = some itA) (pays : ∀ i, (calls i).Pays)
    (loggedOn : ∀ i, LoggedOnAs s (calls i).clientID q)
    (enough : totalCovered calls itA ≤ itA.balance.toNat) (turns : List (ι × Qword)) :
    Funds calls s q itA turns := by
  induction turns using List.reverseRecOn with
  | nil => exact funds_start account
  | append_singleton turns turn ih => exact ih.concat pays loggedOn enough turn.1 turn.2

theorem Funds.covered {turns : List (ι × Qword)} (h : Funds calls s q itA turns)
    (complete : Complete calls s turns) : Covered calls s q itA turns := by
  have paid : totalPaid calls s turns =
      ∑ i, (calls i).spent ((runCalls calls s turns).phase i) := by
    refine Finset.sum_congr rfl fun i _ => ?_
    obtain ⟨cerRR, done⟩ := complete i
    rw [done]
    cases cerRR with
    | success => exact if_pos rfl
    | _ => exact if_neg (by simp)
  obtain ⟨a, account, funds⟩ := h.balance
  rw [← paid] at funds
  exact ⟨by omega, a, account, by omega⟩

/-! ### Not enough funds for all -/

/-- The outcome of the check against a balance. -/
def MoneyRequest.checkResult (m : MoneyRequest) (q : Qword) (balance : Dword) : Phase :=
  if m.amount ≤ balance then .checked q else .done .insufficientFunds

/-- A payment looks up its session and its account and checks the balance. -/
theorem alone_check (m : MoneyRequest) (qwNow : Qword) (pays : m.Pays)
    (loggedOn : LoggedOnAs s m.clientID q) (account : s.accountInfo.find? q = some itA) :
    Run.Threads.alone (moneyStep m qwNow) 3 (s, .start) = (s, m.checkResult q itA.balance) := by
  have second := moneyStep_sessionFound m qwNow s q itA account
  rw [if_pos pays] at second
  simp only [Run.Threads.alone, moneyStep_start m qwNow s q loggedOn, second,
    moneyStep_accountFound m qwNow s q itA account]
  rfl

/-- Past the check a payment succeeds whatever the balance is by then. -/
theorem alone_pay (m : MoneyRequest) (qwNow : Qword) (s : Server) (q : Qword) (balance : Dword) :
    (Run.Threads.alone (moneyStep m qwNow) 2 (s, m.checkResult q balance)).2 =
      .done (if m.amount ≤ balance then .success else .insufficientFunds) := by
  rw [MoneyRequest.checkResult]
  split
  · rfl
  · rfl

/-- All payments check before any of them subtracts: every amount that the balance covers
on its own is paid. -/
theorem exists_all_checked_first (account : s.accountInfo.find? q = some itA)
    (pays : ∀ i, (calls i).Pays) (loggedOn : ∀ i, LoggedOnAs s (calls i).clientID q) :
    ∃ turns, ∀ i, (runCalls calls s turns).phase i =
      .done (if (calls i).amount ≤ itA.balance then .success else .insufficientFunds) := by
  let all : List ι := Finset.univ.toList
  have nodup : all.Nodup := Finset.nodup_toList _
  have member (i : ι) : i ∈ all := Finset.mem_toList.mpr (Finset.mem_univ i)
  obtain ⟨shared, checked⟩ := Run.Threads.run_rounds (fun i qwNow => moneyStep (calls i) qwNow) 0 3
    (· = s) (fun _ => .start) (fun i => (calls i).checkResult q itA.balance)
    (fun i sh same => by
      subst same
      have check := alone_check (calls i) 0 (pays i) (loggedOn i) account
      exact ⟨congrArg Prod.fst check, congrArg Prod.snd check⟩)
    all nodup ⟨s, fun _ => .start⟩ rfl (fun _ _ => rfl)
  obtain ⟨_, paid⟩ := Run.Threads.run_rounds (fun i qwNow => moneyStep (calls i) qwNow) 0 2
    (fun _ => True)
    (fun i => (calls i).checkResult q itA.balance) _
    (fun i sh _ => ⟨trivial, alone_pay (calls i) 0 sh q itA.balance⟩)
    all nodup _ trivial (fun i inside => by rw [checked i, if_pos inside])
  refine ⟨(all.flatMap fun i => List.replicate 3 (i, 0)) ++
    (all.flatMap fun i => List.replicate 2 (i, 0)), fun i => ?_⟩
  rw [runCalls_append]
  have settled := paid i
  rw [if_pos (member i)] at settled
  exact settled

/-! ### Covered in every interleaving -/

/-- Payments from one account never overdraw it, in any complete interleaving, exactly when
the amounts that its balance covers one by one are covered together. -/
theorem never_overdrawn_iff (account : s.accountInfo.find? q = some itA)
    (pays : ∀ i, (calls i).Pays) (loggedOn : ∀ i, LoggedOnAs s (calls i).clientID q) :
    (∀ turns, Complete calls s turns → Covered calls s q itA turns) ↔
      totalCovered calls itA ≤ itA.balance.toNat := by
  constructor
  · -- all calls check before any of them subtracts
    intro covered
    obtain ⟨turns, settled⟩ := exists_all_checked_first account pays loggedOn
    have complete : Complete calls s turns := fun i => ⟨_, settled i⟩
    have total : totalPaid calls s turns = totalCovered calls itA := by
      refine Finset.sum_congr rfl fun i _ => ?_
      rw [settled i]
      -- in this interleaving every covered amount is paid
      by_cases alone : (calls i).amount ≤ itA.balance
      · rw [if_pos alone, if_pos rfl, if_pos alone]
      · rw [if_neg alone, if_neg (by simp), if_neg alone]
    rw [← total]
    exact (covered turns complete).1
  · intro enough turns complete
    exact (funds_run account pays loggedOn enough turns).covered complete

end Payments

/-! ### Two clients of one account -/

/-- Anna pays in 100 on one connection and logs on again on a second one. -/
def annaTwice : Server :=
  run .empty (Client.firstVisit 7 [65, 110, 110, 97] 4711 100 ++
    [Client.sendConnect 8 4, Client.sendLogIn 8 5 2 [65, 110, 110, 97] 4711])

/-- A withdrawal of the same amount on each of the two connections. -/
def withdrawTwice (dwAmount : Dword) (second : Bool) : MoneyRequest :=
  .withdrawal (.init 6 (if second then 2 else 1) dwAmount 0)

theorem annaTwice_loggedOn (w : Word) (client : w = 1 ∨ w = 2) :
    LoggedOnAs annaTwice w (generateCustomerID [65, 110, 110, 97] 4 4711) := by
  have session : (annaTwice.sessionInfo.find? w).map (·.customerID) =
      some (generateCustomerID [65, 110, 110, 97] 4 4711) := by
    rcases client with rfl | rfl
    · decide +kernel
    · decide +kernel
  obtain ⟨i, found, customer⟩ := Option.map_eq_some_iff.mp session
  exact ⟨i, found, by rw [customer]; decide +kernel, customer⟩

/-- Both withdrawals of 40 fit. -/
theorem never_overdrawn_iff_forty :
    ∃ itA, annaTwice.accountInfo.find? (generateCustomerID [65, 110, 110, 97] 4 4711) = some itA ∧
      ((∀ turns, Complete (withdrawTwice 40) annaTwice turns →
        Covered (withdrawTwice 40) annaTwice (generateCustomerID [65, 110, 110, 97] 4 4711) itA
          turns) ↔ totalCovered (withdrawTwice 40) itA ≤ itA.balance.toNat) := by
  have present : (annaTwice.accountInfo.find?
      (generateCustomerID [65, 110, 110, 97] 4 4711)).isSome = true := by decide +kernel
  obtain ⟨itA, account⟩ := Option.isSome_iff_exists.mp present
  refine ⟨itA, account, never_overdrawn_iff account (fun _ => trivial) fun i => ?_⟩
  exact annaTwice_loggedOn _ (by cases i <;> simp [withdrawTwice, MoneyRequest.clientID,
    MoneyRequest.toRequest, Request.hdr, WithdrawalRequest.init, requestHdr, StdHdr.init])

/-- Two withdrawals of 100 both check the balance before either subtracts, and both
succeed. -/
theorem overdrawn_twice :
    ∃ itA, annaTwice.accountInfo.find? (generateCustomerID [65, 110, 110, 97] 4 4711) = some itA ∧
      itA.balance = 100 ∧
      Complete (withdrawTwice 100) annaTwice [(true, 0), (true, 0), (true, 0), (false, 0),
        (false, 0), (false, 0), (true, 0), (true, 0), (false, 0), (false, 0)] ∧
      ¬ Covered (withdrawTwice 100) annaTwice (generateCustomerID [65, 110, 110, 97] 4 4711) itA
        [(true, 0), (true, 0), (true, 0), (false, 0), (false, 0), (false, 0), (true, 0), (true, 0),
          (false, 0), (false, 0)] := by
  have shown : (annaTwice.accountInfo.find?
      (generateCustomerID [65, 110, 110, 97] 4 4711)).map (·.balance) = some 100 := by
    decide +kernel
  obtain ⟨itA, account, balance⟩ := Option.map_eq_some_iff.mp shown
  refine ⟨itA, account, balance, fun i => ⟨.success, ?_⟩, fun covered => ?_⟩
  · cases i
    · decide +kernel
    · decide +kernel
  · have bound := covered.1
    rw [balance] at bound
    exact absurd bound (by unfold totalPaid; decide +kernel)

end Cnp
