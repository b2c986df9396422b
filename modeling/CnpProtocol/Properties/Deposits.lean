import CnpProtocol.Properties.AccountRequests

/-!
# Deposits

A payment is checked against the balance, so its subtraction never wraps. A deposit is not
checked against the width of the balance: a sum of 2^32 or more is answered with success
and loses 2^32 of the customer's money, while the ledger shows the whole deposit.
-/

namespace Cnp

/-- A balance query from any session of the customer succeeds and shows `n`. -/
def ShowsBalance (s : Server) (q : Qword) (n : Nat) : Prop :=
  ∀ m : BalanceQueryRequest, LoggedOnAs s m.hdr.clientID q →
    (processBalanceQueryRequest s m).cerRR = .success ∧
      ∀ out ∈ (processBalanceQueryRequest s m).sent, ∃ b, out.2.balance? = some b ∧ b.toNat = n

/-- A deposit to the account `a` of customer `q` adds its amount, or is refused where the sum
has no representation. -/
structure DepositExact (s : Server) (now : Qword) (m : DepositRequest) (q : Qword)
    (a : AccountInfo) : Prop where
  added : (processDepositRequest s now m).cerRR = .success →
    (∃ a', (processDepositRequest s now m).server.accountInfo.find? q = some a' ∧
      a'.balance.toNat = a.balance.toNat + m.request.amount.toNat) ∧
    ShowsBalance (processDepositRequest s now m).server q
      (a.balance.toNat + m.request.amount.toNat)
  refused : 2 ^ 32 ≤ a.balance.toNat + m.request.amount.toNat →
    (processDepositRequest s now m).cerRR ≠ .success ∧
      (processDepositRequest s now m).server.accountInfo.find? q = some a ∧
      (processDepositRequest s now m).server.transactionInfo = s.transactionInfo

theorem showsBalance_of_account {s : Server} {q : Qword} {a : AccountInfo}
    (account : s.accountInfo.find? q = some a) : ShowsBalance s q a.balance.toNat := by
  intro m loggedOn
  obtain ⟨itS, found, rfl⟩ := accountFound_of_loggedOnAs loggedOn account
  -- the connection of a balance query is not used
  have outcome : processBalanceQueryRequest s m = _ :=
    dispatch_found 0 0 (.balanceQuery m) trivial found
  rw [outcome]
  refine ⟨rfl, fun out member => ?_⟩
  obtain ⟨_, built⟩ := (mem_send_iff _ _ _).mp member
  rw [built]
  exact ⟨a.balance, rfl, rfl⟩

/-- A deposit to an account that is there always succeeds. -/
theorem processDepositRequest_found {s : Server} {itS : SessionInfo} {itA : AccountInfo}
    (now : Qword) (m : DepositRequest) (found : AccountFound s m.hdr.clientID itS itA) :
    (processDepositRequest s now m).cerRR = .success ∧
      (processDepositRequest s now m).server =
        (MoneyRequest.deposit m).book s now itS.customerID := by
  have covered : (MoneyRequest.deposit m).Covered itA := fun pays => absurd pays id
  have outcome : processDepositRequest s now m = _ :=
    dispatch_found 0 now (.deposit m) trivial found
  rw [outcome]
  simp only [Request.codeOn, Request.bookOn, Request.money?, if_pos covered, and_self]

theorem depositExact_iff {s : Server} {itS : SessionInfo} {itA : AccountInfo} (now : Qword)
    (m : DepositRequest) (found : AccountFound s m.hdr.clientID itS itA) :
    DepositExact s now m itS.customerID itA ↔
      itA.balance.toNat + m.request.amount.toNat < 2 ^ 32 := by
  obtain ⟨code, server⟩ := processDepositRequest_found now m found
  have account : (processDepositRequest s now m).server.accountInfo.find? itS.customerID =
      some (itA.incrBalance m.request.amount) := by
    rw [server, MoneyRequest.book_accountInfo, OrderedMap.find?_modify, if_pos rfl,
      found.account]
    rfl
  constructor
  · intro exact_
    by_contra wraps
    exact (exact_.refused (not_lt.mp wraps)).1 code
  · intro fits
    have sum : (itA.incrBalance m.request.amount).balance.toNat =
        itA.balance.toNat + m.request.amount.toNat :=
      (BitVec.toNat_add _ _).trans (Nat.mod_eq_of_lt fits)
    exact {
      added := fun _ => ⟨⟨_, account, sum⟩, sum ▸ showsBalance_of_account account⟩
      refused := fun wraps => absurd fits (not_lt.mpr wraps) }

/-- In every reachable state a deposit of a logged-on session is exact if and only if the
sum fits into 32 bits. -/
theorem deposit_exact_iff (accounts : AccountMap) (transactions : TransactionMap)
    (ops : List Op) (now : Qword) (m : DepositRequest) (q : Qword) (a : AccountInfo)
    (loggedOn : LoggedOnAs (run (.boot accounts transactions) ops) m.hdr.clientID q)
    (account : (run (.boot accounts transactions) ops).accountInfo.find? q = some a) :
    DepositExact (run (.boot accounts transactions) ops) now m q a ↔
      a.balance.toNat + m.request.amount.toNat < 2 ^ 32 := by
  obtain ⟨itS, found, rfl⟩ := accountFound_of_loggedOnAs loggedOn account
  exact depositExact_iff now m found

/-- Anna has 500 and pays in 200. -/
theorem deposit_exact_iff_anna :
    let s := run (.boot .empty .empty) (Client.firstVisit 7 [65, 110, 110, 97] 4711 500)
    ∃ q a, DepositExact s 0 (.init 4 1 200 .cash 0) q a := by
  intro s
  exact ⟨_, _, (deposit_exact_iff .empty .empty _ 0 (.init 4 1 200 .cash 0) _ _
    accountFound_anna.loggedOnAs accountFound_anna.account).mpr (by decide)⟩

/-- Anna has 500 and pays in 2^32 - 1: the deposit succeeds and leaves 499. -/
theorem deposit_wraps :
    let s := run (.boot .empty .empty) (Client.firstVisit 7 [65, 110, 110, 97] 4711 500)
    let m := DepositRequest.init 4 1 0xFFFFFFFF .cash 0
    ∃ q a, LoggedOnAs s 1 q ∧ s.accountInfo.find? q = some a ∧
      (processDepositRequest s 0 m).cerRR = .success ∧
      ((processDepositRequest s 0 m).server.accountInfo.find? q).map (·.balance) = some 499 ∧
      ¬ DepositExact s 0 m q a := by
  intro s m
  refine ⟨_, _, accountFound_anna.loggedOnAs, accountFound_anna.account, by decide +kernel,
    by decide +kernel, ?_⟩
  intro exact_
  exact absurd ((depositExact_iff 0 m accountFound_anna).mp exact_) (by decide)

end Cnp
