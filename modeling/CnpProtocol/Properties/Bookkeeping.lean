import CnpProtocol.Library.Ledger
import CnpProtocol.Properties.TransactionTable
import Mathlib.Data.Int.ModEq

/-!
# Bookkeeping

The recorded transactions of an account, in ID order, are its ledger. The server refines
a bank: every operation is one of the bank's steps, so no ledger pays out more than was
paid in; and the 32-bit balance shows the ledger's funds modulo its width, so the check
against it covers every debit.
-/

namespace Cnp

/-! ### The ledger of an account -/

/-- The transactions recorded for a customer, in ID order. -/
def transactionsOf (s : Server) (qwCustomerID : Qword) : List TransactionInfo :=
  s.transactionInfo.values.filter fun t => t.customerID = qwCustomerID

def isDeposit (t : TransactionInfo) : Bool := t.type = TransactionType.deposit.code

/-- Withdrawals and stamp purchases. -/
def isPayment (t : TransactionInfo) : Bool :=
  t.type = TransactionType.withdrawal.code ∨ t.type = TransactionType.stampPurchase.code

def deposited (l : List TransactionInfo) : Nat := ((l.filter isDeposit).map (·.amount.toNat)).sum

def paidOut (l : List TransactionInfo) : Nat := ((l.filter isPayment).map (·.amount.toNat)).sum

def entryOf (t : TransactionInfo) : Option Entry :=
  if isDeposit t then some (.credit t.amount.toNat)
  else if isPayment t then some (.debit t.amount.toNat)
  else none

def ledgerOf (s : Server) (q : Qword) : List Entry := (transactionsOf s q).filterMap entryOf

/-- The abstract bank: a ledger for each account. -/
def bank (s : Server) : Ledger.Bank Qword := fun q =>
  (s.accountInfo.find? q).map fun _ => ledgerOf s q

theorem isPayment_of_isDeposit (t : TransactionInfo) (deposit : isDeposit t = true) :
    isPayment t = false := by
  simp only [isDeposit, decide_eq_true_eq] at deposit
  simp only [isPayment, deposit, decide_eq_false_iff_not]
  decide

theorem credits_entries (l : List TransactionInfo) :
    Ledger.credits (l.filterMap entryOf) = deposited l := by
  induction l with
  | nil => rfl
  | cons t l ih =>
    cases deposit : isDeposit t with
    | true =>
      have entry : entryOf t = some (.credit t.amount.toNat) := by simp [entryOf, deposit]
      rw [List.filterMap_cons_some entry, Ledger.credits, ih]
      simp [deposited, deposit]
    | false =>
      have skip : deposited (t :: l) = deposited l := by simp [deposited, deposit]
      rw [skip, ← ih]
      cases payment : isPayment t with
      | true =>
        have entry : entryOf t = some (.debit t.amount.toNat) := by
          simp [entryOf, deposit, payment]
        rw [List.filterMap_cons_some entry, Ledger.credits]
      | false => rw [List.filterMap_cons_none (by simp [entryOf, deposit, payment])]

theorem debits_entries (l : List TransactionInfo) :
    Ledger.debits (l.filterMap entryOf) = paidOut l := by
  induction l with
  | nil => rfl
  | cons t l ih =>
    cases deposit : isDeposit t with
    | true =>
      have entry : entryOf t = some (.credit t.amount.toNat) := by simp [entryOf, deposit]
      rw [List.filterMap_cons_some entry, Ledger.debits, ih]
      simp [paidOut, isPayment_of_isDeposit t deposit]
    | false =>
      cases payment : isPayment t with
      | true =>
        have entry : entryOf t = some (.debit t.amount.toNat) := by
          simp [entryOf, deposit, payment]
        rw [List.filterMap_cons_some entry, Ledger.debits, ih]
        simp [paidOut, payment]
      | false =>
        rw [List.filterMap_cons_none (by simp [entryOf, deposit, payment]), ih]
        simp [paidOut, payment]

/-- A recorded transaction extends the ledger of its customer and no other. -/
theorem ledgerOf_recordTransaction {s : Server} (dense : Dense s.transactionInfo)
    (room : s.transactionInfo.size + 1 < 2 ^ 32) (qwNow : Qword) (dwAmount : Dword)
    (wType : TransactionType) (q : Qword) (e : Entry)
    (entry : entryOf (s.newTransaction qwNow dwAmount wType q) = some e) (q' : Qword) :
    ledgerOf (s.recordTransaction qwNow dwAmount wType q) q' =
      if q' = q then ledgerOf s q ++ [e] else ledgerOf s q' := by
  rw [ledgerOf, transactionsOf, dense.values_recordTransaction room, List.filter_append,
    List.filterMap_append]
  split
  next same =>
    -- the customer of the new record
    subst same
    have kept : [s.newTransaction qwNow dwAmount wType q'].filter (fun t => t.customerID = q') =
        [s.newTransaction qwNow dwAmount wType q'] := by
      simp [Server.newTransaction]
    rw [kept, List.filterMap_cons_some entry]
    rfl
  next other =>
    -- the filter drops the new record
    have dropped : [s.newTransaction qwNow dwAmount wType q].filter
        (fun t => t.customerID = q') = [] := by
      simp [Server.newTransaction, Ne.symm other]
    rw [dropped, List.filterMap_nil, List.append_nil]
    rfl

/-! ### The server refines the bank -/

/-- What holds between the tables and the bank in every reachable state. -/
structure Books (s : Server) : Prop where
  references : References s
  dense : Dense s.transactionInfo
  shows : ∀ q a, s.accountInfo.find? q = some a →
    Ledger.Shows (2 ^ 32) a.balance.toNat (ledgerOf s q)
  reached : Relation.ReflTransGen Ledger.Step (fun _ => none) (bank s)

theorem books_empty : Books .empty where
  references := references_empty
  dense := dense_empty
  shows _ _ found := by cases found
  reached := .refl

/-- A step that touches neither accounts nor transactions is idle for the bank. -/
theorem Books.idle {s s' : Server} (books : Books s) (references : References s')
    (accounts : s'.accountInfo = s.accountInfo)
    (transactions : s'.transactionInfo = s.transactionInfo) : Books s' := by
  have same (q : Qword) : ledgerOf s' q = ledgerOf s q := by
    rw [ledgerOf, transactionsOf, transactions]
    rfl
  have bank_eq : bank s' = bank s := by
    funext q
    rw [bank, accounts, same]
    rfl
  exact {
    references
    dense := transactions ▸ books.dense
    shows := fun q a found => by
      rw [same]
      exact books.shows q a (accounts ▸ found)
    reached := bank_eq ▸ books.reached }

/-- A customer without an account has no transactions. -/
theorem References.ledgerOf_eq_nil {s : Server} (references : References s) (q : Qword)
    (unused : s.accountInfo.find? q = none) : ledgerOf s q = [] := by
  have none_recorded : transactionsOf s q = [] := by
    apply List.filter_eq_nil_iff.mpr
    intro t member customer
    obtain ⟨e, stored, rfl⟩ := List.mem_map.mp member
    have found := references.transactionCustomer e.1 e.2
      ((s.transactionInfo.find?_eq_some_iff _ _).mpr stored)
    simp only [decide_eq_true_eq] at customer
    rw [customer, unused] at found
    cases found
  rw [ledgerOf, none_recorded, List.filterMap_nil]

theorem Books.addAccount {s : Server} (books : Books s) (w : Word)
    (base : Prim.CreateAccountRequest) (q : Qword) (unused : s.accountInfo.find? q = none) :
    Books (s.addAccount w base q) := by
  have fresh := books.references.ledgerOf_eq_nil q unused
  have lookup (q' : Qword) : (s.addAccount w base q).accountInfo.find? q' =
      if q' = q then some ⟨base, q, 0⟩ else s.accountInfo.find? q' := by
    change (s.accountInfo.insert q ⟨base, q, 0⟩).find? q' = _
    rw [OrderedMap.find?_insert, unused, Option.getD_none]
  have same (q' : Qword) : ledgerOf (s.addAccount w base q) q' = ledgerOf s q' := rfl
  have opened : bank (s.addAccount w base q) = Function.update (bank s) q (some []) := by
    funext q'
    by_cases new : q' = q
    · -- a new account opens an empty ledger
      subst new
      rw [Function.update_self, bank, lookup, if_pos rfl, same, fresh, Option.map_some]
    · rw [Function.update_of_ne new, bank, lookup, if_neg new]
      rfl
  exact {
    references := books.references.addAccount w base q
    dense := books.dense
    shows := fun q' a found => by
      rw [lookup] at found
      rw [same]
      split at found
      next new =>
        cases found
        rw [new, fresh]
        exact .nil (by decide)
      · exact books.shows q' a found
    reached := opened ▸ books.reached.tail (.opened q (by rw [bank, unused, Option.map_none])) }

/-- Money moves: the balance of one account changes and the transaction is recorded. The
new balance has to show the extended ledger, and the bank has to allow the entry. -/
theorem Books.move {s : Server} (books : Books s) (room : s.transactionInfo.size + 1 < 2 ^ 32)
    (f : AccountInfo → AccountInfo) (customerID : ∀ a, (f a).customerID = a.customerID)
    (qwNow : Qword) (dwAmount : Dword) (wType : TransactionType) (q : Qword) (itA : AccountInfo)
    (account : s.accountInfo.find? q = some itA) (e : Entry)
    (entry : entryOf (s.newTransaction qwNow dwAmount wType q) = some e)
    (shown : Ledger.Shows (2 ^ 32) (f itA).balance.toNat (ledgerOf s q ++ [e]))
    (allowed : Ledger.Step (bank s) (Function.update (bank s) q (some (ledgerOf s q ++ [e])))) :
    Books ((s.modifyAccount q f).recordTransaction qwNow dwAmount wType q) := by
  have dense : Dense (s.modifyAccount q f).transactionInfo := books.dense
  have ledger := ledgerOf_recordTransaction dense room qwNow dwAmount wType q e entry
  have lookup (q' : Qword) :
      ((s.modifyAccount q f).recordTransaction qwNow dwAmount wType q).accountInfo.find? q' =
        if q' = q then some (f itA) else s.accountInfo.find? q' := by
    change (s.accountInfo.modify q f).find? q' = _
    rw [OrderedMap.find?_modify, account, Option.map_some]
  have moved : bank ((s.modifyAccount q f).recordTransaction qwNow dwAmount wType q) =
      Function.update (bank s) q (some (ledgerOf s q ++ [e])) := by
    funext q'
    by_cases same : q' = q
    · subst same
      rw [Function.update_self, bank, lookup, if_pos rfl, ledger, if_pos rfl, Option.map_some]
      rfl
    · rw [Function.update_of_ne same, bank, lookup, if_neg same, ledger, if_neg same]
      rfl
  exact {
    references := books.references.move q itA account f customerID qwNow dwAmount wType
    dense := dense.recordTransaction room _ _ _ _
    shows := fun q' a found => by
      rw [lookup] at found
      rw [ledger]
      split at found
      next same =>
        cases found
        rw [if_pos same]
        exact shown
      next other =>
        rw [if_neg other]
        exact books.shows q' a found
    reached := moved ▸ books.reached.tail allowed }

theorem Books.payIn {s : Server} (books : Books s) (room : s.transactionInfo.size + 1 < 2 ^ 32)
    (qwNow : Qword) (dwAmount : Dword) (q : Qword) (itA : AccountInfo)
    (account : s.accountInfo.find? q = some itA) :
    Books (payIn s qwNow dwAmount q itA).2.1 := by
  have held : bank s q = some (ledgerOf s q) := by rw [bank, account, Option.map_some]
  have shown := (books.shows q itA account).credit dwAmount.toNat
  rw [← BitVec.toNat_add] at shown
  exact books.move room (·.incrBalance dwAmount) (fun _ => rfl) qwNow dwAmount .deposit q itA
    account (.credit dwAmount.toNat) rfl shown (.credited q _ held _)

theorem Books.payOut {s : Server} (books : Books s) (room : s.transactionInfo.size + 1 < 2 ^ 32)
    (qwNow : Qword) (dwAmount : Dword) (wType : TransactionType)
    (debit : wType = .withdrawal ∨ wType = .stampPurchase) (q : Qword) (itA : AccountInfo)
    (account : s.accountInfo.find? q = some itA) (covered : dwAmount ≤ itA.balance) :
    Books (payOut s qwNow dwAmount wType q itA).2.1 := by
  simp only [Cnp.payOut, if_pos covered]
  have held : bank s q = some (ledgerOf s q) := by rw [bank, account, Option.map_some]
  have machine := books.shows q itA account
  -- The machine balance never exceeds the funds, so its check covers the debit.
  have funds := machine.le (Ledger.allSolvent_of_steps books.reached q _ held).le
  have shown := machine.debit dwAmount.toNat covered
  rw [← BitVec.toNat_sub_of_le covered] at shown
  have entry : entryOf (s.newTransaction qwNow dwAmount wType q) =
      some (.debit dwAmount.toNat) := by
    rcases debit with rfl | rfl
    · rfl
    · rfl
  have amount : dwAmount.toNat ≤ itA.balance.toNat := covered
  exact books.move room (·.decrBalance dwAmount) (fun _ => rfl) qwNow dwAmount wType q itA account
    (.debit dwAmount.toNat) entry shown (.debited q _ held _ (by omega))

/-- Every operation that leaves room for another ID keeps the books. -/
theorem Books.effect {s s' : Server} {op : Op} (books : Books s)
    (room : s.transactionInfo.size + 1 < 2 ^ 32) (e : Effect s op s') : Books s' := by
  have references := books.references.effect e
  cases e with
  | created c now m beyond itS session name pin unused => exact books.addAccount _ _ _ unused
  | paidIn _ qwNow dwAmount q itA account => exact books.payIn room qwNow dwAmount q itA account
  | paidOut _ qwNow dwAmount wType debit q itA account covered =>
    exact books.payOut room qwNow dwAmount wType debit q itA account covered
  | restarted accounts transactions =>
    refine books.idle references ?_ ?_
    · rw [restart_eq accounts transactions s books.references.own]
      rfl
    · rw [restart_eq accounts transactions s books.references.own]
      rfl
  | _ => exact books.idle references rfl rfl

theorem books_run (ops : List Op)
    (few : (run .empty ops).transactionInfo.size < 2 ^ 32 - 1) : Books (run .empty ops) := by
  induction ops using List.reverseRecOn with
  | nil => exact books_empty
  | append_singleton ops op ih =>
    have last : run .empty (ops ++ [op]) = step (run .empty ops) op := Run.run_append ..
    have effect := step_effect (run .empty ops) op
    -- the table never shrinks, so there was room before the last operation
    have grows := effect.size_le (references_run ops).own
    rw [last] at few ⊢
    exact (ih (by omega)).effect (by omega) effect

/-! ### Ledgers and balances -/

/-- In every run a balance is the deposits minus the payments modulo 2^32, and no prefix of
an account's transactions pays out more than it pays in. -/
theorem balance_ledger_run (ops : List Op)
    (few : (run .empty ops).transactionInfo.size < 2 ^ 32 - 1) (q : Qword) (a : AccountInfo)
    (account : (run .empty ops).accountInfo.find? q = some a) :
    (a.balance.toNat : Int) ≡ deposited (transactionsOf (run .empty ops) q) -
        paidOut (transactionsOf (run .empty ops) q) [ZMOD 2 ^ 32] ∧
      ∀ p, p <+: transactionsOf (run .empty ops) q → paidOut p ≤ deposited p := by
  have books := books_run ops few
  constructor
  · -- the balance modulo 2^32
    have congr := (books.shows q a account).congr
    rw [ledgerOf, credits_entries, debits_entries] at congr
    have whole : ((a.balance.toNat + paidOut (transactionsOf (run .empty ops) q) : Nat) : Int) ≡
        (deposited (transactionsOf (run .empty ops) q) : Nat) [ZMOD (2 ^ 32 : Nat)] :=
      Int.natCast_modEq_iff.mpr congr
    simpa using whole.sub_right (paidOut (transactionsOf (run .empty ops) q) : Int)
  · -- a prefix of the transactions is a prefix of the ledger
    intro p inside
    have held : bank (run .empty ops) q = some (ledgerOf (run .empty ops) q) := by
      rw [bank, account, Option.map_some]
    have solvent := Ledger.allSolvent_of_steps books.reached q _ held
    have covered := solvent _ (inside.filterMap entryOf)
    rwa [debits_entries, credits_entries] at covered

/-- Anna pays in 500 and takes out 200. -/
theorem balance_ledger_run_anna :
    let s := run .empty (Client.firstVisit 7 [65, 110, 110, 97] 4711 500 ++
      [Client.sendWithdrawal 7 4 1 200])
    let l := transactionsOf s (generateCustomerID [65, 110, 110, 97] 4 4711)
    ∃ a, s.accountInfo.find? (generateCustomerID [65, 110, 110, 97] 4 4711) = some a ∧
      a.balance = 300 ∧ (a.balance.toNat : Int) ≡ deposited l - paidOut l [ZMOD 2 ^ 32] ∧
      ∀ p, p <+: l → paidOut p ≤ deposited p := by
  intro s l
  have few : s.transactionInfo.size < 2 ^ 32 - 1 := by decide +kernel
  have shown : (s.accountInfo.find? (generateCustomerID [65, 110, 110, 97] 4 4711)).map
      (·.balance) = some 300 := by decide +kernel
  obtain ⟨a, account, balance⟩ := Option.map_eq_some_iff.mp shown
  exact ⟨a, account, balance, balance_ledger_run _ few _ a account⟩

end Cnp
