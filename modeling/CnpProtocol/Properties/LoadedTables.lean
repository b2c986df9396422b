import CnpProtocol.Properties.AccountRequests
import CnpProtocol.Properties.Loading
import CnpProtocol.Properties.TransactionTable

/-!
# Recording on a loaded table

The next transaction ID is one more than the number of records. A table that the server
filled itself has no gaps, so this ID is free. The loader takes any records, and on a table
with gaps the ID can be in use: then the insertion does nothing, while the balance has
changed and the customer is told that the request succeeded.
-/

namespace Cnp

/-! ### Tables that can be loaded -/

/-- The tables that `LoadServerDB` builds from some file are those in which every record is
stored under its own ID. -/
theorem loadable_iff (transactions : RecordImage TransactionInfo) (table : TransactionMap) :
    (∃ file, (loadContainer transactions TransactionInfo.getPrimaryKey file .empty).2 = table) ↔
      ∀ k t, table.find? k = some t → t.id = k := by
  constructor
  · rintro ⟨file, rfl⟩ k t found
    exact loadRecords_own transactions TransactionInfo.getPrimaryKey _ .empty 0
      (fun _ _ none => by cases none) k t found
  · intro own
    -- the file that the table is saved to
    refine ⟨(saveContainer transactions table).2, ?_⟩
    rw [loadContainer_saveContainer transactions TransactionInfo.getPrimaryKey table
      fun e member => own e.1 e.2 ((table.find?_eq_some_iff _ _).mpr member)]

/-- A file with one record. -/
theorem loadContainer_write (transactions : RecordImage TransactionInfo) (t : TransactionInfo) :
    (loadContainer transactions TransactionInfo.getPrimaryKey (transactions.write t) .empty).2 =
      OrderedMap.empty.insert t.id t := by
  have turn := loadRecords_record transactions TransactionInfo.getPrimaryKey t [] .empty 0
  rw [List.append_nil] at turn
  rw [loadContainer, turn, loadRecords_end]
  rfl

/-! ### One more record -/

/-- The table has the earlier records and one of this request. -/
structure RecordedIn (before after : TransactionMap) (m : MoneyRequest) (q : Qword) : Prop where
  size : after.size = before.size + 1
  kept : ∀ k t, before.find? k = some t → after.find? k = some t
  added : ∃ k t, before.find? k = none ∧ after.find? k = some t ∧ t.amount = m.amount ∧
    t.type = m.transactionType.code ∧ t.customerID = q

/-- No record has the ID that follows the number of records, in 32 bits. -/
def NextFree (table : TransactionMap) : Prop :=
  ∀ k ∈ table.keys, k.toNat ≠ (table.size + 1) % 2 ^ 32

theorem nextFree_iff (table : TransactionMap) :
    NextFree table ↔ table.find? (nextID table.size) = none := by
  have key (k : Dword) : k.toNat = (table.size + 1) % 2 ^ 32 ↔ k = nextID table.size := by
    rw [← BitVec.toNat_inj, nextID, BitVec.toNat_ofNat]
  simp only [NextFree, OrderedMap.keys, List.mem_map, ne_eq, key, OrderedMap.find?_eq_none_iff]
  constructor
  · intro free e member
    exact free e.1 ⟨e, member, rfl⟩
  · rintro free k ⟨e, member, rfl⟩
    exact free e member

/-- A table without gaps has room for its next record. -/
theorem Dense.nextFree {table : TransactionMap} (dense : Dense table)
    (room : table.size + 1 < 2 ^ 32) : NextFree table :=
  (nextFree_iff table).mpr (dense.find?_nextID (Nat.le_refl _) room)

section

variable (s : Server) (qwNow : Qword) (m : MoneyRequest) (q : Qword)

theorem recordedIn_book_iff :
    RecordedIn s.transactionInfo (m.book s qwNow q).transactionInfo m q ↔
      NextFree s.transactionInfo := by
  rw [nextFree_iff, MoneyRequest.book_transactionInfo, recordTransaction_transactionInfo]
  constructor
  · intro recorded
    -- the table would not have grown
    have grown := recorded.size
    rw [OrderedMap.size_insert] at grown
    split at grown
    next fresh => exact Option.isNone_iff_eq_none.mp fresh
    next used => omega
  · intro fresh
    refine ⟨?_, fun k t found => s.transactionInfo.find?_insert_of_find? _ _ found,
      _, s.newTransaction qwNow m.amount m.transactionType q, fresh, ?_, rfl, rfl, rfl⟩
    · rw [OrderedMap.size_insert, if_pos (Option.isNone_iff_eq_none.mpr fresh)]
    · rw [OrderedMap.find?_insert, if_pos rfl, fresh, Option.getD_none]

end

/-- A money request that succeeded has found its account. -/
theorem accountFound_of_success {s : Server} {c : Socket} {now : Qword} {m : MoneyRequest}
    (success : (dispatch s c now m.toRequest).cerRR = .success) :
    ∃ itS itA, AccountFound s m.clientID itS itA := by
  have onAccount : m.toRequest.OnAccount := by cases m <;> exact trivial
  have names : m.toRequest.hdr.clientID = m.clientID := by cases m <;> rfl
  have cases_ := onAccount_cases s c now m.toRequest onAccount
  rw [names] at cases_
  rcases cases_ with
    ⟨_, code⟩ | ⟨_, _, _, code⟩ | ⟨_, _, _, _, code⟩ | ⟨itS, itA, session, customer, account, _⟩
  · cases code.symm.trans success
  · cases m <;> cases code.symm.trans success
  · cases code.symm.trans success
  · exact ⟨itS, itA, session, customer, account⟩

/-- A money request that succeeded was booked. -/
theorem booked_of_success {s : Server} {c : Socket} {now : Qword} {m : MoneyRequest}
    {itS : SessionInfo} {itA : AccountInfo} (found : AccountFound s m.clientID itS itA)
    (success : (dispatch s c now m.toRequest).cerRR = .success) :
    (dispatch s c now m.toRequest).server = m.book s now itS.customerID := by
  have money : m.toRequest.money? = some m := by cases m <;> rfl
  have onAccount : m.toRequest.OnAccount := by cases m <;> exact trivial
  rw [dispatch_found c now m.toRequest onAccount found] at success ⊢
  simp only [Request.codeOn, Request.bookOn, money] at success ⊢
  by_cases covered : m.Covered itA
  · exact if_pos covered
  · rw [if_neg covered] at success
    cases success

/-- On any table, loaded or not: a money request that is answered with success is recorded
if and only if the ID that follows the number of records is free. -/
theorem recorded_iff (s : Server) (c : Socket) (now : Qword) (m : MoneyRequest)
    (itS : SessionInfo) (itA : AccountInfo) (found : AccountFound s m.clientID itS itA)
    (success : (dispatch s c now m.toRequest).cerRR = .success) :
    RecordedIn s.transactionInfo (dispatch s c now m.toRequest).server.transactionInfo m
        itS.customerID ↔
      NextFree s.transactionInfo := by
  rw [booked_of_success found success]
  exact recordedIn_book_iff s now m itS.customerID

/-- A deposit of another customer, under an ID. -/
def depositOfOther (id : Dword) : TransactionInfo := ⟨⟨id, 0, 100, 1⟩, 42⟩

/-- Anna is logged on with nothing on her account, on a server that has loaded one record. -/
def annaStarted (id : Dword) : Server :=
  run (.boot .empty (OrderedMap.empty.insert id (depositOfOther id)))
    ((Client.firstVisit 7 [65, 110, 110, 97] 4711 500).take 3)

def annaDeposit : MoneyRequest := .deposit (.init 3 1 500 .cash 0)

/-- The record has ID 5, so there is a gap, and ID 2 is free. -/
theorem recorded_iff_gap :
    ∃ q, RecordedIn (annaStarted 5).transactionInfo
      (dispatch (annaStarted 5) 7 0 annaDeposit.toRequest).server.transactionInfo annaDeposit
      q := by
  have found : AccountFound (annaStarted 5) 1
      ⟨1, .loggedOn, some 7, generateCustomerID [65, 110, 110, 97] 4 4711⟩
      ⟨.init [65, 110, 110, 97] [] [] 4711 0 0, generateCustomerID [65, 110, 110, 97] 4 4711,
        0⟩ := by
    decide +kernel
  refine ⟨_, (recorded_iff (annaStarted 5) 7 0 annaDeposit _ _ found ?_).mpr ?_⟩
  · decide +kernel
  · rw [nextFree_iff]
    decide +kernel

/-- The record has ID 2, as in a store whose first record was archived. Anna pays in 500: the
deposit is answered with success and changes her balance, but the table keeps its one
record. -/
theorem deposit_unrecorded :
    let image := transactionInfoImage ⟨[0, 0, 0, 0, 0, 0], rfl⟩
    let table := (loadContainer image TransactionInfo.getPrimaryKey
      (image.write (depositOfOther 2)) .empty).2
    let s := run (.boot .empty table) ((Client.firstVisit 7 [65, 110, 110, 97] 4711 500).take 3)
    let after := (dispatch s 7 0 annaDeposit.toRequest).server
    ∃ itS itA, AccountFound s 1 itS itA ∧ itA.balance = 0 ∧
      (dispatch s 7 0 annaDeposit.toRequest).cerRR = .success ∧
      (after.accountInfo.find? itS.customerID).map (·.balance) = some 500 ∧
      after.transactionInfo.values = [depositOfOther 2] ∧
      ∀ q, ¬ RecordedIn s.transactionInfo after.transactionInfo annaDeposit q := by
  intro image table s after
  have started : s = annaStarted 2 := by
    simp only [s, table, loadContainer_write]
    rfl
  simp only [after, started]
  have found : AccountFound (annaStarted 2) 1
      ⟨1, .loggedOn, some 7, generateCustomerID [65, 110, 110, 97] 4 4711⟩
      ⟨.init [65, 110, 110, 97] [] [] 4711 0 0, generateCustomerID [65, 110, 110, 97] 4 4711,
        0⟩ := by
    decide +kernel
  refine ⟨_, _, found, rfl, by decide +kernel, by decide +kernel, by decide +kernel, ?_⟩
  intro q recorded
  have before : (annaStarted 2).transactionInfo.size = 1 := by decide +kernel
  have kept : (dispatch (annaStarted 2) 7 0 annaDeposit.toRequest).server.transactionInfo.size =
      1 := by
    decide +kernel
  have grown := recorded.size
  omega

end Cnp
