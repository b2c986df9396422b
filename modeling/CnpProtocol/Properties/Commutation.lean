import CnpProtocol.Properties.AccountRequests
import CnpProtocol.Properties.CompleteHistory
import Mathlib.Logic.Equiv.Basic

/-!
# Requests in either order

Two requests on the accounts of different customers give the same answers in either order.
They share the transaction table, so the order shows in the IDs of the records they add and
nowhere else.
-/

namespace Cnp

/-- Two tables that extend `base`, with the same new records up to exchanging two IDs. -/
structure Renumbered (base t t' : TransactionMap) (a b : Dword) : Prop where
  unused : base.find? a = none ∧ base.find? b = none
  kept : ∀ k r, base.find? k = some r → t.find? k = some r ∧ t'.find? k = some r
  exchanged : ∀ k, base.find? k = none →
    t'.find? (Equiv.swap a b k) = (t.find? k).map fun r => { r with id := Equiv.swap a b k }

/-- What does not depend on the order in which two requests are handled; a sent response
holds the balance or the transactions it reports. -/
structure EitherOrder (s : Server) (c₁ : Socket) (now₁ : Qword) (r₁ : Request) (c₂ : Socket)
    (now₂ : Qword) (r₂ : Request) : Prop where
  first : let o := dispatch (dispatch s c₂ now₂ r₂).server c₁ now₁ r₁
    o.cerRR = (dispatch s c₁ now₁ r₁).cerRR ∧ o.sent = (dispatch s c₁ now₁ r₁).sent
  second : let o := dispatch (dispatch s c₁ now₁ r₁).server c₂ now₂ r₂
    o.cerRR = (dispatch s c₂ now₂ r₂).cerRR ∧ o.sent = (dispatch s c₂ now₂ r₂).sent
  tables : let s₁₂ := (dispatch (dispatch s c₁ now₁ r₁).server c₂ now₂ r₂).server
    let s₂₁ := (dispatch (dispatch s c₂ now₂ r₂).server c₁ now₁ r₁).server
    s₁₂.sessionInfo = s₂₁.sessionInfo ∧ s₁₂.accountInfo = s₂₁.accountInfo ∧
      ∃ a b, Renumbered s.transactionInfo s₁₂.transactionInfo s₂₁.transactionInfo a b

/-! ### Renumbering -/

/-- One table, whose new records are under their own IDs. -/
theorem Renumbered.same {base t : TransactionMap} {a : Dword} (unused : base.find? a = none)
    (kept : ∀ k r, base.find? k = some r → t.find? k = some r)
    (own : ∀ k r, base.find? k = none → t.find? k = some r → r.id = k) :
    Renumbered base t t a a where
  unused := ⟨unused, unused⟩
  kept k r found := ⟨kept k r found, kept k r found⟩
  exchanged k absent := by
    rw [Equiv.swap_self, Equiv.refl_apply]
    cases found : t.find? k with
    | none => rfl
    | some r =>
      rw [Option.map_some, Option.some.injEq]
      cases own k r absent found
      rfl

/-- Two tables with two new records that have changed their IDs. -/
theorem Renumbered.two {base t t' : TransactionMap} {a b : Dword} (different : a ≠ b)
    (unused : base.find? a = none ∧ base.find? b = none) (x y : TransactionInfo)
    (order : ∀ k, t.find? k = if k = b then some { y with id := b } else
      if k = a then some { x with id := a } else base.find? k)
    (order' : ∀ k, t'.find? k = if k = b then some { x with id := b } else
      if k = a then some { y with id := a } else base.find? k) :
    Renumbered base t t' a b where
  unused := unused
  kept k r found := by
    have notA : k ≠ a := fun same => by simp [same, unused.1] at found
    have notB : k ≠ b := fun same => by simp [same, unused.2] at found
    rw [order, order', if_neg notB, if_neg notA]
    exact ⟨found, by rw [if_neg notB, if_neg notA, found]⟩
  exchanged k absent := by
    -- the ID is the first one, the second one or neither of them
    by_cases isA : k = a
    · subst isA
      rw [Equiv.swap_apply_left, order', if_pos rfl, order, if_neg different, if_pos rfl]
      rfl
    · by_cases isB : k = b
      · subst isB
        rw [Equiv.swap_apply_right, order', if_neg different, if_pos rfl, order, if_pos rfl]
        rfl
      · rw [Equiv.swap_apply_of_ne_of_ne isA isB, order', if_neg isB, if_neg isA, order,
          if_neg isB, if_neg isA, absent]
        rfl

/-! ### After a request of another customer -/

namespace MoneyRequest

variable (m : MoneyRequest) {s : Server} (now : Qword) (q : Qword)

/-- The record of the request under an ID. -/
def record (id : Dword) : TransactionInfo := ⟨⟨id, now, m.amount, m.transactionType.code⟩, q⟩

section Dense

variable (dense : Dense s.transactionInfo) (room : s.transactionInfo.size + 1 < 2 ^ 32)
include dense room

theorem find?_book (k : Dword) :
    (m.book s now q).transactionInfo.find? k =
      if k = nextID s.transactionInfo.size then
        some (m.record now q (nextID s.transactionInfo.size))
      else s.transactionInfo.find? k := by
  rw [book_transactionInfo, recordTransaction_transactionInfo, OrderedMap.find?_insert,
    dense.find?_nextID (Nat.le_refl _) room]
  rfl

theorem dense_book : Dense (m.book s now q).transactionInfo :=
  Dense.recordTransaction (s := s.modifyAccount q m.update) dense room now m.amount
    m.transactionType q

theorem size_book : (m.book s now q).transactionInfo.size = s.transactionInfo.size + 1 :=
  Dense.size_recordTransaction (s := s.modifyAccount q m.update) dense room now m.amount
    m.transactionType q

/-- The new record is none of another customer. -/
theorem entriesOf_book {q' : Qword} (other : q ≠ q') :
    entriesOf (m.book s now q) q' = entriesOf s q' := by
  have entries : (m.book s now q).transactionInfo.entries = s.transactionInfo.entries ++
      [(nextID s.transactionInfo.size, m.record now q (nextID s.transactionInfo.size))] :=
    Dense.entries_recordTransaction (s := s.modifyAccount q m.update) dense room now m.amount
      m.transactionType q
  rw [entriesOf, entries, List.filter_append, ← entriesOf]
  simp [record, other]

end Dense

theorem accountFound_book {w : Word} {itS : SessionInfo} {itA : AccountInfo}
    (found : AccountFound s w itS itA) (other : q ≠ itS.customerID) :
    AccountFound (m.book s now q) w itS itA where
  session := found.session
  customer := found.customer
  account := by
    rw [book_accountInfo, OrderedMap.find?_modify, if_neg (Ne.symm other)]
    exact found.account

end MoneyRequest

namespace Request

/-- A request books the same on every server, or nothing on any. -/
theorem bookOn_cases (r : Request) (now : Qword) (q : Qword) (itA : AccountInfo) :
    (∃ m : MoneyRequest, ∀ s, r.bookOn s now q itA = m.book s now q) ∨
      ∀ s, r.bookOn s now q itA = s := by
  cases money : r.money? with
  | none => exact Or.inr fun s => by rw [bookOn, money]
  | some m =>
    by_cases covered : m.Covered itA
    · exact Or.inl ⟨m, fun s => by simp only [bookOn, money, if_pos covered]⟩
    · exact Or.inr fun s => by simp only [bookOn, money, if_neg covered]

/-- The table is looked at only for the page of the customer. -/
theorem respondOn_congr (r : Request) {s s' : Server} {q : Qword}
    (same : entriesOf s' q = entriesOf s q) (itA : AccountInfo) :
    r.respondOn s'.transactionInfo q itA = r.respondOn s.transactionInfo q itA := by
  cases r with
  | transactionQuery m => simp only [respondOn, collectTransactions_page, same]
  | _ => rfl

end Request

/-- A request of a customer gets the same answer after one of another customer, and books on
top of it. -/
theorem dispatch_after {s : Server} (dense : Dense s.transactionInfo)
    (room : s.transactionInfo.size + 1 < 2 ^ 32) {itS itS' : SessionInfo} {itA itA' : AccountInfo}
    (different : itS'.customerID ≠ itS.customerID) (c c' : Socket) (now now' : Qword)
    (r r' : Request) (onAccount : r.OnAccount) (onAccount' : r'.OnAccount)
    (found : AccountFound s r.hdr.clientID itS itA)
    (found' : AccountFound s r'.hdr.clientID itS' itA') :
    dispatch (dispatch s c' now' r').server c now r =
      ⟨r.bookOn (r'.bookOn s now' itS'.customerID itA') now itS.customerID itA,
        (dispatch s c now r).cerRR, (dispatch s c now r).sent⟩ := by
  have server : (dispatch s c' now' r').server = r'.bookOn s now' itS'.customerID itA' :=
    congrArg Outcome.server (dispatch_found c' now' r' onAccount' found')
  rw [server, dispatch_found c now r onAccount found]
  rcases r'.bookOn_cases now' itS'.customerID itA' with ⟨m, booked⟩ | nothing
  · -- the booking touches neither the account nor the page of the customer
    have after := m.accountFound_book now' itS'.customerID found different
    rw [booked, dispatch_found c now r onAccount after,
      r.respondOn_congr (m.entriesOf_book now' itS'.customerID dense room different)]
  · rw [nothing, dispatch_found c now r onAccount found]

/-! ### Either order -/

section Tables

variable {s : Server} (dense : Dense s.transactionInfo)
include dense

theorem renumbered_book (room : s.transactionInfo.size + 1 < 2 ^ 32) (m : MoneyRequest)
    (now q : Qword) :
    Renumbered s.transactionInfo (m.book s now q).transactionInfo
      (m.book s now q).transactionInfo (nextID s.transactionInfo.size)
      (nextID s.transactionInfo.size) := by
  have unused := dense.find?_nextID (Nat.le_refl _) room
  refine .same unused (fun k r found => ?_) fun k r absent found => ?_
  · have old : k ≠ nextID s.transactionInfo.size := fun same => by simp [same, unused] at found
    rw [m.find?_book now q dense room, if_neg old, found]
  · rw [m.find?_book now q dense room] at found
    split at found
    next same =>
      -- the new record
      rw [← Option.some.inj found, same]
      rfl
    · rw [absent] at found
      cases found

/-- Whichever of two requests books first gets the smaller ID. -/
theorem renumbered_book_book (room : s.transactionInfo.size + 2 < 2 ^ 32)
    (m₁ m₂ : MoneyRequest) (now₁ now₂ q₁ q₂ : Qword) :
    Renumbered s.transactionInfo (m₂.book (m₁.book s now₁ q₁) now₂ q₂).transactionInfo
      (m₁.book (m₂.book s now₂ q₂) now₁ q₁).transactionInfo (nextID s.transactionInfo.size)
      (nextID (s.transactionInfo.size + 1)) := by
  have once : s.transactionInfo.size + 1 < 2 ^ 32 := by omega
  have ids : nextID s.transactionInfo.size ≠ nextID (s.transactionInfo.size + 1) := by
    simp only [nextID]
    bv_omega
  -- the record that is added first is under the smaller ID
  have order (m m' : MoneyRequest) (now now' q q' : Qword) (k : Dword) :
      (m'.book (m.book s now q) now' q').transactionInfo.find? k =
        if k = nextID (s.transactionInfo.size + 1) then
          some (m'.record now' q' (nextID (s.transactionInfo.size + 1)))
        else if k = nextID s.transactionInfo.size then
          some (m.record now q (nextID s.transactionInfo.size))
        else s.transactionInfo.find? k := by
    have size := m.size_book now q dense once
    rw [m'.find?_book now' q' (m.dense_book now q dense once) (by omega),
      m.find?_book now q dense once, size]
  have unused := dense.find?_nextID (Nat.le_refl _) once
  have unused' := dense.find?_nextID (Nat.le_succ _) room
  exact .two ids ⟨unused, unused'⟩ (m₁.record now₁ q₁ 0) (m₂.record now₂ q₂ 0)
    (order m₁ m₂ now₁ now₂ q₁ q₂) (order m₂ m₁ now₂ now₁ q₂ q₁)

end Tables

/-- On a table with the keys 1, …, n two requests of logged-on sessions on the accounts of
different customers can be handled in either order. -/
theorem either_order (s : Server) (dense : Dense s.transactionInfo)
    (room : s.transactionInfo.size < 2 ^ 32 - 3) (c₁ c₂ : Socket) (now₁ now₂ : Qword)
    (r₁ r₂ : Request) (onAccount₁ : r₁.OnAccount) (onAccount₂ : r₂.OnAccount)
    (itS₁ itS₂ : SessionInfo) (itA₁ itA₂ : AccountInfo)
    (found₁ : AccountFound s r₁.hdr.clientID itS₁ itA₁)
    (found₂ : AccountFound s r₂.hdr.clientID itS₂ itA₂)
    (different : itS₁.customerID ≠ itS₂.customerID) :
    EitherOrder s c₁ now₁ r₁ c₂ now₂ r₂ := by
  have once : s.transactionInfo.size + 1 < 2 ^ 32 := by omega
  -- each answer is the one on the first state
  have after₂ := dispatch_after dense once different c₂ c₁ now₂ now₁ r₂ r₁ onAccount₂ onAccount₁
    found₂ found₁
  have after₁ := dispatch_after dense once (Ne.symm different) c₁ c₂ now₁ now₂ r₁ r₂ onAccount₁
    onAccount₂ found₁ found₂
  refine ⟨?_, ?_, ?_⟩
  · rw [after₁]
    exact ⟨rfl, rfl⟩
  · rw [after₂]
    exact ⟨rfl, rfl⟩
  rw [after₁, after₂]
  -- which of the two requests adds a record
  rcases r₁.bookOn_cases now₁ itS₁.customerID itA₁ with ⟨m₁, books₁⟩ | nothing₁
  · rcases r₂.bookOn_cases now₂ itS₂.customerID itA₂ with ⟨m₂, books₂⟩ | nothing₂
    · simp only [books₁, books₂]
      refine ⟨rfl, ?_, _, _, renumbered_book_book dense (by omega) m₁ m₂ now₁ now₂ _ _⟩
      exact s.accountInfo.modify_comm different m₁.update m₂.update
    · simp only [books₁, nothing₂, true_and]
      exact ⟨_, _, renumbered_book dense once m₁ now₁ itS₁.customerID⟩
  · rcases r₂.bookOn_cases now₂ itS₂.customerID itA₂ with ⟨m₂, books₂⟩ | nothing₂
    · simp only [nothing₁, books₂, true_and]
      exact ⟨_, _, renumbered_book dense once m₂ now₂ itS₂.customerID⟩
    · simp only [nothing₁, nothing₂, true_and]
      refine ⟨_, _, .same (dense.find?_nextID (Nat.le_refl _) once)
        (fun _ _ found => found) fun k r absent found => ?_⟩
      rw [absent] at found
      cases found

/-- Anna pays in 200 and Bob withdraws 300. -/
theorem either_order_anna_bob :
    let s := run (.boot .empty .empty) (Client.firstVisit 7 [65, 110, 110, 97] 4711 500 ++
      [Client.sendConnect 8 0, Client.sendCreateAccount 8 1 2 [66, 111, 98] [] [] 4712,
        Client.sendLogIn 8 2 2 [66, 111, 98] 4712, Client.sendDeposit 8 3 2 700])
    EitherOrder s 7 10 (.deposit (.init 4 1 200 .cash 0)) 8 11 (.withdrawal (.init 4 2 300 0)) := by
  intro s
  have anna : AccountFound s 1
      ⟨1, .loggedOn, some 7, generateCustomerID [65, 110, 110, 97] 4 4711⟩
      ⟨.init [65, 110, 110, 97] [] [] 4711 0 0, generateCustomerID [65, 110, 110, 97] 4 4711,
        500⟩ := by
    decide +kernel
  have bob : AccountFound s 2
      ⟨2, .loggedOn, some 8, generateCustomerID [66, 111, 98] 3 4712⟩
      ⟨.init [66, 111, 98] [] [] 4712 0 0, generateCustomerID [66, 111, 98] 3 4712, 700⟩ := by
    decide +kernel
  have dense : s.transactionInfo.keys.map BitVec.toNat = List.range' 1 s.transactionInfo.size := by
    decide +kernel
  exact either_order s dense (by decide +kernel) 7 8 10 11 (.deposit (.init 4 1 200 .cash 0))
    (.withdrawal (.init 4 2 300 0)) trivial trivial _ _ _ _ anna bob (by decide +kernel)

end Cnp
