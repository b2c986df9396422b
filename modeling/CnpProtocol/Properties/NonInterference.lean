import CnpProtocol.Library.Simulation
import CnpProtocol.Properties.BankService
import CnpProtocol.Properties.Commutation

/-!
# Non-interference

What the other customers do with their money cannot be seen. A run freed of their deposits,
payments and queries leaves a customer's account and records as they were, and everything
that is still asked is answered as before. The IDs of the records are all that tells of the
others: they number the transactions of the whole bank.
-/

namespace Cnp

/-! ### What a customer can see -/

/-- A transaction without its ID. -/
def Transaction.unnumbered (t : Transaction) : Transaction := { t with id := 0 }

/-- The records of a customer in the order in which they were made. -/
def recordsOf (s : Server) (q : Qword) : List Transaction :=
  (transactionsOf s q).map fun t => t.toTransaction.unnumbered

/-- A response without the IDs in it. A page that starts behind the first record depends on
them. -/
def Response.unnumbered (r : Request) : Response → Response
  | .transactionQuery m =>
    match r with
    | .transactionQuery query =>
      if query.request.startID ≤ 1 then
        .transactionQuery { m with
          response.transactions := m.response.transactions.map Transaction.unnumbered }
      else .transactionQuery { m with
        hdr.dataLen := 0
        response.transactionCount := 0
        response.transactions := [] }
    | _ => .transactionQuery m
  | m => m

/-- The code and the responses of an operation. -/
def answersTo (s : Server) : Op → Option CerType × List (Socket × Response)
  | .message c qwNow r =>
    let o := dispatch s c qwNow r
    (some o.cerRR, o.sent.map fun out => (out.1, out.2.unnumbered r))
  | _ => (none, [])

/-- Not a request on the account of another customer. -/
def NotOfOthers (q : Qword) (s : Server) : Op → Prop
  | .message _ _ r => r.OnAccount → ∀ q' ∈ customerOf? s r.hdr.clientID, q' = q
  | _ => True

instance (r : Request) : Decidable r.OnAccount :=
  match r with
  | .deposit _ | .withdrawal _ | .balanceQuery _ | .transactionQuery _ | .stampPurchase _ =>
    .isTrue trivial
  | .connect _ | .createAccount _ _ | .logon _ _ | .logoff _ => .isFalse id

instance (q : Qword) (s : Server) (op : Op) : Decidable (NotOfOthers q s op) :=
  match op with
  | .message _ _ _ => inferInstanceAs (Decidable (_ → _))
  | .disconnect _ => .isTrue trivial
  | .restart _ _ => .isTrue trivial

/-- Two servers that customer `q` cannot tell apart. -/
structure SameFor (q : Qword) (s t : Server) : Prop where
  sessions : t.sessionInfo = s.sessionInfo
  holders : t.accountData = s.accountData
  account : t.accountInfo.find? q = s.accountInfo.find? q
  records : recordsOf t q = recordsOf s q

/-! ### Requests that are not on an account -/

/-- The same change on two servers. -/
inductive Alongside (s t : Server) : Server → Server → Prop
  | idle : Alongside s t s t
  | connected (c : Socket) : Alongside s t (s.addSession c) (t.addSession c)
  | created (w : Word) (base : Prim.CreateAccountRequest) (q : Qword)
      (unused : s.accountInfo.find? q = none) (unused' : t.accountInfo.find? q = none) :
      Alongside s t (s.addAccount w base q) (t.addAccount w base q)
  | session (w : Word) (f : SessionInfo → SessionInfo) :
      Alongside s t (s.modifySession w f) (t.modifySession w f)
  | disconnected (w : Word) :
      Alongside s t { s with sessionInfo := s.sessionInfo.erase w }
        { t with sessionInfo := t.sessionInfo.erase w }
  | restarted :
      Alongside s t (.boot s.accountInfo s.transactionInfo) (.boot t.accountInfo t.transactionInfo)

theorem Alongside.sameFor {q : Qword} {s t s' t' : Server} (along : Alongside s t s' t')
    (same : SameFor q s t) : SameFor q s' t' := by
  cases along with
  | idle => exact same
  | connected c =>
    refine ⟨?_, same.holders, same.account, same.records⟩
    simp only [Server.addSession, same.sessions]
  | session w f =>
    refine ⟨?_, same.holders, same.account, same.records⟩
    rw [Server.modifySession_sessionInfo, Server.modifySession_sessionInfo, same.sessions]
  | disconnected w =>
    exact ⟨congrArg (OrderedMap.erase · w) same.sessions, same.holders, same.account, same.records⟩
  | restarted => exact ⟨rfl, same.holders, same.account, same.records⟩
  | created w base q' unused unused' =>
    have holder (u : Server) (k : Qword) : (u.addAccount w base q').accountData k =
        if k = q' then some ((u.accountData q').getD base) else u.accountData k := by
      change ((u.accountInfo.insert q' ⟨base, q', 0⟩).find? k).map _ = _
      rw [OrderedMap.find?_insert]
      split
      · simp only [Server.accountData]
        cases u.accountInfo.find? q' <;> rfl
      · rfl
    refine ⟨?_, funext fun k => ?_, ?_, same.records⟩
    · simp only [Server.addAccount, Server.modifySession_sessionInfo, same.sessions]
    · rw [holder, holder, same.holders]
    · change (t.accountInfo.insert q' ⟨base, q', 0⟩).find? q =
        (s.accountInfo.insert q' ⟨base, q', 0⟩).find? q
      rw [OrderedMap.find?_insert, OrderedMap.find?_insert, unused, unused', same.account]

/-- What is there for one of the servers is there for the other. -/
theorem SameFor.isSome {q : Qword} {s t : Server} (same : SameFor q s t) (k : Qword) :
    (t.accountInfo.find? k).isSome = (s.accountInfo.find? k).isSome := by
  have holders := congrArg Option.isSome (congrFun same.holders k)
  simpa only [Server.accountData, Option.isSome_map] using holders

/-- An operation that is no request on an account does the same on both, and answers the
same. -/
theorem SameFor.alongside {q : Qword} {s t : Server} (same : SameFor q s t) (own : OwnKeys s)
    (own' : OwnKeys t) (op : Op) (other : ∀ c now r, op = .message c now r → ¬ r.OnAccount) :
    Alongside s t (step s op) (step t op) ∧ answersTo s op = answersTo t op := by
  have sessions := same.sessions
  cases op with
  | restart accounts transactions =>
    rw [step, step, restart_eq accounts transactions s own, restart_eq accounts transactions t own']
    exact ⟨.restarted, rfl⟩
  | disconnect w =>
    refine ⟨?_, rfl⟩
    simp only [step, processDisconnect]
    rw [sessions]
    cases s.sessionInfo.find? w with
    | none => exact .idle
    | some i =>
      have erased := Alongside.disconnected (s := s) (t := t) w
      rwa [sessions] at erased
  | message c now r =>
    cases r with
    | connect m =>
      simp only [step, dispatch, answersTo, processConnectRequest, sessions]
      split
      · split
        · exact ⟨.connected c, rfl⟩
        · exact ⟨.idle, rfl⟩
      · exact ⟨.idle, rfl⟩
    | createAccount m beyond =>
      have known := same.isSome (m.customerID beyond)
      simp only [step, dispatch, answersTo, processCreateAccountRequest, sessions]
      cases s.sessionInfo.find? m.hdr.clientID with
      | none => exact ⟨.idle, rfl⟩
      | some itS =>
        dsimp only
        split
        · cases unused : s.accountInfo.find? (m.customerID beyond) with
          | none =>
            rw [unused, Option.isSome_none, Option.isSome_eq_false_iff] at known
            have unused' := Option.isNone_iff_eq_none.mp known
            rw [unused']
            exact ⟨.created _ _ _ unused unused', rfl⟩
          | some itA =>
            rw [unused, Option.isSome_some] at known
            obtain ⟨itA', used'⟩ := Option.isSome_iff_exists.mp known
            rw [used']
            exact ⟨.idle, rfl⟩
        · exact ⟨.idle, rfl⟩
    | logon m beyond =>
      have known := same.isSome (m.customerID beyond)
      simp only [step, dispatch, answersTo, processLogonRequest, sessions]
      cases s.sessionInfo.find? m.hdr.clientID with
      | none => exact ⟨.idle, rfl⟩
      | some itS =>
        dsimp only
        split
        · cases account : s.accountInfo.find? (m.customerID beyond) with
          | none =>
            rw [account, Option.isSome_none, Option.isSome_eq_false_iff] at known
            rw [Option.isNone_iff_eq_none.mp known]
            exact ⟨.idle, rfl⟩
          | some itA =>
            rw [account, Option.isSome_some] at known
            obtain ⟨itA', account'⟩ := Option.isSome_iff_exists.mp known
            rw [account']
            exact ⟨.session _ _, rfl⟩
        · exact ⟨.idle, rfl⟩
    | logoff m =>
      simp only [step, dispatch, answersTo, processLogoffRequest, sessions]
      cases s.sessionInfo.find? m.hdr.clientID with
      | none => exact ⟨.idle, rfl⟩
      | some itS =>
        dsimp only
        split
        · exact ⟨.session _ _, rfl⟩
        · exact ⟨.session _ _, rfl⟩
    | deposit m => exact absurd trivial (other c now _ rfl)
    | withdrawal m => exact absurd trivial (other c now _ rfl)
    | balanceQuery m => exact absurd trivial (other c now _ rfl)
    | transactionQuery m => exact absurd trivial (other c now _ rfl)
    | stampPurchase m => exact absurd trivial (other c now _ rfl)

/-! ### Requests on an account -/

/-- Booked money is one more record of its customer, and none of another one. -/
theorem recordsOf_book {s : Server} (dense : Dense s.transactionInfo)
    (room : s.transactionInfo.size + 1 < 2 ^ 32) (m : MoneyRequest) (now : Qword) (q q' : Qword) :
    recordsOf (m.book s now q') q =
      recordsOf s q ++ if q' = q then [(m.record now q' 0).toTransaction] else [] := by
  have values : (m.book s now q').transactionInfo.values = s.transactionInfo.values ++
      [s.newTransaction now m.amount m.transactionType q'] :=
    dense.values_recordTransaction room now m.amount m.transactionType q'
  rw [recordsOf, transactionsOf, values, List.filter_append, List.map_append, ← transactionsOf,
    ← recordsOf]
  congr 1
  split
  next own => simp [Server.newTransaction, own, Transaction.unnumbered, MoneyRequest.record]
  next other => simp [Server.newTransaction, other]

theorem accountData_book (m : MoneyRequest) (s : Server) (now q : Qword) :
    (m.book s now q).accountData = s.accountData :=
  accountData_modifyAccount s q m.update m.update_base

section Account

variable {q : Qword} {s t : Server} (same : SameFor q s t) (dense : Dense s.transactionInfo)
  (room : s.transactionInfo.size + 1 < 2 ^ 32)
include same dense room

/-- What is booked for somebody else. -/
theorem SameFor.book_other (m : MoneyRequest) (now : Qword) {q' : Qword} (other : q' ≠ q) :
    SameFor q (m.book s now q') t where
  sessions := same.sessions
  holders := by rw [accountData_book, same.holders]
  account := by
    rw [MoneyRequest.book_accountInfo, OrderedMap.find?_modify, if_neg (Ne.symm other),
      same.account]
  records := by
    rw [recordsOf_book dense room, if_neg other, List.append_nil, same.records]

/-- What is booked for the customer on both. -/
theorem SameFor.book_both (dense' : Dense t.transactionInfo)
    (fewer : t.transactionInfo.size ≤ s.transactionInfo.size) (m : MoneyRequest) (now : Qword) :
    SameFor q (m.book s now q) (m.book t now q) where
  sessions := same.sessions
  holders := by rw [accountData_book, accountData_book, same.holders]
  account := by
    rw [MoneyRequest.book_accountInfo, MoneyRequest.book_accountInfo, OrderedMap.find?_modify,
      OrderedMap.find?_modify, same.account]
  records := by
    rw [recordsOf_book dense room, recordsOf_book dense' (by omega), same.records]

end Account

/-- A page from the first record on, without the IDs. -/
theorem page_unnumbered {s : Server} (dense : Dense s.transactionInfo) (q : Qword)
    (wCount : Word) (dwStart : Dword) (first : dwStart ≤ 1) :
    let page := collectTransactions q wCount 0 (s.transactionInfo.lowerBound dwStart)
    page.1 = BitVec.ofNat 16 ((recordsOf s q).take wCount.toNat).length ∧
      page.2.map Transaction.unnumbered = (recordsOf s q).take wCount.toNat := by
  have whole : Cursor.rest Prod.fst dwStart (entriesOf s q) = entriesOf s q := by
    rw [Cursor.rest, List.filter_eq_self]
    intro e member
    have key := (dense.key_mem_range e (List.mem_of_mem_filter member)).1
    rw [BitVec.le_def] at first
    have one : (1 : Dword).toNat = 1 := rfl
    exact decide_eq_true (BitVec.le_def.mpr (by omega))
  have records : recordsOf s q =
      (entriesOf s q).map fun e => e.2.toTransaction.unnumbered := by
    rw [recordsOf, transactionsOf_eq, List.map_map]
    rfl
  intro page
  simp only [page, collectTransactions_page, Cursor.page, whole, records, ← List.map_take,
    List.length_map, List.map_map, true_and]
  rfl

/-- The response to the customer shows the account and the records. -/
theorem SameFor.respondOn {q : Qword} {s t : Server} (same : SameFor q s t)
    (dense : Dense s.transactionInfo) (dense' : Dense t.transactionInfo) (r : Request)
    (itA : AccountInfo) :
    (r.respondOn t.transactionInfo q itA).unnumbered r =
      (r.respondOn s.transactionInfo q itA).unnumbered r := by
  cases r with
  | transactionQuery m =>
    simp only [Request.respondOn, Response.unnumbered]
    split
    next first =>
      obtain ⟨count, page⟩ := page_unnumbered dense q m.request.transactionCount
        m.request.startID first
      obtain ⟨count', page'⟩ := page_unnumbered dense' q m.request.transactionCount
        m.request.startID first
      rw [count, page, count', page', same.records]
    · rfl
  | _ => rfl

/-- In a session without a customer a request is refused, whatever the tables hold. -/
theorem SameFor.answersTo_nobody {q : Qword} {s t : Server} (same : SameFor q s t) (c : Socket)
    (now : Qword) (r : Request) (onAccount : r.OnAccount)
    (nobody : customerOf? s r.hdr.clientID = none) :
    answersTo s (.message c now r) = answersTo t (.message c now r) := by
  obtain ⟨α, data, act, respond, _, eq⟩ := dispatch_withAccount c now r onAccount
  have refused (u : Server) (sessions : u.sessionInfo = s.sessionInfo) :
      (withAccount u r.hdr.clientID r.notLoggedon data (act u)).socket =
          (s.sessionInfo.find? r.hdr.clientID).bind SessionInfo.socket ∧
        (withAccount u r.hdr.clientID r.notLoggedon data (act u)).cerRR =
          (if (s.sessionInfo.find? r.hdr.clientID).isSome then r.notLoggedon
            else .invalidClientID) ∧
        (withAccount u r.hdr.clientID r.notLoggedon data (act u)).data = data := by
    cases session : s.sessionInfo.find? r.hdr.clientID with
    | none => simp [withAccount, sessions, session]
    | some itS =>
      have invalid : isValidCustomerID itS.customerID = false := by
        simpa [customerOf?, session] using nobody
      simp [withAccount, sessions, session, invalid]
  obtain ⟨socket, code, kept⟩ := refused s rfl
  obtain ⟨socket', code', kept'⟩ := refused t same.sessions
  simp only [answersTo, eq]
  rw [socket, code, kept, socket', code', kept']

/-! ### Unwinding -/

/-- Servers that customer `q` cannot tell apart, the second with fewer records. -/
structure Alike (q : Qword) (s t : Server) : Prop where
  same : SameFor q s t
  references : References s
  references' : References t
  dense : Dense s.transactionInfo
  dense' : Dense t.transactionInfo
  fewer : t.transactionInfo.size ≤ s.transactionInfo.size

theorem Alongside.transactionInfo {s t s' t' : Server} (along : Alongside s t s' t') :
    s'.transactionInfo = s.transactionInfo ∧ t'.transactionInfo = t.transactionInfo := by
  cases along <;> exact ⟨rfl, rfl⟩

section Alike

variable {q : Qword} {s t : Server} (h : Alike q s t)
include h

theorem Alike.full {op : Op} (room : ¬ Full s op) : ¬ Full t op := by
  intro full
  exact room (Nat.le_trans full (Nat.succ_le_succ h.fewer))

theorem Alike.of_sameFor {op : Op} (room : ¬ Full s op) (same : SameFor q (step s op) (step t op))
    (fewer : (step t op).transactionInfo.size ≤ (step s op).transactionInfo.size) :
    Alike q (step s op) (step t op) where
  same := same
  references := h.references.effect (step_effect s op)
  references' := h.references'.effect (step_effect t op)
  dense := (step_effect s op).dense h.references.own h.dense room
  dense' := (step_effect t op).dense h.references'.own h.dense' (h.full room)
  fewer := fewer

theorem Alike.hidden (op : Op) (room : ¬ Full s op) (others : ¬ NotOfOthers q s op) :
    Alike q (step s op) t := by
  have references := h.references.effect (step_effect s op)
  have dense := (step_effect s op).dense h.references.own h.dense room
  have fewer := Nat.le_trans h.fewer ((step_effect s op).size_le h.references.own)
  refine ⟨?_, references, h.references', dense, h.dense', fewer⟩
  cases op with
  | disconnect w => exact absurd trivial others
  | restart accounts transactions => exact absurd trivial others
  | message c now r =>
    simp only [NotOfOthers, Classical.not_imp, not_forall] at others
    obtain ⟨onAccount, q', customer, other⟩ := others
    rcases dispatch_onAccount s c now r onAccount with
      ⟨m, itS, itA, _, found, _, _, server⟩ | server
    · -- booked for the other customer
      have own : itS.customerID = q' := Option.some.inj (found.customerOf?.symm.trans customer)
      rw [step, server, own]
      exact h.same.book_other h.dense (not_le.mp room) m now other
    · rw [step, server]
      exact h.same

theorem Alike.account (c : Socket) (now : Qword) (r : Request) (onAccount : r.OnAccount)
    (room : ¬ Full s (.message c now r))
    (ours : ∀ q' ∈ customerOf? s r.hdr.clientID, q' = q) :
    Alike q (step s (.message c now r)) (step t (.message c now r)) ∧
      answersTo s (.message c now r) = answersTo t (.message c now r) := by
  have sessions := h.same.sessions
  have customers : customerOf? t r.hdr.clientID = customerOf? s r.hdr.clientID := by
    rw [customerOf?, sessions]
    rfl
  have idle (u : Server) (nobody : customerOf? u r.hdr.clientID = none) :
      step u (.message c now r) = u := by
    rcases dispatch_onAccount u c now r onAccount with ⟨_, itS, itA, _, found, _⟩ | server
    · cases nobody.symm.trans found.customerOf?
    · exact server
  cases customer : customerOf? s r.hdr.clientID with
  | none =>
    rw [idle s customer, idle t (customers.trans customer)]
    exact ⟨h, h.same.answersTo_nobody c now r onAccount customer⟩
  | some q' =>
    obtain rfl := ours q' customer
    -- the same session and the same account on both
    obtain ⟨mapped, valid⟩ := Option.filter_eq_some_iff.mp customer
    obtain ⟨itS, session, rfl⟩ := Option.map_eq_some_iff.mp mapped
    have known : (s.accountInfo.find? itS.customerID).isSome = true := by
      rcases h.references.sessionCustomer _ itS session with none | known
      · simp [isValidCustomerID, none] at valid
      · exact known
    obtain ⟨itA, account⟩ := Option.isSome_iff_exists.mp known
    have found : AccountFound s r.hdr.clientID itS itA := ⟨session, valid, account⟩
    have found' : AccountFound t r.hdr.clientID itS itA :=
      ⟨sessions ▸ session, valid, h.same.account.trans account⟩
    have outcome := dispatch_found c now r onAccount found
    have outcome' := dispatch_found c now r onAccount found'
    constructor
    · have booked : step s (.message c now r) = r.bookOn s now itS.customerID itA := by
        rw [step, outcome]
      have booked' : step t (.message c now r) = r.bookOn t now itS.customerID itA := by
        rw [step, outcome']
      refine h.of_sameFor room ?_ ?_
      · rw [booked, booked']
        rcases r.bookOn_cases now itS.customerID itA with ⟨m, books⟩ | nothing
        · rw [books, books]
          exact h.same.book_both h.dense (not_le.mp room) h.dense' h.fewer m now
        · rw [nothing, nothing]
          exact h.same
      · rw [booked, booked']
        rcases r.bookOn_cases now itS.customerID itA with ⟨m, books⟩ | nothing
        · rw [books, books, m.size_book now _ h.dense (not_le.mp room),
            m.size_book now _ h.dense' (not_le.mp (h.full room))]
          exact Nat.succ_le_succ h.fewer
        · rw [nothing, nothing]
          exact h.fewer
    · have response := h.same.respondOn h.dense h.dense' r itA
      simp only [answersTo, outcome, outcome', send, List.map_map, Function.comp_def, response]

theorem Alike.visible (op : Op) (room : ¬ Full s op) (ours : NotOfOthers q s op) :
    Alike q (step s op) (step t op) ∧ answersTo s op = answersTo t op := by
  by_cases account : ∃ c now r, op = .message c now r ∧ r.OnAccount
  · obtain ⟨c, now, r, rfl, onAccount⟩ := account
    exact h.account c now r onAccount room (ours onAccount)
  · obtain ⟨along, answers⟩ := h.same.alongside h.references.own h.references'.own op
      fun c now r message onAccount => account ⟨c, now, r, message, onAccount⟩
    refine ⟨h.of_sameFor room (along.sameFor h.same) ?_, answers⟩
    rw [along.transactionInfo.1, along.transactionInfo.2]
    exact h.fewer

end Alike

theorem unwinding_alike (q : Qword) :
    Run.Unwinding step (NotOfOthers q) Full answersTo (Alike q) where
  hidden _ _ op room h others := h.hidden op room others
  state _ _ op room h ours := (h.visible op room ours).1
  output _ _ op room h ours := (h.visible op room ours).2

theorem alike_empty (q : Qword) : Alike q .empty .empty :=
  ⟨⟨rfl, rfl, rfl, rfl⟩, references_empty, references_empty, dense_empty, dense_empty,
    Nat.le_refl _⟩

/-- In every run the requests of the other customers on their accounts can be left out: the
rest is answered with the same codes and responses, IDs apart, and all sessions, all account
data, and the customer's own balance and records are the same in the end. -/
theorem others_invisible (q : Qword) (ops : List Op)
    (few : (run .empty ops).transactionInfo.size < 2 ^ 32 - 1) :
    let rest := Run.purge step (NotOfOthers q) .empty ops
    SameFor q (run .empty ops) (run .empty rest) ∧
      Run.view step (NotOfOthers q) answersTo .empty ops =
        Run.outputs step answersTo .empty rest := by
  intro rest
  obtain ⟨alike, view⟩ := (unwinding_alike q).purged .empty .empty (alike_empty q) ops
    (avoids_full .empty references_empty.own ops few)
  exact ⟨alike.same, view⟩

/-- Bob's deposit cannot be seen from Anna's account. -/
theorem others_invisible_anna :
    let anna := generateCustomerID [65, 110, 110, 97] 4 4711
    let ops := Client.firstVisit 7 [65, 110, 110, 97] 4711 500 ++
      [Client.sendConnect 8 0, Client.sendCreateAccount 8 1 2 [66, 111, 98] [] [] 815,
        Client.sendLogIn 8 2 2 [66, 111, 98] 815, Client.sendDeposit 8 3 2 300,
        .message 7 0 (.balanceQuery (.init 4 1 0))]
    let rest := Run.purge step (NotOfOthers anna) .empty ops
    SameFor anna (run .empty ops) (run .empty rest) ∧
      Run.view step (NotOfOthers anna) answersTo .empty ops =
        Run.outputs step answersTo .empty rest := by
  intro anna ops rest
  have few : (run .empty ops).transactionInfo.size < 2 ^ 32 - 1 := by decide +kernel
  exact others_invisible anna ops few

end Cnp
