import CnpProtocol.Server.ClientRequests

/-!
# Referential integrity

The three tables refer to each other by keys only. `References` is the part that holds
for every message the network can deliver; that the key of an account is the customer ID
of its own stored name and PIN needs names terminated inside their field, which the
message constructors guarantee.
-/

namespace Cnp

/-- Every record is stored under its own key, and customer IDs refer to accounts. -/
structure References (s : Server) : Prop where
  sessionKey : ∀ w i, s.sessionInfo.find? w = some i → i.clientID = w
  own : OwnKeys s
  sessionCustomer : ∀ w i, s.sessionInfo.find? w = some i →
    i.customerID = invalidCustomerID ∨ (s.accountInfo.find? i.customerID).isSome = true
  transactionCustomer : ∀ k t, s.transactionInfo.find? k = some t →
    (s.accountInfo.find? t.customerID).isSome = true

theorem references_empty : References .empty where
  sessionKey _ _ found := by cases found
  own := ⟨fun _ _ found => (by cases found), fun _ _ found => (by cases found)⟩
  sessionCustomer _ _ found := by cases found
  transactionCustomer _ _ found := by cases found

/-! ### Own keys -/

theorem OwnKeys.insertAccount {s : Server} (h : OwnKeys s) (base : Prim.CreateAccountRequest)
    (q : Qword) (dwBalance : Dword) :
    OwnKeys { s with accountInfo := s.accountInfo.insert q ⟨base, q, dwBalance⟩ } where
  accounts k a found := by
    rcases s.accountInfo.find?_insert_cases found with old | ⟨rfl, rfl, _⟩
    · exact h.accounts k a old
    · rfl
  transactions := h.transactions

theorem OwnKeys.modifyAccount {s : Server} (h : OwnKeys s) (q : Qword)
    (f : AccountInfo → AccountInfo) (customerID : ∀ a, (f a).customerID = a.customerID) :
    OwnKeys (s.modifyAccount q f) where
  accounts k a found := by
    obtain ⟨a', old, rfl⟩ := s.accountInfo.find?_modify_eq_some found
    split
    · rw [customerID, h.accounts k a' old]
    · exact h.accounts k a' old
  transactions := h.transactions

theorem OwnKeys.recordTransaction {s : Server} (h : OwnKeys s) (qwNow : Qword) (dwAmount : Dword)
    (wType : TransactionType) (q : Qword) :
    OwnKeys (s.recordTransaction qwNow dwAmount wType q) where
  accounts := h.accounts
  transactions k t found := by
    rcases s.transactionInfo.find?_insert_cases found with old | ⟨rfl, rfl, _⟩
    · exact h.transactions k t old
    · rfl

theorem OwnKeys.effect {s s' : Server} {op : Op} (h : OwnKeys s) (e : Effect s op s') :
    OwnKeys s' := by
  cases e with
  | created c now m beyond itS session name pin unused =>
    have inserted := h.insertAccount m.request (m.customerID beyond) 0
    exact ⟨inserted.accounts, inserted.transactions⟩
  | paidIn _ qwNow dwAmount q itA account =>
    exact (h.modifyAccount q (·.incrBalance dwAmount) fun _ => rfl).recordTransaction ..
  | paidOut _ qwNow dwAmount wType debit q itA account covered =>
    simp only [payOut, if_pos covered]
    exact (h.modifyAccount q (·.decrBalance dwAmount) fun _ => rfl).recordTransaction ..
  | restarted accounts transactions =>
    rw [restart_eq accounts transactions s h]
    exact ⟨h.accounts, h.transactions⟩
  | _ => exact ⟨h.accounts, h.transactions⟩

theorem ownKeys_run (s : Server) (own : OwnKeys s) (ops : List Op) : OwnKeys (run s ops) :=
  Run.invariant step OwnKeys (fun _ => True) (fun s op _ h => h.effect (step_effect s op)) s own ops
    fun _ _ => trivial

/-! ### One update at a time -/

/-- An update of a session that keeps its client ID and leaves it with no customer, its
old one or one that has an account. -/
theorem References.modifySession {s : Server} (h : References s) (w : Word)
    (f : SessionInfo → SessionInfo) (clientID : ∀ i, (f i).clientID = i.clientID)
    (customer : ∀ i, (f i).customerID = invalidCustomerID ∨ (f i).customerID = i.customerID ∨
      (s.accountInfo.find? (f i).customerID).isSome = true) :
    References (s.modifySession w f) where
  sessionKey w' i found := by
    obtain ⟨i', old, rfl⟩ := s.sessionInfo.find?_modify_eq_some found
    split
    · rw [clientID, h.sessionKey w' i' old]
    · exact h.sessionKey w' i' old
  own := ⟨h.own.accounts, h.own.transactions⟩
  sessionCustomer w' i found := by
    obtain ⟨i', old, rfl⟩ := s.sessionInfo.find?_modify_eq_some found
    split
    · rcases customer i' with none | same | new
      · exact Or.inl none
      · rw [same]
        exact h.sessionCustomer w' i' old
      · exact Or.inr new
    · exact h.sessionCustomer w' i' old
  transactionCustomer := h.transactionCustomer

theorem References.addSession {s : Server} (h : References s) (c : Socket) :
    References (s.addSession c) where
  sessionKey w i found := by
    rcases s.sessionInfo.find?_insert_cases found with old | ⟨rfl, rfl, _⟩
    · exact h.sessionKey w i old
    · rfl
  own := ⟨h.own.accounts, h.own.transactions⟩
  sessionCustomer w i found := by
    rcases s.sessionInfo.find?_insert_cases found with old | ⟨rfl, rfl, _⟩
    · exact h.sessionCustomer w i old
    · -- a new session has no customer
      exact Or.inl rfl
  transactionCustomer := h.transactionCustomer

theorem References.addAccount {s : Server} (h : References s) (w : Word)
    (base : Prim.CreateAccountRequest) (q : Qword) : References (s.addAccount w base q) := by
  apply References.modifySession
    (s := { s with accountInfo := s.accountInfo.insert q ⟨base, q, 0⟩ })
  · -- the new account is stored under its own ID, and no reference is lost
    exact {
      sessionKey := h.sessionKey
      own := h.own.insertAccount base q 0
      sessionCustomer := fun w' i found =>
        (h.sessionCustomer w' i found).imp_right (s.accountInfo.isSome_find?_insert q _)
      transactionCustomer := fun k t found =>
        s.accountInfo.isSome_find?_insert q _ (h.transactionCustomer k t found) }
  · exact fun _ => rfl
  · -- the session keeps its customer
    exact fun _ => Or.inr (Or.inl rfl)

/-- A balance update keeps the keys of the account table. -/
theorem References.modifyAccount {s : Server} (h : References s) (q : Qword)
    (f : AccountInfo → AccountInfo) (customerID : ∀ a, (f a).customerID = a.customerID) :
    References (s.modifyAccount q f) where
  sessionKey := h.sessionKey
  own := h.own.modifyAccount q f customerID
  sessionCustomer w i found := by
    rw [Server.modifyAccount_accountInfo, OrderedMap.isSome_find?_modify]
    exact h.sessionCustomer w i found
  transactionCustomer k t found := by
    rw [Server.modifyAccount_accountInfo, OrderedMap.isSome_find?_modify]
    exact h.transactionCustomer k t found

theorem References.recordTransaction {s : Server} (h : References s) (qwNow : Qword)
    (dwAmount : Dword) (wType : TransactionType) (q : Qword)
    (account : (s.accountInfo.find? q).isSome = true) :
    References (s.recordTransaction qwNow dwAmount wType q) where
  sessionKey := h.sessionKey
  own := h.own.recordTransaction qwNow dwAmount wType q
  sessionCustomer := h.sessionCustomer
  transactionCustomer k t found := by
    rcases s.transactionInfo.find?_insert_cases found with old | ⟨rfl, rfl, _⟩
    · exact h.transactionCustomer k t old
    · exact account

/-- A balance update followed by a record for the same account. -/
theorem References.move {s : Server} (h : References s) (q : Qword) (itA : AccountInfo)
    (account : s.accountInfo.find? q = some itA) (f : AccountInfo → AccountInfo)
    (customerID : ∀ a, (f a).customerID = a.customerID) (qwNow : Qword) (dwAmount : Dword)
    (wType : TransactionType) :
    References ((s.modifyAccount q f).recordTransaction qwNow dwAmount wType q) := by
  apply (h.modifyAccount q f customerID).recordTransaction
  rw [Server.modifyAccount_accountInfo, OrderedMap.isSome_find?_modify, account,
    Option.isSome_some]

/-! ### Every operation -/

theorem References.effect {s s' : Server} {op : Op} (h : References s) (e : Effect s op s') :
    References s' := by
  cases e with
  | idle => exact h
  | connected c now m => exact h.addSession c
  | created c now m beyond itS session name pin unused => exact h.addAccount _ _ _
  | loggedOn c now m beyond itS itA session name pin account =>
    have present : (s.accountInfo.find? (m.customerID beyond)).isSome = true := by
      rw [account, Option.isSome_some]
    exact h.modifySession _ _ (fun _ => rfl) fun _ => Or.inr (Or.inr present)
  | loggedOff c now m itS session customer =>
    exact h.modifySession _ _ (fun _ => rfl) fun _ => Or.inl rfl
  | notLoggedOff c now m itS session noCustomer =>
    exact h.modifySession _ _ (fun _ => rfl) fun _ => Or.inr (Or.inl rfl)
  | paidIn _ qwNow dwAmount q itA account =>
    exact h.move q itA account (·.incrBalance dwAmount) (fun _ => rfl) qwNow dwAmount .deposit
  | paidOut _ qwNow dwAmount wType debit q itA account covered =>
    simp only [payOut, if_pos covered]
    exact h.move q itA account (·.decrBalance dwAmount) (fun _ => rfl) qwNow dwAmount wType
  | disconnected w =>
    exact {
      sessionKey := fun w' i found => h.sessionKey w' i (s.sessionInfo.find?_of_find?_erase found).2
      own := ⟨h.own.accounts, h.own.transactions⟩
      sessionCustomer := fun w' i found =>
        h.sessionCustomer w' i (s.sessionInfo.find?_of_find?_erase found).2
      transactionCustomer := h.transactionCustomer }
  | restarted accounts transactions =>
    -- the sessions are gone, and the store keeps the two other tables
    rw [restart_eq accounts transactions s h.own]
    exact {
      sessionKey := fun _ _ found => by cases found
      own := ⟨h.own.accounts, h.own.transactions⟩
      sessionCustomer := fun _ _ found => by cases found
      transactionCustomer := h.transactionCustomer }

theorem references_run (ops : List Op) : References (run .empty ops) :=
  Run.invariant step References (fun _ => True)
    (fun s op _ h => h.effect (step_effect s op)) .empty references_empty ops (fun _ _ => trivial)

/-! ### Names of accounts -/

/-- Every account has a valid name and PIN, and its key is their customer ID. -/
def NamedAccounts (s : Server) : Prop :=
  ∀ k a, s.accountInfo.find? k = some a →
    isValidName a.firstName.bytes = true ∧ isValidPIN a.pin = true ∧
      k = generateCustomerID a.firstName.bytes (Bytes.strlen a.firstName.bytes) a.pin

theorem NamedAccounts.modify {s s' : Server} (h : NamedAccounts s) (q : Qword)
    (f : AccountInfo → AccountInfo) (base : ∀ a, (f a).toCreateAccountRequest =
      a.toCreateAccountRequest) (accounts : s'.accountInfo = s.accountInfo.modify q f) :
    NamedAccounts s' := by
  intro k a found
  rw [accounts] at found
  obtain ⟨a', old, rfl⟩ := s.accountInfo.find?_modify_eq_some found
  have named := h k a' old
  split
  · rw [base]
    exact named
  · exact named

theorem isValidName_getFirstName (m : CreateAccountRequest) (beyond : List Byte) :
    isValidName (m.getFirstName beyond) = isValidName m.request.firstName.bytes := by
  have length := m.request.firstName.length_eq
  cases bytes : m.request.firstName.bytes with
  | nil => simp [bytes, maxNameLen] at length
  | cons b bs => simp [isValidName, CreateAccountRequest.getFirstName, bytes]

/-- The stored copy of a terminated name has the customer ID of the request. -/
theorem CreateAccountRequest.customerID_eq (m : CreateAccountRequest) (beyond : List Byte)
    (terminated : 0 ∈ m.request.firstName.bytes) :
    m.customerID beyond = generateCustomerID m.request.firstName.bytes
      (Bytes.strlen m.request.firstName.bytes) m.request.pin := by
  rw [CreateAccountRequest.customerID, generateCustomerID_eq_iff,
    CreateAccountRequest.getFirstName, Bytes.cString_append _ _ terminated]
  exact ⟨rfl, rfl⟩

theorem NamedAccounts.effect {s s' : Server} {op : Op} (h : NamedAccounts s)
    (references : References s) (terminated : op.NameTerminated) (e : Effect s op s') :
    NamedAccounts s' := by
  cases e with
  | idle => exact h
  | connected => exact h
  | created c now m beyond itS session name pin unused =>
    -- the stored copy has the name and the PIN that were checked
    intro k a found
    rcases s.accountInfo.find?_insert_cases found with old | ⟨rfl, rfl, _⟩
    · exact h k a old
    · exact ⟨isValidName_getFirstName m beyond ▸ name, pin, m.customerID_eq beyond terminated⟩
  | loggedOn => exact h
  | loggedOff => exact h
  | notLoggedOff => exact h
  | paidIn _ qwNow dwAmount q itA account =>
    exact h.modify q (·.incrBalance dwAmount) (fun _ => rfl) rfl
  | paidOut _ qwNow dwAmount wType debit q itA account covered =>
    simp only [payOut, if_pos covered]
    exact h.modify q (·.decrBalance dwAmount) (fun _ => rfl) rfl
  | disconnected => exact h
  | restarted accounts transactions =>
    rw [restart_eq accounts transactions s references.own]
    exact h

theorem namedAccounts_run (ops : List Op) (terminated : ∀ op ∈ ops, op.NameTerminated) :
    NamedAccounts (run .empty ops) := by
  have both := Run.invariant step (fun s => References s ∧ NamedAccounts s) Op.NameTerminated
    (fun s op name h => ⟨h.1.effect (step_effect s op), h.2.effect h.1 name (step_effect s op)⟩)
    .empty ⟨references_empty, fun _ _ found => by cases found⟩ ops terminated
  exact both.2

/-! ### Referential integrity -/

/-- The three tables are keyed by their records' own IDs, accounts by the customer ID of
their name and PIN, and every customer ID in use belongs to an account. -/
structure Integrity (s : Server) : Prop where
  sessionKey : ∀ w i, s.sessionInfo.find? w = some i → i.clientID = w
  accountKey : ∀ q a, s.accountInfo.find? q = some a → a.customerID = q
  transactionKey : ∀ k t, s.transactionInfo.find? k = some t → t.id = k
  accountName : ∀ q a, s.accountInfo.find? q = some a → a.firstName.string ≠ []
  accountPin : ∀ q a, s.accountInfo.find? q = some a → a.pin ≠ invalidPin
  accountHash : ∀ q a, s.accountInfo.find? q = some a →
    q = generateCustomerID a.firstName.bytes (Bytes.strlen a.firstName.bytes) a.pin
  accountValid : ∀ q a, s.accountInfo.find? q = some a → q ≠ invalidCustomerID
  sessionCustomer : ∀ w i, s.sessionInfo.find? w = some i →
    i.customerID = invalidCustomerID ∨ (s.accountInfo.find? i.customerID).isSome = true
  transactionCustomer : ∀ k t, s.transactionInfo.find? k = some t →
    (s.accountInfo.find? t.customerID).isSome = true

theorem isValidPIN_iff (wPIN : Word) : isValidPIN wPIN = true ↔ wPIN ≠ invalidPin := by
  simp [isValidPIN]

theorem References.integrity {s : Server} (references : References s) (named : NamedAccounts s) :
    Integrity s where
  sessionKey := references.sessionKey
  accountKey := references.own.accounts
  transactionKey := references.own.transactions
  accountName q a found := (isValidName_iff _).mp (named q a found).1
  accountPin q a found := (isValidPIN_iff _).mp (named q a found).2.1
  accountHash q a found := (named q a found).2.2
  accountValid q a found := by
    obtain ⟨_, pin, key⟩ := named q a found
    rw [key]
    exact generateCustomerID_ne_zero _ _ ((isValidPIN_iff _).mp pin)
  sessionCustomer := references.sessionCustomer
  transactionCustomer := references.transactionCustomer

/-- With every session's customer in the account table, the search for the account of a
logged-on session never fails. -/
theorem References.account_found {s : Server} (references : References s) (c : Socket)
    (now : Qword) (r : Request) (onAccount : r.OnAccount) :
    (dispatch s c now r).cerRR ≠ .accountNotFound := by
  rcases onAccount_cases s c now r onAccount with
    ⟨_, code⟩ | ⟨itS, _, _, code⟩ | ⟨itS, session, customer, account, _⟩ |
      ⟨_, _, _, _, _, code | code⟩
  · -- no session
    rw [code]
    decide
  · -- the code for a session that is not logged on depends on the request
    rw [code]
    cases r <;> simp [Request.notLoggedon]
  · -- the account of a logged-on session is missing
    rcases references.sessionCustomer _ itS session with none | found
    · simp [isValidCustomerID, none] at customer
    · rw [account] at found
      cases found
  · rw [code]
    decide
  · rw [code]
    decide

/-- Every state reachable from empty tables has referential integrity, and
`CER_ACCOUNT_NOT_FOUND` is no answer to a request on an account. -/
theorem integrity_run (ops : List Op) (terminated : ∀ op ∈ ops, op.NameTerminated) :
    Integrity (run .empty ops) ∧
      ∀ (c : Socket) (now : Qword) (r : Request), r.OnAccount →
        (dispatch (run .empty ops) c now r).cerRR ≠ .accountNotFound :=
  ⟨(references_run ops).integrity (namedAccounts_run ops terminated),
    fun c now r onAccount => (references_run ops).account_found c now r onAccount⟩

/-- Anna opens an account, pays in and is there again after a restart. -/
theorem integrity_run_anna :
    let ops := Client.firstVisit 7 [65, 110, 110, 97] 4711 500 ++
      [.restart (accountInfoImage ⟨[0, 0, 0, 0, 0, 0], rfl⟩ ⟨[0, 0, 0, 0], rfl⟩)
        (transactionInfoImage ⟨[0, 0, 0, 0, 0, 0], rfl⟩)]
    Integrity (run .empty ops) ∧
      (dispatch (run .empty ops) 7 0 (.balanceQuery (.init 4 1 0))).cerRR ≠ .accountNotFound := by
  intro ops
  have terminated : ∀ op ∈ ops, op.NameTerminated := by
    intro op member
    rcases List.mem_append.mp member with visit | restart
    · exact Client.nameTerminated_firstVisit _ _ _ _ op visit
    · rw [List.mem_singleton.mp restart]
      trivial
  exact ⟨(integrity_run ops terminated).1, (integrity_run ops terminated).2 7 0 _ trivial⟩

end Cnp
