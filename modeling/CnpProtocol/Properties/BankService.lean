import CnpProtocol.Library.JournalBank
import CnpProtocol.Library.Simulation
import CnpProtocol.Properties.CompleteHistory

/-!
# The server as a bank

What the server is for: a bank with a journal. The transaction table is the journal, the
balances are the funds it leaves, and every request that gets to an account is one command
of the bank, answered with the bank's reply. Sessions decide which command a request is.
-/

namespace Cnp

/-! ### The bank of a server -/

/-- When a transaction was made and what it was. -/
abbrev Memo := Qword × Word

namespace Transaction

def memo (t : Transaction) : Memo := (t.dateTime, t.type)

def entry (t : Transaction) : Entry :=
  if t.type = TransactionType.deposit.code then .credit t.amount.toNat else .debit t.amount.toNat

/-- A transaction as the protocol shows it, as a line of a statement. -/
def line (t : Transaction) : JournalBank.Line Memo := (t.id.toNat, t.memo, t.entry)

end Transaction

def TransactionInfo.posting (t : TransactionInfo) : Posting Qword Memo :=
  ⟨t.customerID, t.toTransaction.memo, t.toTransaction.entry⟩

abbrev CnpBank := JournalBank Qword Prim.CreateAccountRequest Memo

abbrev BankCommand := JournalBank.Command Qword Prim.CreateAccountRequest Memo

def journalBank (s : Server) : CnpBank :=
  ⟨s.accountData, s.transactionInfo.values.map TransactionInfo.posting⟩

theorem journalBank_congr {s s' : Server} (accounts : s'.accountData = s.accountData)
    (transactions : s'.transactionInfo = s.transactionInfo) : journalBank s' = journalBank s := by
  rw [journalBank, accounts, transactions]
  rfl

/-! ### Requests as commands -/

/-- The customer a session is logged on as. -/
def customerOf? (s : Server) (w : Word) : Option Qword :=
  ((s.sessionInfo.find? w).map SessionInfo.customerID).filter isValidCustomerID

def MoneyRequest.entry (m : MoneyRequest) : Entry :=
  if m.Pays then .debit m.amount.toNat else .credit m.amount.toNat

/-- What a request asks of the bank, when the session and the fields of the request let it
through. -/
def Request.command (s : Server) (qwNow : Qword) : Request → Option BankCommand
  | .createAccount m beyond =>
    if (s.sessionInfo.find? m.hdr.clientID).isSome ∧ isValidName (m.getFirstName beyond) ∧
        isValidPIN m.request.pin then
      some (.opening (m.customerID beyond) m.request)
    else none
  | .logon m beyond =>
    if (s.sessionInfo.find? m.hdr.clientID).isSome ∧ isValidName (m.getFirstName beyond) ∧
        isValidPIN m.request.pin then
      some (.visit (m.customerID beyond))
    else none
  | .balanceQuery m => (customerOf? s m.hdr.clientID).map .fundsOf
  | .transactionQuery m => (customerOf? s m.hdr.clientID).map fun q =>
      .statementOf q m.request.startID.toNat m.request.transactionCount.toNat
  | r => r.money?.bind fun m => (customerOf? s m.clientID).map fun q =>
      .post q (qwNow, m.transactionType.code) m.entry

def bankCommand (s : Server) : Op → Option BankCommand
  | .message _ qwNow r => r.command s qwNow
  | _ => none

/-- What the response on the wire says. -/
def Response.reply? (resp : Response) : Option (JournalBank.Reply Memo) :=
  if resp.getResponseResult = CerType.success.code then
    match resp with
    | .balanceQuery m => some (.funds m.response.balance.toNat)
    | .transactionQuery m => some (.statement (m.response.transactions.map Transaction.line))
    | _ => some .done
  else if resp.getResponseResult = CerType.accountExists.code then some .taken
  else if resp.getResponseResult = CerType.accountNotFound.code then some .unknown
  else if resp.getResponseResult = CerType.insufficientFunds.code then some .short
  else none

/-- What a response without data says. -/
def CerType.reply? : CerType → Option (JournalBank.Reply Memo)
  | .success => some .done
  | .accountExists => some .taken
  | .accountNotFound => some .unknown
  | .insufficientFunds => some .short
  | _ => none

theorem reply?_result (type : CnpMsgType) (cerRR : CerType) (w : Word)
    (dwSequence dwContext : Dword) :
    (Response.result (.init type cerRR.code w dwSequence dwContext)).reply? = cerRR.reply? := by
  cases cerRR <;> rfl

/-- The first response to an operation that asks something of the bank. -/
def bankReply (s : Server) (op : Op) : Option (JournalBank.Reply Memo) :=
  match op with
  | .message c qwNow r => (r.command s qwNow).bind fun _ =>
      (dispatch s c qwNow r).sent.head?.bind fun out => out.2.reply?
  | _ => none

theorem bankReply_of_no_command {s : Server} {op : Op} (none : bankCommand s op = none) :
    bankReply s op = Option.none := by
  cases op with
  | message c qwNow r =>
    have quiet : r.command s qwNow = Option.none := none
    rw [bankReply, quiet, Option.bind_none]
  | _ => rfl

/-- What the account of a deposit should have afterwards. -/
def depositSum? (s : Server) : Op → Option Nat
  | .message _ _ (.deposit m) => (customerOf? s m.hdr.clientID).bind fun q =>
      (s.accountInfo.find? q).map fun a => a.balance.toNat + m.request.amount.toNat
  | _ => none

/-- There is no ID left for another record, or a deposit exceeds the width of the balance. -/
def Overflows (s : Server) (op : Op) : Prop :=
  2 ^ 32 ≤ s.transactionInfo.size + 1 ∨ ∃ n ∈ depositSum? s op, 2 ^ 32 ≤ n

instance (s : Server) (op : Op) : Decidable (Overflows s op) :=
  inferInstanceAs (Decidable (_ ∨ _))

/-! ### What holds between the operations -/

/-- The balances are the funds of the bank, and everybody who is logged on can be answered. -/
structure Serving (s : Server) : Prop where
  references : References s
  dense : Dense s.transactionInfo
  attached : ∀ w i, s.sessionInfo.find? w = some i → i.socket.isSome = true
  balances : ∀ q a, s.accountInfo.find? q = some a →
    a.balance.toNat + Ledger.debits ((journalBank s).ledger q) =
      Ledger.credits ((journalBank s).ledger q)

theorem serving_empty : Serving .empty where
  references := references_empty
  dense := dense_empty
  attached _ _ found := by cases found
  balances _ _ found := by cases found

section Serving

variable {s : Server} (h : Serving s)
include h

theorem Serving.funds {q : Qword} {a : AccountInfo} (account : s.accountInfo.find? q = some a) :
    (journalBank s).funds q = a.balance.toNat := by
  rw [JournalBank.funds, ← h.balances q a account, Nat.add_sub_cancel]

theorem Serving.covered_iff (m : MoneyRequest) {q : Qword} {a : AccountInfo}
    (account : s.accountInfo.find? q = some a) :
    (journalBank s).Covered q m.entry ↔ m.Covered a := by
  by_cases pays : m.Pays
  · simp only [MoneyRequest.entry, JournalBank.Covered, h.funds account, MoneyRequest.Covered,
      pays, true_imp_iff]
    exact BitVec.le_def.symm
  · simp [MoneyRequest.entry, pays, JournalBank.Covered, MoneyRequest.Covered]

/-- A customer with a session has an account. -/
theorem Serving.found {w : Word} {q : Qword} (customer : customerOf? s w = some q) :
    ∃ itS itA, AccountFound s w itS itA ∧ itS.customerID = q ∧ itS.socket.isSome = true := by
  obtain ⟨mapped, valid⟩ := Option.filter_eq_some_iff.mp customer
  obtain ⟨itS, session, rfl⟩ := Option.map_eq_some_iff.mp mapped
  rcases h.references.sessionCustomer w itS session with none | known
  · simp [isValidCustomerID, none] at valid
  · obtain ⟨itA, account⟩ := Option.isSome_iff_exists.mp known
    exact ⟨itS, itA, ⟨session, valid, account⟩, rfl, h.attached w itS session⟩

end Serving

theorem AccountFound.customerOf? {s : Server} {w : Word} {itS : SessionInfo} {itA : AccountInfo}
    (found : AccountFound s w itS itA) : customerOf? s w = some itS.customerID := by
  rw [Cnp.customerOf?, found.session, Option.map_some, Option.filter_some, if_pos found.customer]

/-! ### The journal -/

/-- The number of a record in a dense table is its ID. -/
theorem Dense.zipIdx_values {t : TransactionMap} (dense : Dense t) :
    t.values.zipIdx 1 = t.entries.map fun e => (e.2, e.1.toNat) := by
  have length : t.values.length = t.size := List.length_map _
  rw [List.zipIdx_eq_zip_range', length, ← dense, OrderedMap.values, OrderedMap.keys,
    List.map_map, List.zip_map']
  rfl

/-- The page of a query is the statement of the bank. -/
theorem statement_eq {s : Server} (own : OwnKeys s) (dense : Dense s.transactionInfo) (q : Qword)
    (dwStart : Dword) (wCount : Word) :
    (journalBank s).statement q dwStart.toNat wCount.toNat =
      (collectTransactions q wCount 0 (s.transactionInfo.lowerBound dwStart)).2.map
        Transaction.line := by
  have numbered : (journalBank s).journal.zipIdx 1 =
      s.transactionInfo.entries.map fun e => (e.2.posting, e.1.toNat) := by
    rw [journalBank, List.zipIdx_map, dense.zipIdx_values, List.map_map]
    rfl
  rw [collectTransactions_page, JournalBank.statement, numbered, List.filter_map, ← List.map_take,
    List.map_map, List.map_map, Cursor.page, Cursor.rest, entriesOf, List.filter_filter]
  have same : (fun e : Dword × TransactionInfo => decide (dwStart ≤ e.1) && decide
      (e.2.customerID = q)) = (fun p : Posting Qword Memo × Nat =>
        decide (p.1.owner = q ∧ dwStart.toNat ≤ p.2)) ∘ fun e => (e.2.posting, e.1.toNat) := by
    funext e
    simp [TransactionInfo.posting, BitVec.le_def, Bool.and_comm]
  rw [same]
  apply List.map_congr_left
  intro e member
  have stored := (s.transactionInfo.find?_eq_some_iff _ _).mpr
    (List.mem_of_mem_filter (List.mem_of_mem_take member))
  -- every record is under its own ID
  have id : e.2.id = e.1 := own.transactions e.1 e.2 stored
  simp [Transaction.line, TransactionInfo.posting, id]

/-- Booked money is one posting. -/
theorem journalBank_book {s : Server} (dense : Dense s.transactionInfo)
    (room : s.transactionInfo.size + 1 < 2 ^ 32) (m : MoneyRequest) (now : Qword) (q : Qword) :
    journalBank (m.book s now q) = { journalBank s with
      journal := (journalBank s).journal ++ [⟨q, (now, m.transactionType.code), m.entry⟩] } := by
  have accounts : (m.book s now q).accountData = s.accountData :=
    accountData_modifyAccount s q m.update m.update_base
  have values : (m.book s now q).transactionInfo.values = s.transactionInfo.values ++
      [s.newTransaction now m.amount m.transactionType q] :=
    dense.values_recordTransaction room now m.amount m.transactionType q
  have posted : (s.newTransaction now m.amount m.transactionType q).posting =
      ⟨q, (now, m.transactionType.code), m.entry⟩ := by
    cases m <;> rfl
  rw [journalBank, accounts, values, List.map_append, List.map_singleton, posted]
  rfl

/-! ### One operation -/

/-- The operation does what its command says, and the tables go on serving. -/
structure Serves (s : Server) (op : Op) : Prop where
  serving : Serving (step s op)
  carriesOut : Run.CarriesOut step bankCommand bankReply journalBank JournalBank.exec
    JournalBank.reply s op

section Steps

variable {s : Server} (h : Serving s)
include h

/-- An operation that asks nothing of the bank. -/
theorem Serving.serves_quiet (op : Op) (none : bankCommand s op = none)
    (attached : ∀ w i, (step s op).sessionInfo.find? w = some i → i.socket.isSome = true)
    (accounts : (step s op).accountInfo = s.accountInfo)
    (transactions : (step s op).transactionInfo = s.transactionInfo) : Serves s op := by
  have bank : journalBank (step s op) = journalBank s :=
    journalBank_congr (by unfold Server.accountData; rw [accounts]) transactions
  exact {
    serving := {
      references := h.references.effect (step_effect s op)
      dense := transactions ▸ h.dense
      attached
      balances := fun q a found => by
        rw [bank]
        exact h.balances q a (accounts ▸ found) }
    carriesOut := .quiet none bank (bankReply_of_no_command none) }

theorem Serving.serves_idle (op : Op) (none : bankCommand s op = none) (idle : step s op = s) :
    Serves s op :=
  h.serves_quiet op none (by rw [idle]; exact h.attached) (by rw [idle]) (by rw [idle])

theorem Serving.attached_modifySession (w : Word) (f : SessionInfo → SessionInfo)
    (socket : ∀ i, (f i).socket = i.socket) (w' : Word) (i : SessionInfo)
    (found : (s.sessionInfo.modify w f).find? w' = some i) : i.socket.isSome = true := by
  obtain ⟨i', old, rfl⟩ := s.sessionInfo.find?_modify_eq_some found
  split
  · rw [socket]
    exact h.attached w' i' old
  · exact h.attached w' i' old

theorem Serving.serves_connect (c : Socket) (now : Qword) (m : ConnectRequest) :
    Serves s (.message c now (.connect m)) := by
  rcases processConnectRequest_cases s m c with ⟨_, _, _, _, server⟩ | ⟨_, server⟩
  · have stepped : step s (.message c now (.connect m)) = s.addSession c := server
    refine h.serves_quiet _ rfl (fun w i found => ?_) (by rw [stepped]; rfl)
      (by rw [stepped]; rfl)
    rw [stepped] at found
    rcases s.sessionInfo.find?_insert_cases found with old | ⟨rfl, rfl, _⟩
    · exact h.attached w i old
    · rfl
  · exact h.serves_idle _ rfl server

theorem Serving.serves_logoff (c : Socket) (now : Qword) (m : LogoffRequest) :
    Serves s (.message c now (.logoff m)) := by
  have stepped (f : SessionInfo → SessionInfo)
      (server : step s (.message c now (.logoff m)) = s.modifySession m.hdr.clientID f)
      (socket : ∀ i, (f i).socket = i.socket) :
      Serves s (.message c now (.logoff m)) :=
    h.serves_quiet _ rfl (by rw [server]; exact h.attached_modifySession _ f socket)
      (by rw [server]; rfl) (by rw [server]; rfl)
  rcases processLogoffRequest_cases s m with
    ⟨_, _, _, _, server⟩ | ⟨_, _, _, _, server⟩ | ⟨_, _, server⟩
  · exact stepped _ server fun _ => rfl
  · exact stepped _ server fun _ => rfl
  · exact h.serves_idle _ rfl server

theorem Serving.serves_disconnect (w : Word) : Serves s (.disconnect w) := by
  cases session : s.sessionInfo.find? w with
  | none =>
    exact h.serves_idle _ rfl (by simp only [step, processDisconnect, session])
  | some i =>
    have gone : step s (.disconnect w) = { s with sessionInfo := s.sessionInfo.erase w } := by
      simp only [step, processDisconnect, session]
    refine h.serves_quiet _ rfl (fun w' i' found => ?_) (by rw [gone]) (by rw [gone])
    rw [gone] at found
    exact h.attached w' i' (s.sessionInfo.find?_of_find?_erase found).2

theorem Serving.serves_restart (accounts : RecordImage AccountInfo)
    (transactions : RecordImage TransactionInfo) : Serves s (.restart accounts transactions) := by
  have stored : step s (.restart accounts transactions) =
      .boot s.accountInfo s.transactionInfo := restart_eq accounts transactions s h.references.own
  refine h.serves_quiet _ rfl (fun w i found => ?_) (by rw [stored]; rfl) (by rw [stored]; rfl)
  rw [stored] at found
  cases found

/-- A new account is an account of the bank with nothing posted. -/
theorem Serving.addAccount (w : Word) (base : Prim.CreateAccountRequest) (q : Qword)
    (unused : s.accountInfo.find? q = none) :
    journalBank (s.addAccount w base q) =
        { journalBank s with holder := Function.update (journalBank s).holder q (some base) } ∧
      Serving (s.addAccount w base q) := by
  have lookup (q' : Qword) : (s.addAccount w base q).accountInfo.find? q' =
      if q' = q then some ⟨base, q, 0⟩ else s.accountInfo.find? q' := by
    change (s.accountInfo.insert q ⟨base, q, 0⟩).find? q' = _
    rw [OrderedMap.find?_insert, unused, Option.getD_none]
  have opened : (s.addAccount w base q).accountData =
      Function.update s.accountData q (some base) := by
    funext q'
    rw [Server.accountData, lookup, Function.update_apply]
    split
    · rfl
    · rfl
  have bank : journalBank (s.addAccount w base q) =
      { journalBank s with holder := Function.update (journalBank s).holder q (some base) } := by
    rw [journalBank, opened]
    rfl
  refine ⟨bank, h.references.addAccount w base q, h.dense,
    h.attached_modifySession w (·.setState .accountCreated) fun _ => rfl, fun q' a found => ?_⟩
  have ledger : (journalBank (s.addAccount w base q)).ledger q' = (journalBank s).ledger q' := by
    rw [bank]
    rfl
  rw [lookup] at found
  rw [ledger]
  split at found
  next new =>
    -- nobody had posted for the new customer
    have unposted : (journalBank s).ledger q' = [] := by
      rw [new, JournalBank.ledger, List.map_eq_nil_iff, List.filter_eq_nil_iff]
      intro p posted owner
      obtain ⟨t, recorded, rfl⟩ := List.mem_map.mp posted
      obtain ⟨e, stored, rfl⟩ := List.mem_map.mp recorded
      have known := h.references.transactionCustomer e.1 e.2
        ((s.transactionInfo.find?_eq_some_iff _ _).mpr stored)
      rw [show e.2.customerID = q from of_decide_eq_true owner, unused] at known
      cases known
    cases found
    rw [unposted]
    rfl
  · exact h.balances q' a found

theorem Serving.serves_createAccount (c : Socket) (now : Qword) (m : CreateAccountRequest)
    (beyond : List Byte) : Serves s (.message c now (.createAccount m beyond)) := by
  cases session : s.sessionInfo.find? m.hdr.clientID with
  | none =>
    exact h.serves_idle _ (by simp [bankCommand, Request.command, session])
      (by simp [step, dispatch, processCreateAccountRequest, session])
  | some itS =>
    obtain ⟨pSocket, socket⟩ := Option.isSome_iff_exists.mp (h.attached _ itS session)
    by_cases valid : isValidName (m.getFirstName beyond) ∧ isValidPIN m.request.pin
    · have command : bankCommand s (.message c now (.createAccount m beyond)) =
          some (.opening (m.customerID beyond) m.request) := by
        simp [bankCommand, Request.command, session, valid]
      -- the bank has the customer exactly if the account table has
      have holder : (journalBank s).holder (m.customerID beyond) =
          (s.accountInfo.find? (m.customerID beyond)).map (·.toCreateAccountRequest) := rfl
      cases account : s.accountInfo.find? (m.customerID beyond) with
      | none =>
        have created : step s (.message c now (.createAccount m beyond)) =
            s.addAccount m.hdr.clientID m.request (m.customerID beyond) := by
          simp [step, dispatch, processCreateAccountRequest, session, valid, account]
        obtain ⟨bank, serving⟩ := h.addAccount m.hdr.clientID m.request _ account
        refine ⟨created ▸ serving, .acts command ?_ ?_⟩
        · rw [created, bank, JournalBank.exec, holder, account]
          rfl
        · rw [JournalBank.reply, holder, account]
          simp [bankReply, Request.command, session, valid, dispatch, processCreateAccountRequest,
            account, socket, send, CreateAccountResponse.init, reply?_result, CerType.reply?]
      | some itA =>
        have idle : step s (.message c now (.createAccount m beyond)) = s := by
          simp [step, dispatch, processCreateAccountRequest, session, valid, account]
        refine ⟨by rw [idle]; exact h, .acts command ?_ ?_⟩
        · rw [idle, JournalBank.exec, holder, account]
          rfl
        · rw [JournalBank.reply, holder, account]
          simp [bankReply, Request.command, session, valid, dispatch, processCreateAccountRequest,
            account, socket, send, CreateAccountResponse.init, reply?_result, CerType.reply?]
    · exact h.serves_idle _ (by simp [bankCommand, Request.command, valid])
        (by simp [step, dispatch, processCreateAccountRequest, session, valid])

theorem Serving.serves_logon (c : Socket) (now : Qword) (m : LogonRequest) (beyond : List Byte) :
    Serves s (.message c now (.logon m beyond)) := by
  cases session : s.sessionInfo.find? m.hdr.clientID with
  | none =>
    exact h.serves_idle _ (by simp [bankCommand, Request.command, session])
      (by simp [step, dispatch, processLogonRequest, session])
  | some itS =>
    obtain ⟨pSocket, socket⟩ := Option.isSome_iff_exists.mp (h.attached _ itS session)
    by_cases valid : isValidName (m.getFirstName beyond) ∧ isValidPIN m.request.pin
    · have command : bankCommand s (.message c now (.logon m beyond)) =
          some (.visit (m.customerID beyond)) := by
        simp [bankCommand, Request.command, session, valid]
      have holder : (journalBank s).holder (m.customerID beyond) =
          (s.accountInfo.find? (m.customerID beyond)).map (·.toCreateAccountRequest) := rfl
      cases account : s.accountInfo.find? (m.customerID beyond) with
      | none =>
        have idle : step s (.message c now (.logon m beyond)) = s := by
          simp [step, dispatch, processLogonRequest, session, valid, account]
        refine ⟨by rw [idle]; exact h, .acts command (by rw [idle]; rfl) ?_⟩
        rw [JournalBank.reply, holder, account]
        simp [bankReply, Request.command, session, valid, dispatch, processLogonRequest,
          account, socket, send, LogonResponse.init, reply?_result, CerType.reply?]
      | some itA =>
        have loggedOn : step s (.message c now (.logon m beyond)) =
            s.modifySession m.hdr.clientID
              fun i => (i.setCustomerID (m.customerID beyond)).setState .loggedOn := by
          simp [step, dispatch, processLogonRequest, session, valid, account]
        have bank : journalBank (step s (.message c now (.logon m beyond))) = journalBank s := by
          rw [loggedOn]
          exact journalBank_congr rfl rfl
        refine ⟨⟨h.references.effect (step_effect s _), by rw [loggedOn]; exact h.dense, ?_, ?_⟩,
          .acts command bank ?_⟩
        · rw [loggedOn]
          exact h.attached_modifySession _ _ fun _ => rfl
        · rw [bank, loggedOn]
          exact h.balances
        · rw [JournalBank.reply, holder, account]
          simp [bankReply, Request.command, session, valid, dispatch, processLogonRequest,
            account, socket, send, LogonResponse.init, reply?_result, CerType.reply?]
    · exact h.serves_idle _ (by simp [bankCommand, Request.command, valid])
        (by simp [step, dispatch, processLogonRequest, session, valid])

/-- Without a customer a request on an account does nothing. -/
theorem Serving.serves_nobody (c : Socket) (now : Qword) (r : Request) (onAccount : r.OnAccount)
    (nobody : customerOf? s r.hdr.clientID = none) : Serves s (.message c now r) := by
  have command : bankCommand s (.message c now r) = none := by
    cases r with
    | connect m => exact onAccount.elim
    | createAccount m beyond => exact onAccount.elim
    | logon m beyond => exact onAccount.elim
    | logoff m => exact onAccount.elim
    | balanceQuery m => exact congrArg (Option.map _) nobody
    | transactionQuery m => exact congrArg (Option.map _) nobody
    | deposit m => exact congrArg (Option.map _) nobody
    | withdrawal m => exact congrArg (Option.map _) nobody
    | stampPurchase m => exact congrArg (Option.map _) nobody
  rcases dispatch_onAccount s c now r onAccount with ⟨_, itS, itA, _, found, _⟩ | server
  · cases nobody.symm.trans found.customerOf?
  · exact h.serves_idle _ command server

/-- A balance update that is covered and does not wrap follows the ledger. -/
theorem Serving.balance_update (m : MoneyRequest) {q : Qword} {a : AccountInfo}
    (account : s.accountInfo.find? q = some a) (covered : m.Covered a)
    (exact_ : ¬ m.Pays → a.balance.toNat + m.amount.toNat < 2 ^ 32) :
    (m.update a).balance.toNat +
        Ledger.debits ((journalBank s).ledger q ++ [m.entry]) =
      Ledger.credits ((journalBank s).ledger q ++ [m.entry]) := by
  have before := h.balances q a account
  rw [Ledger.debits_append, Ledger.credits_append]
  by_cases pays : m.Pays
  · have enough := covered pays
    have paid : (m.update a).balance = a.balance - m.amount := by
      cases m with
      | deposit m => exact pays.elim
      | withdrawal m => rfl
      | stampPurchase m => rfl
    rw [MoneyRequest.entry, if_pos pays, paid, BitVec.toNat_sub_of_le enough]
    rw [BitVec.le_def] at enough
    simp only [Ledger.debits, Ledger.credits]
    omega
  · have fits := exact_ pays
    have paid : (m.update a).balance = a.balance + m.amount := by
      cases m with
      | deposit m => rfl
      | withdrawal m => exact absurd trivial pays
      | stampPurchase m => exact absurd trivial pays
    rw [MoneyRequest.entry, if_neg pays, paid, BitVec.toNat_add, Nat.mod_eq_of_lt fits]
    simp only [Ledger.debits, Ledger.credits]
    omega

theorem Serving.book (m : MoneyRequest) (now : Qword) {q : Qword} {a : AccountInfo}
    (room : s.transactionInfo.size + 1 < 2 ^ 32) (account : s.accountInfo.find? q = some a)
    (covered : m.Covered a)
    (exact_ : ¬ m.Pays → a.balance.toNat + m.amount.toNat < 2 ^ 32) :
    Serving (m.book s now q) where
  references := h.references.move q a account m.update m.update_customerID now m.amount
    m.transactionType
  dense := Dense.recordTransaction (s := s.modifyAccount q m.update) h.dense room _ _ _ _
  attached := h.attached
  balances q' a' found := by
    rw [journalBank_book h.dense room, JournalBank.ledger_post]
    rw [MoneyRequest.book_accountInfo, OrderedMap.find?_modify, account, Option.map_some] at found
    split at found
    next same =>
      cases found
      rw [if_pos same, same]
      exact h.balance_update m account covered exact_
    next other =>
      rw [if_neg other]
      exact h.balances q' a' found

theorem Serving.serves_money (c : Socket) (now : Qword) (m : MoneyRequest) {q : Qword}
    (customer : customerOf? s m.clientID = some q)
    (fits : ¬ Overflows s (.message c now m.toRequest)) :
    Serves s (.message c now m.toRequest) := by
  obtain ⟨itS, itA, found, rfl, attached⟩ := h.found customer
  obtain ⟨pSocket, socket⟩ := Option.isSome_iff_exists.mp attached
  have onAccount : m.toRequest.OnAccount := by cases m <;> trivial
  have money : m.toRequest.money? = some m := by cases m <;> rfl
  have outcome := dispatch_found c now m.toRequest onAccount found
  have holder : (journalBank s).holder itS.customerID = some itA.toCreateAccountRequest := by
    simp [journalBank, Server.accountData, found.account]
  have command : m.toRequest.command s now =
      some (.post itS.customerID (now, m.transactionType.code) m.entry) := by
    cases m <;> exact congrArg (Option.map _) customer
  have answered : bankReply s (.message c now m.toRequest) =
      (m.toRequest.codeOn itA).reply? := by
    simp only [bankReply, command, outcome, socket, send, Option.bind_some, Option.toList_some,
      List.map_cons, List.map_nil, List.head?_cons]
    cases m <;> exact reply?_result ..
  by_cases covered : m.Covered itA
  · have stepped : step s (.message c now m.toRequest) = m.book s now itS.customerID := by
      rw [step, outcome, Request.bookOn, money]
      exact if_pos covered
    have allowed := (h.covered_iff m found.account).mpr covered
    have room : s.transactionInfo.size + 1 < 2 ^ 32 :=
      not_le.mp fun full => fits (Or.inl full)
    have exact_ (deposit : ¬ m.Pays) : itA.balance.toNat + m.amount.toNat < 2 ^ 32 := by
      refine not_le.mp fun wraps => fits (Or.inr ?_)
      cases m with
      | deposit m =>
        have sum : depositSum? s (.message c now (.deposit m)) =
            some (itA.balance.toNat + m.request.amount.toNat) := by
          have customer : customerOf? s m.hdr.clientID = some itS.customerID := customer
          rw [depositSum?, customer, Option.bind_some, found.account, Option.map_some]
        exact ⟨_, sum, wraps⟩
      | withdrawal m => exact absurd trivial deposit
      | stampPurchase m => exact absurd trivial deposit
    refine ⟨stepped ▸ h.book m now room found.account covered exact_, .acts command ?_ ?_⟩
    · rw [stepped, journalBank_book h.dense room, JournalBank.exec,
        if_pos ⟨by rw [holder, Option.isSome_some], allowed⟩]
    · rw [answered, Request.codeOn, money, JournalBank.reply, holder, Option.isSome_some,
        if_pos rfl, if_pos allowed]
      exact congrArg CerType.reply? (if_pos covered)
  · have stepped : step s (.message c now m.toRequest) = s := by
      rw [step, outcome, Request.bookOn, money]
      exact if_neg covered
    have refused := mt (h.covered_iff m found.account).mp covered
    refine ⟨by rw [stepped]; exact h, .acts command ?_ ?_⟩
    · rw [stepped, JournalBank.exec, if_neg fun both => refused both.2]
    · rw [answered, Request.codeOn, money, JournalBank.reply, holder, Option.isSome_some,
        if_pos rfl, if_neg refused]
      exact congrArg CerType.reply? (if_neg covered)

theorem Serving.serves_balanceQuery (c : Socket) (now : Qword) (m : BalanceQueryRequest)
    {q : Qword} (customer : customerOf? s m.hdr.clientID = some q) :
    Serves s (.message c now (.balanceQuery m)) := by
  obtain ⟨itS, itA, found, rfl, attached⟩ := h.found customer
  obtain ⟨pSocket, socket⟩ := Option.isSome_iff_exists.mp attached
  have outcome := dispatch_found c now (.balanceQuery m) trivial found
  have stepped : step s (.message c now (.balanceQuery m)) = s := by rw [step, outcome]; rfl
  have command : (Request.balanceQuery m).command s now = some (.fundsOf itS.customerID) :=
    congrArg (Option.map _) customer
  refine ⟨by rw [stepped]; exact h, .acts command (by rw [stepped]; rfl) ?_⟩
  have holder : (journalBank s).holder itS.customerID = some itA.toCreateAccountRequest := by
    simp [journalBank, Server.accountData, found.account]
  rw [JournalBank.reply, holder, Option.isSome_some, if_pos rfl, h.funds found.account]
  simp only [bankReply, command, outcome, socket]
  rfl

theorem Serving.serves_transactionQuery (c : Socket) (now : Qword) (m : TransactionQueryRequest)
    {q : Qword} (customer : customerOf? s m.hdr.clientID = some q) :
    Serves s (.message c now (.transactionQuery m)) := by
  obtain ⟨itS, itA, found, rfl, attached⟩ := h.found customer
  obtain ⟨pSocket, socket⟩ := Option.isSome_iff_exists.mp attached
  have outcome := dispatch_found c now (.transactionQuery m) trivial found
  have stepped : step s (.message c now (.transactionQuery m)) = s := by rw [step, outcome]; rfl
  have command : (Request.transactionQuery m).command s now = some (.statementOf itS.customerID
      m.request.startID.toNat m.request.transactionCount.toNat) :=
    congrArg (Option.map _) customer
  refine ⟨by rw [stepped]; exact h, .acts command (by rw [stepped]; rfl) ?_⟩
  have holder : (journalBank s).holder itS.customerID = some itA.toCreateAccountRequest := by
    simp [journalBank, Server.accountData, found.account]
  rw [JournalBank.reply, holder, Option.isSome_some, if_pos rfl,
    statement_eq h.references.own h.dense]
  simp only [bankReply, command, outcome, socket]
  rfl

end Steps

theorem Serving.serves {s : Server} (h : Serving s) (op : Op) (fits : ¬ Overflows s op) :
    Serves s op := by
  cases op with
  | disconnect w => exact h.serves_disconnect w
  | restart accounts transactions => exact h.serves_restart accounts transactions
  | message c now r =>
    -- a request on an account needs a customer first
    have customer (onAccount : r.OnAccount)
        (some : ∀ q, customerOf? s r.hdr.clientID = some q → Serves s (.message c now r)) :
        Serves s (.message c now r) := by
      cases found : customerOf? s r.hdr.clientID with
      | none => exact h.serves_nobody c now r onAccount found
      | some q => exact some q found
    cases r with
    | connect m => exact h.serves_connect c now m
    | createAccount m beyond => exact h.serves_createAccount c now m beyond
    | logon m beyond => exact h.serves_logon c now m beyond
    | logoff m => exact h.serves_logoff c now m
    | deposit m =>
      exact customer trivial fun q found => h.serves_money c now (.deposit m) found fits
    | withdrawal m =>
      exact customer trivial fun q found => h.serves_money c now (.withdrawal m) found fits
    | stampPurchase m =>
      exact customer trivial fun q found => h.serves_money c now (.stampPurchase m) found fits
    | balanceQuery m =>
      exact customer trivial fun q found => h.serves_balanceQuery c now m found
    | transactionQuery m =>
      exact customer trivial fun q found => h.serves_transactionQuery c now m found

/-! ### Whole runs -/

/-- In every run in which no ID and no balance overflows, the server is a bank with a journal:
the requests that get through are its commands, the responses are its replies, and the tables
show the bank that has carried out all of them. -/
theorem serves_as_bank (ops : List Op) (fits : Run.Avoids step Overflows .empty ops) :
    let commands := Run.commands step bankCommand .empty ops
    journalBank (run .empty ops) = Run.run JournalBank.exec .empty commands ∧
      Run.commands step bankReply .empty ops =
        Run.outputs JournalBank.exec JournalBank.reply .empty commands ∧
      ∀ q a, (run .empty ops).accountInfo.find? q = some a →
        a.balance.toNat = (Run.run JournalBank.exec .empty commands).funds q := by
  intro commands
  obtain ⟨bank, replies⟩ := Run.carriesOut_run Serving Overflows
    (fun s op good h => (h.serves op good).serving)
    (fun s op good h => (h.serves op good).carriesOut) .empty serving_empty ops fits
  refine ⟨bank, replies, fun q a account => ?_⟩
  have serving : Serving (run .empty ops) :=
    Run.avoids_invariant Serving .empty serving_empty
      (fun s op good h => (h.serves op good).serving) ops fits
  have funds := serving.funds account
  rw [← funds]
  exact congrArg (JournalBank.funds · q) bank

/-- Anna pays in 500, draws 900 in vain and looks at her account. -/
theorem serves_as_bank_anna :
    let ops := Client.firstVisit 7 [65, 110, 110, 97] 4711 500 ++
      [Client.sendWithdrawal 7 4 1 900, .message 7 0 (.balanceQuery (.init 5 1 0))]
    let commands := Run.commands step bankCommand .empty ops
    Run.commands step bankReply .empty ops = [.done, .done, .done, .short, .funds 500] ∧
      Run.commands step bankReply .empty ops =
        Run.outputs JournalBank.exec JournalBank.reply .empty commands := by
  intro ops commands
  exact ⟨by decide +kernel, (serves_as_bank ops (by decide +kernel)).2.1⟩

end Cnp
