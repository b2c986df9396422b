import CnpProtocol.Client.Conversation
import CnpProtocol.Library.Cursor
import CnpProtocol.Properties.AccountRequests
import CnpProtocol.Properties.Bookkeeping

/-!
# Complete histories

The start ID of `SendTransaction` is a cursor into the transactions of its customer, which
the table lists by increasing ID and extends at the end. So what the loop prints is the
part before the cursor, and a page that is not full ends it with everything.
-/

namespace Cnp

/-! ### The table as a sorted list -/

/-- The entries of a customer in the transaction table. -/
def entriesOf (s : Server) (q : Qword) : List (Dword × TransactionInfo) :=
  s.transactionInfo.entries.filter fun e => e.2.customerID = q

theorem transactionsOf_eq (s : Server) (q : Qword) :
    transactionsOf s q = (entriesOf s q).map Prod.snd := by
  rw [transactionsOf, OrderedMap.values, List.filter_map]
  rfl

theorem entriesOf_sorted (s : Server) (q : Qword) : Cursor.Sorted Prod.fst (entriesOf s q) :=
  s.transactionInfo.sorted.filter _

/-- A page of the server is a page of the sorted list. -/
theorem collectTransactions_page (s : Server) (q : Qword) (wCount : Word) (dwStart : Dword) :
    collectTransactions q wCount 0 (s.transactionInfo.lowerBound dwStart) =
      (BitVec.ofNat 16 (Cursor.page Prod.fst wCount.toNat dwStart (entriesOf s q)).length,
        (Cursor.page Prod.fst wCount.toNat dwStart (entriesOf s q)).map
          fun e => e.2.toTransaction) := by
  have rest : (s.transactionInfo.lowerBound dwStart).filter (fun e => e.2.customerID = q) =
      Cursor.rest Prod.fst dwStart (entriesOf s q) := by
    rw [OrderedMap.lowerBound_eq_filter, Cursor.rest, entriesOf, List.filter_filter,
      List.filter_filter]
    simp only [Bool.and_comm]
  rw [collectTransactions_eq q wCount 0 (by bv_omega), rest]
  simp [Cursor.page]

/-! ### One query -/

/-- The client's own session. -/
structure LoggedOnAt (s : Server) (c : Socket) (w : Word) (q : Qword) : Prop where
  session : ∃ i, s.sessionInfo.find? w = some i ∧ i.socket = some c ∧
    isValidCustomerID i.customerID = true ∧ i.customerID = q

/-- What a logged-on client is sent for a query. -/
theorem dispatch_query (s : Server) (references : References s) (c : Socket) (now : Qword)
    (w : Word) (q : Qword) (loggedOn : LoggedOnAt s c w q) (dwSequence dwStart : Dword) :
    let o := dispatch s c now (Call.sendTransaction.request dwSequence w dwStart)
    let page := Cursor.page Prod.fst wTransCnt.toNat dwStart (entriesOf s q)
    o.server = s ∧ ∃ m : TransactionQueryResponse, o.sent = [(c, .transactionQuery m)] ∧
      m.response.result = CerType.success.code ∧
      m.response.transactionCount = BitVec.ofNat 16 page.length ∧
      m.response.transactions = page.map fun e => e.2.toTransaction := by
  intro o page
  obtain ⟨i, session, socket, valid, rfl⟩ := loggedOn.session
  have account : (s.accountInfo.find? i.customerID).isSome = true := by
    rcases references.sessionCustomer w i session with nobody | account
    · rw [nobody] at valid
      cases valid
    · exact account
  obtain ⟨a, account⟩ := Option.isSome_iff_exists.mp account
  have found : AccountFound s w i a := ⟨session, valid, account⟩
  have outcome : o = _ := dispatch_found c now
    (.transactionQuery (.init dwSequence w dwStart wTransCnt 0)) trivial found
  rw [outcome, socket]
  refine ⟨rfl, _, rfl, rfl, ?_, ?_⟩
  · exact congrArg Prod.fst (collectTransactions_page s i.customerID wTransCnt dwStart)
  · exact congrArg Prod.snd (collectTransactions_page s i.customerID wTransCnt dwStart)

/-! ### Between the queries -/

theorem LoggedOnAt.modifySession {s : Server} {c : Socket} {w : Word} {q : Qword}
    (h : LoggedOnAt s c w q) (w' : Word) (f : SessionInfo → SessionInfo)
    (keeps : w' = w → ∀ i, (f i).socket = i.socket ∧ (f i).customerID = i.customerID) :
    LoggedOnAt (s.modifySession w' f) c w q := by
  obtain ⟨i, session, socket, valid, own⟩ := h.session
  constructor
  rw [Server.modifySession_sessionInfo, OrderedMap.find?_modify]
  split
  next same =>
    obtain ⟨sameSocket, sameCustomer⟩ := keeps same.symm i
    rw [← same, session]
    exact ⟨f i, rfl, sameSocket.trans socket, sameCustomer ▸ valid, sameCustomer.trans own⟩
  · exact ⟨i, session, socket, valid, own⟩

theorem LoggedOnAt.step {s : Server} {c : Socket} {w : Word} {q : Qword}
    (h : LoggedOnAt s c w q) (op : Op) (leaves : op.Leaves w) : LoggedOnAt (step s op) c w q := by
  have effect := step_effect s op
  generalize Cnp.step s op = s' at effect
  obtain ⟨i, session, rest⟩ := h.session
  cases effect with
  | idle => exact h
  | connected =>
    -- the session is there, so the insertion keeps it
    exact ⟨i, s.sessionInfo.find?_insert_of_find? _ _ session, rest⟩
  | created _ _ m beyond =>
    have added (accounts : AccountMap) : LoggedOnAt { s with accountInfo := accounts } c w q :=
      ⟨h.session⟩
    exact (added _).modifySession _ (·.setState .accountCreated) fun _ _ => ⟨rfl, rfl⟩
  | loggedOn _ _ m => exact h.modifySession _ _ fun same => absurd same leaves
  | loggedOff _ _ m => exact h.modifySession _ _ fun same => absurd same leaves
  | notLoggedOff _ _ m => exact h.modifySession _ _ fun same => absurd same leaves
  | paidIn => exact ⟨i, session, rest⟩
  | paidOut _ _ _ _ _ _ itA _ covered =>
    simp only [payOut, if_pos covered]
    exact ⟨i, session, rest⟩
  | disconnected w' =>
    have other : w ≠ w' := Ne.symm leaves
    refine ⟨i, ?_, rest⟩
    rw [OrderedMap.find?_erase, if_neg other]
    exact session
  | restarted => exact leaves.elim

/-- New records are behind all others. -/
theorem Effect.entries_append {s s' : Server} {op : Op} (own : OwnKeys s)
    (dense : Dense s.transactionInfo) (room : s.transactionInfo.size + 1 < 2 ^ 32)
    (e : Effect s op s') :
    ∃ new, s'.transactionInfo.entries = s.transactionInfo.entries ++ new ∧
      ∀ e ∈ new, s.transactionInfo.size < e.1.toNat := by
  have recorded (s₂ : Server) (same : s₂.transactionInfo = s.transactionInfo) (now : Qword)
      (amount : Dword) (type : TransactionType) (q : Qword) :
      ∃ new, (s₂.recordTransaction now amount type q).transactionInfo.entries =
          s.transactionInfo.entries ++ new ∧
        ∀ e ∈ new, s.transactionInfo.size < e.1.toNat := by
    rw [← same] at dense room ⊢
    refine ⟨_, dense.entries_recordTransaction room now amount type q, fun e member => ?_⟩
    rw [List.mem_singleton.mp member, BitVec.toNat_ofNat, Nat.mod_eq_of_lt room]
    exact Nat.lt_succ_self _
  have unchanged : ∃ new, s.transactionInfo.entries = s.transactionInfo.entries ++ new ∧
      ∀ e ∈ new, s.transactionInfo.size < e.1.toNat := ⟨[], by simp, by simp⟩
  cases e with
  | paidIn _ now amount q itA _ => exact recorded (s.modifyAccount q (·.incrBalance amount)) rfl ..
  | paidOut _ now amount type _ q itA _ covered =>
    simp only [payOut, if_pos covered]
    exact recorded (s.modifyAccount q (·.decrBalance amount)) rfl ..
  | restarted accounts transactions =>
    rw [restart_eq accounts transactions s own]
    exact unchanged
  | _ => exact unchanged

theorem Effect.entriesOf_append {s s' : Server} {op : Op} (own : OwnKeys s)
    (dense : Dense s.transactionInfo) (room : s.transactionInfo.size + 1 < 2 ^ 32)
    (e : Effect s op s') (q : Qword) :
    ∃ new, entriesOf s' q = entriesOf s q ++ new ∧
      ∀ e ∈ new, s.transactionInfo.size < e.1.toNat := by
  obtain ⟨new, entries, behind⟩ := e.entries_append own dense room
  refine ⟨new.filter fun e => e.2.customerID = q, ?_, fun e member => ?_⟩
  · rw [entriesOf, entries, List.filter_append]
    rfl
  · exact behind e (List.mem_of_mem_filter member)

/-! ### The loop -/

/-- The customer's transactions as the protocol shows them, by increasing ID. -/
def historyOf (s : Server) (q : Qword) : List Transaction :=
  (transactionsOf s q).map (·.toTransaction)

/-- The records the pages before a start ID hold. -/
def historyBefore (s : Server) (q : Qword) (dwStartID : Dword) : List Transaction :=
  (Cursor.before Prod.fst dwStartID (entriesOf s q)).map fun e => e.2.toTransaction

theorem historyOf_eq (s : Server) (q : Qword) :
    historyOf s q = (entriesOf s q).map fun e => e.2.toTransaction := by
  rw [historyOf, transactionsOf_eq, List.map_map]
  rfl

theorem historyBefore_initial (s : Server) (q : Qword) (dwStartID : Dword) :
    historyBefore s q dwStartID <+: historyOf s q := by
  rw [historyOf_eq]
  exact (Cursor.before_initial (entriesOf_sorted s q) dwStartID).map _

/-- The loop is running and has printed what is before its start ID. -/
structure Reading (c : Socket) (w : Word) (q : Qword) (v : Conversation) : Prop where
  books : Books v.server
  loggedOn : LoggedOnAt v.server c w q
  clientID : v.program.wClientID = w
  running : v.cerResult = none
  start : v.program.dwStartID.toNat ≤ v.server.transactionInfo.size + 1
  printed : v.printed = historyBefore v.server q v.program.dwStartID

section Loop

variable {c : Socket} {w : Word} {q : Qword} {v : Conversation}

/-- The next page is printed; if it is full, the loop goes on behind its last entry. -/
theorem Reading.turn (h : Reading c w q v) (beyond : List Byte) (now : Qword) :
    let v' := conversationStep beyond c v (.query now)
    let page := Cursor.page Prod.fst wTransCnt.toNat v.program.dwStartID (entriesOf v.server q)
    v'.server = v.server ∧ v'.printed = v.printed ++ page.map (fun e => e.2.toTransaction) ∧
      v'.program.wClientID = w ∧
      (page.length < wTransCnt.toNat → v'.cerResult = some CerType.success.code) ∧
      ∀ front last, page = front ++ [last] → page.length = wTransCnt.toNat →
        v'.cerResult = none ∧ v'.program.dwStartID = last.1 + 1 := by
  intro v' page
  obtain ⟨server, m, sent, result, count, records⟩ := dispatch_query v.server h.books.references c
    now w q h.loggedOn v.program.dwSequenceNumber v.program.dwStartID
  have length : m.response.transactions.length = page.length := by rw [records, List.length_map]
  have isPage : IsPage m := by
    refine ⟨result, by rw [count, length], ?_⟩
    rw [length]
    exact List.length_take_le _ _
  obtain ⟨n, stepped⟩ := conversationStep_query beyond c v now (.transactionQuery m) h.running
    (by rw [h.clientID, sent]; simp [responseTo])
  obtain ⟨shown, client, ends, continues⟩ := isPage.exchange beyond n v.program
  rw [h.clientID, server] at stepped
  generalize Call.sendTransaction.exchange beyond ⟨false, .answer ⟨n, .transactionQuery m⟩⟩
    v.program = turn at *
  have here : v' = ⟨v.server, turn.program, v.printed ++ turn.printed, turn.cerResult⟩ := stepped
  rw [here]
  refine ⟨rfl, by rw [shown, records], client.trans h.clientID, fun short => ends (length ▸ short),
    fun front last split full => ?_⟩
  -- every entry of the table is under its own ID
  have member : last ∈ v.server.transactionInfo.entries := by
    have inPage : last ∈ page := by simp [split]
    exact List.mem_of_mem_filter (Cursor.mem_of_mem_page inPage)
  have id : last.2.toTransaction.id = last.1 := h.books.references.own.transactions last.1 last.2
    ((v.server.transactionInfo.find?_eq_some_iff _ _).mpr member)
  obtain ⟨goes, next⟩ := continues (front.map fun e => e.2.toTransaction) last.2.toTransaction
    (by rw [records]; exact (congrArg _ split).trans List.map_append) (length.trans full)
  exact ⟨goes, by rw [next, id]⟩

/-- A query that is not answered by a full page ends the loop with everything printed. -/
theorem Reading.query (h : Reading c w q v) (few : v.server.transactionInfo.size < 2 ^ 32 - 1)
    (beyond : List Byte) (now : Qword) :
    let v' := conversationStep beyond c v (.query now)
    v'.server = v.server ∧
      ((v'.cerResult = some CerType.success.code ∧ v'.printed = historyOf v.server q) ∨
        (Reading c w q v' ∧ v'.printed.length = v.printed.length + wTransCnt.toNat)) := by
  intro v'
  obtain ⟨server, printed, client, ends, continues⟩ := h.turn beyond now
  have sorted := entriesOf_sorted v.server q
  have fits := List.length_take_le wTransCnt.toNat
    (Cursor.rest Prod.fst v.program.dwStartID (entriesOf v.server q))
  generalize page_eq : Cursor.page Prod.fst wTransCnt.toNat v.program.dwStartID
    (entriesOf v.server q) = page at printed ends continues
  rw [← Cursor.page, page_eq] at fits
  refine ⟨server, ?_⟩
  by_cases short : page.length < wTransCnt.toNat
  · -- the page is not full
    have all := Cursor.before_append_page_short sorted wTransCnt.toNat v.program.dwStartID
      (page_eq ▸ short)
    rw [page_eq] at all
    refine Or.inl ⟨ends short, ?_⟩
    calc v'.printed
        = historyBefore v.server q v.program.dwStartID ++
            page.map (fun e => e.2.toTransaction) := by rw [printed, h.printed]
      _ = (Cursor.before Prod.fst v.program.dwStartID (entriesOf v.server q) ++ page).map
            (fun e => e.2.toTransaction) := by rw [historyBefore, List.map_append]
      _ = historyOf v.server q := by rw [all, historyOf_eq]
  · -- the next query starts behind the last record of the page
    have full : page.length = wTransCnt.toNat := by omega
    obtain ⟨front, last, split⟩ : ∃ front last, page = front ++ [last] := by
      rcases List.eq_nil_or_concat page with rfl | ⟨front, last, split⟩
      · cases full
      · exact ⟨front, last, by rw [split, List.concat_eq_append]⟩
    have member : last ∈ v.server.transactionInfo.entries := by
      have inPage : last ∈ page := by simp [split]
      rw [← page_eq] at inPage
      exact List.mem_of_mem_filter (Cursor.mem_of_mem_page inPage)
    have bound := h.books.dense.key_mem_range last member
    obtain ⟨goes, next⟩ := continues front last split full
    have behind : ∀ k : Dword, k < v'.program.dwStartID ↔ k ≤ last.1 := by
      intro k
      rw [next]
      bv_omega
    have read := Cursor.before_next sorted wTransCnt.toNat v.program.dwStartID
      v'.program.dwStartID front last (page_eq.trans split) behind
    refine Or.inr ⟨⟨server ▸ h.books, server ▸ h.loggedOn, client, goes, ?_, ?_⟩, ?_⟩
    · rw [server, next]
      bv_omega
    · rw [server, historyBefore, read, page_eq, List.map_append, printed, h.printed]
      rfl
    · rw [printed, List.length_append, List.length_map, full]

theorem Reading.other (h : Reading c w q v) (op : Op) (leaves : op.Leaves w)
    (few : (step v.server op).transactionInfo.size < 2 ^ 32 - 1) :
    Reading c w q { v with server := step v.server op } := by
  have effect := step_effect v.server op
  have grows := effect.size_le h.books.references.own
  obtain ⟨new, entries, behind⟩ :=
    effect.entriesOf_append h.books.references.own h.books.dense (by omega) q
  refine ⟨h.books.effect (by omega) effect, h.loggedOn.step op leaves, h.clientID, h.running,
    ?_, ?_⟩
  · exact Nat.le_trans h.start (Nat.succ_le_succ grows)
  · have start := h.start
    rw [h.printed, historyBefore, historyBefore]
    change _ = (Cursor.before Prod.fst v.program.dwStartID (entriesOf (step v.server op) q)).map _
    rw [entries, Cursor.before_append _ _ fun e member => ?_]
    -- new IDs are above the size of the table
    have above := behind e member
    rw [BitVec.le_def]
    omega

/-- The loop is running, or it has ended with a part of the history printed. -/
structure Reads (c : Socket) (w : Word) (q : Qword) (v : Conversation) : Prop where
  books : Books v.server
  state : Reading c w q v ∨
    (v.cerResult = some CerType.success.code ∧ v.printed <+: historyOf v.server q)

theorem Reads.initial (h : Reads c w q v) : v.printed <+: historyOf v.server q := by
  rcases h.state with reading | ⟨_, part⟩
  · rw [reading.printed]
    exact historyBefore_initial v.server q v.program.dwStartID
  · exact part

theorem Reads.query (h : Reads c w q v) (few : v.server.transactionInfo.size < 2 ^ 32 - 1)
    (beyond : List Byte) (now : Qword) :
    Reads c w q (conversationStep beyond c v (.query now)) ∧
      (conversationStep beyond c v (.query now)).server = v.server := by
  rcases h.state with reading | ⟨returned, part⟩
  · obtain ⟨server, ⟨returned, all⟩ | ⟨reading, _⟩⟩ := reading.query few beyond now
    · refine ⟨⟨server ▸ h.books, Or.inr ⟨returned, ?_⟩⟩, server⟩
      rw [server, all]
    · exact ⟨⟨reading.books, Or.inl reading⟩, server⟩
  · -- the call has returned
    have same : conversationStep beyond c v (.query now) = v := by
      simp only [conversationStep, returned]
    rw [same]
    exact ⟨h, rfl⟩

theorem Reads.other (h : Reads c w q v) (op : Op) (leaves : op.Leaves w)
    (few : (step v.server op).transactionInfo.size < 2 ^ 32 - 1) :
    Reads c w q { v with server := step v.server op } := by
  have effect := step_effect v.server op
  have grows := effect.size_le h.books.references.own
  refine ⟨h.books.effect (by omega) effect, ?_⟩
  rcases h.state with reading | ⟨returned, part⟩
  · exact Or.inl (reading.other op leaves few)
  · obtain ⟨new, entries, _⟩ :=
      effect.entriesOf_append h.books.references.own h.books.dense (by omega) q
    refine Or.inr ⟨returned, part.trans ?_⟩
    change historyOf v.server q <+: historyOf (step v.server op) q
    rw [historyOf_eq, historyOf_eq, entries, List.map_append]
    exact List.prefix_append _ _

end Loop

theorem reads_start (s : Server) (books : Books s) (c : Socket) (p : ClientProgram) (q : Qword)
    (loggedOn : LoggedOnAt s c p.wClientID q) :
    Reading c p.wClientID q (Conversation.start s p) where
  books := books
  loggedOn := loggedOn
  clientID := rfl
  running := rfl
  start := Nat.zero_le _
  printed := by
    have none : Cursor.before Prod.fst (0 : Dword) (entriesOf s q) = [] :=
      List.filter_eq_nil_iff.mpr fun e _ => by simp [BitVec.lt_def]
    change [] = (Cursor.before Prod.fst (0 : Dword) (entriesOf s q)).map _
    rw [none, List.map_nil]

/-- The server takes a step in every turn, or none. -/
theorem conversationStep_server (beyond : List Byte) (c : Socket) (v : Conversation)
    (event : ConversationEvent) :
    (conversationStep beyond c v event).server = v.server ∨
      ∃ op, (conversationStep beyond c v event).server = step v.server op := by
  cases event with
  | other op => exact Or.inr ⟨op, rfl⟩
  | query now =>
    simp only [conversationStep]
    split
    · exact Or.inl rfl
    · -- the query is a message on the client's connection
      refine Or.inr ⟨.message c now (Call.sendTransaction.request v.program.dwSequenceNumber
        v.program.wClientID v.program.dwStartID), ?_⟩
      split
      · rfl
      · rfl

theorem ownKeys_conversationStep (beyond : List Byte) (c : Socket) (v : Conversation)
    (own : OwnKeys v.server) (event : ConversationEvent) :
    OwnKeys (conversationStep beyond c v event).server ∧
      v.server.transactionInfo.size ≤
        (conversationStep beyond c v event).server.transactionInfo.size := by
  rcases conversationStep_server beyond c v event with same | ⟨op, stepped⟩
  · rw [same]
    exact ⟨own, Nat.le_refl _⟩
  · rw [stepped]
    exact ⟨own.effect (step_effect v.server op), (step_effect v.server op).size_le own⟩

/-- Queries and operations for others, in any order. -/
theorem reads_run {c : Socket} {w : Word} {q : Qword} (beyond : List Byte) (v : Conversation)
    (h : Reads c w q v) (events : List ConversationEvent) (leave : ∀ e ∈ events, e.Leaves w)
    (few : (runConversation beyond c v events).server.transactionInfo.size < 2 ^ 32 - 1) :
    Reads c w q (runConversation beyond c v events) := by
  induction events using List.reverseRecOn with
  | nil => exact h
  | append_singleton events event ih =>
    have last : runConversation beyond c v (events ++ [event]) =
        conversationStep beyond c (runConversation beyond c v events) event := Run.run_append ..
    have own : OwnKeys (runConversation beyond c v events).server :=
      Run.invariant (conversationStep beyond c) (fun v => OwnKeys v.server) (fun _ => True)
        (fun v event _ own => (ownKeys_conversationStep beyond c v own event).1) v
        h.books.references.own events (fun _ _ => trivial)
    have grows := (ownKeys_conversationStep beyond c _ own event).2
    rw [last] at few ⊢
    have reads := ih (fun e member => leave e (List.mem_append_left _ member))
      (Nat.lt_of_le_of_lt grows few)
    cases event with
    | query now => exact (reads.query (Nat.lt_of_le_of_lt grows few) beyond now).1
    | other op => exact reads.other op (leave (.other op) (by simp)) few

/-- Queries alone: all pages so far were full, or everything has been printed. -/
theorem queries_run {c : Socket} {w : Word} {q : Qword} (beyond : List Byte) (v : Conversation)
    (h : Reading c w q v) (empty : v.printed = [])
    (few : v.server.transactionInfo.size < 2 ^ 32 - 1) (pages : List Qword) :
    let v' := runConversation beyond c v (pages.map .query)
    v'.server = v.server ∧
      ((v'.cerResult = some CerType.success.code ∧ v'.printed = historyOf v.server q) ∨
        (Reading c w q v' ∧ v'.printed.length = pages.length * wTransCnt.toNat)) := by
  induction pages using List.reverseRecOn with
  | nil => exact ⟨rfl, Or.inr ⟨h, by rw [List.map_nil]; exact congrArg List.length empty⟩⟩
  | append_singleton pages now ih =>
    have last : runConversation beyond c v ((pages ++ [now]).map .query) =
        conversationStep beyond c (runConversation beyond c v (pages.map .query)) (.query now) := by
      rw [List.map_append]
      exact Run.run_append ..
    obtain ⟨server, ⟨returned, all⟩ | ⟨reading, length⟩⟩ := ih
    · -- the call has returned
      have same : conversationStep beyond c (runConversation beyond c v (pages.map .query))
          (.query now) = runConversation beyond c v (pages.map .query) := by
        simp only [conversationStep, returned]
      rw [last, same]
      exact ⟨server, Or.inl ⟨returned, all⟩⟩
    · have result := reading.query (server ▸ few) beyond now
      rw [last, List.length_append, List.length_singleton]
      obtain ⟨server', finished | ⟨goes, more⟩⟩ := result
      · exact ⟨server'.trans server, Or.inl (server ▸ finished)⟩
      · exact ⟨server'.trans server, Or.inr ⟨goes, by rw [more, length, Nat.succ_mul]⟩⟩

/-- On every reachable table the loop ends, having printed exactly the customer's
transactions in order; and whatever other clients record between its queries, what it has
printed is an initial part of them as they are at the last query. -/
theorem complete_history (ops : List Op)
    (few : (run .empty ops).transactionInfo.size < 2 ^ 32 - 1) (c : Socket) (p : ClientProgram)
    (q : Qword) (loggedOn : LoggedOnAt (run .empty ops) c p.wClientID q) (beyond : List Byte) :
    let start := Conversation.start (run .empty ops) p
    (∀ pages : List Qword,
      (historyOf (run .empty ops) q).length < pages.length * wTransCnt.toNat →
        let v := runConversation beyond c start (pages.map .query)
        v.cerResult = some CerType.success.code ∧ v.printed = historyOf (run .empty ops) q) ∧
      ∀ (events : List ConversationEvent) (now : Qword),
        (∀ e ∈ events, e.Leaves p.wClientID) →
        let v := runConversation beyond c start events
        v.server.transactionInfo.size < 2 ^ 32 - 1 →
          (runConversation beyond c start (events ++ [.query now])).printed <+:
            historyOf v.server q := by
  intro start
  have reading := reads_start (run .empty ops) (books_run ops few) c p q loggedOn
  constructor
  · intro pages enough v
    obtain ⟨server, finished | ⟨reading', length⟩⟩ := queries_run beyond start reading rfl few pages
    · exact finished
    · -- the printed part would be longer than the history
      have part := (historyBefore_initial v.server q v.program.dwStartID).length_le
      rw [← reading'.printed, length] at part
      rw [server] at part
      exact absurd (Nat.lt_of_le_of_lt part enough) (Nat.lt_irrefl _)
  · intro events now leave v few'
    have reads := reads_run beyond start ⟨reading.books, Or.inl reading⟩ events leave few'
    have last : runConversation beyond c start (events ++ [.query now]) =
        conversationStep beyond c v (.query now) := Run.run_append ..
    obtain ⟨reads', server⟩ := reads.query few' beyond now
    rw [last, ← server]
    exact reads'.initial

/-- Anna pays in seven times; while the first client reads, a second one pays in for her. -/
theorem complete_history_anna :
    let ops := Client.firstVisit 7 [65, 110, 110, 97] 4711 500 ++
      [Client.sendConnect 8 0, Client.sendLogIn 8 1 2 [65, 110, 110, 97] 4711] ++
      List.replicate 6 (Client.sendDeposit 7 4 1 10)
    let q := generateCustomerID [65, 110, 110, 97] 4 4711
    let start := Conversation.start (run .empty ops) ⟨.zero, 10, 1, 0⟩
    let twice := runConversation [] 7 start ([0, 0].map .query)
    let events := [.query 0, .other (Client.sendDeposit 8 2 2 30)]
    (twice.cerResult = some CerType.success.code ∧ twice.printed = historyOf (run .empty ops) q) ∧
      (runConversation [] 7 start (events ++ [.query 0])).printed <+:
        historyOf (runConversation [] 7 start events).server q := by
  intro ops q start twice events
  have loggedOn : LoggedOnAt (run .empty ops) 7 1 q := by
    have found : ((run .empty ops).sessionInfo.find? 1).map (fun i => (i.socket, i.customerID)) =
        some (some 7, q) := by decide +kernel
    obtain ⟨i, session, data⟩ := Option.map_eq_some_iff.mp found
    obtain ⟨socket, customer⟩ := Prod.mk.inj data
    exact ⟨i, session, socket, by rw [customer]; decide, customer⟩
  have complete := complete_history ops (by decide +kernel) 7 ⟨.zero, 10, 1, 0⟩ q loggedOn []
  refine ⟨complete.1 [0, 0] (by decide +kernel), complete.2 events 0 ?_ (by decide +kernel)⟩
  intro e member
  simp only [events, List.mem_cons, List.not_mem_nil, or_false] at member
  rcases member with rfl | rfl
  · trivial
  · trivial

end Cnp
