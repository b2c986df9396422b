import CnpProtocol.Client.Calls

/-!
# A history query while others are served

One client is in `SendTransaction` and the server works for other clients between its
queries. Every response to the client arrives whole.
-/

namespace Cnp

/-- The server, the program of the client, and what its `SendTransaction` has printed and
returned so far. -/
structure Conversation where
  server : Server
  program : ClientProgram
  printed : List Transaction
  cerResult : Option Dword

/-- The next turn of the loop, or an operation of the server for somebody else. -/
inductive ConversationEvent
  | query (qwNow : Qword)
  | other (op : Op)

/-- The first response on the client's connection. -/
def responseTo (c : Socket) (sent : List (Socket × Response)) : Option Response :=
  (sent.find? fun out => decide (out.1 = c)).map Prod.snd

def conversationStep (beyond : List Byte) (c : Socket) (v : Conversation) :
    ConversationEvent → Conversation
  | .other op => { v with server := step v.server op }
  | .query qwNow =>
    match v.cerResult with
    -- the call has returned
    | some _ => v
    | none =>
      let request := Call.sendTransaction.request v.program.dwSequenceNumber v.program.wClientID
        v.program.dwStartID
      let o := dispatch v.server c qwNow request
      match responseTo c o.sent with
      -- the client waits for ever
      | none => { v with server := o.server }
      | some response =>
        let io : Exchange := ⟨false, .answer ⟨v.program.dwSequenceNumber.toNat, response⟩⟩
        let turn := Call.sendTransaction.exchange beyond io v.program
        ⟨o.server, turn.program, v.printed ++ turn.printed, turn.cerResult⟩

/-- `SendTransaction` has been called. -/
def Conversation.start (s : Server) (p : ClientProgram) : Conversation :=
  ⟨s, { p with dwStartID := 0 }, [], none⟩

def runConversation (beyond : List Byte) (c : Socket) (v : Conversation)
    (events : List ConversationEvent) : Conversation :=
  Run.run (conversationStep beyond c) v events

/-- The operation neither ends the session of a client nor logs it on or off. -/
def Op.Leaves (w : Word) : Op → Prop
  | .message _ _ (.logon m _) => m.hdr.clientID ≠ w
  | .message _ _ (.logoff m) => m.hdr.clientID ≠ w
  | .disconnect w' => w' ≠ w
  | .restart _ _ => False
  | _ => True

/-- The queries are those of the client; nothing else touches its session. -/
def ConversationEvent.Leaves (w : Word) : ConversationEvent → Prop
  | .query _ => True
  | .other op => op.Leaves w

theorem conversationStep_query (beyond : List Byte) (c : Socket) (v : Conversation) (qwNow : Qword)
    (response : Response) (running : v.cerResult = none)
    (answered : responseTo c (dispatch v.server c qwNow (Call.sendTransaction.request
      v.program.dwSequenceNumber v.program.wClientID v.program.dwStartID)).sent = some response) :
    ∃ n, conversationStep beyond c v (.query qwNow) =
      let turn := Call.sendTransaction.exchange beyond ⟨false, .answer ⟨n, response⟩⟩ v.program
      ⟨(dispatch v.server c qwNow (Call.sendTransaction.request v.program.dwSequenceNumber
        v.program.wClientID v.program.dwStartID)).server, turn.program, v.printed ++ turn.printed,
        turn.cerResult⟩ := by
  refine ⟨v.program.dwSequenceNumber.toNat, ?_⟩
  simp only [conversationStep, running, answered]

/-! ### One page -/

/-- The handler's loop finds the next records of the customer. -/
theorem collectTransactions_eq (q : Qword) (wCount : Word) (i : Word) (bound : i ≤ wCount)
    (l : List (Dword × TransactionInfo)) :
    collectTransactions q wCount i l =
      (i + BitVec.ofNat 16 ((l.filter fun e => e.2.customerID = q).take
          (wCount.toNat - i.toNat)).length,
        ((l.filter fun e => e.2.customerID = q).take (wCount.toNat - i.toNat)).map
          fun e => e.2.toTransaction) := by
  induction l generalizing i with
  | nil => simp [collectTransactions]
  | cons e rest ih =>
    by_cases room : i < wCount
    · have more : wCount.toNat - i.toNat = wCount.toNat - (i + 1).toNat + 1 := by bv_omega
      by_cases own : e.2.customerID = q
      · -- a record of the customer is pushed and counted
        rw [collectTransactions, if_pos room, if_pos own, ih (i + 1) (by bv_omega),
          List.filter_cons_of_pos (by simpa using own), more, List.take_succ_cons,
          List.length_cons, List.map_cons, BitVec.ofNat_add, BitVec.add_assoc, BitVec.add_comm 1]
        rfl
      · rw [collectTransactions, if_pos room, if_neg own, ih i bound,
          List.filter_cons_of_neg (by simpa using own)]
    · -- the page is full
      have full : wCount.toNat - i.toNat = 0 := by bv_omega
      rw [collectTransactions, if_neg room, full, List.take_zero]
      simp

/-- A page of at most five records. -/
structure IsPage (m : TransactionQueryResponse) : Prop where
  result : m.response.result = CerType.success.code
  count : m.response.transactionCount = BitVec.ofNat 16 m.response.transactions.length
  short : m.response.transactions.length ≤ wTransCnt.toNat

namespace IsPage

variable {m : TransactionQueryResponse} (h : IsPage m)
include h

theorem toNat_count : m.response.transactionCount.toNat = m.response.transactions.length := by
  have short : m.response.transactions.length ≤ 5 := h.short
  rw [h.count, BitVec.toNat_ofNat, Nat.mod_eq_of_lt (by omega)]

/-- It fits into the buffer. -/
theorem length_bytes_le : (Response.transactionQuery m).bytes.length ≤ sizeofSzBuffer - 1 := by
  have short : m.response.transactions.length ≤ 5 := h.short
  have front : Packed.sizeOf Build.win32.width
      (stdHdr ++ MsgType.transactionQueryResponse.body) = 22 := rfl
  have one : Packed.sizeOf Build.win32.width (transaction 0) = 18 := rfl
  rw [Response.bytes, Packed.length_encode, Response.body, ← List.append_assoc,
    Packed.sizeOf_append, front, sizeOf_records, one, h.toNat_count, sizeofSzBuffer]
  omega

/-- It is in front when the client evaluates its buffer. -/
theorem memory_eq (beyond : List Byte) (szBuffer : SzBuffer) :
    ∃ rest, (ReceiveBuffer.receive szBuffer (Response.transactionQuery m).bytes).bytes ++ beyond =
      (Response.transactionQuery m).bytes ++ rest := by
  rw [ReceiveBuffer.bytes_receive _ _ h.length_bytes_le, List.append_assoc]
  exact ⟨_, rfl⟩

theorem get_result (rest : List Byte) :
    BitVec.ofNat 32 (MsgType.transactionQueryResponse.get
      ((Response.transactionQuery m).bytes ++ rest) .result) = CerType.success.code := by
  have read := (Response.transactionQuery m).read_result rest
  apply (congrArg (BitVec.ofNat 32) read).trans
  rw [BitVec.ofNat_toNat, BitVec.setWidth_eq]
  exact h.result

theorem transactionAt (rest : List Byte) (i : Nat) (t : Transaction)
    (found : m.response.transactions[i]? = some t) :
    Transaction.at ((Response.transactionQuery m).bytes ++ rest) i = t := by
  have inside : i < m.response.transactions.length := (List.getElem?_eq_some_iff.mp found).1
  exact Transaction.at_bytes m rest i t (h.toNat_count ▸ inside) found

/-- The records that are printed. -/
theorem map_transactionAt (rest : List Byte) :
    (List.range m.response.transactionCount.toNat).map
      (Transaction.at ((Response.transactionQuery m).bytes ++ rest)) =
        m.response.transactions := by
  apply List.ext_getElem
  · rw [List.length_map, List.length_range, h.toNat_count]
  · intro i _ inside
    rw [List.getElem_map, List.getElem_range]
    exact h.transactionAt rest i _ (List.getElem?_eq_getElem inside)

/-- The loop prints the records of the page, and goes on behind the last one if it is
full. -/
theorem exchange (beyond : List Byte) (n : Nat) (p : ClientProgram) :
    let turn := Call.sendTransaction.exchange beyond ⟨false, .answer ⟨n, .transactionQuery m⟩⟩ p
    turn.printed = m.response.transactions ∧ turn.program.wClientID = p.wClientID ∧
      (m.response.transactions.length < wTransCnt.toNat →
        turn.cerResult = some CerType.success.code) ∧
      ∀ front last, m.response.transactions = front ++ [last] →
        m.response.transactions.length = wTransCnt.toNat →
          turn.cerResult = none ∧ turn.program.dwStartID = last.id + 1 := by
  intro turn
  obtain ⟨rest, memory⟩ := h.memory_eq beyond p.szBuffer
  have count : BitVec.ofNat 16 (MsgType.transactionQueryResponse.get
      ((Response.transactionQuery m).bytes ++ rest) .transactionCount) =
        m.response.transactionCount := by
    rw [Response.read_transactionCount, BitVec.ofNat_toNat, BitVec.setWidth_eq]
  have below : m.response.transactionCount < wTransCnt ↔
      m.response.transactions.length < wTransCnt.toNat := by
    rw [BitVec.lt_def, h.toNat_count]
  simp only [turn, Call.exchange, SzBuffer.receive, Call.finish, Call.respType, memory,
    h.get_result, count, h.map_transactionAt, if_true]
  by_cases more : m.response.transactionCount < wTransCnt
  · -- a short page ends the loop
    have few := below.mp more
    rw [if_pos more]
    exact ⟨rfl, rfl, fun _ => rfl, fun _ _ _ full => absurd full (Nat.ne_of_lt few)⟩
  · rw [if_neg more]
    refine ⟨rfl, rfl, fun few => absurd (below.mpr few) more, fun front last split full => ?_⟩
    -- the record with the highest index is the last one
    have index : (m.response.transactionCount - 1).toNat = front.length := by
      have length := h.toNat_count
      rw [split, List.length_append, List.length_singleton] at length
      bv_omega
    refine ⟨rfl, ?_⟩
    rw [index, h.transactionAt rest front.length last
      (by rw [split, List.getElem?_concat_length])]

end IsPage

end Cnp
