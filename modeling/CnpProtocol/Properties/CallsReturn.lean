import CnpProtocol.Library.Fairness
import CnpProtocol.Properties.Isolation
import CnpProtocol.Properties.RemoteCalls
import CnpProtocol.Properties.TransactionTable
import Mathlib.Algebra.Order.BigOperators.Group.Finset

/-!
# All calls return

Clients that connect first are never left without an answer, and `SendTransaction` ends
although its history grows while it is read: every full page takes it to a larger ID. So under
every fair order of turns the clients finish, as long as there are IDs for their sessions and
records.
-/

namespace Cnp

/-! ### One call -/

def Call.isConnect : Call → Bool
  | .sendConnect => true
  | _ => false

def Call.isQuery : Call → Bool
  | .sendTransaction => true
  | _ => false

/-- The largest `DWORD`; behind a page that ends with it the loop starts all over. -/
def lastID : Dword := BitVec.allOnes 32

/-- Only `SendTransaction` goes on after a response. -/
theorem Call.isQuery_of_none {call : Call} {beyond : List Byte} {p : ClientProgram}
    (continues : (call.finish beyond p).cerResult = none) : call = .sendTransaction := by
  cases call with
  | sendTransaction => rfl
  | sendConnect =>
    simp only [Call.finish] at continues
    split at continues
    · cases continues
    · cases continues
  | _ => cases continues

/-- It goes on behind a record of the page. -/
theorem Call.Expects.dwStartID_of_none {call : Call} {resp : Response}
    (expects : call.Expects resp) (beyond : List Byte) (p : ClientProgram)
    (continues : (call.finish beyond (p.delivered resp)).cerResult = none) :
    ∃ t ∈ resp.transactions,
      (call.finish beyond (p.delivered resp)).program.dwStartID = t.id + 1 := by
  obtain rfl := Call.isQuery_of_none continues
  cases resp with
  | transactionQuery m =>
    obtain ⟨count, short, failed⟩ := expects
    have result := Call.sendTransaction.read_result_delivered (.transactionQuery m) beyond p
    by_cases success : m.response.result = CerType.success.code
    · have page : IsPage m := ⟨success, count, short⟩
      obtain ⟨_, _, ends, goes⟩ :=
        page.exchange beyond 0 { p with dwSequenceNumber := p.dwSequenceNumber - 1 }
      simp only [Call.exchange, BitVec.sub_add_cancel] at ends goes
      -- the page is full
      have full : m.response.transactions.length = wTransCnt.toNat := by
        by_contra other
        have few := ends (Nat.lt_of_le_of_ne short other)
        cases few.symm.trans continues
      rcases List.eq_nil_or_concat m.response.transactions with none | ⟨front, last, split⟩
      · rw [none] at full
        cases full
      · rw [List.concat_eq_append] at split
        refine ⟨last, ?_, (goes front last split full).2⟩
        change last ∈ m.response.transactions
        simp [split]
    · -- a failed query ends the loop
      simp only [Call.finish, result] at continues
      have failure : (Response.transactionQuery m).getResponseResult ≠ CerType.success.code :=
        success
      rw [if_neg failure] at continues
      cases continues
  | _ => exact expects.elim

theorem Call.Expects.transactions_nil {call : Call} {resp : Response}
    (expects : call.Expects resp) (other : call ≠ .sendTransaction) : resp.transactions = [] := by
  cases resp with
  | transactionQuery m =>
    cases call with
    | sendTransaction => exact absurd rfl other
    | _ => exact expects.elim
  | _ => rfl

/-- The records a query finds are in the table, from the start ID on. -/
theorem Call.records_ahead (call : Call) (dwSequence : Dword) (w : Word) (dwStartID : Dword)
    {s : Server} (own : OwnKeys s) (c : Socket) (now : Qword) (t : Transaction)
    (member : t ∈ (dispatch s c now (call.request dwSequence w dwStartID)).records) :
    dwStartID ≤ t.id ∧ ∃ info, s.transactionInfo.find? t.id = some info := by
  obtain ⟨out, sent, carries⟩ := List.mem_flatMap.mp member
  by_cases query : call = .sendTransaction
  · subst query
    rw [Call.request, dispatch, processTransactionQueryRequest_eq] at sent
    rw [((mem_send_iff _ _ _).mp sent).2] at carries
    change t ∈ (withAccount s w .clientNotLoggedon ((0, []) : Word × List Transaction)
      fun qwCustomerID _ => (.success, s, collectTransactions qwCustomerID wTransCnt 0
        (s.transactionInfo.lowerBound dwStartID))).data.2 at carries
    rcases withAccount_cases s w .clientNotLoggedon ((0, []) : Word × List Transaction)
      (fun qwCustomerID _ => (.success, s, collectTransactions qwCustomerID wTransCnt 0
        (s.transactionInfo.lowerBound dwStartID))) with
      ⟨_, h⟩ | ⟨itS, _, _, h⟩ | ⟨itS, _, _, _, h⟩ | ⟨itS, itA, _, _, _, h⟩
    · rw [h] at carries
      cases carries
    · rw [h] at carries
      cases carries
    · rw [h] at carries
      cases carries
    · rw [h] at carries
      obtain ⟨e, visited, _, rfl⟩ := mem_collectTransactions _ _ _ _ t carries
      rw [OrderedMap.lowerBound_eq_filter] at visited
      obtain ⟨stored, ahead⟩ := List.mem_filter.mp visited
      have found := (s.transactionInfo.find?_eq_some_iff e.1 e.2).mpr stored
      have id : e.2.toTransaction.id = e.1 := own.transactions e.1 e.2 found
      rw [id]
      exact ⟨of_decide_eq_true ahead, e.2, found⟩
  · -- no other response has records
    have expects := call.expects_sent dwSequence w dwStartID s c now out sent
    rw [expects.transactions_nil query] at carries
    cases carries

/-! ### What is left to do -/

/-- A bound for the turns a connection still takes: for every call and every start ID of a
query three, and one each to leave and to be closed. -/
def Connection.remaining (v : Connection) : Nat :=
  if v.client.exited then if v.bTerminate then 0 else 1
  else 2 + v.client.calls.length * 2 ^ 34 + (2 ^ 32 - v.client.program.dwStartID.toNat) * 3 +
    if v.client.waiting then if v.toServer = [] then 1 else 2 else 3

/-- The calls of a kind that the server has not handled. -/
def Connection.unserved (P : Call → Bool) (v : Connection) : Nat :=
  if v.client.waiting ∧ v.toServer = [] then v.client.calls.tail.countP P
  else v.client.calls.countP P

/-- Nothing is sent before the connect. -/
def ConnectsFirst (v : Connection) : Prop :=
  v.client.program.wClientID = invalidClientID →
    v.client.calls = [] ∨ v.client.calls.head? = some .sendConnect

/-- The records on their way to the client take it to a larger ID. -/
def PageAhead (v : Connection) : Prop :=
  v.client.waiting = true → v.toServer = [] → ∀ e, v.served.getLast? = some e →
    ∀ t ∈ e.2.records, v.client.program.dwStartID ≤ t.id ∧ t.id ≠ lastID

/-! ### One turn -/

section Turns

variable {v : Connection} {call : Call} {rest : List Call}

theorem remaining_exit (running : v.client.exited = false) : v.exit.remaining < v.remaining := by
  have after : v.exit.remaining ≤ 1 := by
    change (if v.bTerminate = true then 0 else 1) ≤ 1
    cases v.bTerminate <;> simp
  have before : 2 ≤ v.remaining := by
    simp only [Connection.remaining, running, Bool.false_eq_true, if_false]
    omega
  omega

theorem toServer_send (v : Connection) (call : Call) : (v.send call).toServer ≠ [] := by
  intro nothing
  have positive := (call.length_request v.client.program.dwSequenceNumber
    v.client.program.wClientID v.client.program.dwStartID).1
  rw [(List.append_eq_nil_iff.mp nothing).2] at positive
  exact Nat.lt_irrefl 0 positive

theorem remaining_send (running : v.client.exited = false) (ready : v.client.waiting = false) :
    (v.send call).remaining < v.remaining := by
  have filled := toServer_send v call
  have before : v.remaining = 2 + v.client.calls.length * 2 ^ 34 +
      (2 ^ 32 - v.client.program.dwStartID.toNat) * 3 + 3 := by
    simp only [Connection.remaining, running, ready, Bool.false_eq_true, if_false]
  have after : (v.send call).remaining = 2 + v.client.calls.length * 2 ^ 34 +
      (2 ^ 32 - v.client.program.dwStartID.toNat) * 3 + 2 := by
    have open_ : (v.send call).client.exited = false := running
    have waits : (v.send call).client.waiting = true := rfl
    simp only [Connection.remaining, open_, waits, filled, Bool.false_eq_true, if_false, if_true]
    rfl
  omega

theorem unserved_send (P : Call → Bool) (ready : v.client.waiting = false) :
    (v.send call).unserved P = v.unserved P := by
  have before : v.unserved P = v.client.calls.countP P := by
    simp only [Connection.unserved, ready, Bool.false_eq_true, false_and, if_false]
  have after : (v.send call).unserved P = v.client.calls.countP P :=
    if_neg fun both => toServer_send v call both.2
  rw [before, after]

section Received

variable {s : Server} {c : Socket} (h : Link s c v) (beyond : List Byte)
  (running : v.client.exited = false) (calls : v.client.calls = call :: rest)
  (waits : v.client.waiting = true) (arrived : v.toClient ≠ [])

include h calls waits arrived in
theorem unserved_receive (P : Call → Bool) (query : P .sendTransaction = false) :
    (v.receive call beyond).unserved P = v.unserved P := by
  obtain ⟨_, _, _, toServer, _⟩ := h.arrived arrived calls
  have before : v.unserved P = rest.countP P := by
    rw [Connection.unserved, if_pos ⟨waits, toServer⟩, calls, List.tail_cons]
  have after : (v.receive call beyond).unserved P = (v.receive call beyond).client.calls.countP P :=
    if_neg fun both => Bool.false_ne_true both.1
  rw [before, after, Connection.receive]
  simp only [calls, List.tail_cons]
  split
  · rfl
  next continues =>
    -- a query is not counted
    have loops := Call.isQuery_of_none (Option.not_isSome_iff_eq_none.mp continues)
    rw [loops, List.countP_cons_of_neg (by simp [query])]

include h running calls waits arrived in
theorem remaining_receive (ahead : PageAhead v) :
    (v.receive call beyond).remaining < v.remaining := by
  obtain ⟨done, last, resp, toServer, toClient, expects, report, _, _, served, _⟩ :=
    h.arrived arrived calls
  have before : v.remaining = 2 + (rest.length + 1) * 2 ^ 34 +
      (2 ^ 32 - v.client.program.dwStartID.toNat) * 3 + 1 := by
    simp only [Connection.remaining, running, waits, toServer, calls, Bool.false_eq_true, if_false,
      if_true, List.length_cons]
  have after : (v.receive call beyond).remaining =
      2 + (v.receive call beyond).client.calls.length * 2 ^ 34 +
        (2 ^ 32 - (v.receive call beyond).client.program.dwStartID.toNat) * 3 + 3 := by
    have open_ : (v.receive call beyond).client.exited = false := running
    have ready : (v.receive call beyond).client.waiting = false := rfl
    simp only [Connection.remaining, open_, ready, Bool.false_eq_true, if_false]
  have turn : v.receive call beyond = { v with
      client := { v.client with
        program := (call.finish beyond (v.client.program.delivered resp)).program
        calls := if (call.finish beyond (v.client.program.delivered resp)).cerResult.isSome then
          v.client.calls.tail else v.client.calls
        waiting := false }
      toClient := v.toClient.drop (sizeofSzBuffer - 1)
      received := (v.receive call beyond).received } := by
    rw [Connection.receive, toClient]
    rfl
  cases continues : (call.finish beyond (v.client.program.delivered resp)).cerResult with
  | some cerResult =>
    -- the call has returned
    have less : (v.receive call beyond).client.calls.length = rest.length := by
      rw [turn]
      simp [continues, calls]
    omega
  | none =>
    have same : (v.receive call beyond).client.calls.length = rest.length + 1 := by
      rw [turn]
      simp [continues, calls]
    -- the next start ID is above the last one
    obtain ⟨t, member, start⟩ := expects.dwStartID_of_none beyond v.client.program continues
    have records : t ∈ last.outcome.records := by
      have equal : resp.transactions = last.outcome.records := congrArg Prod.snd report
      exact equal ▸ member
    obtain ⟨above, other⟩ := ahead waits toServer last.served
      (by rw [served, List.map_append, List.map_singleton, List.getLast?_concat]) t records
    have next : (v.receive call beyond).client.program.dwStartID = t.id + 1 := by
      rw [turn]
      exact start
    have larger : v.client.program.dwStartID.toNat < (t.id + 1).toNat := by
      have most : t.id.toNat ≠ 2 ^ 32 - 1 := fun most => other (BitVec.eq_of_toNat_eq most)
      have small := t.id.isLt
      have one : (1 : Dword).toNat = 1 := rfl
      rw [BitVec.toNat_add, one, Nat.mod_eq_of_lt (by omega)]
      exact Nat.lt_succ_of_le above
    rw [next] at after
    have bound := (t.id + 1).isLt
    omega

end Received

section Served

variable {dwSequence : Dword} {w : Word} {dwStartID : Dword} (bTerminate : Bool)
  (sent : List Byte) (r : Request) (o : Outcome)
  (calls : v.client.calls = call :: rest) (waits : v.client.waiting = true)
  (toServer : v.toServer = (call.request dwSequence w dwStartID).bytes)

include toServer in
theorem toServer_serve : v.toServer ≠ [] ∧ (v.serve bTerminate sent r o).toServer = [] := by
  obtain ⟨positive, short⟩ := call.length_request dwSequence w dwStartID
  constructor
  · intro nothing
    rw [← toServer, nothing] at positive
    exact Nat.lt_irrefl 0 positive
  · rw [Connection.serve, toServer]
    exact List.drop_eq_nil_of_le short

include calls waits toServer in
theorem unserved_serve (P : Call → Bool) :
    v.unserved P = (v.serve bTerminate sent r o).unserved P + if P call then 1 else 0 := by
  obtain ⟨filled, drained⟩ := toServer_serve bTerminate sent r o toServer
  have before : v.unserved P = v.client.calls.countP P := if_neg fun both => filled both.2
  have after : (v.serve bTerminate sent r o).unserved P = v.client.calls.tail.countP P :=
    if_pos ⟨waits, drained⟩
  rw [before, after, calls, List.tail_cons, List.countP_cons]

include waits toServer in
theorem remaining_serve (running : v.client.exited = false) :
    (v.serve bTerminate sent r o).remaining < v.remaining := by
  obtain ⟨filled, drained⟩ := toServer_serve bTerminate sent r o toServer
  have before : v.remaining = 2 + v.client.calls.length * 2 ^ 34 +
      (2 ^ 32 - v.client.program.dwStartID.toNat) * 3 + 2 := by
    simp only [Connection.remaining, running, waits, filled, Bool.false_eq_true, if_false, if_true]
  have after : (v.serve bTerminate sent r o).remaining = 2 + v.client.calls.length * 2 ^ 34 +
      (2 ^ 32 - v.client.program.dwStartID.toNat) * 3 + 1 := by
    have open_ : (v.serve bTerminate sent r o).client.exited = false := running
    have waiting : (v.serve bTerminate sent r o).client.waiting = true := waits
    simp only [Connection.remaining, open_, waiting, drained, Bool.false_eq_true, if_false, if_true]
    rfl
  omega

end Served

theorem remaining_close (exited : v.client.exited = true) (running : v.bTerminate = false) :
    ({ v with bTerminate := true } : Connection).remaining < v.remaining := by
  simp [Connection.remaining, exited, running]

end Turns

/-! ### IDs for sessions and records -/

/-- The table has room for `n` more records without the last ID. -/
structure HasRoom (s : Server) (n : Nat) : Prop where
  unused : s.transactionInfo.find? lastID = none
  fits : s.transactionInfo.size + n < 2 ^ 32 - 1

theorem HasRoom.kept {s s' : Server} {n : Nat} (room : HasRoom s n)
    (same : s'.transactionInfo = s.transactionInfo) : HasRoom s' n := by
  obtain ⟨unused, fits⟩ := room
  rw [← same] at unused fits
  exact ⟨unused, fits⟩

/-- A request records one transaction at most. -/
theorem HasRoom.dispatch {s : Server} {n : Nat} (room : HasRoom s (n + 1)) (c : Socket)
    (now : Qword) (r : Request) : HasRoom (dispatch s c now r).server n := by
  have fits := room.fits
  have recorded (s' : Server) (same : s'.transactionInfo = s.transactionInfo) (qwNow : Qword)
      (dwAmount : Dword) (wType : TransactionType) (q : Qword) :
      HasRoom (s'.recordTransaction qwNow dwAmount wType q) n := by
    have other : lastID ≠ nextID s.transactionInfo.size := by
      intro last
      have number := congrArg BitVec.toNat last
      rw [nextID, BitVec.toNat_ofNat, Nat.mod_eq_of_lt (by omega)] at number
      have most : lastID.toNat = 2 ^ 32 - 1 := rfl
      omega
    constructor
    · rw [recordTransaction_transactionInfo, same, OrderedMap.find?_insert, if_neg other]
      exact room.unused
    · rw [recordTransaction_transactionInfo, same, OrderedMap.size_insert]
      split
      · omega
      · omega
  have kept (s' : Server) (same : s'.transactionInfo = s.transactionInfo) : HasRoom s' n :=
    HasRoom.kept ⟨room.unused, by omega⟩ same
  have effect : Effect s (.message c now r) (Cnp.dispatch s c now r).server :=
    step_effect s (.message c now r)
  generalize (Cnp.dispatch s c now r).server = s' at effect
  cases effect with
  | paidIn _ qwNow dwAmount q itA account =>
    exact recorded (s.modifyAccount q (·.incrBalance dwAmount)) rfl _ _ _ _
  | paidOut _ qwNow dwAmount wType debit q itA account covered =>
    simp only [payOut, if_pos covered]
    exact recorded (s.modifyAccount q (·.decrBalance dwAmount)) rfl _ _ _ _
  | _ => exact kept _ rfl

/-- A query changes nothing. -/
theorem dispatch_sendTransaction (s : Server) (c : Socket) (now : Qword) (dwSequence : Dword)
    (w : Word) (dwStartID : Dword) :
    (dispatch s c now (Call.sendTransaction.request dwSequence w dwStartID)).server = s := by
  rw [Call.request, dispatch, processTransactionQueryRequest_eq]
  rcases withAccount_cases s w .clientNotLoggedon ((0, []) : Word × List Transaction)
    (fun qwCustomerID _ => (.success, s, collectTransactions qwCustomerID wTransCnt 0
      (s.transactionInfo.lowerBound dwStartID))) with
    ⟨_, h⟩ | ⟨itS, _, _, h⟩ | ⟨itS, _, _, _, h⟩ | ⟨itS, itA, _, _, _, h⟩
  · exact congrArg Handled.server h
  · exact congrArg Handled.server h
  · exact congrArg Handled.server h
  · exact congrArg Handled.server h

/-- The client IDs in use leave room for `n` more. -/
structure HasClientIDs (s : Server) (n : Nat) : Prop where
  fits : n ≤ 65534
  live : ∀ w, Live s.sessionInfo w → w.toNat + n ≤ 65534

theorem HasClientIDs.kept {s s' : Server} {n : Nat} (ids : HasClientIDs s n)
    (kept : ∀ w, Live s'.sessionInfo w → Live s.sessionInfo w) : HasClientIDs s' n :=
  ⟨ids.fits, fun w live => ids.live w (kept w live)⟩

theorem HasClientIDs.connectionsStep {sys : Connections} {n : Nat}
    (ids : HasClientIDs sys.shared (n + 1)) (c : Socket) (result : ReceiveResult) :
    HasClientIDs (connectionsStep sys (c, result)).shared n := by
  have fits := ids.fits
  refine ⟨by omega, fun w live => ?_⟩
  have bound := connectionsStep_live (n := 65533 - n)
    (fun w live => by have := ids.live w live; omega) c result w live
  omega

/-! ### All connections -/

theorem SameRequest.sendConnect {call : Call} {dwSequence : Dword} {w : Word} {dwStartID : Dword}
    {m : ConnectRequest}
    (same : SameRequest (call.request dwSequence w dwStartID) (.connect m)) :
    call = .sendConnect := by
  generalize sent : call.request dwSequence w dwStartID = r at same
  cases same
  cases call with
  | sendConnect => rfl
  | _ => cases sent

/-- What the connections of some clients count together, and one of them. -/
theorem sum_turn (clients : Finset Socket) (f f' : Socket → Nat) {c : Socket} (member : c ∈ clients)
    (others : ∀ c', c' ≠ c → f' c' = f c') :
    ∃ rest, ∑ c ∈ clients, f c = f c + rest ∧ ∑ c ∈ clients, f' c = f' c + rest := by
  refine ⟨∑ c ∈ clients.erase c, f c, (Finset.add_sum_erase clients f member).symm, ?_⟩
  rw [← Finset.add_sum_erase clients f' member]
  congr 1
  exact Finset.sum_congr rfl fun c' elsewhere => others c' (Finset.ne_of_mem_erase elsewhere)

/-- How many calls of a kind the server still gets. -/
def Network.unserved (net : Network) (clients : Finset Socket) (P : Call → Bool) : Nat :=
  ∑ c ∈ clients, (net.connection c).unserved P

def Network.remaining (net : Network) (clients : Finset Socket) : Nat :=
  ∑ c ∈ clients, (net.connection c).remaining

/-- The invariant behind the progress of the clients. -/
structure Underway (clients : Finset Socket) (net : Network) : Prop where
  linked : Linked net
  own : OwnKeys net.server.shared
  first : ∀ c ∈ clients, ConnectsFirst (net.connection c)
  ahead : ∀ c ∈ clients, PageAhead (net.connection c)
  ids : HasClientIDs net.server.shared (net.unserved clients Call.isConnect)
  room : HasRoom net.server.shared (net.unserved clients fun call => !call.isQuery)

/-! ### What a turn does to the invariant -/

theorem Call.request_ne_connect {call : Call} (other : call.isConnect = false)
    (dwSequence : Dword) (w : Word) (dwStartID : Dword) (m : ConnectRequest) :
    call.request dwSequence w dwStartID ≠ .connect m := by
  cases call with
  | sendConnect => cases other
  | _ =>
    intro same
    cases same

theorem connectionsStep_closed {sys : Connections} {c : Socket}
    (running : (sys.phase c).bTerminate = false) :
    (connectionsStep sys (c, .closed)).shared =
        step sys.shared (.disconnect (sys.phase c).wClientID) ∧
      ((connectionsStep sys (c, .closed)).phase c).bTerminate = true := by
  constructor
  · simp [connectionsStep, Run.Threads.step, clientThreadStep, running]
    rfl
  · rw [show (connectionsStep sys (c, .closed)).phase c = _ from
      Run.Threads.step_phase_self clientThreadStep sys c _]
    simp [clientThreadStep, running]

/-- A client that has read a response has a client ID. -/
theorem ConnectsFirst.receive {s : Server} {c : Socket} {v : Connection} (first : ConnectsFirst v)
    (h : Link s c v) {call : Call} {rest : List Call} (calls : v.client.calls = call :: rest)
    (arrived : v.toClient ≠ []) (beyond : List Byte) :
    (v.receive call beyond).client.program.wClientID ≠ invalidClientID := by
  obtain ⟨_, _, resp, _, toClient, expects, _, session, _⟩ := h.arrived arrived calls
  have program : (v.receive call beyond).client.program =
      (call.finish beyond (v.client.program.delivered resp)).program := by
    rw [Connection.receive, toClient]
    rfl
  rw [program]
  cases new : resp.newClientID? with
  | none =>
    rw [expects.wClientID_of_none beyond _ new]
    intro unconnected
    -- the answer to a connect brings one
    rcases first unconnected with none | connect
    · cases calls.symm.trans none
    · rw [calls] at connect
      cases connect
      cases resp with
      | connect m => cases new
      | _ => exact expects.elim
  | some w =>
    obtain ⟨success, valid, _⟩ := session w new
    rwa [expects.wClientID_of_some beyond _ new success]

section Step

variable {clients : Finset Socket} {net : Network} (h : Underway clients net)

include h

/-- There is a client ID for every connect. -/
theorem Underway.not_runsOut (turn : Socket × Party) (member : turn.1 ∈ clients)
    (whole : ¬ Splits net turn) : ¬ RunsOut net turn := by
  rintro ⟨data, now, arrived, server, taken, live, _, _, m, ⟨⟩, read⟩
  have here : turn = (turn.1, .server now arrived) := Prod.ext rfl server
  rw [here] at whole
  obtain ⟨_, taken⟩ := server_whole whole taken
  obtain ⟨_, call, rest, dwSequence, _, calls, waits, toServer, _⟩ :=
    (h.linked.link turn.1).taken taken
  obtain ⟨r, read', same⟩ := Linked.read taken call dwSequence _ _ toServer
  cases read.symm.trans read'
  obtain rfl := same.sendConnect
  have one := unserved_serve false [] (.connect m)
    (dispatch net.server.shared turn.1 now (.connect m)) calls waits toServer Call.isConnect
  have all : (net.connection turn.1).unserved Call.isConnect ≤
      net.unserved clients Call.isConnect :=
    Finset.single_le_sum (f := fun c => (net.connection c).unserved Call.isConnect)
      (fun _ _ => Nat.zero_le _) member
  have last : 65534 + net.unserved clients Call.isConnect ≤ 65534 := h.ids.live 65534 live
  have connect : Call.sendConnect.isConnect = true := rfl
  rw [if_pos connect] at one
  omega

/-- A turn that leads on, on the connection of one of the clients. -/
theorem Underway.turn {net' : Network} {c : Socket} (member : c ∈ clients) (linked : Linked net')
    (others : ∀ c', c' ≠ c → net'.connection c' = net.connection c')
    (own : OwnKeys net'.server.shared) (first : ConnectsFirst (net'.connection c))
    (ahead : PageAhead (net'.connection c))
    (remaining : (net'.connection c).remaining < (net.connection c).remaining)
    (ids : ∀ n, HasClientIDs net.server.shared ((net.connection c).unserved Call.isConnect + n) →
      HasClientIDs net'.server.shared ((net'.connection c).unserved Call.isConnect + n))
    (room : ∀ n, HasRoom net.server.shared
        (((net.connection c).unserved fun call => !call.isQuery) + n) →
      HasRoom net'.server.shared
        (((net'.connection c).unserved fun call => !call.isQuery) + n)) :
    Underway clients net' ∧ net'.remaining clients < net.remaining clients := by
  have total (f : Connection → Nat) := sum_turn clients (fun c => f (net.connection c))
    (fun c => f (net'.connection c)) member fun c' other => congrArg f (others c' other)
  refine ⟨⟨linked, own, fun c' member' => ?_, fun c' member' => ?_, ?_, ?_⟩, ?_⟩
  · by_cases acting : c' = c
    · rw [acting]
      exact first
    · rw [others c' acting]
      exact h.first c' member'
  · by_cases acting : c' = c
    · rw [acting]
      exact ahead
    · rw [others c' acting]
      exact h.ahead c' member'
  · obtain ⟨rest, before, after⟩ := total fun v => v.unserved Call.isConnect
    have had := h.ids
    rw [Network.unserved, before] at had
    rw [Network.unserved, after]
    exact ids rest had
  · obtain ⟨rest, before, after⟩ := total fun v => v.unserved fun call => !call.isQuery
    have had := h.room
    rw [Network.unserved, before] at had
    rw [Network.unserved, after]
    exact room rest had
  · obtain ⟨rest, before, after⟩ := total Connection.remaining
    rw [Network.remaining, Network.remaining, before, after]
    exact Nat.add_lt_add_right remaining rest

/-- Every turn that takes no part of a message keeps the invariant, and does nothing or leads
on. -/
theorem Underway.step (beyond : List Byte) (turn : Socket × Party) (member : turn.1 ∈ clients)
    (whole : ¬ Splits net turn) :
    Underway clients (networkStep beyond net turn) ∧
      (networkStep beyond net turn = net ∨
        (networkStep beyond net turn).remaining clients < net.remaining clients) := by
  obtain ⟨linked, others⟩ := h.linked.step beyond turn (h.not_runsOut turn member whole) whole
  have effect := networkStep_turned beyond net turn
  generalize networkStep beyond net turn = net' at *
  suffices leads : net' = net ∨
      (Underway clients net' ∧ net'.remaining clients < net.remaining clients) by
    rcases leads with rfl | ⟨underway, less⟩
    · exact ⟨h, Or.inl rfl⟩
    · exact ⟨underway, Or.inr less⟩
  cases effect with
  | idle => exact Or.inl rfl
  | exited c arrived running calls =>
    right
    have link := h.linked.link c
    have same := exitTurn_connection net c
    refine h.turn member linked others h.own ?_ ?_ ?_ (fun n ids => ?_) (fun n room => ?_)
    · exact same ▸ h.first c member
    · rw [same]
      intro waits
      cases (link.ready_of_nil calls).symm.trans waits
    · rw [same]
      exact remaining_exit running
    · rw [same]
      exact ids
    · rw [same]
      exact room
  | sent c arrived call rest running calls ready =>
    right
    have same := sendTurn_connection net c call
    refine h.turn member linked others h.own ?_ ?_ ?_ (fun n ids => ?_) (fun n room => ?_)
    · exact same ▸ h.first c member
    · rw [same]
      intro _ nothing
      exact absurd nothing (toServer_send _ call)
    · rw [same]
      exact remaining_send running ready
    · rw [same, unserved_send _ ready]
      exact ids
    · rw [same, unserved_send _ ready]
      exact room
  | received c arrived call rest running calls waits taken =>
    right
    obtain ⟨all, filled⟩ := client_whole whole taken
    have link := h.linked.link c
    have same := receiveTurn_connection beyond net c call all
    refine h.turn member linked others h.own ?_ ?_ ?_ (fun n ids => ?_) (fun n room => ?_)
    · rw [same]
      intro unconnected
      exact absurd unconnected ((h.first c member).receive link calls filled beyond)
    · rw [same]
      intro waits
      cases waits
    · rw [same]
      exact remaining_receive link beyond running calls waits filled (h.ahead c member)
    · rw [same, unserved_receive link beyond calls waits filled _ rfl]
      exact ids
    · rw [same, unserved_receive link beyond calls waits filled _ rfl]
      exact room
  | served c now arrived data r running taken read =>
    right
    obtain ⟨all, taken⟩ := server_whole whole taken
    obtain ⟨_, call, rest, dwSequence, open_, calls, waits, toServer, _⟩ :=
      (h.linked.link c).taken taken
    obtain ⟨r', read', alike⟩ := Linked.read taken call dwSequence _ _ toServer
    cases read.symm.trans read'
    have same := serveTurn_connection net c now all data r
    have tables := (connectionsStep_data now running read).1
    have counts := unserved_serve ((connectionsStep net.server (c, .data data now)).phase
      c).bTerminate (bytesTo c (dispatch net.server.shared c now r).sent) r
      (dispatch net.server.shared c now r) calls waits toServer
    rw [← same] at counts
    refine h.turn member linked others ?_ ?_ ?_ ?_ (fun n ids => ?_) (fun n room => ?_)
    · exact tables ▸ h.own.effect (step_effect net.server.shared (.message c now r))
    · exact same ▸ h.first c member
    · rw [same]
      intro _ _ e served t carried
      rw [Connection.serve, List.getLast?_concat] at served
      cases served
      -- the records of a page are in the table
      rw [← alike.dispatch] at carried
      obtain ⟨above, info, found⟩ := call.records_ahead dwSequence _ _ h.own c now t carried
      refine ⟨above, fun last => ?_⟩
      rw [last, h.room.unused] at found
      cases found
    · rw [same]
      exact remaining_serve _ _ r _ waits toServer open_
    · rw [counts Call.isConnect] at ids
      cases connect : call.isConnect with
      | true =>
        rw [connect, if_pos rfl, Nat.add_right_comm] at ids
        exact ids.connectionsStep c _
      | false =>
        rw [connect, if_neg Bool.false_ne_true] at ids
        refine ids.kept fun w live => ?_
        have other := Call.request_ne_connect connect dwSequence
          (net.connection c).client.program.wClientID (net.connection c).client.program.dwStartID
        change Live (connectionsStep net.server (c, .data data now)).shared.sessionInfo w at live
        rwa [live_iff, tables, ← alike.dispatch, socketOf_dispatch _ _ _ _ other,
          ← live_iff] at live
    · rw [counts fun call => !call.isQuery] at room
      cases query : call.isQuery with
      | false =>
        rw [query, if_pos (by decide), Nat.add_right_comm] at room
        exact tables ▸ room.dispatch c now r
      | true =>
        rw [query, if_neg (by decide)] at room
        have same : dispatch net.server.shared c now r = dispatch net.server.shared c now
            (Call.sendTransaction.request dwSequence
              (net.connection c).client.program.wClientID
              (net.connection c).client.program.dwStartID) := by
          cases call with
          | sendTransaction => exact (alike.dispatch _ _ _).symm
          | _ => cases query
        refine room.kept ?_
        change (connectionsStep net.server (c, .data data now)).shared.transactionInfo = _
        rw [tables, same, dispatch_sendTransaction]
  | ignored c now arrived data running taken read =>
    -- a client sends nothing that is ignored
    obtain ⟨_, taken⟩ := server_whole whole taken
    obtain ⟨_, call, _, dwSequence, _, _, _, toServer, _⟩ := (h.linked.link c).taken taken
    obtain ⟨r, found, _⟩ := Linked.read taken call dwSequence _ _ toServer
    cases read.symm.trans found
  | closed c now arrived running empty exited =>
    right
    have same := closeTurn_connection net c
    obtain ⟨tables, ended⟩ := connectionsStep_closed running
    rw [ended] at same
    refine h.turn member linked others ?_ ?_ ?_ ?_ (fun n ids => ?_) (fun n room => ?_)
    · exact tables ▸ h.own.effect (step_effect net.server.shared (.disconnect _))
    · exact same ▸ h.first c member
    · exact same ▸ h.ahead c member
    · rw [same]
      exact remaining_close exited running
    · rw [same]
      refine ids.kept fun w live => ?_
      change Live (connectionsStep net.server (c, .closed)).shared.sessionInfo w at live
      rw [tables] at live
      rw [live_iff] at live ⊢
      change (socketOf (processDisconnect net.server.shared _).2 w).isSome = true at live
      rw [socketOf_processDisconnect] at live
      split at live
      · cases live
      · exact live
    · rw [same]
      refine room.kept ?_
      change (connectionsStep net.server (c, .closed)).shared.transactionInfo = _
      rw [tables]
      simp only [Cnp.step, processDisconnect]
      split
      · rfl
      · rfl

end Step

/-! ### Progress -/

section Progress

variable {clients : Finset Socket} {net : Network} (h : Underway clients net)

include h

/-- As long as a connection is not closed, a turn of its client or of its thread leads on, when
what was sent has arrived. -/
theorem Underway.moves (beyond : List Byte) {c : Socket} (member : c ∈ clients)
    (unfinished : (net.connection c).client.exited = false ∨
      (net.connection c).bTerminate = false) :
    (∀ arrived, (net.toClient c).length ≤ arrived →
        networkStep beyond net (c, .client arrived) ≠ net) ∨
      ∀ now arrived, (net.toServer c).length ≤ arrived →
        networkStep beyond net (c, .server now arrived) ≠ net := by
  have link := h.linked.link c
  have longer (e : LogEntry) (net' : Network) (log : net'.log = net.log ++ [(c, e)]) :
      net' ≠ net := by
    intro same
    rw [same, List.self_eq_append_right] at log
    cases log
  cases exited : (net.clients c).exited with
  | true =>
    -- its thread notices
    right
    intro now arrived _
    obtain ⟨done, toServer, _⟩ := link.idle (link.returned exited).1
    have nothing : net.toServer c = [] := toServer
    have running : (net.server.phase c).bTerminate = false :=
      unfinished.resolve_left fun open_ =>
        Bool.false_ne_true (open_.symm.trans exited)
    simp only [networkStep, serverTurn, running, Bool.false_eq_true, if_false, nothing,
      List.take_nil, receive?_nil, exited, and_self, if_true]
    exact longer _ _ rfl
  | false =>
    cases calls : (net.clients c).calls with
    | nil =>
      left
      intro arrived _
      simp only [networkStep, clientTurn, exited, Bool.false_eq_true, if_false, calls]
      intro same
      have left_ : ((exitTurn net c).clients c).exited = true := by
        simp only [exitTurn, Function.update_self]
      rw [same, exited] at left_
      cases left_
    | cons call rest =>
      cases waits : (net.clients c).waiting with
      | false =>
        left
        intro arrived _
        simp only [networkStep, clientTurn, exited, Bool.false_eq_true, if_false, calls, waits]
        exact longer _ _ rfl
      | true =>
        cases link.stage with
        | idle _ ready => cases waits.symm.trans ready
        | requested _ call' _ dwSequence _ _ toServer =>
          right
          intro now arrived all
          have running : (net.server.phase c).bTerminate = false := link.running exited
          obtain ⟨data, taken, _⟩ := receive?_request call' dwSequence
            (net.connection c).client.program.wClientID (net.connection c).client.program.dwStartID
          rw [← toServer] at taken
          obtain ⟨r, read, _⟩ := Linked.read taken call' dwSequence _ _ toServer
          have taken' : receive? (net.toServer c) = some data := taken
          simp only [networkStep, serverTurn, running, Bool.false_eq_true, if_false,
            List.take_of_length_le all, taken', read]
          exact longer _ _ rfl
        | responded _ _ _ _ resp _ _ _ toClient =>
          left
          intro arrived all
          have filled : net.toClient c ≠ [] := by
            intro nothing
            have length := resp.le_length_bytes
            rw [← toClient, show (net.connection c).toClient = [] from nothing] at length
            exact absurd length (by decide)
          simp only [networkStep, clientTurn, exited, Bool.false_eq_true, if_false, calls, waits,
            if_true, List.take_of_length_le all, filled]
          exact longer _ _ rfl
        | unanswered _ _ call' _ calls' _ _ _ unconnected other =>
          -- it has connected
          rcases h.first c member unconnected with none | connect
          · cases calls'.symm.trans none
          · rw [calls'] at connect
            exact absurd (Option.some.inj connect) other

end Progress

section Start

variable {accounts : AccountMap} {transactions : TransactionMap} {calls : Socket → List Call}
  {clients : Finset Socket}

theorem underway_start
    (connects : ∀ c ∈ clients, calls c = [] ∨ (calls c).head? = some .sendConnect)
    (ids : ∑ c ∈ clients, (calls c).countP Call.isConnect ≤ 65534)
    (own : OwnKeys (.boot accounts transactions)) (unused : transactions.find? lastID = none)
    (room : transactions.size + ∑ c ∈ clients, (calls c).countP (fun call => !call.isQuery) <
      2 ^ 32 - 1) :
    Underway clients (networkStart accounts transactions calls) where
  linked := linked_start accounts transactions calls
  own := own
  first := fun c member _ => connects c member
  ahead := fun _ _ waits => absurd waits Bool.false_ne_true
  ids := ⟨ids, fun _ live => absurd live Bool.false_ne_true⟩
  room := ⟨unused, room⟩

theorem underway_run (beyond : List Byte) {net : Network} (h : Underway clients net)
    (turns : List (Socket × Party)) (all : ∀ turn ∈ turns, turn.1 ∈ clients)
    (whole : Run.Avoids (networkStep beyond) Splits net turns) :
    Underway clients (Run.run (networkStep beyond) net turns) := by
  have others : Run.Avoids (networkStep beyond) (fun _ turn => turn.1 ∉ clients) net turns := by
    rintro before turn after rfl other
    exact other (all turn (by simp))
  exact Run.avoids_invariant (Underway clients) net h
    (fun _ turn good h => (h.step beyond turn (not_not.mp fun other => good (Or.inl other))
      fun part => good (Or.inr part)).1) turns (others.or whole)

/-- As many bytes may have arrived as the buffer has room for. -/
def FillsBuffer : Socket × Party → Prop
  | (_, .client arrived) => sizeofSzBuffer - 1 ≤ arrived
  | (_, .server _ arrived) => sizeofRgBuffer - 1 ≤ arrived

theorem Underway.not_splits {net : Network} (h : Underway clients net) (turn : Socket × Party)
    (fills : FillsBuffer turn) : ¬ Splits net turn := by
  obtain ⟨c, party⟩ := turn
  have fits := (h.linked.link c).length_le
  cases party with
  | client arrived =>
    rintro ⟨_, part⟩
    exact absurd (part.trans_le (fits.2.trans fills)) (lt_irrefl _)
  | server now arrived =>
    rintro ⟨_, part⟩
    exact absurd (part.trans_le (fits.1.trans fills)) (lt_irrefl _)

/-- Where every `Receive` can fill its buffer, none takes a part of a message. -/
theorem avoids_splits (beyond : List Byte) {net : Network} (h : Underway clients net)
    (turns : List (Socket × Party)) (all : ∀ turn ∈ turns, turn.1 ∈ clients)
    (fill : ∀ turn ∈ turns, FillsBuffer turn) :
    Run.Avoids (networkStep beyond) Splits net turns := by
  induction turns using List.reverseRecOn with
  | nil => exact Run.avoids_nil _ _ net
  | append_singleton turns turn ih =>
    have whole := ih (fun turn member => all turn (List.mem_append_left _ member))
      fun turn member => fill turn (List.mem_append_left _ member)
    have underway := underway_run beyond h turns
      (fun turn member => all turn (List.mem_append_left _ member)) whole
    rw [Run.avoids_concat]
    exact ⟨whole, underway.not_splits turn (fill turn (by simp))⟩

end Start

/-- Clients that connect before anything else all come to their end, under every schedule that
gives each of them and its thread turns again and again with what was sent to them, and never a
part of it: they leave with all calls returned, every request was handled and every outcome
reported, and the threads have ended. There have to be enough client IDs for the connects and
enough transaction IDs, without the last, for the records. -/
theorem calls_return (beyond : List Byte) (accounts : AccountMap) (transactions : TransactionMap)
    (calls : Socket → List Call) (clients : Finset Socket)
    (connects : ∀ c ∈ clients, calls c = [] ∨ (calls c).head? = some .sendConnect)
    (ids : ∑ c ∈ clients, (calls c).countP Call.isConnect ≤ 65534)
    (own : OwnKeys (.boot accounts transactions)) (unused : transactions.find? lastID = none)
    (room : transactions.size + ∑ c ∈ clients, (calls c).countP (fun call => !call.isQuery) <
      2 ^ 32 - 1)
    (schedule : Nat → Socket × Party) (all : ∀ n, (schedule n).1 ∈ clients)
    (whole : ∀ n, Run.Avoids (networkStep beyond) Splits (networkStart accounts transactions calls)
      (Run.firstTurns schedule n))
    (fair : ∀ c ∈ clients,
      Run.Again schedule (fun turn => ∃ arrived, 0 < arrived ∧ turn = (c, .client arrived)) ∧
        Run.Again schedule fun turn =>
          ∃ now arrived, 0 < arrived ∧ turn = (c, .server now arrived)) :
    ∃ n, ∀ c ∈ clients,
      let v := (runNetwork beyond accounts transactions calls
        (Run.firstTurns schedule n)).connection c
      v.client.exited = true ∧ v.client.calls = [] ∧ v.bTerminate = true ∧
        List.Forall₂ SameRequest v.sent (v.served.map Prod.fst) ∧
        v.received = v.served.map fun e => e.2.report := by
  let at_ (n : Nat) : Network := Run.stateAt (networkStep beyond)
    (networkStart accounts transactions calls) schedule n
  have underway (n : Nat) : Underway clients (at_ n) := by
    have start : Underway clients (networkStart accounts transactions calls) :=
      underway_start connects ids own unused room
    exact underway_run beyond start _ (Run.forall_mem_firstTurns all) (whole n)
  have good (n : Nat) : ¬ Splits (at_ n) (schedule n) := by
    have next := whole (n + 1)
    rw [Run.firstTurns_succ, Run.avoids_concat] at next
    exact next.2
  have led (n : Nat) := ((underway n).step beyond (schedule n) (all n) (good n)).2
  let Done (net : Network) : Prop := ∀ c ∈ clients, (net.connection c).client.exited = true ∧
    (net.connection c).bTerminate = true
  have progress (n : Nat) : Done (at_ n) ∨ ∃ P, Run.Again schedule P ∧ ∀ m, n ≤ m →
      at_ m = at_ n → P (schedule m) →
        (at_ (m + 1)).remaining clients < (at_ m).remaining clients := by
    refine or_iff_not_imp_left.mpr fun unfinished => ?_
    obtain ⟨c, unfinished⟩ := not_forall.mp unfinished
    obtain ⟨member, unfinished⟩ := Classical.not_imp.mp unfinished
    rw [not_and_or, Bool.not_eq_true, Bool.not_eq_true] at unfinished
    -- what was sent has arrived when the turn comes, because it does not come in parts
    have arrives (arrived length : Nat) (some_ : 0 < arrived)
        (whole : ¬ (0 < arrived ∧ arrived < length)) : length ≤ arrived := by omega
    rcases (underway n).moves beyond member unfinished with client | server
    · refine ⟨_, (fair c member).1, fun m _ same turn => ?_⟩
      obtain ⟨arrived, some_, turn⟩ := turn
      have less := led m
      have part := good m
      rw [show at_ (m + 1) = networkStep beyond (at_ m) (schedule m) from Run.stateAt_succ ..]
      rw [turn, same] at less part ⊢
      exact less.resolve_left (client arrived (arrives _ _ some_ part))
    · refine ⟨_, (fair c member).2, fun m _ same turn => ?_⟩
      obtain ⟨now, arrived, some_, turn⟩ := turn
      have less := led m
      have part := good m
      rw [show at_ (m + 1) = networkStep beyond (at_ m) (schedule m) from Run.stateAt_succ ..]
      rw [turn, same] at less part ⊢
      exact less.resolve_left (server now arrived (arrives _ _ some_ part))
  obtain ⟨n, closed⟩ := Run.ranked_ends id
    (fun net' net : Network => net'.remaining clients < net.remaining clients)
    (measure fun net : Network => net.remaining clients).wf Done
    (fun n => by
      rw [Run.stateAt_succ]
      exact led n) progress
  refine ⟨n, fun c member => ?_⟩
  have link := (underway n).linked.link c
  obtain ⟨exited, ended⟩ := closed c member
  obtain ⟨ready, none⟩ := link.returned exited
  have rights := link.callsRight
  obtain ⟨done, _, _, sent, served, received⟩ := link.idle ready
  refine ⟨exited, none, ended, ?_, ?_⟩
  · have handled := rights.handled
    rwa [List.take_of_length_le] at handled
    rw [sent, served, List.length_map, List.length_map]
  · refine rights.reported.eq_of_length ?_
    rw [received, served, List.length_map, List.length_map, List.length_map]

/-- Clients and threads take turns around, and every `Receive` can fill its buffer. -/
theorem calls_return_anna_bob :
    let calls : Socket → List Call := fun c =>
      if c = 7 then [.sendConnect, .sendCreateAccount [65, 110, 110, 97] [] [] 4711,
        .sendLogIn [65, 110, 110, 97] 4711, .sendDeposit 500, .sendTransaction]
      else if c = 8 then [.sendConnect, .sendBalance] else []
    let schedule : Nat → Socket × Party := fun n =>
      (if n % 2 = 0 then 7 else 8, if n / 2 % 2 = 0 then .client 511 else .server 0 2047)
    ∃ n, ∀ c ∈ ({7, 8} : Finset Socket),
      let v := (runNetwork [] .empty .empty calls (Run.firstTurns schedule n)).connection c
      v.client.exited = true ∧ v.client.calls = [] ∧ v.bTerminate = true ∧
        List.Forall₂ SameRequest v.sent (v.served.map Prod.fst) ∧
        v.received = v.served.map fun e => e.2.report := by
  intro calls schedule
  have at_ (k : Nat) (r : Nat) : (4 * k + r) % 2 = r % 2 ∧ (4 * k + r) / 2 % 2 = r / 2 % 2 := by
    omega
  have own : OwnKeys (.boot .empty .empty) :=
    ⟨fun _ _ found => (by cases found), fun _ _ found => (by cases found)⟩
  have connects : ∀ c ∈ ({7, 8} : Finset Socket),
      calls c = [] ∨ (calls c).head? = some .sendConnect := by
    intro c member
    simp only [Finset.mem_insert, Finset.mem_singleton] at member
    rcases member with rfl | rfl
    · exact Or.inr rfl
    · exact Or.inr rfl
  have all (n : Nat) : (schedule n).1 ∈ ({7, 8} : Finset Socket) := by
    simp only [schedule]
    split
    · decide
    · decide
  have fill (n : Nat) : FillsBuffer (schedule n) := by
    simp only [schedule]
    by_cases clients_ : n / 2 % 2 = 0
    · rw [if_pos clients_]
      exact le_refl 511
    · rw [if_neg clients_]
      exact le_refl 2047
  have start : Underway {7, 8} (networkStart .empty .empty calls) :=
    underway_start connects (by decide) own rfl (by decide)
  have whole (n : Nat) : Run.Avoids (networkStep []) Splits (networkStart .empty .empty calls)
      (Run.firstTurns schedule n) :=
    avoids_splits [] start _ (Run.forall_mem_firstTurns all) (Run.forall_mem_firstTurns fill)
  refine calls_return [] .empty .empty calls {7, 8} connects (by decide) own rfl (by decide)
    schedule all whole (fun c member => ?_)
  simp only [Finset.mem_insert, Finset.mem_singleton] at member
  rcases member with rfl | rfl
  · refine ⟨fun n => ⟨4 * n + 0, by omega, 511, by decide, ?_⟩,
      fun n => ⟨4 * n + 2, by omega, 0, 2047, by decide, ?_⟩⟩
    · simp only [schedule, at_]
      rfl
    · simp only [schedule, at_]
      rfl
  · refine ⟨fun n => ⟨4 * n + 1, by omega, 511, by decide, ?_⟩,
      fun n => ⟨4 * n + 3, by omega, 0, 2047, by decide, ?_⟩⟩
    · simp only [schedule, at_]
      rfl
    · simp only [schedule, at_]
      rfl

end Cnp
