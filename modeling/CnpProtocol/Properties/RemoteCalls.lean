import CnpProtocol.Library.Logs
import CnpProtocol.Properties.LinkedConnections

/-!
# Remote calls

The clients of `CNP_Client.cpp` and the server together: every request is handled once and in
order, the server behaves as if it took the requests one after the other, and a call reports
what the server has done for it.
-/

namespace Cnp

/-! ### The server alone -/

/-- A request was answered as the handler answers it. -/
def Answered (s : Server) (e : Socket × LogEntry) : Prop :=
  ∀ now r o, e.2 = .served now r o → o = dispatch s e.1 now r

/-- The log shows what the server does with the requests one after the other. -/
def Network.Replays (s : Server) (net : Network) : Prop :=
  Run.Replays step (fun e : Socket × LogEntry => e.2.op? e.1) Answered s net.server.shared net.log

theorem Network.Replays.step {s : Server} {net : Network} (h : net.Replays s)
    (beyond : List Byte) (turn : Socket × Party) : (networkStep beyond net turn).Replays s := by
  have effect := networkStep_turned beyond net turn
  generalize networkStep beyond net turn = net' at *
  cases effect with
  | idle => exact h
  | exited c arrived running calls => exact h
  | sent c arrived call rest running calls ready =>
    refine h.concat (c, .sent _) rfl ?_
    rintro _ _ _ ⟨⟩
  | received c arrived call rest running calls waits taken =>
    refine h.concat (c, .received _ _) rfl ?_
    rintro _ _ _ ⟨⟩
  | served c now arrived data r running taken read =>
    refine h.concat (c, .served now r (dispatch net.server.shared c now r)) ?_ ?_
    · exact (connectionsStep_data now running read).1
    · rintro _ _ _ ⟨⟩
      rfl
  | ignored c now arrived data running taken read =>
    have same : (connectionsStep net.server (c, .data data now)).shared = net.server.shared := by
      simp [connectionsStep, Run.Threads.step, clientThreadStep, dispatchBuffer, running, read]
    change Run.Replays Cnp.step (fun e : Socket × LogEntry => e.2.op? e.1) Answered s
      (connectionsStep net.server (c, .data data now)).shared net.log
    rw [same]
    exact h
  | closed c now arrived running empty exited =>
    refine h.concat (c, .closed (net.server.phase c).wClientID) ?_ ?_
    · simp [closeTurn, connectionsStep, Run.Threads.step, clientThreadStep, running, LogEntry.op?]
      rfl
    · rintro _ _ _ ⟨⟩

theorem replays_run (beyond : List Byte) (accounts : AccountMap) (transactions : TransactionMap)
    (calls : Socket → List Call) (turns : List (Socket × Party)) :
    (runNetwork beyond accounts transactions calls turns).Replays
      (.boot accounts transactions) := by
  have start : (networkStart accounts transactions calls).Replays (.boot accounts transactions) :=
    Run.replays_nil
  exact Run.invariant (networkStep beyond) (Network.Replays _) (fun _ => True)
    (fun _ turn _ h => h.step beyond turn) _ start turns fun _ _ => trivial

/-! ### Every call -/

/-- What a connection shows: the requests are handled once and in order, the client reads
their codes and records, one message is under way at most, and a client only waits in vain
for the answer to a request without a client ID. -/
structure CallsRight (v : Connection) : Prop where
  handled : List.Forall₂ SameRequest (v.sent.take v.served.length) (v.served.map Prod.fst)
  reported : v.received <+: v.served.map fun e => e.2.report
  unserved : v.sent.length ≤ v.received.length + 1
  waiting : v.client.waiting = true ↔ v.sent.length = v.received.length + 1
  request : v.toServer = [] ∨ v.toClient = [] ∧
    ∃ r, v.sent.getLast? = some r ∧ v.toServer = r.bytes
  response : v.toClient = [] ∨ v.toServer = [] ∧
    ∃ (e : Request × Outcome) (resp : Response), v.served.getLast? = some e ∧
      v.toClient = resp.bytes ∧ (resp.getResponseResult, resp.transactions) = e.2.report
  answered : v.client.waiting = true → v.toServer = [] → v.toClient = [] →
    v.client.program.wClientID = invalidClientID ∧
      ∃ r, v.sent.getLast? = some r ∧ r.type ≠ .connect

theorem Link.callsRight {s : Server} {c : Socket} {v : Connection} (h : Link s c v) :
    CallsRight v := by
  have alike (done : List RemoteCall) :
      List.Forall₂ SameRequest (done.map (·.request)) (done.map (·.read)) := by
    induction done with
    | nil => exact .nil
    | cons e rest ih => exact .cons e.same ih
  have reads (done : List RemoteCall) :
      (done.map (·.served)).map Prod.fst = done.map (·.read) := by
    rw [List.map_map]
    rfl
  have reports (done : List RemoteCall) :
      (done.map (·.served)).map (fun e => e.2.report) = done.map (·.report) := by
    rw [List.map_map]
    rfl
  cases h.stage with
  | idle done waiting toServer toClient sent served received =>
    refine ⟨?_, ?_, ?_, ?_, Or.inl toServer, Or.inl toClient, ?_⟩
    · rw [sent, served, reads, List.take_of_length_le (by simp)]
      exact alike done
    · rw [received, served, reports]
    · simp [sent, received]
    · simp [waiting, sent, received]
    · simp [waiting]
  | requested done call rest dwSequence calls waiting toServer toClient sent served received =>
    refine ⟨?_, ?_, ?_, ?_, Or.inr ⟨toClient, _, ?_, toServer⟩, Or.inl toClient, ?_⟩
    · rw [sent, served, reads, List.take_left' (by simp)]
      exact alike done
    · rw [received, served, reports]
    · simp [sent, received]
    · simp [waiting, sent, received]
    · rw [sent, List.getLast?_concat]
    · intro _ nothing
      have length := (call.length_request dwSequence v.client.program.wClientID
        v.client.program.dwStartID).1
      rw [← toServer, nothing] at length
      exact absurd length (Nat.lt_irrefl 0)
  | responded done last call rest resp calls waiting toServer toClient expects report session
      sent served received =>
    refine ⟨?_, ?_, ?_, ?_, Or.inl toServer,
      Or.inr ⟨toServer, last.served, resp, ?_, toClient, report⟩, ?_⟩
    · rw [sent, served, reads, List.take_of_length_le (by simp)]
      exact alike _
    · rw [received, served, reports, List.map_append]
      exact List.prefix_append _ _
    · simp [sent, received]
    · simp [waiting, sent, received]
    · rw [served, List.map_append, List.map_singleton, List.getLast?_concat]
    · intro _ _ nothing
      have length := resp.le_length_bytes
      rw [← toClient, nothing] at length
      exact absurd length (by decide)
  | unanswered done last call rest calls waiting toServer toClient unconnected other unanswered
      sent served received =>
    refine ⟨?_, ?_, ?_, ?_, Or.inl toServer, Or.inl toClient, fun _ _ _ => ⟨unconnected, ?_⟩⟩
    · rw [sent, served, reads, List.take_of_length_le (by simp)]
      exact alike _
    · rw [received, served, reports, List.map_append]
      exact List.prefix_append _ _
    · simp [sent, received]
    · simp [waiting, sent, received]
    · rw [sent, List.map_append, List.map_singleton, List.getLast?_concat]
      exact ⟨last.request, rfl, unanswered⟩

/-- In every run of clients and server, in any order of their turns, that does not run out of
client IDs and in which no message arrives in parts: the tables are those that the logged
requests leave when they are handled one after the other, every logged outcome is what the
handler answers at that point, and on every connection the calls are right. -/
theorem remote_calls (beyond : List Byte) (accounts : AccountMap) (transactions : TransactionMap)
    (calls : Socket → List Call) (turns : List (Socket × Party))
    (fine : Run.Avoids (networkStep beyond) RunsOut (networkStart accounts transactions calls)
      turns)
    (whole : Run.Avoids (networkStep beyond) Splits (networkStart accounts transactions calls)
      turns) :
    let net := runNetwork beyond accounts transactions calls turns
    net.server.shared = run (.boot accounts transactions) (opsOf net.log) ∧
      (∀ before c now r o after, net.log = before ++ (c, .served now r o) :: after →
        o = dispatch (run (.boot accounts transactions) (opsOf before)) c now r) ∧
      ∀ c, CallsRight (net.connection c) := by
  intro net
  have replays := replays_run beyond accounts transactions calls turns
  have linked := linked_run beyond accounts transactions calls turns fine whole
  refine ⟨replays.state, fun before c now r o after split => ?_,
    fun c => (linked.link c).callsRight⟩
  exact replays.entries before (c, .served now r o) after split now r o rfl

/-! ### Runs that are short enough -/

/-- The server takes a turn or does not. -/
theorem networkStep_server (beyond : List Byte) (net : Network) (turn : Socket × Party) :
    (networkStep beyond net turn).server = net.server ∨
      ∃ result, (networkStep beyond net turn).server =
        connectionsStep net.server (turn.1, result) := by
  have effect := networkStep_turned beyond net turn
  generalize networkStep beyond net turn = net' at *
  cases effect with
  | served => exact Or.inr ⟨_, rfl⟩
  | ignored => exact Or.inr ⟨_, rfl⟩
  | closed => exact Or.inr ⟨_, rfl⟩
  | _ => exact Or.inl rfl

/-- A turn adds at most the client ID behind the largest one. -/
theorem connectionsStep_live {sys : Connections} {n : Nat}
    (bound : ∀ w, Live sys.shared.sessionInfo w → w.toNat ≤ n) (c : Socket)
    (result : ReceiveResult) (w : Word)
    (live : Live (connectionsStep sys (c, result)).shared.sessionInfo w) : w.toNat ≤ n + 1 := by
  have effect := connectionsStep_effect sys c result
  generalize (connectionsStep sys (c, result)).shared = s' at *
  generalize (connectionsStep sys (c, result)).phase c = t' at *
  cases effect with
  | idle => exact (bound w live).trans (Nat.le_succ n)
  | closed running =>
    rw [live_iff, socketOf_processDisconnect] at live
    split at live
    · cases live
    · exact (bound w ((live_iff _ _).mpr live)).trans (Nat.le_succ n)
  | connect received qwNow m running cast =>
    by_cases accepted : m.Accepted
    · rw [(processConnectRequest_accepted sys.shared m c accepted).2.2] at live
      change ((sys.shared.sessionInfo.insert _ _).find? w).isSome = true at live
      rw [OrderedMap.find?_insert] at live
      split at live
      next new =>
        -- the new ID
        rw [new, newClientID]
        split
        next last found =>
          have below := bound last (sys.shared.sessionInfo.lastKey_mem found)
          rw [BitVec.toNat_add]
          exact (Nat.mod_le _ _).trans (Nat.add_le_add_right below 1)
        · exact Nat.le_add_left 1 n
      · exact (bound w live).trans (Nat.le_succ n)
    · rw [(processConnectRequest_refused sys.shared m c accepted).2] at live
      exact (bound w live).trans (Nat.le_succ n)
  | request received qwNow r other =>
    rw [live_iff, socketOf_dispatch sys.shared c qwNow r other] at live
    exact (bound w ((live_iff _ _).mpr live)).trans (Nat.le_succ n)

theorem live_runNetwork (beyond : List Byte) (accounts : AccountMap)
    (transactions : TransactionMap) (calls : Socket → List Call) (turns : List (Socket × Party))
    (w : Word) (live : Live
      (runNetwork beyond accounts transactions calls turns).server.shared.sessionInfo w) :
    w.toNat ≤ turns.length := by
  induction turns using List.reverseRecOn generalizing w with
  | nil => exact absurd live Bool.false_ne_true
  | append_singleton turns turn ih =>
    rw [runNetwork, Run.run_append, Run.run_cons, Run.run_nil] at live
    rw [List.length_append, List.length_singleton]
    rcases networkStep_server beyond (Run.run (networkStep beyond)
      (networkStart accounts transactions calls) turns) turn with same | ⟨result, server⟩
    · rw [same] at live
      exact (ih w live).trans (Nat.le_succ _)
    · rw [server] at live
      exact connectionsStep_live ih turn.1 result w live

/-- The client IDs last for 65534 turns, whatever the clients do. -/
theorem avoids_runsOut (beyond : List Byte) (accounts : AccountMap)
    (transactions : TransactionMap) (calls : Socket → List Call) (turns : List (Socket × Party))
    (short : turns.length ≤ 65534) :
    Run.Avoids (networkStep beyond) RunsOut (networkStart accounts transactions calls) turns := by
  rintro before turn after rfl ⟨received, now, arrived, _, _, live, _⟩
  have reached := live_runNetwork beyond accounts transactions calls before 65534 live
  rw [List.length_append, List.length_cons] at short
  have last : before.length ≥ 65534 := reached
  omega

/-- Anna opens an account and pays in while Bob looks at his balance without connecting; now and
then nothing has arrived yet. -/
theorem remote_calls_anna :
    let calls : Socket → List Call := fun c =>
      if c = 7 then [.sendConnect, .sendCreateAccount [65, 110, 110, 97] [] [] 4711,
        .sendLogIn [65, 110, 110, 97] 4711, .sendDeposit 500, .sendTransaction]
      else if c = 8 then [.sendBalance] else []
    let turns : List (Socket × Party) := (List.range 80).map fun n =>
      (7 + n % 2, if n / 2 % 2 = 0 then .client (n % 3 * 500) else .server 0 (n % 5 * 500))
    let net := runNetwork [] .empty .empty calls turns
    ((net.connection 7).received.map Prod.fst = List.replicate 5 CerType.success.code ∧
        (net.connection 8).client.waiting = true) ∧
      net.server.shared = run (.boot .empty .empty) (opsOf net.log) ∧
      (∀ before c now r o after, net.log = before ++ (c, .served now r o) :: after →
        o = dispatch (run (.boot .empty .empty) (opsOf before)) c now r) ∧
      ∀ c, CallsRight (net.connection c) := by
  intro calls turns
  have whole : ∀ k < 80, ¬ Splits (runNetwork [] .empty .empty calls (turns.take k))
      (turns.getD k (7, .client 0)) := by
    decide +kernel
  refine ⟨by decide +kernel, remote_calls [] .empty .empty calls turns
    (avoids_runsOut [] .empty .empty calls turns (by decide))
    (Run.avoids_of_getElem? _ _ fun k turn taken => ?_)⟩
  obtain ⟨inside, rfl⟩ := List.getElem?_eq_some_iff.mp taken
  have here := whole k (by simpa [turns] using inside)
  rwa [List.getD_eq_getElem _ _ inside] at here

end Cnp
