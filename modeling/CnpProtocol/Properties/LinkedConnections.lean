import CnpProtocol.Properties.Disconnects
import CnpProtocol.Properties.MessageDelivery

/-!
# Connections

A connection of a client of `CNP_Client.cpp`. A call sends one request and waits for one
response, so there is at most one message under way, and `Receive` never sees two messages at
once or the rest of one. The invariant says where a connection is in a call, and holds as long
as no connect gets `INVALID_CLIENT_ID`.
-/

namespace Cnp

/-! ### Sessions of connections -/

/-- A client ID, unless it is the invalid one, names a session of the connection. -/
def Names (s : Server) (c : Socket) (w : Word) : Prop :=
  w ≠ invalidClientID → socketOf s w = some (some c)

/-- Every running thread remembers a session of its own connection. -/
structure OwnSessions (sys : Connections) : Prop where
  remembered : ∀ c, (sys.phase c).bTerminate = false → Names sys.shared c (sys.phase c).wClientID
  invalid : ¬ Live sys.shared.sessionInfo invalidClientID

theorem live_iff (s : Server) (w : Word) : Live s.sessionInfo w ↔ (socketOf s w).isSome := by
  rw [Live, socketOf, Option.isSome_map]

theorem ownSessions_start (accounts : AccountMap) (transactions : TransactionMap) :
    OwnSessions (connectionsStart accounts transactions) where
  remembered := fun _ _ valid => absurd rfl valid
  invalid := Bool.false_ne_true

/-- A turn in which a thread takes a connect although 65534 is in use. -/
def ConnectsLast (sys : Connections) (c : Socket) (result : ReceiveResult) : Prop :=
  Live sys.shared.sessionInfo 65534 ∧ ∃ received qwNow m, result = .data received qwNow ∧
    requestAt ((sys.phase c).rgBuffer.receive received).bytes = some (.connect m)

section Turn

variable {sys : Connections} (h : OwnSessions sys) (c : Socket) (result : ReceiveResult)

include h in
/-- Only the end of its own connection takes a session away. -/
theorem OwnSessions.names (c' : Socket) (w : Word) (kept : result = .closed → c' ≠ c)
    (names : Names sys.shared c' w) :
    Names (connectionsStep sys (c, result)).shared c' w := by
  intro valid
  have found := names valid
  have effect := connectionsStep_effect sys c result
  generalize (connectionsStep sys (c, result)).shared = s' at *
  generalize (connectionsStep sys (c, result)).phase c = t' at *
  cases effect with
  | idle => exact found
  | closed running =>
    rw [socketOf_processDisconnect, if_neg ?_, found]
    rintro rfl
    -- the session would be on both connections
    have mine := h.remembered c running valid
    rw [found] at mine
    exact kept rfl (Option.some.inj (Option.some.inj mine))
  | connect received qwNow m running cast =>
    by_cases accepted : m.Accepted
    · obtain ⟨_, _, server⟩ := processConnectRequest_accepted sys.shared m c accepted
      have unused := newClientID_unused sys.shared.sessionInfo h.invalid
      rw [server, socketOf_addSession _ _ _ unused, if_neg ?_, found]
      rintro rfl
      rw [socketOf, unused] at found
      cases found
    · rw [(processConnectRequest_refused sys.shared m c accepted).2, found]
  | request received qwNow r other =>
    rw [socketOf_dispatch sys.shared c qwNow r other, found]

include h in
theorem OwnSessions.step (fine : ¬ ConnectsLast sys c result) :
    OwnSessions (connectionsStep sys (c, result)) := by
  have others (c' : Socket) (other : c' ≠ c) :
      (connectionsStep sys (c, result)).phase c' = sys.phase c' :=
    Run.Threads.step_phase_of_ne clientThreadStep sys c c' result other
  have dead : socketOf sys.shared invalidClientID = none := by
    apply Option.not_isSome_iff_eq_none.mp
    rw [← live_iff]
    exact h.invalid
  have effect := connectionsStep_effect sys c result
  have names := h.names c result
  generalize connectionsStep sys (c, result) = sys' at *
  generalize own : sys'.phase c = t' at *
  -- it remains to look at the thread that takes the turn
  suffices turn : socketOf sys'.shared invalidClientID = none ∧
      (t'.bTerminate = false → Names sys'.shared c t'.wClientID) by
    refine ⟨fun c' running => ?_, ?_⟩
    · by_cases acting : c' = c
      · subst acting
        rw [own] at running ⊢
        exact turn.2 running
      · rw [others c' acting] at running ⊢
        exact names c' _ (fun _ => acting) (h.remembered c' running)
    · rw [live_iff, turn.1]
      exact Bool.false_ne_true
  generalize sys'.shared = s' at *
  cases effect with
  | idle result' rgBuffer => exact ⟨dead, h.remembered c⟩
  | closed running =>
    refine ⟨?_, fun open_ => nomatch open_⟩
    rw [socketOf_processDisconnect, dead]
    exact ite_self _
  | connect received qwNow m running cast =>
    by_cases accepted : m.Accepted
    · obtain ⟨_, id, server⟩ := processConnectRequest_accepted sys.shared m c accepted
      have unused := newClientID_unused sys.shared.sessionInfo h.invalid
      refine ⟨?_, fun _ _ => ?_⟩
      · -- the successor of 65534 is not given out
        rw [server, socketOf_addSession _ _ _ unused, if_neg ?_, dead]
        intro last
        have live := ((newClientID_eq_invalid_iff _).mp last.symm).1
        exact fine ⟨live, received, qwNow, m, rfl, cast⟩
      · rw [id, server, socketOf_addSession _ _ _ unused, if_pos rfl]
    · obtain ⟨id, server⟩ := processConnectRequest_refused sys.shared m c accepted
      exact ⟨by rw [server, dead], fun _ valid => absurd id valid⟩
  | request received qwNow r other =>
    refine ⟨by rw [socketOf_dispatch sys.shared c qwNow r other, dead], fun running => ?_⟩
    exact names c _ (fun closed => nomatch closed) (h.remembered c running)

end Turn

/-! ### One connection -/

/-- The records in what a handler sent. -/
def Outcome.records (o : Outcome) : List Transaction := o.sent.flatMap fun out => out.2.transactions

/-- What a call has to report when the server has answered it. -/
def Outcome.report (o : Outcome) : Dword × List Transaction := (o.cerRR.code, o.records)

/-- The state of one connection and what was logged on it. -/
structure Connection where
  client : ClientProcess
  bTerminate : Bool
  toServer : List Byte
  toClient : List Byte
  sent : List Request
  served : List (Request × Outcome)
  received : List (Dword × List Transaction)

def Network.connection (net : Network) (c : Socket) : Connection where
  client := net.clients c
  bTerminate := (net.server.phase c).bTerminate
  toServer := net.toServer c
  toClient := net.toClient c
  sent := (logOf c net.log).filterMap LogEntry.request?
  served := (logOf c net.log).filterMap LogEntry.served?
  received := (logOf c net.log).filterMap LogEntry.received?

namespace Connection

variable (v : Connection) (call : Call)

def exit : Connection := { v with client := { v.client with exited := true } }

def send : Connection :=
  let p := v.client.program
  let request := call.request p.dwSequenceNumber p.wClientID p.dwStartID
  { v with
    client := { v.client with
      program := { p with dwSequenceNumber := p.dwSequenceNumber + 1 }
      waiting := true }
    toServer := v.toServer ++ request.bytes
    sent := v.sent ++ [request] }

def receive (beyond : List Byte) : Connection :=
  let p := v.client.program
  let szBuffer := ReceiveBuffer.receive p.szBuffer v.toClient
  let turn := call.finish beyond { p with szBuffer }
  let cerResult : Dword := BitVec.ofNat 32 (call.respType.get (szBuffer.bytes ++ beyond) .result)
  { v with
    client := { v.client with
      program := turn.program
      calls := if turn.cerResult.isSome then v.client.calls.tail else v.client.calls
      waiting := false }
    toClient := v.toClient.drop (sizeofSzBuffer - 1)
    received := v.received ++ [(cerResult, turn.printed)] }

/-- The thread has handled a request. -/
def serve (bTerminate : Bool) (sent : List Byte) (r : Request) (o : Outcome) : Connection :=
  { v with
    bTerminate
    toServer := v.toServer.drop (sizeofRgBuffer - 1)
    toClient := v.toClient ++ sent
    served := v.served ++ [(r, o)] }

end Connection

/-- A request and what the server has made of it. -/
structure RemoteCall where
  request : Request
  read : Request
  outcome : Outcome
  same : SameRequest request read

namespace RemoteCall

def served (e : RemoteCall) : Request × Outcome := (e.read, e.outcome)

def report (e : RemoteCall) : Dword × List Transaction := e.outcome.report

end RemoteCall

/-- Where a connection is between two calls. -/
inductive Stage (s : Server) (c : Socket) (v : Connection) : Prop
  | idle (done : List RemoteCall) (waiting : v.client.waiting = false) (toServer : v.toServer = [])
      (toClient : v.toClient = []) (sent : v.sent = done.map (·.request))
      (served : v.served = done.map (·.served)) (received : v.received = done.map (·.report))
  | requested (done : List RemoteCall) (call : Call) (rest : List Call) (dwSequence : Dword)
      (calls : v.client.calls = call :: rest) (waiting : v.client.waiting = true)
      (toServer : v.toServer = (call.request dwSequence v.client.program.wClientID
        v.client.program.dwStartID).bytes)
      (toClient : v.toClient = [])
      (sent : v.sent = done.map (·.request) ++ [call.request dwSequence
        v.client.program.wClientID v.client.program.dwStartID])
      (served : v.served = done.map (·.served)) (received : v.received = done.map (·.report))
  | responded (done : List RemoteCall) (last : RemoteCall) (call : Call) (rest : List Call)
      (resp : Response) (calls : v.client.calls = call :: rest)
      (waiting : v.client.waiting = true) (toServer : v.toServer = [])
      (toClient : v.toClient = resp.bytes) (expects : call.Expects resp)
      (report : (resp.getResponseResult, resp.transactions) = last.report)
      (session : ∀ w, resp.newClientID? = some w →
        resp.getResponseResult = CerType.success.code ∧ w ≠ invalidClientID ∧ Names s c w)
      (sent : v.sent = (done ++ [last]).map (·.request))
      (served : v.served = (done ++ [last]).map (·.served))
      (received : v.received = done.map (·.report))
  /-- The client waits for ever. -/
  | unanswered (done : List RemoteCall) (last : RemoteCall) (call : Call) (rest : List Call)
      (calls : v.client.calls = call :: rest) (waiting : v.client.waiting = true)
      (toServer : v.toServer = []) (toClient : v.toClient = [])
      (unconnected : v.client.program.wClientID = invalidClientID)
      (other : call ≠ .sendConnect) (unanswered : last.request.type ≠ .connect)
      (sent : v.sent = (done ++ [last]).map (·.request))
      (served : v.served = (done ++ [last]).map (·.served))
      (received : v.received = done.map (·.report))

/-- A connection, its thread and the sessions. -/
structure Link (s : Server) (c : Socket) (v : Connection) : Prop where
  running : v.client.exited = false → v.bTerminate = false
  names : v.client.exited = false → Names s c v.client.program.wClientID
  returned : v.client.exited = true → v.client.waiting = false ∧ v.client.calls = []
  stage : Stage s c v

/-- The tables may change as long as no session of the connection is lost. -/
theorem Link.frame {s s' : Server} {c : Socket} {v : Connection} (h : Link s c v)
    (kept : ∀ w, Names s c w → Names s' c w) : Link s' c v where
  running := h.running
  names := fun running => kept _ (h.names running)
  returned := h.returned
  stage := by
    cases h.stage with
    | idle done waiting toServer toClient sent served received =>
      exact .idle done waiting toServer toClient sent served received
    | requested done call rest dwSequence calls waiting toServer toClient sent served received =>
      exact .requested done call rest dwSequence calls waiting toServer toClient sent served
        received
    | responded done last call rest resp calls waiting toServer toClient expects report session
        sent served received =>
      refine .responded done last call rest resp calls waiting toServer toClient expects report
        (fun w new => ?_) sent served received
      obtain ⟨success, valid, names⟩ := session w new
      exact ⟨success, valid, kept w names⟩
    | unanswered done last call rest calls waiting toServer toClient unconnected other unanswered
        sent served received =>
      exact .unanswered done last call rest calls waiting toServer toClient unconnected other
        unanswered sent served received

/-! ### The turns of a client -/

section Client

variable {s : Server} {c : Socket} {v : Connection} (h : Link s c v)

include h

/-- A client that is not in a call has nothing under way. -/
theorem Link.idle (ready : v.client.waiting = false) :
    ∃ done : List RemoteCall, v.toServer = [] ∧ v.toClient = [] ∧
      v.sent = done.map (·.request) ∧ v.served = done.map (·.served) ∧
        v.received = done.map (·.report) := by
  cases h.stage with
  | idle done waiting toServer toClient sent served received =>
    exact ⟨done, toServer, toClient, sent, served, received⟩
  | requested done call rest dwSequence calls waiting => exact nomatch ready.symm.trans waiting
  | responded done last call rest resp calls waiting => exact nomatch ready.symm.trans waiting
  | unanswered done last call rest calls waiting => exact nomatch ready.symm.trans waiting

/-- A client that waits is in a call. -/
theorem Link.ready_of_nil (none : v.client.calls = []) : v.client.waiting = false := by
  cases h.stage with
  | idle done waiting => exact waiting
  | requested done call rest dwSequence calls => exact nomatch none.symm.trans calls
  | responded done last call rest resp calls => exact nomatch none.symm.trans calls
  | unanswered done last call rest calls => exact nomatch none.symm.trans calls

/-- Nothing under way is larger than the buffer it is received in. -/
theorem Link.length_le :
    v.toServer.length ≤ sizeofRgBuffer - 1 ∧ v.toClient.length ≤ sizeofSzBuffer - 1 := by
  cases h.stage with
  | idle done waiting toServer toClient => simp [toServer, toClient]
  | requested done call rest dwSequence calls waiting toServer toClient =>
    exact ⟨toServer ▸ (call.length_request _ _ _).2, by simp [toClient]⟩
  | responded done last call rest resp calls waiting toServer toClient expects =>
    exact ⟨by simp [toServer], toClient ▸ expects.length_le⟩
  | unanswered done last call rest calls waiting toServer toClient => simp [toServer, toClient]

theorem Link.exit (none : v.client.calls = []) :
    Link s c v.exit where
  running := fun exited => nomatch exited
  names := fun exited => nomatch exited
  returned := fun _ => ⟨h.ready_of_nil none, none⟩
  stage := by
    obtain ⟨done, toServer, toClient, sent, served, received⟩ := h.idle (h.ready_of_nil none)
    exact .idle done (h.ready_of_nil none) toServer toClient sent served received

theorem Link.send (open_ : v.client.exited = false) (ready : v.client.waiting = false)
    (call : Call) (rest : List Call) (calls : v.client.calls = call :: rest) :
    Link s c (v.send call) where
  running := h.running
  names := h.names
  returned := fun exited => nomatch open_.symm.trans exited
  stage := by
    obtain ⟨done, toServer, toClient, sent, served, received⟩ := h.idle ready
    refine .requested done call rest v.client.program.dwSequenceNumber calls rfl ?_ toClient ?_
      served received
    · exact congrArg (· ++ _) toServer
    · exact congrArg (· ++ _) sent

/-- What has arrived is the response the call expects. -/
theorem Link.arrived (arrived : v.toClient ≠ []) {call : Call} {rest : List Call}
    (calls : v.client.calls = call :: rest) :
    ∃ (done : List RemoteCall) (last : RemoteCall) (resp : Response), v.toServer = [] ∧
      v.toClient = resp.bytes ∧ call.Expects resp ∧
      (resp.getResponseResult, resp.transactions) = last.report ∧
      (∀ w, resp.newClientID? = some w →
        resp.getResponseResult = CerType.success.code ∧ w ≠ invalidClientID ∧ Names s c w) ∧
      v.sent = (done ++ [last]).map (·.request) ∧ v.served = (done ++ [last]).map (·.served) ∧
        v.received = done.map (·.report) := by
  cases h.stage with
  | idle done waiting toServer toClient => exact absurd toClient arrived
  | requested done call rest dwSequence calls waiting toServer toClient =>
    exact absurd toClient arrived
  | unanswered done last call rest calls waiting toServer toClient =>
    exact absurd toClient arrived
  | responded done last call' rest' resp calls' waiting toServer toClient expects report session
      sent served received =>
    obtain ⟨rfl, rfl⟩ := List.cons.inj (calls.symm.trans calls')
    exact ⟨done, last, resp, toServer, toClient, expects, report, session, sent, served, received⟩

theorem Link.receive (beyond : List Byte) (open_ : v.client.exited = false)
    (arrived : v.toClient ≠ []) (call : Call) (rest : List Call)
    (calls : v.client.calls = call :: rest) : Link s c (v.receive call beyond) := by
  obtain ⟨done, last, resp, toServer, toClient, expects, report, session, sent, served, received⟩ :=
    h.arrived arrived calls
  have result := call.read_result_delivered resp beyond v.client.program
  have printed := expects.printed_eq beyond v.client.program
  simp only [Connection.receive, toClient]
  refine ⟨h.running, fun _ => ?_, fun exited => (nomatch open_.symm.trans exited),
    .idle (done ++ [last]) rfl toServer ?_ sent served ?_⟩
  · -- a connect brings a new client ID
    cases new : resp.newClientID? with
    | none =>
      have same := expects.wClientID_of_none beyond v.client.program new
      exact same.symm ▸ h.names open_
    | some w =>
      obtain ⟨success, _, names⟩ := session w new
      have id := expects.wClientID_of_some beyond v.client.program new success
      exact id.symm ▸ names
  · exact List.drop_eq_nil_of_le expects.length_le
  · rw [List.map_append, List.map_singleton, ← report, ← result, ← printed, received]
    rfl

end Client

/-! ### The turns of a thread -/

/-- The client ID in a connect response is the new one, and the client's connects succeed. -/
theorem Call.newClientID_sent (call : Call) (dwSequence : Dword) (w : Word) (dwStartID : Dword)
    (s : Server) (c : Socket) (now : Qword) (out : Socket × Response)
    (member : out ∈ (dispatch s c now (call.request dwSequence w dwStartID)).sent) (new : Word)
    (found : out.2.newClientID? = some new) :
    call = .sendConnect ∧ out.2.getResponseResult = CerType.success.code ∧
      new = newClientID s.sessionInfo := by
  have expects := call.expects_sent dwSequence w dwStartID s c now out member
  cases response : out.2 with
  | connect m =>
    rw [response] at expects found
    cases found
    cases call with
    | sendConnect =>
      have accepted : (ConnectRequest.init dwSequence 0 majorVersion minorVersion validationKey
        0).Accepted :=
        ⟨rfl, (by decide : majorVersion ≤ serverMajorVersion),
          (by decide : minorVersion ≤ serverMinorVersion)⟩
      simp only [Call.request, dispatch, processConnectRequest, accepted.key, accepted.major,
        accepted.minor, and_self, if_true] at member
      have same := response.symm.trans ((mem_send_iff _ _ _).mp member).2
      cases same
      exact ⟨rfl, rfl, rfl⟩
    | _ => exact expects.elim
  | _ =>
    rw [response] at found
    cases found

theorem SameRequest.eq_of_connect {m : ConnectRequest} {r : Request}
    (same : SameRequest (.connect m) r) : r = .connect m := by
  cases same
  rfl

/-- A call is answered on its own connection, unless it comes without a client ID. -/
theorem Call.replySocket_request (call : Call) (dwSequence : Dword) {w : Word} (dwStartID : Dword)
    {s : Server} {c : Socket} (names : Names s c w)
    (dead : ¬ Live s.sessionInfo invalidClientID) :
    replySocket s c (call.request dwSequence w dwStartID) = some c ∨
      (w = invalidClientID ∧ (call.request dwSequence w dwStartID).type ≠ .connect ∧
        replySocket s c (call.request dwSequence w dwStartID) = none) := by
  by_cases connect : (call.request dwSequence w dwStartID).type = .connect
  · left
    cases call with
    | sendConnect => rfl
    | _ => cases connect
  · have session : (call.request dwSequence w dwStartID).hdr.clientID = w := by
      cases call with
      | sendConnect => exact absurd rfl connect
      | _ => rfl
    rw [replySocket_of_ne_connect s c _ connect, session]
    by_cases valid : w = invalidClientID
    · right
      refine ⟨valid, connect, ?_⟩
      rw [valid, Option.not_isSome_iff_eq_none.mp dead, Option.bind_none]
    · left
      obtain ⟨i, found, socket⟩ := Option.map_eq_some_iff.mp (names valid)
      rw [found, Option.bind_some, socket]

theorem bytesTo_send (c c' : Socket) (resp : Response) :
    bytesTo c' (send (some c) resp) = if c = c' then resp.bytes else [] := by
  rw [bytesTo, send, Option.toList_some, List.map_singleton]
  split
  next same => simp [same]
  next other => simp [other]

section Thread

variable {s s' : Server} {c : Socket} {v : Connection} (h : Link s c v) (bTerminate : Bool)

include h

/-- The thread of a client that has left ends. -/
theorem Link.close (exited : v.client.exited = true) : Link s' c { v with bTerminate } where
  running := fun open_ => nomatch open_.symm.trans exited
  names := fun open_ => nomatch open_.symm.trans exited
  returned := h.returned
  stage := by
    obtain ⟨ready, _⟩ := h.returned exited
    obtain ⟨done, toServer, toClient, sent, served, received⟩ := h.idle ready
    exact .idle done ready toServer toClient sent served received

/-- What a thread takes from its stream is a request. -/
theorem Link.taken {data : Received} (taken : receive? v.toServer = some data) :
    ∃ (done : List RemoteCall) (call : Call) (rest : List Call) (dwSequence : Dword),
      v.client.exited = false ∧ v.client.calls = call :: rest ∧ v.client.waiting = true ∧
      v.toServer = (call.request dwSequence v.client.program.wClientID
        v.client.program.dwStartID).bytes ∧ v.toClient = [] ∧
      v.sent = done.map (·.request) ++ [call.request dwSequence
        v.client.program.wClientID v.client.program.dwStartID] ∧
      v.served = done.map (·.served) ∧ v.received = done.map (·.report) := by
  have filled : v.toServer ≠ [] := by
    intro nothing
    rw [nothing, receive?_nil] at taken
    cases taken
  cases h.stage with
  | idle done waiting toServer => exact absurd toServer filled
  | responded done last call rest resp calls waiting toServer => exact absurd toServer filled
  | unanswered done last call rest calls waiting toServer => exact absurd toServer filled
  | requested done call rest dwSequence calls waiting toServer toClient sent served received =>
    refine ⟨done, call, rest, dwSequence, ?_, calls, waiting, toServer, toClient, sent, served,
      received⟩
    by_contra exited
    exact nomatch (h.returned (Bool.eq_true_of_not_eq_false exited)).1.symm.trans waiting

end Thread

/-! ### All connections -/

theorem logOf_append (c c' : Socket) (log : List (Socket × LogEntry)) (new : List LogEntry) :
    logOf c' (log ++ new.map fun e => (c, e)) =
      logOf c' log ++ if c = c' then new else [] := by
  rw [logOf, logOf, List.filterMap_append]
  congr 1
  split
  next same =>
    subst same
    simp [List.filterMap_map]
  next other => simp [List.filterMap_map, other]

theorem logOf_concat (c : Socket) (log : List (Socket × LogEntry)) (e : LogEntry) :
    logOf c (log ++ [(c, e)]) = logOf c log ++ [e] := by
  have appended := logOf_append c c log [e]
  rwa [if_pos rfl] at appended

theorem filterMap_logOf {α : Type} (f : LogEntry → Option α) (c : Socket)
    (log : List (Socket × LogEntry)) (e : LogEntry) :
    (logOf c (log ++ [(c, e)])).filterMap f = (logOf c log).filterMap f ++ (f e).toList := by
  rw [logOf_concat, List.filterMap_append]
  cases logged : f e with
  | none => simp [logged]
  | some a => simp [logged]

/-- A turn on another connection. -/
theorem connection_frame {net net' : Network} {c c' : Socket} (other : c' ≠ c)
    (clients : net'.clients c' = net.clients c')
    (phase : net'.server.phase c' = net.server.phase c')
    (toServer : net'.toServer c' = net.toServer c') (toClient : net'.toClient c' = net.toClient c')
    (new : List LogEntry) (log : net'.log = net.log ++ new.map fun e => (c, e)) :
    net'.connection c' = net.connection c' := by
  have quiet : logOf c' net'.log = logOf c' net.log := by
    rw [log, logOf_append, if_neg other.symm, List.append_nil]
  simp only [Network.connection, clients, phase, toServer, toClient, quiet]

theorem sendTurn_connection (net : Network) (c : Socket) (call : Call) :
    (sendTurn net c call).connection c = (net.connection c).send call := by
  simp only [Network.connection, Connection.send, sendTurn, Function.update_self, filterMap_logOf,
    LogEntry.request?, LogEntry.served?, LogEntry.received?, Option.toList_some,
    Option.toList_none, List.append_nil]

/-- All that was sent has arrived. -/
theorem drop_of_arrived {stream : List Byte} {arrived : Nat} (whole : stream.length ≤ arrived)
    (size : Nat) : stream.drop (min arrived size) = stream.drop size := by
  rcases Nat.le_total size arrived with more | less
  · rw [Nat.min_eq_right more]
  · rw [Nat.min_eq_left less, List.drop_eq_nil_of_le whole,
      List.drop_eq_nil_of_le (whole.trans less)]

theorem receiveTurn_connection (beyond : List Byte) (net : Network) (c : Socket) (call : Call)
    {arrived : Nat} (whole : (net.toClient c).length ≤ arrived) :
    (receiveTurn beyond net c call arrived).connection c =
      (net.connection c).receive call beyond := by
  simp only [Network.connection, receiveTurn, Function.update_self, filterMap_logOf,
    LogEntry.request?, LogEntry.served?, LogEntry.received?, Option.toList_some,
    Option.toList_none, List.append_nil, List.take_of_length_le whole, drop_of_arrived whole]
  rfl

theorem exitTurn_connection (net : Network) (c : Socket) :
    (exitTurn net c).connection c = (net.connection c).exit := by
  simp only [Network.connection, Connection.exit, exitTurn, Function.update_self]

/-- The invariant of the network. -/
structure Linked (net : Network) : Prop where
  sessions : OwnSessions net.server
  link : ∀ c, Link net.server.shared c (net.connection c)

theorem linked_start (accounts : AccountMap) (transactions : TransactionMap)
    (calls : Socket → List Call) : Linked (networkStart accounts transactions calls) where
  sessions := ownSessions_start accounts transactions
  link := fun _ => {
    running := fun _ => rfl
    names := fun _ valid => absurd rfl valid
    returned := fun exited => nomatch exited
    stage := .idle [] rfl rfl rfl rfl rfl rfl }

/-- A turn in which a connect is taken although the client ID 65534 is in use. -/
def RunsOut (net : Network) (turn : Socket × Party) : Prop :=
  ∃ received qwNow arrived, turn.2 = .server qwNow arrived ∧
    receive? ((net.toServer turn.1).take arrived) = some received ∧
      ConnectsLast net.server turn.1 (.data received qwNow)

/-- A client that receives, and whose stream has not arrived in part, receives all of it. -/
theorem client_whole {net : Network} {c : Socket} {arrived : Nat}
    (whole : ¬ Splits net (c, .client arrived)) (taken : (net.toClient c).take arrived ≠ []) :
    (net.toClient c).length ≤ arrived ∧ net.toClient c ≠ [] := by
  constructor
  · refine Nat.le_of_not_lt fun part => whole ⟨Nat.pos_of_ne_zero ?_, part⟩
    rintro rfl
    exact taken rfl
  · rintro nothing
    rw [nothing] at taken
    exact taken List.take_nil

/-- The same for a thread. -/
theorem server_whole {net : Network} {c : Socket} {now : Qword} {arrived : Nat} {data : Received}
    (whole : ¬ Splits net (c, .server now arrived))
    (taken : receive? ((net.toServer c).take arrived) = some data) :
    (net.toServer c).length ≤ arrived ∧ receive? (net.toServer c) = some data := by
  have all : (net.toServer c).length ≤ arrived := by
    refine Nat.le_of_not_lt fun part => whole ⟨Nat.pos_of_ne_zero ?_, part⟩
    rintro rfl
    cases taken
  rw [List.take_of_length_le all] at taken
  exact ⟨all, taken⟩

theorem serveTurn_connection (net : Network) (c : Socket) (now : Qword) {arrived : Nat}
    (whole : (net.toServer c).length ≤ arrived) (data : Received) (r : Request) :
    let o := dispatch net.server.shared c now r
    (serveTurn net c now arrived data r).connection c = (net.connection c).serve
      ((connectionsStep net.server (c, .data data now)).phase c).bTerminate (bytesTo c o.sent) r
        o := by
  simp only [Network.connection, Connection.serve, serveTurn, restAfter, Function.update_self,
    filterMap_logOf, LogEntry.request?, LogEntry.served?, LogEntry.received?, Option.toList_some,
    Option.toList_none, List.append_nil, drop_of_arrived whole]

theorem closeTurn_connection (net : Network) (c : Socket) :
    (closeTurn net c).connection c = { net.connection c with
      bTerminate := ((connectionsStep net.server (c, .closed)).phase c).bTerminate } := by
  simp only [Network.connection, closeTurn, filterMap_logOf, LogEntry.request?, LogEntry.served?,
    LogEntry.received?, Option.toList_none, List.append_nil]

section Served

variable {net : Network} (h : Linked net) {c : Socket} {now : Qword} {data : Received}
  (taken : receive? (net.toServer c) = some data) {arrived : Nat}
  (whole : (net.toServer c).length ≤ arrived)

/-- The tables and the thread after a request. -/
theorem connectionsStep_data {sys : Connections} {c : Socket} (now : Qword) {data : Received}
    {r : Request} (running : (sys.phase c).bTerminate = false)
    (read : requestAt ((sys.phase c).rgBuffer.receive data).bytes = some r) :
    (connectionsStep sys (c, .data data now)).shared = (dispatch sys.shared c now r).server ∧
      ((connectionsStep sys (c, .data data now)).phase c).bTerminate = false := by
  constructor
  · simp [connectionsStep, Run.Threads.step, clientThreadStep, dispatchBuffer, running, read]
  · rw [show (connectionsStep sys (c, .data data now)).phase c = _ from
      Run.Threads.step_phase_self clientThreadStep sys c _]
    simp [clientThreadStep, dispatchBuffer, running, read]

include taken in
/-- The buffer of the thread starts with the request of the client. -/
theorem Linked.read (call : Call) (dwSequence : Dword) (w : Word) (dwStartID : Dword)
    (toServer : net.toServer c = (call.request dwSequence w dwStartID).bytes) :
    ∃ r, requestAt ((net.server.phase c).rgBuffer.receive data).bytes = some r ∧
      SameRequest (call.request dwSequence w dwStartID) r := by
  obtain ⟨data', taken', bytes⟩ := receive?_request call dwSequence w dwStartID
  rw [← toServer] at taken' bytes
  cases taken.symm.trans taken'
  have read := call.requestAt_request dwSequence w dwStartID
    ((net.server.phase c).rgBuffer.bytes.drop data.bytes.length)
  rwa [← toServer, ← bytes, ← RgBuffer.bytes_receive] at read

include h taken whole in
/-- A thread handles the request of its client, up to what a handler does not notice, and
answers it on the same connection, if there is a session. -/
theorem Linked.serve (running : (net.server.phase c).bTerminate = false) {r : Request}
    (read : requestAt ((net.server.phase c).rgBuffer.receive data).bytes = some r)
    (fine : ¬ ConnectsLast net.server c (.data data now)) :
    (∀ c', c' ≠ c → bytesTo c' (dispatch net.server.shared c now r).sent = []) ∧
      Link (connectionsStep net.server (c, .data data now)).shared c
        ((serveTurn net c now arrived data r).connection c) := by
  have link := h.link c
  obtain ⟨done, call, rest, dwSequence, open_, calls, waiting, toServer, toClient, sent, served,
    received⟩ := link.taken taken
  generalize (net.connection c).client.program.dwStartID = dwStartID at *
  obtain ⟨r', read', same⟩ := Linked.read taken call dwSequence _ dwStartID toServer
  cases read.symm.trans read'
  have names := link.names open_
  have kept (w : Word) := h.sessions.names c (.data data now) c w nofun
  obtain ⟨tables, order⟩ := connectionsStep_data now running read
  have expects := call.expects_sent dwSequence (net.connection c).client.program.wClientID
    dwStartID net.server.shared c now
  have new := call.newClientID_sent dwSequence (net.connection c).client.program.wClientID
    dwStartID net.server.shared c now
  obtain ⟨resp, sends, answers⟩ := dispatch_sent net.server.shared c now
    (call.request dwSequence (net.connection c).client.program.wClientID dwStartID)
  have reply := call.replySocket_request dwSequence dwStartID names h.sessions.invalid
  have drained : (net.connection c).toServer.drop (sizeofRgBuffer - 1) = [] := by
    rw [toServer]
    exact List.drop_eq_nil_of_le (call.length_request _ _ _).2
  rw [serveTurn_connection net c now whole, Connection.serve, drained]
  rw [same.dispatch] at expects new sends answers
  rcases reply with answered | ⟨unconnected, other, silent⟩
  · rw [answered] at sends
    refine ⟨fun c' elsewhere => ?_, fun _ => order, fun _ => kept _ names, link.returned,
      .responded done ⟨_, r, dispatch net.server.shared c now r, same⟩ call rest resp calls
        waiting rfl ?_ ?_ ?_ (fun w found => ?_) ?_ ?_ received⟩
    · rw [sends, bytesTo_send, if_neg (Ne.symm elsewhere)]
    · change (net.connection c).toClient ++ bytesTo c _ = resp.bytes
      rw [toClient, sends, bytesTo_send, if_pos rfl, List.nil_append]
    · exact expects (c, resp) (by rw [sends, mem_send_iff]; exact ⟨rfl, rfl⟩)
    · rw [answers.result, RemoteCall.report, Outcome.report, Outcome.records, sends]
      simp [send]
    · -- the new session is on the connection
      obtain ⟨rfl, success, rfl⟩ := new (c, resp) (by rw [sends, mem_send_iff]; exact ⟨rfl, rfl⟩)
        w found
      obtain rfl := SameRequest.eq_of_connect same
      have accepted := processConnectRequest_accepted net.server.shared
        (.init dwSequence 0 majorVersion minorVersion validationKey 0) c
        ⟨rfl, (by decide : majorVersion ≤ serverMajorVersion),
          (by decide : minorVersion ≤ serverMinorVersion)⟩
      refine ⟨success, fun last => ?_, fun _ => ?_⟩
      · have live := ((newClientID_eq_invalid_iff _).mp last).1
        exact fine ⟨live, data, now, _, rfl, read⟩
      · rw [tables]
        simp only [dispatch]
        rw [accepted.2.2,
          socketOf_addSession _ _ _ (newClientID_unused _ h.sessions.invalid), if_pos rfl]
    · rw [List.map_append]
      exact sent
    · rw [List.map_append]
      exact congrArg (· ++ _) served
  · -- without a session nothing is sent
    rw [silent] at sends
    refine ⟨fun c' _ => ?_, fun _ => order, fun _ => kept _ names, link.returned,
      .unanswered done ⟨_, r, dispatch net.server.shared c now r, same⟩ call rest calls waiting
        rfl ?_ unconnected ?_ other ?_ ?_ received⟩
    · rw [sends]
      rfl
    · change (net.connection c).toClient ++ bytesTo c _ = []
      rw [toClient, sends]
      rfl
    · rintro rfl
      exact other rfl
    · rw [List.map_append]
      exact sent
    · rw [List.map_append]
      exact congrArg (· ++ _) served

end Served

/-- Every turn that neither runs out of client IDs nor takes a part of a message keeps all
connections in order, and is noticed on its own connection only. -/
theorem Linked.step {net : Network} (h : Linked net) (beyond : List Byte)
    (turn : Socket × Party) (fine : ¬ RunsOut net turn) (whole : ¬ Splits net turn) :
    Linked (networkStep beyond net turn) ∧
      ∀ c, c ≠ turn.1 → (networkStep beyond net turn).connection c = net.connection c := by
  have effect := networkStep_turned beyond net turn
  generalize networkStep beyond net turn = net' at *
  -- the sessions, the other connections, and the one that takes the turn
  suffices parts : OwnSessions net'.server ∧
      (∀ c w, c ≠ turn.1 → Names net.server.shared c w → Names net'.server.shared c w) ∧
      (∀ c, c ≠ turn.1 → net'.connection c = net.connection c) ∧
        Link net'.server.shared turn.1 (net'.connection turn.1) by
    obtain ⟨sessions, kept, others, own⟩ := parts
    refine ⟨⟨sessions, fun c => ?_⟩, others⟩
    by_cases acting : c = turn.1
    · rw [acting]
      exact own
    · rw [others c acting]
      exact (h.link c).frame fun w => kept c w acting
  cases effect with
  | idle => exact ⟨h.sessions, fun _ _ _ names => names, fun _ _ => rfl, h.link _⟩
  | exited c arrived running calls =>
    refine ⟨h.sessions, fun _ _ _ names => names, fun c' other => ?_, ?_⟩
    · refine connection_frame other ?_ rfl rfl rfl [] (List.append_nil _).symm
      exact Function.update_of_ne other _ _
    · rw [exitTurn_connection]
      exact (h.link c).exit calls
  | sent c arrived call rest running calls ready =>
    refine ⟨h.sessions, fun _ _ _ names => names, fun c' other => ?_, ?_⟩
    · exact connection_frame other (Function.update_of_ne other _ _) rfl
        (Function.update_of_ne other _ _) rfl [_] rfl
    · rw [sendTurn_connection]
      exact (h.link c).send running ready call rest calls
  | received c arrived call rest running calls waits taken =>
    obtain ⟨all, filled⟩ := client_whole whole taken
    refine ⟨h.sessions, fun _ _ _ names => names, fun c' other => ?_, ?_⟩
    · exact connection_frame other (Function.update_of_ne other _ _) rfl rfl
        (Function.update_of_ne other _ _) [_] rfl
    · rw [receiveTurn_connection beyond net c call all]
      exact (h.link c).receive beyond running filled call rest calls
  | served c now arrived data r running taken read =>
    have last : ¬ ConnectsLast net.server c (.data data now) := fun last =>
      fine ⟨data, now, arrived, rfl, taken, last⟩
    obtain ⟨all, taken⟩ := server_whole whole taken
    obtain ⟨silent, own⟩ := h.serve taken all running read last
    refine ⟨h.sessions.step c _ last, fun c' w _ => h.sessions.names c _ c' w nofun,
      fun c' other => ?_, own⟩
    refine connection_frame other rfl ?_ ?_ ?_ [_] rfl
    · exact Run.Threads.step_phase_of_ne _ _ c c' _ other
    · exact Function.update_of_ne other _ _
    · exact (congrArg (net.toClient c' ++ ·) (silent c' other)).trans (List.append_nil _)
  | ignored c now arrived data running taken read =>
    -- a client sends nothing that is ignored
    obtain ⟨_, taken⟩ := server_whole whole taken
    obtain ⟨_, call, _, dwSequence, _, _, _, toServer, _⟩ := (h.link c).taken taken
    obtain ⟨r, found, _⟩ := Linked.read taken call dwSequence _ _ toServer
    exact nomatch read.symm.trans found
  | closed c now arrived running empty exited =>
    refine ⟨h.sessions.step c .closed (by rintro ⟨_, _, _, _, data, _⟩; cases data),
      fun c' w other => h.sessions.names c .closed c' w fun _ => other, fun c' other => ?_, ?_⟩
    · exact connection_frame other rfl (Run.Threads.step_phase_of_ne _ _ c c' _ other) rfl rfl
        [.closed _] rfl
    · rw [closeTurn_connection]
      exact (h.link c).close _ exited

/-- The invariant holds in every run that does not run out of client IDs and whose messages arrive
whole. -/
theorem linked_run (beyond : List Byte) (accounts : AccountMap) (transactions : TransactionMap)
    (calls : Socket → List Call) (turns : List (Socket × Party))
    (fine : Run.Avoids (networkStep beyond) RunsOut (networkStart accounts transactions calls)
      turns)
    (whole : Run.Avoids (networkStep beyond) Splits (networkStart accounts transactions calls)
      turns) :
    Linked (runNetwork beyond accounts transactions calls turns) :=
  Run.avoids_invariant Linked _ (linked_start accounts transactions calls)
    (fun _ turn good h => (h.step beyond turn (fun out => good (Or.inl out))
      fun part => good (Or.inr part)).1) turns (fine.or whole)

end Cnp
