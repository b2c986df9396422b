import CnpProtocol.Client.Network
import CnpProtocol.Properties.ProcessRuns
import CnpProtocol.Properties.Responses

/-!
# Pointers to sockets

A session keeps the address of the socket it was connected on, and every response goes out
through such an address. No object is deleted before the signal, and afterwards a thread reaches
a deleted object only for a client that names the session of another connection.
-/

namespace Cnp

/-! ### The objects in the log -/

/-- `main` has left the loop. -/
def MainControl.stops : MainControl → Bool
  | .test => false
  | .accept => false
  | _ => true

/-- An object is deleted when it is not left any more, and none before the signal. -/
structure ObjectsLogged (p : Process) : Prop where
  deleted : ∀ c, .deleted c ∈ p.log ↔ c < p.lstClientThreadInfo.length ∧ c ∉ p.left
  signalled : p.bTerminate = true → .signalled ∈ p.log
  stopping : p.control.stops = true → .signalled ∈ p.log

section Step

variable {p p' : Process} (h : ObjectsLogged p)

include h

/-- A step that deletes no object. -/
theorem ObjectsLogged.keep (list : p'.lstClientThreadInfo = p.lstClientThreadInfo)
    (left : p'.left = p.left) (new : List ProcessEntry) (log : p'.log = p.log ++ new)
    (kept : ∀ c, .deleted c ∉ new) (signalled : p'.bTerminate = p.bTerminate)
    (stops : p'.control.stops = true → p.control.stops = true ∨ p.bTerminate = true) :
    ObjectsLogged p' where
  deleted := fun c => by
    rw [log, List.mem_append, or_iff_left (kept c), h.deleted, list, left]
  signalled := fun set => by
    rw [log]
    exact List.mem_append_left _ (h.signalled (signalled ▸ set))
  stopping := fun at_ => by
    rw [log]
    exact List.mem_append_left _ ((stops at_).elim h.stopping h.signalled)

/-- Nothing is deleted before the signal. -/
theorem ObjectsLogged.signalled_of_deleted (tidy : Tidy p) {c : Socket}
    (deleted : .deleted c ∈ p.log) : .signalled ∈ p.log := by
  obtain ⟨listed, gone⟩ := (h.deleted c).mp deleted
  refine h.stopping ?_
  by_contra loops
  have left : p.left = p.lstClientThreadInfo := by
    cases at_ : p.control with
    | test => simp only [Process.left, at_]
    | accept => simp only [Process.left, at_]
    | _ =>
      rw [at_] at loops
      exact absurd rfl loops
  rw [left, tidy.list, List.mem_reverse, List.mem_range] at gone
  exact gone listed

end Step

section Runs

variable (accounts : RecordImage AccountInfo) (transactions : RecordImage TransactionInfo)
  {newHandle : Finset Handle → Handle}

theorem notMem_closedEntry (c c' : Socket) (hSocket : Option Handle) :
    .deleted c' ∉ closedEntry c hSocket := by
  intro member
  obtain ⟨_, _, same⟩ := List.mem_map.mp member
  cases same

theorem ObjectsLogged.step {p : Process} (tidy : Tidy p) (h : ObjectsLogged p)
    (turn : ProcessTurn) :
    ObjectsLogged (processStep accounts transactions newHandle p turn) := by
  have effect := processStep_stepped accounts transactions newHandle p turn
  generalize processStep accounts transactions newHandle p turn = p' at *
  have nothing (c : Socket) : .deleted c ∉ ([] : List ProcessEntry) := List.not_mem_nil
  cases effect with
  | idle => exact h
  | signalled =>
    refine ⟨fun c => ?_, fun _ => by simp, fun _ => by simp⟩
    change .deleted c ∈ p.log ++ [.signalled] ↔ _
    rw [List.mem_append, or_iff_left (by simp)]
    exact h.deleted c
  | entered pending at_ running =>
    exact h.keep rfl (by simp only [Process.left, at_]) [] (List.append_nil _).symm nothing rfl
      fun stops => (by cases stops)
  | ended pending at_ signalled =>
    exact h.keep rfl (by simp only [Process.left, at_]) [] (List.append_nil _).symm nothing rfl
      fun _ => Or.inr signalled
  | refused pending at_ =>
    exact h.keep rfl (by simp only [Process.left, at_]) [] (List.append_nil _).symm nothing rfl
      fun stops => (by cases stops)
  | stopped pending at_ =>
    exact h.keep rfl (by simp only [Process.left, at_]) [] (List.append_nil _).symm nothing rfl
      fun _ => Or.inl (by rw [at_]; rfl)
  | closed pending at_ =>
    exact h.keep rfl (by simp only [Process.left, closeServerTurn, at_]) []
      (List.append_nil _).symm nothing rfl fun _ => Or.inl (by rw [at_]; rfl)
  | saved pending at_ =>
    exact h.keep rfl (by simp only [Process.left, at_]) [] (List.append_nil _).symm nothing rfl
      fun _ => Or.inl (by rw [at_]; rfl)
  | terminated pending it rest at_ =>
    exact h.keep rfl (by simp only [Process.left, terminateTurn, at_]) [.terminated it] rfl
      (by simp) rfl fun _ => Or.inl (by rw [at_]; rfl)
  | looped => exact h.keep rfl rfl [] (List.append_nil _).symm nothing rfl Or.inl
  | missed => exact h.keep rfl rfl [] (List.append_nil _).symm nothing rfl Or.inl
  | ignored => exact h.keep rfl rfl [] (List.append_nil _).symm nothing rfl Or.inl
  | handled => exact h.keep rfl rfl [.handled _ _ _ _] rfl (by simp) rfl Or.inl
  | disconnected c info found at_ holds =>
    refine h.keep rfl rfl (.disconnected c info.locals.wClientID :: closedEntry c info.hSocket) rfl
      (fun c' member => ?_) rfl Or.inl
    rcases List.mem_cons.mp member with same | member
    · cases same
    · exact notMem_closedEntry c c' info.hSocket member
  | accepted pending at_ =>
    have left : p.left = p.lstClientThreadInfo := by simp only [Process.left, at_]
    refine ⟨fun c => ?_, fun set => ?_, fun stops => by cases stops⟩
    · change .deleted c ∈ p.log ++ [.accepted _ _] ↔ c < p.lstClientThreadInfo.length + 1 ∧
        c ∉ p.lstClientThreadInfo.length :: p.lstClientThreadInfo
      rw [List.mem_append, or_iff_left (by simp), h.deleted, List.mem_cons, not_or, left,
        Nat.lt_succ_iff_lt_or_eq]
      constructor
      · rintro ⟨listed, gone⟩
        exact ⟨Or.inl listed, Nat.ne_of_lt listed, gone⟩
      · rintro ⟨listed, other, gone⟩
        exact ⟨listed.resolve_right other, gone⟩
    · exact List.mem_append_left _ (h.signalled set)
  | deleted pending it rest at_ joined =>
    have left : p.left = it :: rest := by simp only [Process.left, at_]
    have nodup := tidy.nodup_left
    have listed := tidy.lt_of_mem_left (left ▸ List.mem_cons_self : it ∈ p.left)
    rw [left] at nodup
    have stopping : .signalled ∈ p.log := h.stopping (by rw [at_]; rfl)
    refine ⟨fun c => ?_, fun _ => ?_, fun _ => ?_⟩
    · change .deleted c ∈ p.log ++ closedEntry it (p.hSocket it) ++ [.deleted it] ↔
        c < p.lstClientThreadInfo.length ∧ c ∉ rest
      rw [List.mem_append, List.mem_append, or_iff_left (notMem_closedEntry it c _), h.deleted,
        left, List.mem_cons, List.mem_singleton, ProcessEntry.deleted.injEq]
      constructor
      · rintro (⟨here, gone⟩ | rfl)
        · exact ⟨here, fun member => gone (Or.inr member)⟩
        · exact ⟨listed, (List.nodup_cons.mp nodup).1⟩
      · rintro ⟨here, gone⟩
        by_cases last : c = it
        · exact Or.inr last
        · exact Or.inl ⟨here, fun member => member.elim last gone⟩
    · exact List.mem_append_left _ (List.mem_append_left _ stopping)
    · exact List.mem_append_left _ (List.mem_append_left _ stopping)

/-! ### The sockets of the sessions -/

/-- The session of every socket is that of an accepted connection. -/
def Accepted (p : Process) : Prop :=
  ∀ w c, socketOf p.server w = some (some c) → c < p.lstClientThreadInfo.length

/-- A request makes no session for another connection than its own. -/
theorem socketOf_dispatch_eq (s : Server) (c : Socket) (now : Qword) (r : Request) (w : Word)
    (c' : Socket) (found : socketOf (dispatch s c now r).server w = some (some c')) :
    socketOf s w = some (some c') ∨ c' = c := by
  by_cases connect : ∃ m, r = .connect m
  · obtain ⟨m, rfl⟩ := connect
    simp only [dispatch] at found
    by_cases accepted : m.Accepted
    · rw [(processConnectRequest_accepted s m c accepted).2.2] at found
      obtain ⟨info, session, socket⟩ := Option.map_eq_some_iff.mp found
      rcases s.sessionInfo.find?_insert_cases session with old | ⟨_, rfl, _⟩
      · exact Or.inl (Option.map_eq_some_iff.mpr ⟨info, old, socket⟩)
      · exact Or.inr (Option.some.inj socket).symm
    · rw [(processConnectRequest_refused s m c accepted).2] at found
      exact Or.inl found
  · rw [socketOf_dispatch s c now r (not_exists.mp connect)] at found
    exact Or.inl found

theorem Accepted.step {p : Process} (tidy : Tidy p) (h : Accepted p) (turn : ProcessTurn) :
    Accepted (processStep accounts transactions newHandle p turn) := by
  have effect := processStep_stepped accounts transactions newHandle p turn
  generalize processStep accounts transactions newHandle p turn = p' at *
  cases effect with
  | handled c received qwNow info r found at_ holds read =>
    intro w c' session
    rcases socketOf_dispatch_eq p.server c qwNow r w c' session with old | rfl
    · exact h w c' old
    · exact tidy.lt_of_mem_left ((tidy.allocated c').mp (by rw [found]; rfl))
  | disconnected c info found at_ holds =>
    intro w c' session
    change socketOf (processDisconnect p.server info.locals.wClientID).2 w = _ at session
    rw [socketOf_processDisconnect] at session
    split at session
    · cases session
    · exact h w c' session
  | accepted pending at_ => exact fun w c session => Nat.lt_succ_of_lt (h w c session)
  | _ => exact h

/-! ### The responses -/

/-- A response goes to an accepted socket, and to a deleted one only if the signal has come and
the request names the session of that other connection. -/
def Addressed (start : Server) (before : List ProcessEntry) (e : ProcessEntry) : Prop :=
  ∀ c now r o, e = .handled c now r o → ∀ out ∈ o.sent,
    (∃ h, .accepted out.1 h ∈ before) ∧ (.deleted out.1 ∈ before → .signalled ∈ before ∧
      out.1 ≠ c ∧ (∀ m, r ≠ .connect m) ∧
      socketOf (run start (before.filterMap ProcessEntry.op?)) r.hdr.clientID = some (some out.1))

theorem mem_accepted {p : Process} (tidy : Tidy p) {c : Socket}
    (listed : c < p.lstClientThreadInfo.length) : ∃ h, .accepted c h ∈ p.log := by
  have once := tidy.once c
  rw [if_pos listed] at once
  obtain ⟨h, got⟩ := List.length_eq_one_iff.mp once
  have member : h ∈ p.log.filterMap (ProcessEntry.accepted? c) := by simp [got]
  obtain ⟨e, logged, accepted⟩ := List.mem_filterMap.mp member
  cases e with
  | accepted c' h' =>
    simp only [ProcessEntry.accepted?] at accepted
    split at accepted
    next same =>
      cases accepted
      exact ⟨h, same ▸ logged⟩
    · cases accepted
  | _ => cases accepted

/-- The threads that handle a request are there, and so are the sockets of their sessions. -/
theorem addressed_handled {p : Process} {start : Server} (tidy : Tidy p) (objects : ObjectsLogged p)
    (sessions : Accepted p) (replays : p.Replays start) {c : Socket} {info : ThreadInfo}
    (found : p.threads c = some info) (qwNow : Qword) (r : Request) :
    Addressed start p.log (.handled c qwNow r (dispatch p.server c qwNow r)) := by
  rintro _ _ _ _ ⟨⟩ out sent
  have member := (tidy.allocated c).mp (by rw [found]; rfl)
  obtain ⟨resp, sends, _⟩ := dispatch_sent p.server c qwNow r
  rw [sends, mem_send_iff] at sent
  have reply : replySocket p.server c r = some out.1 := sent.1
  by_cases connect : ∃ m, r = .connect m
  · obtain ⟨m, rfl⟩ := connect
    have own : c = out.1 := Option.some.inj reply
    rw [← own]
    refine ⟨mem_accepted tidy (tidy.lt_of_mem_left member), fun deleted => ?_⟩
    exact absurd member ((objects.deleted c).mp deleted).2
  · have other := not_exists.mp connect
    have session : socketOf p.server r.hdr.clientID = some (some out.1) := by
      rw [replySocket_of_ne_connect] at reply
      · obtain ⟨i, session, socket⟩ := Option.bind_eq_some_iff.mp reply
        exact Option.map_eq_some_iff.mpr ⟨i, session, socket⟩
      · intro type
        cases r with
        | connect m => exact other m rfl
        | _ => cases type
    refine ⟨mem_accepted tidy (sessions _ _ session), fun deleted => ?_⟩
    refine ⟨objects.signalled_of_deleted tidy deleted, fun same => ?_, other, ?_⟩
    · rw [same] at deleted
      exact absurd member ((objects.deleted c).mp deleted).2
    · have tables : p.server = run start (p.log.filterMap ProcessEntry.op?) := replays.state
      rw [← tables]
      exact session

/-- All that is known of the process. -/
structure Kept (start : Server) (p : Process) : Prop where
  tidy : Tidy p
  objects : ObjectsLogged p
  sessions : Accepted p
  replays : p.Replays start
  addressed : Run.Each (Addressed start) p.log

theorem Kept.step (fresh : ∀ handles, newHandle handles ∉ handles) {start : Server} {p : Process}
    (h : Kept start p) (turn : ProcessTurn) :
    Kept start (processStep accounts transactions newHandle p turn) := by
  refine ⟨h.tidy.step accounts transactions fresh turn,
    h.objects.step accounts transactions h.tidy turn,
    h.sessions.step accounts transactions h.tidy turn,
    h.replays.step accounts transactions turn, ?_⟩
  have effect := processStep_stepped accounts transactions newHandle p turn
  generalize processStep accounts transactions newHandle p turn = p' at *
  have quiet (c : Socket) (hSocket : Option Handle) (e : ProcessEntry)
      (member : e ∈ closedEntry c hSocket) (before : List ProcessEntry) :
      Addressed start before e := by
    obtain ⟨_, _, rfl⟩ := List.mem_map.mp member
    rintro _ _ _ _ ⟨⟩
  cases effect with
  | signalled =>
    refine h.addressed.concat ?_
    rintro _ _ _ _ ⟨⟩
  | accepted =>
    refine h.addressed.concat ?_
    rintro _ _ _ _ ⟨⟩
  | terminated =>
    refine h.addressed.concat ?_
    rintro _ _ _ _ ⟨⟩
  | deleted pending it rest at_ joined =>
    refine (h.addressed.append _ (quiet it (p.hSocket it))).concat ?_
    rintro _ _ _ _ ⟨⟩
  | disconnected c info found at_ holds =>
    have left_ : Run.Each (Addressed start) (p.log ++ [.disconnected c info.locals.wClientID]) := by
      refine h.addressed.concat ?_
      rintro _ _ _ _ ⟨⟩
    have closed := left_.append _ (quiet c info.hSocket)
    rw [List.append_assoc] at closed
    exact closed
  | handled c received qwNow info r found at_ holds read =>
    exact h.addressed.concat
      (addressed_handled h.tidy h.objects h.sessions h.replays found qwNow r)
  | _ => exact h.addressed

theorem kept_run (fresh : ∀ handles, newHandle handles ∉ handles) (store : Store)
    (listens : Bool) (turns : List ProcessTurn) :
    Kept (store.tables accounts transactions)
      (runProcess accounts transactions newHandle store listens turns) := by
  have start : Kept (store.tables accounts transactions)
      (processStart accounts transactions newHandle store listens) := by
    refine ⟨tidy_start accounts transactions store listens, ⟨fun c => ?_, fun set => (by cases set),
      fun stops => (by cases stops)⟩, fun _ _ session => (by cases session), Run.replays_nil,
      Run.each_nil _⟩
    simp [processStart]
  exact Run.invariant (processStep accounts transactions newHandle) (Kept _) (fun _ => True)
    (fun _ turn _ h => h.step accounts transactions fresh turn) _ start turns fun _ _ => trivial

end Runs

/-- In every run of the process: a response is sent through the address of an accepted socket;
before the signal no socket is deleted; and after it a deleted socket is reached only from a
thread of another connection, for a request other than a connect that names a client ID whose
session is on the deleted socket. -/
theorem responses_addressed (accounts : RecordImage AccountInfo)
    (transactions : RecordImage TransactionInfo) (newHandle : Finset Handle → Handle)
    (fresh : ∀ handles, newHandle handles ∉ handles) (store : Store) (listens : Bool)
    (turns : List ProcessTurn) :
    Run.Each (Addressed (store.tables accounts transactions))
      (runProcess accounts transactions newHandle store listens turns).log :=
  (kept_run accounts transactions fresh store listens turns).addressed

/-- The first client names the session of the second, whose socket is deleted. -/
theorem responses_addressed_foreign :
    let accounts := accountInfoImage ⟨[0, 0, 0, 0, 0, 0], rfl⟩ ⟨[0, 0, 0, 0], rfl⟩
    let transactions := transactionInfoImage ⟨[0, 0, 0, 0, 0, 0], rfl⟩
    let balance : Received := ⟨(Call.sendBalance.request 0 1 0).bytes, by decide, by decide⟩
    let connect : ReceiveResult := .data (connectBytes validationKey) 0
    let turns : List ProcessTurn := List.replicate 4 (.main true) ++
      [.thread 1 connect, .thread 1 connect, .thread 0 .closed, .signal, .main true, .main true,
        .thread 1 .closed, .main true, .thread 0 (.data balance 0)]
    Run.Each (Addressed (Store.tables accounts transactions ⟨[], []⟩))
      (runProcess accounts transactions lowestHandle ⟨[], []⟩ true turns).log := by
  intro accounts transactions balance connect turns
  exact responses_addressed accounts transactions _ lowestHandle_notMem ⟨[], []⟩ true turns

end Cnp
