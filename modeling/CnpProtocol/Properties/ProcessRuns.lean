import CnpProtocol.Library.Logs
import CnpProtocol.Library.Simulation
import CnpProtocol.Properties.Disconnects
import CnpProtocol.Properties.ProcessHandles

/-!
# Runs of the process

What `main` adds to the threads does not show in the tables: every run of the process is a run
of its connections, and its tables are those of the requests in the order of the log.
-/

namespace Cnp

/-! ### Connections -/

/-- A thread without `main`: it ends when its client has left. -/
def ThreadInfo.alone (info : ThreadInfo) : ClientThread :=
  ⟨info.locals.wClientID, info.hSocket.isNone, info.locals.rgBuffer⟩

/-- The connections without `main`. -/
structure Simulates (p : Process) (sys : Connections) : Prop where
  tables : sys.shared = p.server
  threads : ∀ c info, p.threads c = some info → sys.phase c = info.alone
  fresh : ∀ c, p.lstClientThreadInfo.length ≤ c → sys.phase c = .start

section Step

variable {p p' : Process} {sys : Connections} (h : Simulates p sys)

include h in
/-- A turn of one thread. -/
theorem Simulates.thread {c : Socket} {info : ThreadInfo} (tidy : Tidy p)
    (found : p.threads c = some info) (result : ReceiveResult) (info' : ThreadInfo)
    (list : p'.lstClientThreadInfo = p.lstClientThreadInfo)
    (threads : p'.threads = Function.update p.threads c (some info'))
    (turn : clientThreadStep c result p.server info.alone = (p'.server, info'.alone)) :
    Simulates p' (connectionsStep sys (c, result)) := by
  have locals := h.threads c info found
  refine ⟨?_, fun c' info'' found' => ?_, fun c' new => ?_⟩
  · change (clientThreadStep c result sys.shared (sys.phase c)).1 = _
    rw [h.tables, locals, turn]
  · rw [threads, Function.update_apply] at found'
    split at found'
    next here =>
      cases found'
      rw [here]
      refine (Run.Threads.step_phase_self clientThreadStep sys c result).trans ?_
      rw [h.tables, locals, turn]
    next other =>
      refine (Run.Threads.step_phase_of_ne clientThreadStep sys c c' result other).trans ?_
      exact h.threads c' info'' found'
  · have other : c' ≠ c := by
      rintro rfl
      have member := (tidy.allocated c').mp (by rw [found]; rfl)
      exact Nat.not_le_of_lt (tidy.lt_of_mem_left member) (list ▸ new)
    refine (Run.Threads.step_phase_of_ne clientThreadStep sys c c' result other).trans ?_
    exact h.fresh c' (list ▸ new)

include h in
/-- A turn that no connection notices. -/
theorem Simulates.quiet (server : p'.server = p.server)
    (threads : ∀ c info', p'.threads c = some info' →
      ∃ info, p.threads c = some info ∧ info.alone = info'.alone)
    (list : p'.lstClientThreadInfo = p.lstClientThreadInfo) : Simulates p' sys := by
  refine ⟨h.tables.trans server.symm, fun c info' found' => ?_, fun c new => h.fresh c (list ▸ new)⟩
  obtain ⟨info, found, same⟩ := threads c info' found'
  rw [h.threads c info found, same]

include h in
/-- A turn that changes one object only, and nothing that its connection notices. -/
theorem Simulates.touch {c : Socket} {info? : Option ThreadInfo}
    (server : p'.server = p.server) (threads : p'.threads = Function.update p.threads c info?)
    (same : ∀ info', info? = some info' →
      ∃ info, p.threads c = some info ∧ info.alone = info'.alone)
    (list : p'.lstClientThreadInfo = p.lstClientThreadInfo) : Simulates p' sys := by
  refine h.quiet server (fun c' info' found' => ?_) list
  rw [threads, Function.update_apply] at found'
  split at found'
  next here =>
    rw [here]
    exact same info' found'
  · exact ⟨info', found', rfl⟩

include h in
theorem Simulates.accept (newHandle : Finset Handle → Handle) :
    Simulates (acceptTurn newHandle p) sys := by
  refine ⟨h.tables, fun c info found => ?_, fun c new => h.fresh c (Nat.le_of_succ_le new)⟩
  change Function.update p.threads _ _ c = some info at found
  rw [Function.update_apply] at found
  split at found
  next here =>
    cases found
    exact h.fresh c (Nat.le_of_eq here.symm)
  · exact h.threads c info found

end Step

section Runs

variable (accounts : RecordImage AccountInfo) (transactions : RecordImage TransactionInfo)
  {newHandle : Finset Handle → Handle}

/-- The tables that are loaded. -/
def Store.tables (store : Store) : Server := (loadServerDB accounts transactions store .empty).2

theorem simulates_start (store : Store) (listens : Bool) :
    Simulates (processStart accounts transactions newHandle store listens)
      (connectionsStart (store.tables accounts transactions).accountInfo
        (store.tables accounts transactions).transactionInfo) where
  tables := rfl
  threads := fun _ _ found => (by cases found)
  fresh := fun _ _ => rfl

/-- A turn of the process is a turn of a connection or none. -/
theorem Simulates.step {p : Process} {sys : Connections} (tidy : Tidy p) (h : Simulates p sys)
    (turn : ProcessTurn) :
    ∃ events, Simulates (processStep accounts transactions newHandle p turn)
      (Run.run connectionsStep sys events) := by
  have effect := processStep_stepped accounts transactions newHandle p turn
  generalize processStep accounts transactions newHandle p turn = p' at *
  -- a thread in its loop has not closed its socket
  have open_ {info : ThreadInfo} (holds : info.hSocket.isSome = true) :
      info.hSocket.isNone = false := Option.isNone_eq_false_iff.mpr holds
  cases effect with
  | idle => exact ⟨[], h⟩
  | signalled => exact ⟨[], h.quiet rfl (fun _ info found => ⟨info, found, rfl⟩) rfl⟩
  | entered => exact ⟨[], h.quiet rfl (fun _ info found => ⟨info, found, rfl⟩) rfl⟩
  | ended => exact ⟨[], h.quiet rfl (fun _ info found => ⟨info, found, rfl⟩) rfl⟩
  | refused => exact ⟨[], h.quiet rfl (fun _ info found => ⟨info, found, rfl⟩) rfl⟩
  | stopped => exact ⟨[], h.quiet rfl (fun _ info found => ⟨info, found, rfl⟩) rfl⟩
  | closed => exact ⟨[], h.quiet rfl (fun _ info found => ⟨info, found, rfl⟩) rfl⟩
  | saved => exact ⟨[], h.quiet rfl (fun _ info found => ⟨info, found, rfl⟩) rfl⟩
  | accepted pending at_ => exact ⟨[], h.accept newHandle⟩
  | terminated pending it rest at_ =>
    refine ⟨[], h.touch rfl rfl (fun info' found' => ?_) rfl⟩
    obtain ⟨info, found, rfl⟩ := Option.map_eq_some_iff.mp found'
    exact ⟨info, found, rfl⟩
  | deleted pending it rest at_ joined =>
    exact ⟨[], h.touch rfl rfl (fun info' found' => by cases found') rfl⟩
  | looped c result info found at_ =>
    refine ⟨[], h.touch rfl rfl (fun info' found' => ?_) rfl⟩
    cases found'
    exact ⟨info, found, rfl⟩
  | missed c result info found at_ =>
    refine ⟨[], h.touch rfl rfl (fun info' found' => ?_) rfl⟩
    cases found'
    exact ⟨info, found, rfl⟩
  | ignored c received qwNow info found at_ holds read =>
    refine ⟨[(c, .data received qwNow)], h.thread tidy found (.data received qwNow) _ rfl rfl ?_⟩
    simp only [ThreadInfo.alone, clientThreadStep, open_ holds, Bool.false_eq_true, if_false,
      dispatchBuffer, read, Option.map_none]
    rfl
  | handled c received qwNow info r found at_ holds read =>
    refine ⟨[(c, .data received qwNow)], h.thread tidy found (.data received qwNow) _ rfl rfl ?_⟩
    simp only [ThreadInfo.alone, clientThreadStep, open_ holds, Bool.false_eq_true, if_false,
      dispatchBuffer, read, Option.map_some]
    rfl
  | disconnected c info found at_ holds =>
    refine ⟨[(c, .closed)], h.thread tidy found .closed _ rfl rfl ?_⟩
    simp only [ThreadInfo.alone, clientThreadStep, open_ holds, Bool.false_eq_true, if_false]
    rfl

/-- Every run of the process is a run of its connections. -/
theorem simulates_runProcess (fresh : ∀ handles, newHandle handles ∉ handles) (store : Store)
    (listens : Bool) (turns : List ProcessTurn) :
    ∃ events, Simulates (runProcess accounts transactions newHandle store listens turns)
      (runConnections (store.tables accounts transactions).accountInfo
        (store.tables accounts transactions).transactionInfo events) := by
  obtain ⟨events, _, simulates⟩ := Run.simulates_run (processStep accounts transactions newHandle)
    connectionsStep (fun p sys => Tidy p ∧ Simulates p sys)
    (fun p sys turn both => by
      obtain ⟨events, simulates⟩ := both.2.step accounts transactions both.1 turn
      exact ⟨events, both.1.step accounts transactions fresh turn, simulates⟩)
    _ _ ⟨tidy_start accounts transactions store listens,
      simulates_start accounts transactions store listens⟩ turns
  exact ⟨events, simulates⟩

/-! ### The log -/

/-- A request was answered as the handler answers it. -/
def ProcessEntry.Answered (s : Server) (e : ProcessEntry) : Prop :=
  ∀ c now r o, e = .handled c now r o → o = dispatch s c now r

/-- The log shows what the server does with the requests one after the other. -/
def Process.Replays (s : Server) (p : Process) : Prop :=
  Run.Replays Cnp.step ProcessEntry.op? ProcessEntry.Answered s p.server p.log

theorem closedEntry_quiet (c : Socket) (hSocket : Option Handle) (e : ProcessEntry)
    (member : e ∈ closedEntry c hSocket) : e.op? = none ∧ ∀ s, e.Answered s := by
  obtain ⟨h, _, rfl⟩ := List.mem_map.mp member
  refine ⟨rfl, ?_⟩
  rintro _ _ _ _ _ ⟨⟩

theorem Process.Replays.step {s : Server} {p : Process} (h : p.Replays s) (turn : ProcessTurn) :
    (processStep accounts transactions newHandle p turn).Replays s := by
  have effect := processStep_stepped accounts transactions newHandle p turn
  generalize processStep accounts transactions newHandle p turn = p' at *
  cases effect with
  | idle => exact h
  | signalled =>
    refine h.concat .signalled rfl ?_
    rintro _ _ _ _ ⟨⟩
  | entered => exact h
  | ended => exact h
  | refused => exact h
  | stopped => exact h
  | closed => exact h
  | saved => exact h
  | looped => exact h
  | missed => exact h
  | ignored => exact h
  | accepted pending at_ =>
    refine h.concat (.accepted _ _) rfl ?_
    rintro _ _ _ _ ⟨⟩
  | terminated pending it rest at_ =>
    refine h.concat (.terminated it) rfl ?_
    rintro _ _ _ _ ⟨⟩
  | deleted pending it rest at_ joined =>
    refine (h.append _ (closedEntry_quiet it (p.hSocket it))).concat (.deleted it) rfl ?_
    rintro _ _ _ _ ⟨⟩
  | handled c received qwNow info r found at_ holds read =>
    refine h.concat (.handled c qwNow r (dispatch p.server c qwNow r)) rfl ?_
    rintro _ _ _ _ ⟨⟩
    rfl
  | disconnected c info found at_ holds =>
    have left_ : Run.Replays Cnp.step ProcessEntry.op? ProcessEntry.Answered s
        (processDisconnect p.server info.locals.wClientID).2
        (p.log ++ [.disconnected c info.locals.wClientID]) := by
      refine h.concat (.disconnected c info.locals.wClientID) rfl ?_
      rintro _ _ _ _ ⟨⟩
    have closed := left_.append _ (closedEntry_quiet c info.hSocket)
    rw [List.append_assoc] at closed
    exact closed

theorem replays_runProcess (store : Store) (listens : Bool) (turns : List ProcessTurn) :
    (runProcess accounts transactions newHandle store listens turns).Replays
      (store.tables accounts transactions) := by
  have start : (processStart accounts transactions newHandle store listens).Replays
      (store.tables accounts transactions) := Run.replays_nil
  exact Run.invariant (processStep accounts transactions newHandle) (Process.Replays _)
    (fun _ => True) (fun _ turn _ h => h.step accounts transactions turn) _ start turns
    fun _ _ => trivial

end Runs

end Cnp
