import CnpProtocol.Library.Fairness
import CnpProtocol.Properties.Integrity
import CnpProtocol.Properties.MessageDelivery
import CnpProtocol.Properties.ProcessRuns
import Mathlib.Data.Nat.Pairing

/-!
# Shutdown

After a signal `main` stops the threads one after the other and saves the tables. What it saves
is all that was ever done, because the last thread is joined before; and it comes to its end
whatever the clients do, because `Receive` has a timeout and a thread tests its flag after every
message.
-/

namespace Cnp

/-! ### A thread that is stopped -/

/-- A request that a thread has handled. -/
def ProcessEntry.handled? (c : Socket) : ProcessEntry → Option Request
  | .handled c' _ r _ => if c' = c then some r else none
  | _ => none

/-- The message that a thread may still handle before it tests its flag. -/
def Process.pending (p : Process) (c : Socket) : Nat :=
  if (p.threads c).any (·.control = .receive) then 1 else 0

/-- A thread that was told to stop handles the message it waits for at most. -/
def Stops (p : Process) : Prop :=
  ∀ c before after, p.log = before ++ .terminated c :: after →
    c < p.lstClientThreadInfo.length ∧
      (∀ info, p.threads c = some info → info.locals.bTerminate = true) ∧
      (after.filterMap (ProcessEntry.handled? c)).length + p.pending c ≤ 1

theorem pending_le (p : Process) (c : Socket) : p.pending c ≤ 1 := by
  rw [Process.pending]
  split
  · exact Nat.le_refl 1
  · exact Nat.zero_le 1

/-- What a thread may still do when one object has changed. -/
theorem pending_update {p p' : Process} {c : Socket} {info? : Option ThreadInfo}
    (threads : p'.threads = Function.update p.threads c info?) (c' : Socket) :
    p'.pending c' = if c' = c then (if info?.any (·.control = .receive) then 1 else 0)
      else p.pending c' := by
  rw [Process.pending, threads, Function.update_apply]
  split
  · rfl
  · rfl

section Step

variable {p p' : Process} (h : Stops p)

include h

/-- A step that stops no thread. -/
theorem Stops.keep (list : p.lstClientThreadInfo.length ≤ p'.lstClientThreadInfo.length)
    (new : List ProcessEntry) (log : p'.log = p.log ++ new) (kept : ∀ c, .terminated c ∉ new)
    (flags : ∀ c < p.lstClientThreadInfo.length, ∀ info', p'.threads c = some info' →
      ∃ info, p.threads c = some info ∧
        (info.locals.bTerminate = true → info'.locals.bTerminate = true))
    (served : ∀ c < p.lstClientThreadInfo.length,
      (∀ info, p.threads c = some info → info.locals.bTerminate = true) →
      (new.filterMap (ProcessEntry.handled? c)).length + p'.pending c ≤ p.pending c) :
    Stops p' := by
  intro c before after split
  rw [log] at split
  rcases Run.split_append split with ⟨after, earlier, rfl⟩ | member
  · obtain ⟨listed, stopped, few⟩ := h c before after earlier
    refine ⟨listed.trans_le list, fun info' found' => ?_, ?_⟩
    · obtain ⟨info, found, kept⟩ := flags c listed info' found'
      exact kept (stopped info found)
    · have less := served c listed stopped
      rw [List.filterMap_append, List.length_append]
      omega
  · exact absurd member (kept c)

/-- A step that changes one object. -/
theorem Stops.touch {c : Socket} {info : ThreadInfo} {info? : Option ThreadInfo}
    (found : p.threads c = some info) (threads : p'.threads = Function.update p.threads c info?)
    (list : p.lstClientThreadInfo.length ≤ p'.lstClientThreadInfo.length)
    (new : List ProcessEntry) (log : p'.log = p.log ++ new) (kept : ∀ c, .terminated c ∉ new)
    (flags : ∀ info', info? = some info' →
      info.locals.bTerminate = true → info'.locals.bTerminate = true)
    (others : ∀ c', c' ≠ c → new.filterMap (ProcessEntry.handled? c') = [])
    (served : info.locals.bTerminate = true → (new.filterMap (ProcessEntry.handled? c)).length +
      (if info?.any (·.control = .receive) then 1 else 0) ≤ p.pending c) : Stops p' := by
  refine h.keep list new log kept (fun c' _ info' found' => ?_) (fun c' _ stopped => ?_)
  · rw [threads, Function.update_apply] at found'
    split at found'
    next here => exact ⟨info, here ▸ found, flags info' found'⟩
    · exact ⟨info', found', id⟩
  · rw [pending_update threads]
    split
    next here =>
      rw [here]
      exact served (stopped info (here ▸ found))
    next other =>
      rw [others c' other, List.length_nil, Nat.zero_add]

end Step

section Runs

variable (accounts : RecordImage AccountInfo) (transactions : RecordImage TransactionInfo)
  {newHandle : Finset Handle → Handle}

theorem terminated_notMem_closedEntry (c c' : Socket) (hSocket : Option Handle) :
    .terminated c' ∉ closedEntry c hSocket := by
  intro member
  obtain ⟨_, _, same⟩ := List.mem_map.mp member
  cases same

theorem handled_closedEntry (c c' : Socket) (hSocket : Option Handle) :
    (closedEntry c hSocket).filterMap (ProcessEntry.handled? c') = [] := by
  cases hSocket with
  | none => rfl
  | some h => rfl

theorem Stops.step {p : Process} (tidy : Tidy p) (h : Stops p) (turn : ProcessTurn) :
    Stops (processStep accounts transactions newHandle p turn) := by
  have effect := processStep_stepped accounts transactions newHandle p turn
  generalize processStep accounts transactions newHandle p turn = p' at *
  have equal (c : Socket) : 0 + p.pending c ≤ p.pending c := Nat.le_of_eq (Nat.zero_add _)
  -- a thread in `Receive` has one message to handle
  have receives {c : Socket} {info : ThreadInfo} (found : p.threads c = some info)
      (at_ : info.control = .receive) : p.pending c = 1 := by
    simp [Process.pending, found, at_]
  cases effect with
  | idle => exact h
  | signalled =>
    exact h.keep (Nat.le_refl _) [.signalled] rfl (fun _ => by simp)
      (fun _ _ info found => ⟨info, found, id⟩) fun c _ _ => equal c
  | entered => exact h
  | ended => exact h
  | refused => exact h
  | stopped => exact h
  | closed => exact h
  | saved => exact h
  | accepted pending at_ =>
    have other {c : Socket} (listed : c < p.lstClientThreadInfo.length) :
        c ≠ p.lstClientThreadInfo.length := Nat.ne_of_lt listed
    refine h.keep (Nat.le_succ _) [.accepted _ _] rfl (fun _ => by simp)
      (fun c listed info found => ⟨info, ?_, id⟩) (fun c listed _ => ?_)
    · change Function.update p.threads _ _ c = some info at found
      rwa [Function.update_of_ne (other listed)] at found
    · rw [@pending_update p (acceptTurn newHandle p) _ _ rfl, if_neg (other listed)]
      exact equal c
  | terminated pending it rest at_ =>
    have left : p.left = it :: rest := by simp only [Process.left, at_]
    have listed : it < p.lstClientThreadInfo.length :=
      tidy.lt_of_mem_left (left ▸ List.mem_cons_self)
    have waits (c : Socket) : (terminateTurn p it rest).pending c = p.pending c := by
      rw [@pending_update p (terminateTurn p it rest) _ _ rfl]
      split
      next here =>
        rw [here, Process.pending]
        cases p.threads it with
        | none => rfl
        | some info => rfl
      · rfl
    have stopped (info' : ThreadInfo) (found' : (terminateTurn p it rest).threads it = some info') :
        info'.locals.bTerminate = true := by
      change Function.update p.threads it _ it = some info' at found'
      rw [Function.update_self] at found'
      obtain ⟨info, _, rfl⟩ := Option.map_eq_some_iff.mp found'
      rfl
    intro c before after split
    rcases Run.split_concat split with ⟨after, earlier, rfl⟩ | ⟨_, same, rfl⟩
    · obtain ⟨here, before, few⟩ := h c before after earlier
      refine ⟨here, fun info' found' => ?_, ?_⟩
      · by_cases last : c = it
        · exact stopped info' (last ▸ found')
        · change Function.update p.threads it _ c = some info' at found'
          rw [Function.update_of_ne last] at found'
          exact before info' found'
      · rw [waits, List.filterMap_append, List.length_append]
        exact few
    · cases same
      refine ⟨listed, stopped, ?_⟩
      rw [List.filterMap_nil, List.length_nil, Nat.zero_add]
      exact pending_le _ it
  | deleted pending it rest at_ joined =>
    obtain ⟨info, found⟩ : ∃ info, p.threads it = some info := by
      rw [← Option.isSome_iff_exists, tidy.allocated]
      simp only [Process.left, at_, List.mem_cons_self]
    refine h.touch found rfl (Nat.le_refl _)
      (closedEntry it (p.hSocket it) ++ [ProcessEntry.deleted it]) (List.append_assoc _ _ _)
      (fun c member => ?_) (fun _ none => by cases none)
      (fun c _ => ?_) (fun _ => ?_)
    · rcases List.mem_append.mp member with member | member
      · exact terminated_notMem_closedEntry it c _ member
      · simp at member
    · rw [List.filterMap_append, handled_closedEntry]
      rfl
    · rw [List.filterMap_append, handled_closedEntry]
      exact Nat.zero_le _
  | looped c result info found at_ =>
    refine h.touch found rfl (Nat.le_refl _) [] (List.append_nil _).symm (fun _ => by simp)
      (fun info' same => ?_) (fun _ _ => rfl) (fun stopped => ?_)
    · cases same
      exact id
    · simp [stopped]
  | missed c result info found at_ =>
    refine h.touch found rfl (Nat.le_refl _) [] (List.append_nil _).symm (fun _ => by simp)
      (fun info' same => ?_) (fun _ _ => rfl) (fun stopped => ?_)
    · cases same
      exact id
    · simp
  | ignored c received qwNow info found at_ holds read =>
    refine h.touch found rfl (Nat.le_refl _) [] (List.append_nil _).symm (fun _ => by simp)
      (fun info' same => ?_) (fun _ _ => rfl) (fun stopped => ?_)
    · cases same
      exact id
    · simp
  | handled c received qwNow info r found at_ holds read =>
    refine h.touch found rfl (Nat.le_refl _) [.handled _ _ _ _] rfl (fun _ => by simp)
      (fun info' same => ?_) (fun c' other => ?_) (fun stopped => ?_)
    · cases same
      exact id
    · simp [ProcessEntry.handled?, other.symm]
    · rw [receives found at_]
      simp [ProcessEntry.handled?]
  | disconnected c info found at_ holds =>
    refine h.touch found rfl (Nat.le_refl _)
      (.disconnected c info.locals.wClientID :: closedEntry c info.hSocket) rfl
      (fun c' member => ?_) (fun info' same => ?_) (fun c' _ => ?_) (fun _ => ?_)
    · rcases List.mem_cons.mp member with same | member
      · cases same
      · exact terminated_notMem_closedEntry c c' info.hSocket member
    · cases same
      exact fun _ => rfl
    · exact handled_closedEntry c c' info.hSocket
    · rw [receives found at_, List.filterMap_cons]
      simp [handled_closedEntry, ProcessEntry.handled?]

/-! ### What is saved -/

/-- The file is written once, and then no thread is there to change a table. -/
structure Saves (store : Store) (p : Process) : Prop where
  before : p.control ≠ .returned → p.store = store
  saved : p.control = .returned → p.store = (saveServerDB accounts transactions p.server).2

theorem Saves.step {store : Store} {p : Process} (tidy : Tidy p)
    (h : Saves accounts transactions store p) (turn : ProcessTurn) :
    Saves accounts transactions store (processStep accounts transactions newHandle p turn) := by
  have effect := processStep_stepped accounts transactions newHandle p turn
  generalize processStep accounts transactions newHandle p turn = p' at *
  -- the thread that moves is not deleted
  have alive {c : Socket} {info : ThreadInfo} (found : p.threads c = some info) :
      p.control ≠ .returned := by
    intro at_
    rw [tidy.threads_eq_none (by rw [at_]; rfl) c] at found
    cases found
  have moved (from_ : p.control ≠ .returned) (same : p'.store = p.store)
      (to_ : p'.control ≠ .returned) : Saves accounts transactions store p' :=
    ⟨fun _ => same.trans (h.before from_), fun at_ => absurd at_ to_⟩
  cases effect with
  | idle => exact h
  | signalled => exact ⟨h.before, h.saved⟩
  | entered pending at_ =>
    exact moved (fun to_ => by cases at_.symm.trans to_) rfl fun to_ => by cases to_
  | ended pending at_ =>
    exact moved (fun to_ => by cases at_.symm.trans to_) rfl fun to_ => by cases to_
  | refused pending at_ =>
    exact moved (fun to_ => by cases at_.symm.trans to_) rfl fun to_ => by cases to_
  | accepted pending at_ =>
    exact moved (fun to_ => by cases at_.symm.trans to_) rfl fun to_ => by cases to_
  | stopped pending at_ =>
    exact moved (fun to_ => by cases at_.symm.trans to_) rfl fun to_ => by cases to_
  | terminated pending it rest at_ =>
    exact moved (fun to_ => by cases at_.symm.trans to_) rfl fun to_ => by cases to_
  | deleted pending it rest at_ joined =>
    exact moved (fun to_ => by cases at_.symm.trans to_) rfl fun to_ => by cases to_
  | closed pending at_ =>
    exact moved (fun to_ => by cases at_.symm.trans to_) rfl fun to_ => by cases to_
  | saved pending at_ => exact ⟨fun other => absurd rfl other, fun _ => rfl⟩
  | looped c result info found at_ => exact moved (alive found) rfl (alive found)
  | missed c result info found at_ => exact moved (alive found) rfl (alive found)
  | ignored c received qwNow info found at_ holds read =>
    exact moved (alive found) rfl (alive found)
  | handled c received qwNow info r found at_ holds read =>
    exact moved (alive found) rfl (alive found)
  | disconnected c info found at_ holds => exact moved (alive found) rfl (alive found)

theorem stops_saves_run (fresh : ∀ handles, newHandle handles ∉ handles) (store : Store)
    (listens : Bool) (turns : List ProcessTurn) :
    let p := runProcess accounts transactions newHandle store listens turns
    Stops p ∧ Saves accounts transactions store p := by
  intro p
  have start : Stops (processStart accounts transactions newHandle store listens) := by
    intro c before after split
    simp [processStart] at split
  exact (Run.invariant (processStep accounts transactions newHandle)
    (fun p => Tidy p ∧ Stops p ∧ Saves accounts transactions store p) (fun _ => True)
    (fun _ turn _ h => ⟨h.1.step accounts transactions fresh turn,
      h.2.1.step accounts transactions h.1 turn, h.2.2.step accounts transactions h.1 turn⟩) _
    ⟨tidy_start accounts transactions store listens, start, fun _ => rfl, fun at_ => by cases at_⟩
    turns fun _ _ => trivial).2

end Runs

/-- In every run of the process, with any clients and whenever the signal comes: the tables are
those that the requests and disconnects of the log leave, one after the other, and those of a
run of the connections; the files stay as they were until `main` returns; then they hold exactly
these tables, and the next start loads them without a session. A thread that `main` has told to
stop handles one more message at most. -/
theorem graceful_shutdown (accounts : RecordImage AccountInfo)
    (transactions : RecordImage TransactionInfo) (newHandle : Finset Handle → Handle)
    (fresh : ∀ handles, newHandle handles ∉ handles) (store : Store) (listens : Bool)
    (turns : List ProcessTurn) :
    let p := runProcess accounts transactions newHandle store listens turns
    let start := store.tables accounts transactions
    p.server = run start p.ops ∧
      (∃ events, p.server =
        (runConnections start.accountInfo start.transactionInfo events).shared) ∧
      (p.control ≠ .returned → p.store = store) ∧
      (p.control = .returned → p.store.tables accounts transactions =
        .boot p.server.accountInfo p.server.transactionInfo) ∧
      ∀ c before after, p.log = before ++ .terminated c :: after →
        (after.filterMap (ProcessEntry.handled? c)).length ≤ 1 := by
  intro p start
  have tables : p.server = run start p.ops :=
    (replays_runProcess accounts transactions store listens turns).state
  obtain ⟨events, simulates⟩ :=
    simulates_runProcess accounts transactions fresh store listens turns
  obtain ⟨stops, saves⟩ := stops_saves_run accounts transactions fresh store listens turns
  refine ⟨tables, ⟨events, simulates.tables.symm⟩, saves.before, fun returned => ?_,
    fun c before after split => ?_⟩
  · rw [saves.saved returned]
    have own : OwnKeys p.server := by
      rw [tables]
      exact ownKeys_run start (ownKeys_loadServerDB accounts transactions store) p.ops
    exact restart_eq accounts transactions p.server own
  · have few := (stops c before after split).2.2
    omega

/-- A client opens an account and the signal comes. -/
theorem graceful_shutdown_anna :
    let accounts := accountInfoImage ⟨[0, 0, 0, 0, 0, 0], rfl⟩ ⟨[0, 0, 0, 0], rfl⟩
    let transactions := transactionInfoImage ⟨[0, 0, 0, 0, 0, 0], rfl⟩
    let send (call : Call) (dwSequence : Dword) (w : Word) : Received :=
      ⟨(call.request dwSequence w 0).bytes, (call.length_request dwSequence w 0).1,
        (call.length_request dwSequence w 0).2⟩
    let connect : Received := send .sendConnect 0 0
    let create : Received := send (.sendCreateAccount [65, 110, 110, 97] [] [] 4711) 1 1
    let turns : List ProcessTurn := [.main true, .main true, .thread 0 .closed,
      .thread 0 (.data connect 0), .thread 0 .closed, .thread 0 (.data create 0), .signal,
      .main true, .main true, .thread 0 .closed, .main true, .main true, .main true, .main true]
    (runProcess accounts transactions lowestHandle ⟨[], []⟩ true turns).control = .returned ∧
      let p := runProcess accounts transactions lowestHandle ⟨[], []⟩ true turns
      let start := Store.tables accounts transactions ⟨[], []⟩
      p.server = run start p.ops ∧
        (∃ events, p.server =
          (runConnections start.accountInfo start.transactionInfo events).shared) ∧
        (p.control ≠ .returned → p.store = ⟨[], []⟩) ∧
        (p.control = .returned → p.store.tables accounts transactions =
          .boot p.server.accountInfo p.server.transactionInfo) ∧
        ∀ c before after, p.log = before ++ .terminated c :: after →
          (after.filterMap (ProcessEntry.handled? c)).length ≤ 1 := by
  intro accounts transactions send connect create turns
  exact ⟨by decide +kernel, graceful_shutdown accounts transactions lowestHandle
    lowestHandle_notMem ⟨[], []⟩ true turns⟩

/-! ### The way to the end -/

/-- The turns a thread needs to return when its flag is set. -/
def ThreadControl.rank : ThreadControl → Nat
  | .returned => 0
  | .test => 1
  | .receive => 2

/-- The turns of the thread that `main` waits for. -/
def Process.joining (p : Process) : Nat :=
  match p.control.joins with
  | some it => (p.threads it).elim 0 fun info => info.control.rank
  | none => 0

/-- Where `main` is, how many connections there are, and how far the thread is. -/
def Process.rank (p : Process) : MainControl × Nat × Nat :=
  (p.control, p.lstClientThreadInfo.length, p.joining)

/-- A bound for the turns that lead to the end. -/
def remainingTurns : MainControl × Nat × Nat → Nat
  | (.accept, n, _) => 10 + 5 * n
  | (.test, n, _) => 4 + 5 * n
  | (.stop rest, _, _) => 3 + 5 * rest.length
  | (.join _ rest, _, joining) => 4 + 5 * rest.length + joining
  | (.close, _, _) => 2
  | (.save, _, _) => 1
  | (.returned, _, _) => 0

theorem joining_le (p : Process) : p.joining ≤ 2 := by
  rw [Process.joining]
  split
  next it _ =>
    cases p.threads it with
    | none => exact Nat.zero_le 2
    | some info =>
      change info.control.rank ≤ 2
      cases info.control <;> decide
  · exact Nat.zero_le 2

section Runs

variable (accounts : RecordImage AccountInfo) (transactions : RecordImage TransactionInfo)
  {newHandle : Finset Handle → Handle} {p : Process} (tidy : Tidy p)
  (signalled : p.bTerminate = true)

theorem joining_update {p p' : Process} {c : Socket} {info info' : ThreadInfo}
    (found : p.threads c = some info)
    (threads : p'.threads = Function.update p.threads c (some info'))
    (control : p'.control = p.control) :
    (p.control.joins = some c ∧ p.joining = info.control.rank ∧
      p'.joining = info'.control.rank) ∨ p'.joining = p.joining := by
  simp only [Process.joining, control]
  cases joins : p.control.joins with
  | none => exact Or.inr rfl
  | some it =>
    by_cases here : it = c
    · subst here
      exact Or.inl ⟨rfl, by simp [found], by simp [threads]⟩
    · refine Or.inr ?_
      simp [threads, here]

include tidy in
/-- The thread that `main` waits for only leads on. -/
theorem rank_touch {p' : Process} {c : Socket} {info info' : ThreadInfo}
    (found : p.threads c = some info)
    (threads : p'.threads = Function.update p.threads c (some info'))
    (control : p'.control = p.control) (list : p'.lstClientThreadInfo = p.lstClientThreadInfo)
    (less : info.locals.bTerminate = true → info'.control.rank < info.control.rank) :
    p'.rank = p.rank ∨ remainingTurns p'.rank < remainingTurns p.rank := by
  rcases joining_update found threads control with ⟨joins, before, after⟩ | same
  · right
    have down := less (tidy.joined c joins info found)
    cases at_ : p.control with
    | join it rest =>
      simp only [Process.rank, control, at_, remainingTurns, before, after]
      omega
    | _ =>
      rw [at_] at joins
      cases joins
  · left
    simp only [Process.rank, control, list, same]

include tidy signalled in
/-- After a signal every turn leads on or leaves everything that counts as it is. -/
theorem rank_step (turn : ProcessTurn) :
    (processStep accounts transactions newHandle p turn).rank = p.rank ∨
      remainingTurns (processStep accounts transactions newHandle p turn).rank <
        remainingTurns p.rank := by
  have effect := processStep_stepped accounts transactions newHandle p turn
  generalize processStep accounts transactions newHandle p turn = p' at *
  cases effect with
  | idle => exact Or.inl rfl
  | signalled => exact Or.inl rfl
  | entered pending at_ running => cases running.symm.trans signalled
  | ended pending at_ =>
    right
    simp only [Process.rank, at_, remainingTurns]
    omega
  | refused pending at_ =>
    right
    simp only [Process.rank, at_, remainingTurns]
    omega
  | accepted pending at_ =>
    right
    simp only [Process.rank, acceptTurn, at_, remainingTurns, List.length_cons]
    omega
  | stopped pending at_ =>
    right
    simp only [Process.rank, at_, remainingTurns, List.length_nil]
    omega
  | terminated pending it rest at_ =>
    right
    have bound := joining_le (terminateTurn p it rest)
    simp only [Process.rank, terminateTurn, at_, remainingTurns, List.length_cons] at bound ⊢
    omega
  | deleted pending it rest at_ joined =>
    right
    simp only [Process.rank, deleteTurn, at_, remainingTurns]
    omega
  | closed pending at_ =>
    right
    simp only [Process.rank, closeServerTurn, at_, remainingTurns]
    omega
  | saved pending at_ =>
    right
    simp only [Process.rank, at_, remainingTurns]
    omega
  | looped c result info found at_ =>
    refine rank_touch tidy found rfl rfl rfl fun stopped => ?_
    rw [if_pos stopped, at_]
    exact Nat.zero_lt_one
  | missed c result info found at_ =>
    refine rank_touch tidy found rfl rfl rfl fun _ => ?_
    rw [at_]
    exact Nat.lt_succ_self 1
  | ignored c received qwNow info found at_ holds read =>
    refine rank_touch tidy found rfl rfl rfl fun _ => ?_
    rw [at_]
    exact Nat.lt_succ_self 1
  | handled c received qwNow info r found at_ holds read =>
    refine rank_touch tidy found rfl rfl rfl fun _ => ?_
    rw [at_]
    exact Nat.lt_succ_self 1
  | disconnected c info found at_ holds =>
    refine rank_touch tidy found rfl rfl rfl fun _ => ?_
    rw [at_]
    exact Nat.lt_succ_self 1

/-- `main` moves unless it waits for a thread. -/
theorem main_moves (running : p.control ≠ .returned) (joined : p.joining = 0) (pending : Bool) :
    (processStep accounts transactions newHandle p (.main pending)).control ≠ p.control := by
  simp only [processStep, mainTurn]
  cases at_ : p.control with
  | test =>
    dsimp only
    split
    · exact fun same => by cases same
    · exact fun same => by cases same
  | accept =>
    dsimp only
    split
    · exact fun same => by cases same
    · exact fun same => by cases same
  | stop rest =>
    cases rest with
    | nil => exact fun same => by cases same
    | cons it rest => exact fun same => by cases same
  | join it rest =>
    -- the thread has returned
    have all : (p.threads it).all (·.control = .returned) = true := by
      simp only [Process.joining, at_, MainControl.joins] at joined
      cases found : p.threads it with
      | none => rfl
      | some info =>
        rw [found] at joined
        change info.control.rank = 0 at joined
        cases at' : info.control with
        | returned => simp [at']
        | _ =>
          rw [at'] at joined
          cases joined
    dsimp only
    rw [if_pos all]
    exact fun same => by cases same
  | close => exact fun same => by cases same
  | save => exact fun same => by cases same
  | returned => exact absurd at_ running

/-- A turn in the body of the loop. -/
theorem bodyTurn_control (p : Process) (c : Socket) (info : ThreadInfo) (result : ReceiveResult) :
    (bodyTurn p c info result).control = p.control ∧
      ((bodyTurn p c info result).threads c).map (·.control) = some .test := by
  cases result with
  | error wouldBlock interrupted => exact ⟨rfl, by simp [bodyTurn, emptyTurn]⟩
  | closed => exact ⟨rfl, by simp [bodyTurn, disconnectTurn]⟩
  | data received qwNow =>
    simp only [bodyTurn]
    split
    · exact ⟨rfl, by simp [handleTurn]⟩
    · exact ⟨rfl, by simp [emptyTurn]⟩

include tidy in
/-- The thread that `main` waits for moves. -/
theorem thread_moves {it : Socket} {rest : List Socket} (at_ : p.control = .join it rest)
    (running : p.joining ≠ 0) (result : ReceiveResult) :
    (processStep accounts transactions newHandle p (.thread it result)).joining ≠ p.joining := by
  have joining (p : Process) (at_ : p.control = .join it rest) :
      p.joining = ((p.threads it).map (·.control)).elim 0 ThreadControl.rank := by
    simp only [Process.joining, at_, MainControl.joins]
    cases p.threads it with
    | none => rfl
    | some info => rfl
  have before := joining p at_
  cases found : p.threads it with
  | none =>
    rw [found] at before
    exact absurd before running
  | some info =>
    have stopped := tidy.joined it (by rw [at_]; rfl) info found
    rw [found] at before
    change p.joining = info.control.rank at before
    simp only [processStep, threadTurn, found]
    cases at' : info.control with
    | test =>
      dsimp only
      rw [if_pos stopped, before, at',
        joining (emptyTurn p it info .returned info.locals.rgBuffer) at_]
      simp [emptyTurn, ThreadControl.rank]
    | receive =>
      dsimp only
      obtain ⟨control, after⟩ := bodyTurn_control p it info
        (if info.hSocket.isSome = true then result else .error false false)
      rw [before, at', joining _ (control.trans at_), after]
      simp [ThreadControl.rank]
    | returned =>
      rw [at'] at before
      exact absurd before running

/-- `main` only waits for a thread that is there. -/
theorem exists_join_of_joining {p : Process} (waits : p.joining ≠ 0) :
    ∃ it rest, p.control = .join it rest ∧ (p.threads it).isSome = true := by
  cases at_ : p.control with
  | join it rest =>
    refine ⟨it, rest, rfl, ?_⟩
    by_contra none_
    refine waits ?_
    simp only [Process.joining, at_, MainControl.joins, Option.not_isSome_iff_eq_none.mp none_,
      Option.elim_none]
  | _ => exact absurd (by simp only [Process.joining, at_, MainControl.joins]) waits

theorem signal_step {p : Process} (signalled : p.bTerminate = true) (turn : ProcessTurn) :
    (processStep accounts transactions newHandle p turn).bTerminate = true := by
  have effect := processStep_stepped accounts transactions newHandle p turn
  generalize processStep accounts transactions newHandle p turn = p' at *
  cases effect with
  | signalled => rfl
  | _ => exact signalled

theorem signal_run {p : Process} {turns : List ProcessTurn}
    (signal : p.bTerminate = true ∨ .signal ∈ turns) :
    (Run.run (processStep accounts transactions newHandle) p turns).bTerminate = true := by
  induction turns generalizing p with
  | nil => exact signal.resolve_right List.not_mem_nil
  | cons turn rest ih =>
    rw [Run.run_cons]
    refine ih ?_
    rcases signal with set | member
    · exact Or.inl (signal_step accounts transactions set turn)
    · rcases List.mem_cons.mp member with rfl | later
      · exact Or.inl rfl
      · exact Or.inr later

end Runs

/-- After a signal `main` returns, whatever the clients send, under every schedule that gives
`main` and every thread that is there turns again and again. -/
theorem shutdown_ends (accounts : RecordImage AccountInfo)
    (transactions : RecordImage TransactionInfo) (newHandle : Finset Handle → Handle)
    (fresh : ∀ handles, newHandle handles ∉ handles) (store : Store) (listens : Bool)
    (turns : List ProcessTurn) (signal : .signal ∈ turns) (schedule : Nat → ProcessTurn)
    (mains : Run.Again schedule fun turn => ∃ pending, turn = .main pending)
    (threads : ∀ n c, ((runProcess accounts transactions newHandle store listens
        (turns ++ Run.firstTurns schedule n)).threads c).isSome = true →
      Run.Again schedule fun turn => ∃ result, turn = .thread c result) :
    ∃ n, (runProcess accounts transactions newHandle store listens
      (turns ++ Run.firstTurns schedule n)).control = .returned := by
  have same (n : Nat) : runProcess accounts transactions newHandle store listens
      (turns ++ Run.firstTurns schedule n) =
        Run.stateAt (processStep accounts transactions newHandle)
          (runProcess accounts transactions newHandle store listens turns) schedule n :=
    Run.run_append _ _ _ _
  have tidy (n : Nat) := tidy_run accounts transactions fresh store listens
    (turns ++ Run.firstTurns schedule n)
  have signalled : (runProcess accounts transactions newHandle store listens turns).bTerminate =
      true := signal_run accounts transactions (Or.inr signal)
  simp only [same] at threads tidy ⊢
  generalize runProcess accounts transactions newHandle store listens turns = p at *
  have quiet (n : Nat) := @rank_step accounts transactions newHandle _ (tidy n)
    (signal_run accounts transactions (Or.inl signalled)) (schedule n)
  refine Run.ranked_ends Process.rank (fun r r' => remainingTurns r < remainingTurns r')
    (measure remainingTurns).wf (fun p => p.control = .returned) (fun n => ?_) (fun n => ?_)
  · rw [Run.stateAt_succ]
    exact quiet n
  · refine or_iff_not_imp_left.mpr fun running => ?_
    -- whoever is to move changes the rank, and so takes it down
    by_cases waits : (Run.stateAt (processStep accounts transactions newHandle) p schedule
        n).joining = 0
    · refine ⟨_, mains, fun m _ rank main => ?_⟩
      obtain ⟨pending, turn⟩ := main
      have moves := @main_moves accounts transactions newHandle _
        (fun at_ => running ((congrArg Prod.fst rank).symm.trans at_))
        ((congrArg (·.2.2) rank).trans waits) pending
      rw [Run.stateAt_succ]
      refine (quiet m).resolve_left fun equal => ?_
      rw [turn] at equal
      exact moves (congrArg Prod.fst equal)
    · obtain ⟨it, rest, at_, alive⟩ := exists_join_of_joining waits
      refine ⟨_, threads n it alive, fun m _ rank thread => ?_⟩
      obtain ⟨result, turn⟩ := thread
      have moves := @thread_moves accounts transactions newHandle _ (tidy m) _ _
        ((congrArg Prod.fst rank).trans at_)
        (fun zero => waits ((congrArg (·.2.2) rank).symm.trans zero)) result
      rw [Run.stateAt_succ]
      refine (quiet m).resolve_left fun equal => ?_
      rw [turn] at equal
      exact moves (congrArg (·.2.2) equal)

/-- `main` in turn with all threads there may be. -/
theorem shutdown_ends_waiting :
    let accounts := accountInfoImage ⟨[0, 0, 0, 0, 0, 0], rfl⟩ ⟨[0, 0, 0, 0], rfl⟩
    let transactions := transactionInfoImage ⟨[0, 0, 0, 0, 0, 0], rfl⟩
    let turns : List ProcessTurn := [.main true, .main true, .thread 0 .closed, .main true, .signal]
    let schedule : Nat → ProcessTurn := fun n =>
      if n % 2 = 0 then .main true else .thread (n / 2).unpair.1 (.error true false)
    ∃ n, (runProcess accounts transactions lowestHandle ⟨[], []⟩ true
      (turns ++ Run.firstTurns schedule n)).control = .returned := by
  intro accounts transactions turns schedule
  refine shutdown_ends accounts transactions lowestHandle lowestHandle_notMem ⟨[], []⟩ true turns
    (by simp [turns]) schedule (fun n => ⟨2 * n, by omega, true, ?_⟩) fun _ c _ n => ?_
  · simp [schedule]
  · refine ⟨2 * Nat.pair c n + 1, ?_, .error true false, ?_⟩
    · have later := Nat.right_le_pair c n
      omega
    · have odd : (2 * Nat.pair c n + 1) % 2 = 1 := by omega
      have half : (2 * Nat.pair c n + 1) / 2 = Nat.pair c n := by omega
      simp only [schedule, odd, half, Nat.unpair_pair, Nat.one_ne_zero, if_false]

end Cnp
