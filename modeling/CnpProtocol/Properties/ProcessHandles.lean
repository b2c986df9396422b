import CnpProtocol.Server.Process
import Mathlib.Data.Finset.Lattice.Fold

/-!
# The sockets of the process

Every `SOCKET` is closed once, by the object that got it: a thread closes its socket when the
client has left, the destructor closes it otherwise, and `Close` forgets what it has closed. So
a number that the operating system gives out again is never closed for an old connection.
-/

namespace Cnp

/-- The objects of `lstClientThreadInfo` that are not deleted. -/
def Process.left (p : Process) : List Socket :=
  match p.control with
  | .test => p.lstClientThreadInfo
  | .accept => p.lstClientThreadInfo
  | .stop rest => rest
  | .join it rest => it :: rest
  | _ => []

/-- The thread that `main` waits for. -/
def MainControl.joins : MainControl → Option Socket
  | .join it _ => some it
  | _ => none

/-- `main` has closed the listening socket. -/
def MainControl.behindClose : MainControl → Bool
  | .save => true
  | .returned => true
  | _ => false

/-- Who holds which handle: the listening socket and the sockets of the connections. -/
def Process.holds (p : Process) : Option Socket → Option Handle
  | none => p.hSvrSocket
  | some c => p.hSocket c

/-- A thread is stopped when its socket is closed, and receives on an open one. -/
structure ThreadInfo.Sound (info : ThreadInfo) : Prop where
  closed : info.hSocket = none → info.locals.bTerminate = true
  receives : info.control = .receive → info.hSocket.isSome = true

/-- The invariant of `main` and its threads. -/
structure Tidy (p : Process) : Prop where
  list : p.lstClientThreadInfo = (List.range p.lstClientThreadInfo.length).reverse
  left : p.left <:+ p.lstClientThreadInfo
  allocated : ∀ c, (p.threads c).isSome = true ↔ c ∈ p.left
  threads : ∀ c info, p.threads c = some info → info.Sound
  joined : ∀ it, p.control.joins = some it → ∀ info, p.threads it = some info →
    info.locals.bTerminate = true
  ended : p.control.behindClose = true → p.hSvrSocket = none
  owned : Handles.Owned p.holds p.handles
  once : ∀ c, (p.log.filterMap (ProcessEntry.accepted? c)).length =
    if c < p.lstClientThreadInfo.length then 1 else 0
  ledger : ∀ c, p.log.filterMap (ProcessEntry.accepted? c) =
    p.log.filterMap (ProcessEntry.closed? c) ++ (p.hSocket c).toList

/-! ### Updates of one object -/

section Update

variable {p p' : Process} {c : Socket} {info? : Option ThreadInfo}
  (threads : p'.threads = Function.update p.threads c info?)

include threads in
theorem hSocket_update (c' : Socket) :
    p'.hSocket c' = if c' = c then info?.bind (·.hSocket) else p.hSocket c' := by
  rw [Process.hSocket, threads, Function.update_apply]
  split
  · rfl
  · rfl

include threads in
theorem holds_update (svr : p'.hSvrSocket = p.hSvrSocket) :
    p'.holds = Function.update p.holds (some c) (info?.bind (·.hSocket)) := by
  funext owner
  cases owner with
  | none => exact svr
  | some c' =>
    change p'.hSocket c' = _
    rw [hSocket_update threads, Function.update_apply]
    simp only [Option.some.injEq]
    rfl

end Update

/-- Entries that are about no handle. -/
def Quiet (new : List ProcessEntry) : Prop :=
  ∀ c, new.filterMap (ProcessEntry.accepted? c) = [] ∧ new.filterMap (ProcessEntry.closed? c) = []

section Touch

variable {p p' : Process} (h : Tidy p)

include h

/-- A step that changes nothing but one object, and leaves that object its handle. -/
theorem Tidy.touch {c : Socket} {info info' : ThreadInfo} (found : p.threads c = some info)
    (threads : p'.threads = Function.update p.threads c (some info'))
    (same : info'.hSocket = info.hSocket) (sound : info'.Sound)
    (list : p'.lstClientThreadInfo = p.lstClientThreadInfo) (left : p'.left = p.left)
    (svr : p'.hSvrSocket = p.hSvrSocket) (handles : p'.handles = p.handles)
    (new : List ProcessEntry) (log : p'.log = p.log ++ new) (quiet : Quiet new)
    (kept : info.locals.bTerminate = true → info'.locals.bTerminate = true)
    (joins : ∀ it, p'.control.joins = some it →
      p.control.joins = some it ∨ it = c ∧ info'.locals.bTerminate = true)
    (ended : p'.control.behindClose = true → p.control.behindClose = true) : Tidy p' := by
  have held : (some info').bind (·.hSocket) = p.hSocket c := by
    rw [Process.hSocket, found, Option.bind_some, Option.bind_some, same]
  have sockets (c' : Socket) : p'.hSocket c' = p.hSocket c' := by
    rw [hSocket_update threads, held]
    split
    next here => rw [here]
    · rfl
  have holds : p'.holds = p.holds := by
    rw [holds_update threads svr, held]
    exact Function.update_eq_self (some c) p.holds
  refine ⟨?_, ?_, fun c' => ?_, fun c' info'' found' => ?_, fun it at_ info'' found' => ?_,
    fun at_ => ?_, ?_, fun c' => ?_, fun c' => ?_⟩
  · rw [list]
    exact h.list
  · rw [left, list]
    exact h.left
  · rw [left, ← h.allocated, threads, Function.update_apply]
    split
    next here => simp [here, found]
    · rfl
  · rw [threads, Function.update_apply] at found'
    split at found'
    · exact Option.some.inj found' ▸ sound
    · exact h.threads c' info'' found'
  · rw [threads, Function.update_apply] at found'
    split at found'
    next here =>
      obtain rfl := Option.some.inj found'
      rcases joins it at_ with waiting | ⟨_, stopped⟩
      · exact kept (h.joined it waiting info (here ▸ found))
      · exact stopped
    next other =>
      have waiting := (joins it at_).resolve_right fun here => other here.1
      exact h.joined it waiting info'' found'
  · rw [svr]
    exact h.ended (ended at_)
  · rw [holds, handles]
    exact h.owned
  · rw [log, List.filterMap_append, (quiet c').1, List.append_nil, list]
    exact h.once c'
  · rw [log, List.filterMap_append, List.filterMap_append, (quiet c').1, (quiet c').2,
      List.append_nil, List.append_nil, sockets]
    exact h.ledger c'

/-- A step of `main` between two statements. -/
theorem Tidy.move (list : p'.lstClientThreadInfo = p.lstClientThreadInfo)
    (left : p'.left = p.left) (threads : p'.threads = p.threads)
    (svr : p'.hSvrSocket = p.hSvrSocket) (handles : p'.handles = p.handles)
    (new : List ProcessEntry) (log : p'.log = p.log ++ new) (quiet : Quiet new)
    (joins : ∀ it, p'.control.joins = some it → p.control.joins = some it)
    (ended : p'.control.behindClose = true → p.control.behindClose = true) : Tidy p' := by
  have sockets (c : Socket) : p'.hSocket c = p.hSocket c := by
    rw [Process.hSocket, threads]
    rfl
  have holds : p'.holds = p.holds := by
    funext owner
    cases owner with
    | none => exact svr
    | some c => exact sockets c
  refine ⟨?_, ?_, fun c => ?_, fun c => ?_, fun it at_ => ?_, fun at_ => ?_, ?_, fun c => ?_,
    fun c => ?_⟩
  · rw [list]
    exact h.list
  · rw [left, list]
    exact h.left
  · rw [left, threads]
    exact h.allocated c
  · rw [threads]
    exact h.threads c
  · rw [threads]
    exact h.joined it (joins it at_)
  · rw [svr]
    exact h.ended (ended at_)
  · rw [holds, handles]
    exact h.owned
  · rw [log, List.filterMap_append, (quiet c).1, List.append_nil, list]
    exact h.once c
  · rw [log, List.filterMap_append, List.filterMap_append, (quiet c).1, (quiet c).2,
      List.append_nil, List.append_nil, sockets]
    exact h.ledger c

end Touch

/-! ### Handles that come and go -/

theorem filterMap_closedEntry (c c' : Socket) (hSocket : Option Handle) :
    (closedEntry c hSocket).filterMap (ProcessEntry.closed? c') =
      if c = c' then hSocket.toList else [] := by
  cases hSocket with
  | none => simp [closedEntry]
  | some h =>
    by_cases same : c = c'
    · simp [closedEntry, ProcessEntry.closed?, same]
    · simp [closedEntry, ProcessEntry.closed?, same]

theorem filterMap_accepted_closedEntry (c c' : Socket) (hSocket : Option Handle) :
    (closedEntry c hSocket).filterMap (ProcessEntry.accepted? c') = [] := by
  cases hSocket with
  | none => rfl
  | some h => rfl

section Turns

variable {p : Process} (h : Tidy p)

include h

theorem Tidy.lt_of_mem_left {c : Socket} (member : c ∈ p.left) :
    c < p.lstClientThreadInfo.length := by
  have listed := h.left.subset member
  rw [h.list, List.mem_reverse, List.mem_range] at listed
  exact listed

theorem Tidy.nodup_left : p.left.Nodup := by
  refine h.left.sublist.nodup ?_
  rw [h.list, List.nodup_reverse]
  exact List.nodup_range

/-- The address of the next object is free. -/
theorem Tidy.free : p.threads p.lstClientThreadInfo.length = none := by
  apply Option.not_isSome_iff_eq_none.mp
  rw [h.allocated]
  intro member
  exact Nat.lt_irrefl _ (h.lt_of_mem_left member)

theorem Tidy.accept (newHandle : Finset Handle → Handle)
    (fresh : newHandle p.handles ∉ p.handles) (at_ : p.control = .accept) :
    Tidy (acceptTurn newHandle p) := by
  have free := h.free
  have left : p.left = p.lstClientThreadInfo := by simp only [Process.left, at_]
  have sockets := @hSocket_update p (acceptTurn newHandle p) _ _ rfl
  have holds := @holds_update p (acceptTurn newHandle p) _ _ rfl rfl
  have none_ : p.hSocket p.lstClientThreadInfo.length = none := by
    rw [Process.hSocket, free]
    rfl
  refine ⟨?_, ?_, fun c => ?_, fun c info found => ?_, fun it joins => ?_, fun behind => ?_, ?_,
    fun c => ?_, fun c => ?_⟩
  · change p.lstClientThreadInfo.length :: p.lstClientThreadInfo = _
    rw [acceptTurn, List.length_cons, List.range_succ, List.reverse_append, ← h.list]
    rfl
  · exact List.suffix_refl _
  · change (Function.update p.threads _ _ c).isSome = true ↔
      c ∈ p.lstClientThreadInfo.length :: p.lstClientThreadInfo
    rw [Function.update_apply, List.mem_cons, ← left, ← h.allocated]
    split
    next here => simp [here]
    next other => simp [other]
  · change Function.update p.threads _ _ c = some info at found
    rw [Function.update_apply] at found
    split at found
    · cases found
      exact ⟨fun closed => (by cases closed), fun receives => (by cases receives)⟩
    · exact h.threads c info found
  · cases joins
  · cases behind
  · rw [holds]
    exact h.owned.grant (i := some p.lstClientThreadInfo.length) none_ fresh
  · change ((p.log ++ [ProcessEntry.accepted _ _]).filterMap _).length =
      if c < p.lstClientThreadInfo.length + 1 then 1 else 0
    rw [List.filterMap_append, List.length_append, h.once]
    by_cases here : p.lstClientThreadInfo.length = c
    · simp [ProcessEntry.accepted?, here]
    · have bound : c < p.lstClientThreadInfo.length + 1 ↔ c < p.lstClientThreadInfo.length :=
        Nat.lt_succ_iff_lt_or_eq.trans (or_iff_left (Ne.symm here))
      simp [ProcessEntry.accepted?, here, bound]
  · change (p.log ++ [ProcessEntry.accepted _ _]).filterMap _ =
      (p.log ++ [ProcessEntry.accepted _ _]).filterMap _ ++ _
    rw [List.filterMap_append, List.filterMap_append, sockets, h.ledger]
    by_cases here : c = p.lstClientThreadInfo.length
    · rw [if_pos here, here, none_]
      simp [ProcessEntry.accepted?, ProcessEntry.closed?]
    · rw [if_neg here]
      simp [ProcessEntry.accepted?, ProcessEntry.closed?, Ne.symm here]

/-- A socket is closed, and its object kept or not. -/
theorem Tidy.giveBack {p' : Process} {c : Socket} {info? : Option ThreadInfo}
    (threads : p'.threads = Function.update p.threads c info?)
    (closed : info?.bind (·.hSocket) = none)
    (list : p'.lstClientThreadInfo = p.lstClientThreadInfo)
    (svr : p'.hSvrSocket = p.hSvrSocket)
    (handles : p'.handles = Handles.close p.handles (p.hSocket c))
    (before after : List ProcessEntry)
    (log : p'.log = p.log ++ (before ++ closedEntry c (p.hSocket c) ++ after))
    (quiet : Quiet before ∧ Quiet after) :
    Handles.Owned p'.holds p'.handles ∧
      (∀ c, (p'.log.filterMap (ProcessEntry.accepted? c)).length =
        if c < p'.lstClientThreadInfo.length then 1 else 0) ∧
      ∀ c, p'.log.filterMap (ProcessEntry.accepted? c) =
        p'.log.filterMap (ProcessEntry.closed? c) ++ (p'.hSocket c).toList := by
  have sockets := hSocket_update threads
  have accepted (c' : Socket) : p'.log.filterMap (ProcessEntry.accepted? c') =
      p.log.filterMap (ProcessEntry.accepted? c') := by
    rw [log]
    simp only [List.filterMap_append, (quiet.1 c').1, (quiet.2 c').1,
      filterMap_accepted_closedEntry, List.append_nil]
  refine ⟨?_, fun c' => ?_, fun c' => ?_⟩
  · rw [holds_update threads svr, handles, closed]
    exact h.owned.close (some c)
  · rw [accepted, list]
    exact h.once c'
  · rw [accepted, log, h.ledger, sockets]
    simp only [List.filterMap_append, (quiet.1 c').2, (quiet.2 c').2, filterMap_closedEntry,
      List.nil_append, List.append_nil]
    by_cases here : c' = c
    · rw [if_pos here, if_pos here.symm, here, closed]
      simp
    · rw [if_neg here, if_neg (Ne.symm here), List.append_nil]

theorem Tidy.disconnect {c : Socket} {info : ThreadInfo} (found : p.threads c = some info) :
    Tidy (disconnectTurn p c info) := by
  have holds : p.hSocket c = info.hSocket := by
    rw [Process.hSocket, found]
    rfl
  have quiet : Quiet [.disconnected c info.locals.wClientID] ∧ Quiet [] :=
    ⟨fun _ => ⟨rfl, rfl⟩, fun _ => ⟨rfl, rfl⟩⟩
  obtain ⟨owned, once, ledger⟩ := @Tidy.giveBack p h (disconnectTurn p c info) c _ rfl rfl rfl
    rfl (by rw [holds]; rfl) [.disconnected c info.locals.wClientID] []
    (by rw [holds, List.append_nil]; rfl) quiet
  refine ⟨h.list, h.left, fun c' => ?_, fun c' info' found' => ?_, fun it at_ info' found' => ?_,
    h.ended, owned, once, ledger⟩
  · change (Function.update p.threads c _ c').isSome = true ↔ c' ∈ p.left
    rw [← h.allocated, Function.update_apply]
    split
    next here => simp [here, found]
    · rfl
  · change Function.update p.threads c _ c' = some info' at found'
    rw [Function.update_apply] at found'
    split at found'
    · cases found'
      exact ⟨fun _ => rfl, fun receives => (by cases receives)⟩
    · exact h.threads c' info' found'
  · change Function.update p.threads c _ it = some info' at found'
    rw [Function.update_apply] at found'
    split at found'
    · cases found'
      rfl
    · exact h.joined it at_ info' found'

theorem Tidy.delete {it : Socket} {rest : List Socket} (at_ : p.control = .join it rest) :
    Tidy (deleteTurn p it rest) := by
  have left : p.left = it :: rest := by simp only [Process.left, at_]
  have nodup := h.nodup_left
  rw [left] at nodup
  have quiet : Quiet [] ∧ Quiet [.deleted it] := ⟨fun _ => ⟨rfl, rfl⟩, fun _ => ⟨rfl, rfl⟩⟩
  obtain ⟨owned, once, ledger⟩ := @Tidy.giveBack p h (deleteTurn p it rest) it _ rfl rfl rfl rfl
    rfl [] [.deleted it] (List.append_assoc _ _ _) quiet
  refine ⟨h.list, ?_, fun c => ?_, fun c info found => ?_, fun _ joins => ?_, fun behind => ?_,
    owned, once, ledger⟩
  · have suffix := h.left
    rw [left] at suffix
    exact (List.suffix_cons it rest).trans suffix
  · change (Function.update p.threads it none c).isSome = true ↔ c ∈ rest
    rw [Function.update_apply]
    split
    next here => simp [here, (List.nodup_cons.mp nodup).1]
    next other => rw [h.allocated, left, List.mem_cons, or_iff_right other]
  · change Function.update p.threads it none c = some info at found
    rw [Function.update_apply] at found
    split at found
    · cases found
    · exact h.threads c info found
  · cases joins
  · cases behind

theorem Tidy.closeServer (at_ : p.control = .close) : Tidy (closeServerTurn p) := by
  have holds : (closeServerTurn p).holds = Function.update p.holds none none := by
    funext owner
    cases owner with
    | none => rfl
    | some c => rfl
  refine ⟨h.list, List.nil_suffix, ?_, h.threads, fun _ joins => (by cases joins), fun _ => rfl, ?_,
    h.once, h.ledger⟩
  · have allocated := h.allocated
    simp only [Process.left, at_] at allocated
    exact allocated
  · rw [holds]
    exact h.owned.close none

end Turns

/-! ### All turns -/

section Runs

variable (accounts : RecordImage AccountInfo) (transactions : RecordImage TransactionInfo)
  {newHandle : Finset Handle → Handle}

theorem tidy_start (store : Store) (listens : Bool) :
    Tidy (processStart accounts transactions newHandle store listens) where
  list := rfl
  left := List.suffix_refl _
  allocated := fun c => by simp [processStart, Process.left]
  threads := fun _ _ found => (by cases found)
  joined := fun _ joins => (by cases joins)
  ended := fun behind => (by cases behind)
  owned := by
    have empty : Handles.Owned (fun _ : Option Socket => (none : Option Handle)) ∅ :=
      Handles.owned_empty
    cases listens with
    | false =>
      have holds : (processStart accounts transactions newHandle store false).holds =
          fun _ => none := by
        funext owner
        cases owner with
        | none => rfl
        | some c => rfl
      rw [holds]
      exact empty
    | true =>
      have holds : (processStart accounts transactions newHandle store true).holds =
          Function.update (fun _ => none) none (some (newHandle ∅)) := by
        funext owner
        cases owner with
        | none => rfl
        | some c => rfl
      rw [holds]
      exact empty.grant (i := none) rfl (Finset.notMem_empty (newHandle ∅))
  once := fun c => by simp [processStart]
  ledger := fun c => by simp [processStart, Process.hSocket]

/-- As long as the operating system gives out no handle that is open. -/
theorem Tidy.step (fresh : ∀ handles, newHandle handles ∉ handles) {p : Process} (h : Tidy p)
    (turn : ProcessTurn) : Tidy (processStep accounts transactions newHandle p turn) := by
  have silent : Quiet [] := fun _ => ⟨rfl, rfl⟩
  have effect := processStep_stepped accounts transactions newHandle p turn
  generalize processStep accounts transactions newHandle p turn = p' at *
  cases effect with
  | idle => exact h
  | signalled =>
    exact h.move rfl rfl rfl rfl rfl [.signalled] rfl (fun _ => ⟨rfl, rfl⟩) (fun _ joins => joins)
      id
  | entered pending at_ running =>
    have left : p.left = p.lstClientThreadInfo := by simp only [Process.left, at_]
    exact h.move rfl left.symm rfl rfl rfl [] (List.append_nil _).symm silent
      (fun _ joins => (by cases joins)) fun behind => (by cases behind)
  | ended pending at_ signalled =>
    have left : p.left = p.lstClientThreadInfo := by simp only [Process.left, at_]
    exact h.move rfl left.symm rfl rfl rfl [] (List.append_nil _).symm silent
      (fun _ joins => (by cases joins)) fun behind => (by cases behind)
  | refused pending at_ =>
    have left : p.left = p.lstClientThreadInfo := by simp only [Process.left, at_]
    exact h.move rfl left.symm rfl rfl rfl [] (List.append_nil _).symm silent
      (fun _ joins => (by cases joins)) fun behind => (by cases behind)
  | accepted pending at_ => exact h.accept newHandle (fresh p.handles) at_
  | stopped pending at_ =>
    have left : p.left = [] := by simp only [Process.left, at_]
    exact h.move rfl left.symm rfl rfl rfl [] (List.append_nil _).symm silent
      (fun _ joins => (by cases joins)) fun behind => (by cases behind)
  | terminated pending it rest at_ =>
    have left : p.left = it :: rest := by simp only [Process.left, at_]
    -- the object is still there
    obtain ⟨info, found⟩ : ∃ info, p.threads it = some info := by
      rw [← Option.isSome_iff_exists, h.allocated, left]
      exact List.mem_cons_self
    have threads : (terminateTurn p it rest).threads = Function.update p.threads it
        (some { info with locals := { info.locals with bTerminate := true } }) := by
      simp only [terminateTurn, found, Option.map_some]
    refine h.touch found threads rfl ⟨fun _ => rfl, (h.threads it info found).receives⟩ rfl
      left.symm rfl rfl [.terminated it] rfl (fun _ => ⟨rfl, rfl⟩) (fun _ => rfl)
      (fun it' joins => Or.inr ⟨?_, rfl⟩) fun behind => (by cases behind)
    cases joins
    rfl
  | deleted pending it rest at_ joined => exact h.delete at_
  | closed pending at_ => exact h.closeServer at_
  | saved pending at_ =>
    have left : p.left = [] := by simp only [Process.left, at_]
    exact h.move rfl left.symm rfl rfl rfl [] (List.append_nil _).symm silent
      (fun _ joins => (by cases joins)) fun _ => (by rw [at_]; rfl)
  | looped c result info found at_ =>
    have sound := h.threads c info found
    refine h.touch found rfl rfl ⟨sound.closed, fun receives => ?_⟩ rfl rfl rfl rfl []
      (List.append_nil _).symm silent id (fun _ joins => Or.inl joins) id
    change (if info.locals.bTerminate = true then _ else _) = _ at receives
    split at receives
    · cases receives
    next running =>
      -- a thread that goes on has a socket
      by_contra closed
      exact running (sound.closed (Option.not_isSome_iff_eq_none.mp closed))
  | missed c result info found at_ =>
    exact h.touch found rfl rfl
      ⟨(h.threads c info found).closed, fun receives => (by cases receives)⟩ rfl rfl rfl rfl []
      (List.append_nil _).symm silent id (fun _ joins => Or.inl joins) id
  | ignored c received qwNow info found at_ holds read =>
    exact h.touch found rfl rfl
      ⟨(h.threads c info found).closed, fun receives => (by cases receives)⟩ rfl rfl rfl rfl []
      (List.append_nil _).symm silent id (fun _ joins => Or.inl joins) id
  | handled c received qwNow info r found at_ holds read =>
    exact h.touch found rfl rfl
      ⟨(h.threads c info found).closed, fun receives => (by cases receives)⟩ rfl rfl rfl rfl
      [.handled _ _ _ _] rfl (fun _ => ⟨rfl, rfl⟩) id (fun _ joins => Or.inl joins) id
  | disconnected c info found at_ holds => exact h.disconnect found

theorem tidy_run (fresh : ∀ handles, newHandle handles ∉ handles) (store : Store) (listens : Bool)
    (turns : List ProcessTurn) :
    Tidy (runProcess accounts transactions newHandle store listens turns) :=
  Run.invariant (processStep accounts transactions newHandle) Tidy (fun _ => True)
    (fun _ turn _ h => h.step accounts transactions fresh turn) _
    (tidy_start accounts transactions store listens) turns fun _ _ => trivial

/-- `main` has deleted all objects when it saves. -/
theorem Tidy.threads_eq_none {p : Process} (h : Tidy p) (behind : p.control.behindClose = true)
    (c : Socket) : p.threads c = none := by
  have left : p.left = [] := by
    cases at_ : p.control with
    | save => simp only [Process.left, at_]
    | returned => simp only [Process.left, at_]
    | _ =>
      rw [at_] at behind
      cases behind
  apply Option.not_isSome_iff_eq_none.mp
  rw [h.allocated, left]
  exact List.not_mem_nil

end Runs

/-- In every run of the process, with any clients and whenever the signal comes: every open
handle is held by one object, a thread receives on an open handle of its own, and an accepted
handle is closed by the object that got it, once, or is still held by it. When `main` has
returned, no handle is open and every accepted one was closed once. All that is asked of the
operating system is that it gives out no handle that is open. -/
theorem sockets_owned (accounts : RecordImage AccountInfo)
    (transactions : RecordImage TransactionInfo) (newHandle : Finset Handle → Handle)
    (fresh : ∀ handles, newHandle handles ∉ handles) (store : Store) (listens : Bool)
    (turns : List ProcessTurn) :
    let p := runProcess accounts transactions newHandle store listens turns
    let accepted := fun c => p.log.filterMap (ProcessEntry.accepted? c)
    let closed := fun c => p.log.filterMap (ProcessEntry.closed? c)
    (∀ h, h ∈ p.handles ↔ ∃ owner, p.holds owner = some h) ∧
      (∀ owner owner' h, p.holds owner = some h → p.holds owner' = some h → owner = owner') ∧
      (∀ c info, p.threads c = some info → info.control = .receive →
        ∃ h ∈ p.handles, info.hSocket = some h) ∧
      (∀ c, accepted c = closed c ++ (p.hSocket c).toList ∧
        (accepted c).length = if c < p.lstClientThreadInfo.length then 1 else 0) ∧
      (p.control = .returned → p.handles = ∅ ∧ ∀ c, accepted c = closed c) := by
  intro p accepted closed
  have h : Tidy p := tidy_run accounts transactions fresh store listens turns
  refine ⟨h.owned.mem_iff, h.owned.unique, fun c info found receives => ?_,
    fun c => ⟨h.ledger c, h.once c⟩, fun returned => ?_⟩
  · obtain ⟨hSocket, holds⟩ :=
      Option.isSome_iff_exists.mp ((h.threads c info found).receives receives)
    refine ⟨hSocket, (h.owned.mem_iff hSocket).mpr ⟨some c, ?_⟩, holds⟩
    rw [Process.holds, Process.hSocket, found, Option.bind_some, holds]
  · have behind : p.control.behindClose = true := by rw [returned]; rfl
    have sockets (c : Socket) : p.hSocket c = none := by
      rw [Process.hSocket, h.threads_eq_none behind c]
      rfl
    refine ⟨h.owned.eq_empty fun owner => ?_, fun c => ?_⟩
    · cases owner with
      | none => exact h.ended behind
      | some c => exact sockets c
    · have ledger := h.ledger c
      rw [sockets c, Option.toList_none, List.append_nil] at ledger
      exact ledger

/-- Two clients come, one leaves, and the signal comes while the other is served. -/
theorem sockets_owned_signalled :
    let accept : List ProcessTurn := [.main true, .main true]
    let leave : List ProcessTurn := [.thread 0 .closed, .thread 0 .closed, .thread 0 .closed]
    let stay : List ProcessTurn := List.replicate 3 (.thread 1 (.error true false))
    let turns := accept ++ accept ++ leave ++ stay ++ .signal :: List.replicate 3 (.main true) ++
      stay ++ List.replicate 9 (.main true)
    let p := runProcess (accountInfoImage ⟨[0, 0, 0, 0, 0, 0], rfl⟩ ⟨[0, 0, 0, 0], rfl⟩)
      (transactionInfoImage ⟨[0, 0, 0, 0, 0, 0], rfl⟩) lowestHandle ⟨[], []⟩ true turns
    let accepted := fun c => p.log.filterMap (ProcessEntry.accepted? c)
    let closed := fun c => p.log.filterMap (ProcessEntry.closed? c)
    (∀ h, h ∈ p.handles ↔ ∃ owner, p.holds owner = some h) ∧
      (∀ owner owner' h, p.holds owner = some h → p.holds owner' = some h → owner = owner') ∧
      (∀ c info, p.threads c = some info → info.control = .receive →
        ∃ h ∈ p.handles, info.hSocket = some h) ∧
      (∀ c, accepted c = closed c ++ (p.hSocket c).toList ∧
        (accepted c).length = if c < p.lstClientThreadInfo.length then 1 else 0) ∧
      (p.control = .returned → p.handles = ∅ ∧ ∀ c, accepted c = closed c) :=
  sockets_owned _ _ _ lowestHandle_notMem _ _ _

end Cnp
