import CnpProtocol.Properties.ClientIDs
import CnpProtocol.Server.ClientThread

/-!
# Closed connections

When a connection is closed its thread removes the session of the one client ID it
remembers, and every connect overwrites that ID. The result says when this removes exactly
the sessions of the connection.
-/

namespace Cnp

/-- After the close of `c` the sessions are those before it that are not on `c`. -/
def ClosesOwn (sys : Connections) (c : Socket) : Prop :=
  ∀ w i, (clientThreadStep c .closed sys.shared (sys.phase c)).1.sessionInfo.find? w = some i ↔
    sys.shared.sessionInfo.find? w = some i ∧ i.socket ≠ some c

/-- A running thread takes a connect although it remembers a client ID already, or when the
connect gets `INVALID_CLIENT_ID`. -/
def ConnectsBadly (sys : Connections) (event : Socket × ReceiveResult) : Prop :=
  let t := sys.phase event.1
  t.bTerminate = false ∧ ∃ received qwNow m, event.2 = .data received qwNow ∧
    requestAt (t.rgBuffer.receive received).bytes = some (.connect m) ∧
      (t.wClientID ≠ invalidClientID ∨
        (m.Accepted ∧ Live sys.shared.sessionInfo 65534))

/-! ### Single steps -/

theorem processConnectRequest_refused (s : Server) (m : ConnectRequest) (c : Socket)
    (refused : ¬ m.Accepted) :
    (processConnectRequest s m c).1 = invalidClientID ∧
      (processConnectRequest s m c).2.server = s := by
  simp only [processConnectRequest]
  split
  next key =>
    split
    next version => exact absurd ⟨key, version.1, version.2⟩ refused
    · -- unsupported version
      exact ⟨rfl, rfl⟩
  · -- wrong key
    exact ⟨rfl, rfl⟩

theorem find?_processDisconnect (s : Server) (w w' : Word) :
    (processDisconnect s w).2.sessionInfo.find? w' =
      if w' = w then none else s.sessionInfo.find? w' := by
  cases found : s.sessionInfo.find? w with
  | some i =>
    simp only [processDisconnect, found]
    exact s.sessionInfo.find?_erase w w'
  | none =>
    simp only [processDisconnect, found]
    split
    next same => rw [same, found]
    · rfl

/-- The socket of the session of a client, if there is one. -/
def socketOf (s : Server) (w : Word) : Option (Option Socket) :=
  (s.sessionInfo.find? w).map (·.socket)

theorem socketOf_processDisconnect (s : Server) (w w' : Word) :
    socketOf (processDisconnect s w).2 w' = if w' = w then none else socketOf s w' := by
  rw [socketOf, find?_processDisconnect]
  split
  · rfl
  · rfl

theorem socketOf_addSession (s : Server) (c : Socket) (w : Word)
    (unused : s.sessionInfo.find? (newClientID s.sessionInfo) = none) :
    socketOf (s.addSession c) w =
      if w = newClientID s.sessionInfo then some (some c) else socketOf s w := by
  change ((s.sessionInfo.insert _ _).find? w).map _ = _
  rw [OrderedMap.find?_insert]
  split
  · rw [unused]
    rfl
  · rfl

/-- No other request moves a session to another connection. -/
theorem socketOf_dispatch (s : Server) (c : Socket) (now : Qword) (r : Request)
    (other : ∀ m, r ≠ .connect m) (w : Word) :
    socketOf (dispatch s c now r).server w = socketOf s w := by
  have modified (w' : Word) (f : SessionInfo → SessionInfo) (keeps : ∀ i, (f i).socket = i.socket) :
      ((s.sessionInfo.modify w' f).find? w).map (·.socket) = socketOf s w := by
    rw [OrderedMap.find?_modify, socketOf]
    split
    next same => cases found : s.sessionInfo.find? w' <;> simp [same, found, keeps]
    · rfl
  have effect : Effect s (.message c now r) (dispatch s c now r).server :=
    step_effect s (.message c now r)
  generalize (dispatch s c now r).server = s' at effect
  cases effect with
  | idle => rfl
  | connected _ _ m => exact absurd rfl (other m)
  | created => exact modified _ _ fun _ => rfl
  | loggedOn => exact modified _ _ fun _ => rfl
  | loggedOff => exact modified _ _ fun _ => rfl
  | notLoggedOff => exact modified _ _ fun _ => rfl
  | paidIn => rfl
  | paidOut _ _ _ _ _ _ itA _ covered => simp only [payOut, if_pos covered]; rfl

/-- What the close of a connection has to do is known from the remembered ID. -/
theorem closesOwn_iff (sys : Connections) (c : Socket)
    (running : (sys.phase c).bTerminate = false) :
    ClosesOwn sys c ↔ ∀ w i, sys.shared.sessionInfo.find? w = some i →
      (w = (sys.phase c).wClientID ↔ i.socket = some c) := by
  have closed : (clientThreadStep c .closed sys.shared (sys.phase c)).1 =
      (processDisconnect sys.shared (sys.phase c).wClientID).2 := by
    rw [clientThreadStep, if_neg (by simp [running])]
  simp only [ClosesOwn, closed, find?_processDisconnect]
  constructor
  · -- a session stays exactly when it is under another ID
    intro closes w i found
    have result := closes w i
    by_cases removed : w = (sys.phase c).wClientID
    · subst removed
      simpa [found] using result
    · simpa [removed, found] using result
  · intro own w i
    by_cases removed : w = (sys.phase c).wClientID
    · -- the session that is erased
      rw [if_pos removed]
      constructor
      · intro left
        cases left
      · rintro ⟨found, elsewhere⟩
        exact absurd ((own w i found).mp removed) elsewhere
    · rw [if_neg removed]
      constructor
      · exact fun found => ⟨found, fun socket => removed ((own w i found).mpr socket)⟩
      · exact fun left => left.1

/-! ### One session for each connection -/

/-- The client ID a running thread remembers. -/
def ClientThread.clientID? (t : ClientThread) : Option Word :=
  if t.bTerminate = false ∧ t.wClientID ≠ invalidClientID then some t.wClientID else none

theorem ClientThread.clientID?_eq_some_iff (t : ClientThread) (w : Word) :
    t.clientID? = some w ↔ t.bTerminate = false ∧ w ≠ invalidClientID ∧ t.wClientID = w := by
  rw [ClientThread.clientID?]
  split
  next valid =>
    rw [Option.some.injEq]
    exact ⟨fun same => ⟨valid.1, same ▸ valid.2, same⟩, fun h => h.2.2⟩
  next invalid =>
    constructor
    · intro none
      cases none
    · rintro ⟨running, valid, rfl⟩
      exact absurd ⟨running, valid⟩ invalid

/-- The sessions are those that the threads remember. -/
structure OneSession (sys : Connections) : Prop where
  remembered : ∀ w c, socketOf sys.shared w = some (some c) ↔ (sys.phase c).clientID? = some w
  connected : ∀ w, socketOf sys.shared w ≠ some none
  fresh : ∃ n : Nat, ∀ c : Nat, n ≤ c → sys.phase c = .start

theorem oneSession_start (accounts : AccountMap) (transactions : TransactionMap) :
    OneSession (connectionsStart accounts transactions) where
  remembered := by
    intro w c
    constructor
    · intro found
      cases found
    · intro found
      cases found
  connected := by
    intro w found
    cases found
  fresh := ⟨0, fun _ _ => rfl⟩

theorem OneSession.owner {sys : Connections} (h : OneSession sys) {w : Word} {i : SessionInfo}
    (found : sys.shared.sessionInfo.find? w = some i) :
    ∃ c, i.socket = some c ∧ (sys.phase c).clientID? = some w := by
  have of : socketOf sys.shared w = some i.socket := by rw [socketOf, found]; rfl
  cases socket : i.socket with
  | none => exact absurd (of.trans (congrArg some socket)) (h.connected w)
  | some c => exact ⟨c, rfl, (h.remembered w c).mp (of.trans (congrArg some socket))⟩

/-- `INVALID_CLIENT_ID` is not in the table. -/
theorem OneSession.invalid {sys : Connections} (h : OneSession sys) :
    ¬ Live sys.shared.sessionInfo invalidClientID := by
  intro live
  obtain ⟨i, found⟩ := Option.isSome_iff_exists.mp live
  obtain ⟨c, _, remembered⟩ := h.owner found
  exact (((sys.phase c).clientID?_eq_some_iff _).mp remembered).2.1 rfl

theorem OneSession.closesOwn {sys : Connections} (h : OneSession sys) (c : Socket)
    (running : (sys.phase c).bTerminate = false) : ClosesOwn sys c := by
  rw [closesOwn_iff sys c running]
  intro w i found
  obtain ⟨c', socket, remembered⟩ := h.owner found
  have own := ((sys.phase c').clientID?_eq_some_iff w).mp remembered
  constructor
  · -- the remembered session is on the connection itself
    intro same
    have mine : (sys.phase c).clientID? = some w :=
      ((sys.phase c).clientID?_eq_some_iff w).mpr ⟨running, own.2.1, same.symm⟩
    have of := (h.remembered w c).mpr mine
    rw [socketOf, found, Option.map_some, Option.some.injEq] at of
    exact of
  · -- a session on the connection is the remembered one
    intro mine
    rw [socket, Option.some.injEq] at mine
    exact mine ▸ own.2.2.symm

/-! ### The steps -/

theorem connectionsStep_effect (sys : Connections) (c : Socket) (result : ReceiveResult) :
    ThreadEffect c sys.shared (sys.phase c) result (connectionsStep sys (c, result)).shared
      ((connectionsStep sys (c, result)).phase c) := by
  have own : (connectionsStep sys (c, result)).phase c =
      (clientThreadStep c result sys.shared (sys.phase c)).2 :=
    Run.Threads.step_phase_self clientThreadStep sys c result
  rw [own]
  exact clientThreadStep_effect c result sys.shared (sys.phase c)

/-- The first unused connection is behind the one that acts. -/
theorem OneSession.fresh_step {sys : Connections} (h : OneSession sys) (c : Nat)
    (result : ReceiveResult) :
    ∃ n : Nat, c < n ∧
      ∀ c' : Nat, n ≤ c' → (connectionsStep sys (c, result)).phase c' = .start := by
  obtain ⟨n, unused⟩ := h.fresh
  refine ⟨max n (c + 1), by omega, fun c' above => ?_⟩
  have other : c' ≠ c := by omega
  rw [show (connectionsStep sys (c, result)).phase c' = sys.phase c' from
    Run.Threads.step_phase_of_ne clientThreadStep sys c c' result other]
  exact unused c' (by omega)

section Acting

variable {sys sys' : Connections} (h : OneSession sys) (c : Socket)
  (others : ∀ c', c' ≠ c → sys'.phase c' = sys.phase c')
  (fresh : ∃ n : Nat, ∀ c' : Nat, n ≤ c' → sys'.phase c' = .start)

include h others fresh

/-- A turn that keeps the sockets and the remembered ID. -/
theorem OneSession.of_same (shared : ∀ w, socketOf sys'.shared w = socketOf sys.shared w)
    (own : (sys'.phase c).clientID? = (sys.phase c).clientID?) : OneSession sys' where
  remembered := by
    intro w c'
    rw [shared, h.remembered]
    by_cases acting : c' = c
    · rw [acting, own]
    · -- another connection
      rw [others c' acting]
  connected := by
    intro w
    rw [shared]
    exact h.connected w
  fresh := fresh

/-- The turn that closes the connection. -/
theorem OneSession.of_closed (running : (sys.phase c).bTerminate = false)
    (shared : sys'.shared = (processDisconnect sys.shared (sys.phase c).wClientID).2)
    (own : (sys'.phase c).clientID? = none) : OneSession sys' where
  remembered := by
    intro w c'
    rw [shared, socketOf_processDisconnect]
    by_cases acting : c' = c
    · -- nothing is on the closed connection any more
      subst acting
      rw [own]
      split
      · simp
      next other =>
        simp only [reduceCtorEq, iff_false]
        intro mine
        have remembered := ((sys.phase c').clientID?_eq_some_iff w).mp ((h.remembered w c').mp mine)
        exact other remembered.2.2.symm
    · rw [others c' acting, ← h.remembered]
      split
      next removed =>
        -- the removed session was not on another connection
        subst removed
        simp only [reduceCtorEq, false_iff]
        intro theirs
        have valid := ((sys.phase c').clientID?_eq_some_iff _).mp ((h.remembered _ c').mp theirs)
        have mine := (h.remembered _ c).mpr (((sys.phase c).clientID?_eq_some_iff _).mpr
          ⟨running, valid.2.1, rfl⟩)
        rw [theirs, Option.some.injEq, Option.some.injEq] at mine
        exact acting mine
      · rfl
  connected := by
    intro w
    rw [shared, socketOf_processDisconnect]
    split
    · simp
    · exact h.connected w
  fresh := fresh

/-- An accepted connect on a connection that has no session. -/
theorem OneSession.of_connected (idle : (sys.phase c).clientID? = none)
    (shared : sys'.shared = sys.shared.addSession c)
    (own : (sys'.phase c).clientID? = some (newClientID sys.shared.sessionInfo)) :
    OneSession sys' where
  remembered := by
    have unused := newClientID_unused sys.shared.sessionInfo h.invalid
    intro w c'
    rw [shared, socketOf_addSession _ _ _ unused]
    by_cases acting : c' = c
    · rw [acting, own]
      split
      next new => simp [new]
      next other =>
        -- there was no session on the connection
        rw [h.remembered, idle]
        simp [Ne.symm other]
    · rw [others c' acting, ← h.remembered]
      split
      next new =>
        -- its ID was not in use
        have free : socketOf sys.shared w = none := by rw [socketOf, new, unused]; rfl
        simp [free, Ne.symm acting]
      · rfl
  connected := by
    intro w
    rw [shared, socketOf_addSession _ _ _ (newClientID_unused sys.shared.sessionInfo h.invalid)]
    split
    · simp
    · exact h.connected w
  fresh := fresh

end Acting

theorem OneSession.step {sys : Connections} (h : OneSession sys) (event : Socket × ReceiveResult)
    (fine : ¬ ConnectsBadly sys event) : OneSession (connectionsStep sys event) := by
  obtain ⟨c, result⟩ := event
  obtain ⟨n, _, unused⟩ := h.fresh_step c result
  have fresh : ∃ n : Nat, ∀ c' : Nat, n ≤ c' →
      (connectionsStep sys (c, result)).phase c' = .start := ⟨n, unused⟩
  have others (c' : Socket) (other : c' ≠ c) :
      (connectionsStep sys (c, result)).phase c' = sys.phase c' :=
    Run.Threads.step_phase_of_ne clientThreadStep sys c c' result other
  have effect := connectionsStep_effect sys c result
  generalize connectionsStep sys (c, result) = sys' at *
  generalize shared : sys'.shared = s' at effect
  generalize own : sys'.phase c = t' at effect
  cases effect with
  | idle _ rgBuffer =>
    -- only the buffer may have changed
    exact h.of_same c others fresh (fun w => by rw [shared]) (by rw [own]; rfl)
  | request received qwNow r other =>
    refine h.of_same c others fresh (fun w => ?_) (by rw [own]; rfl)
    rw [shared, socketOf_dispatch sys.shared c qwNow r other w]
  | closed running =>
    exact h.of_closed c others fresh running shared (by rw [own]; rfl)
  | connect received qwNow m running cast =>
    have invalid : (sys.phase c).wClientID = invalidClientID := by
      by_contra connected
      exact fine ⟨running, received, qwNow, m, rfl, cast, Or.inl connected⟩
    have idle : (sys.phase c).clientID? = none := by simp [ClientThread.clientID?, invalid]
    by_cases accepted : m.Accepted
    · obtain ⟨_, id, server⟩ := processConnectRequest_accepted sys.shared m c accepted
      refine h.of_connected c others fresh idle (shared.trans server) ?_
      rw [own, ClientThread.clientID?_eq_some_iff]
      refine ⟨running, fun last => ?_, id⟩
      -- the successor of 65534 is invalid
      have live := ((newClientID_eq_invalid_iff _).mp last).1
      exact fine ⟨running, received, qwNow, m, rfl, cast, Or.inr ⟨accepted, live⟩⟩
    · -- a refused connect returns the invalid ID once more
      obtain ⟨id, server⟩ := processConnectRequest_refused sys.shared m c accepted
      refine h.of_same c others fresh (fun w => by rw [shared, server]) ?_
      rw [idle, own, id]
      simp [ClientThread.clientID?]

/-- After a bad connect the close of some connection is wrong. -/
theorem OneSession.breaks {sys : Connections} (h : OneSession sys)
    (event : Socket × ReceiveResult) (bad : ConnectsBadly sys event) :
    ¬ ∀ c, ((connectionsStep sys event).phase c).bTerminate = false →
      ClosesOwn (connectionsStep sys event) c := by
  obtain ⟨c, result⟩ := event
  obtain ⟨running, received, qwNow, m, rfl, cast, reason⟩ := bad
  obtain ⟨n, behind, unused⟩ := h.fresh_step c (.data received qwNow)
  have turn := clientThreadStep_connect c sys.shared (sys.phase c) received qwNow m running cast
  have own := (Run.Threads.step_phase_self clientThreadStep sys c _).trans
    (congrArg Prod.snd turn)
  have open_ : ((connectionsStep sys (c, .data received qwNow)).phase c).bTerminate = false :=
    (congrArg ClientThread.bTerminate own).trans running
  have stored : ((connectionsStep sys (c, .data received qwNow)).phase c).wClientID =
      (processConnectRequest sys.shared m c).1 := congrArg ClientThread.wClientID own
  have shared : (connectionsStep sys (c, .data received qwNow)).shared =
      (processConnectRequest sys.shared m c).2.server := congrArg Prod.fst turn
  have unusedID := newClientID_unused sys.shared.sessionInfo h.invalid
  generalize connectionsStep sys (c, .data received qwNow) = sys' at *
  clear own
  intro always
  by_cases connected : (sys.phase c).wClientID ≠ invalidClientID
  · -- the old session stays behind
    have mine := (h.remembered _ c).mpr (((sys.phase c).clientID?_eq_some_iff _).mpr
      ⟨running, connected, rfl⟩)
    obtain ⟨i, found, socket⟩ := Option.map_eq_some_iff.mp mine
    have left : sys'.shared.sessionInfo.find? (sys.phase c).wClientID = some i ∧
        (sys.phase c).wClientID ≠ (sys'.phase c).wClientID := by
      rw [shared, stored]
      by_cases accepted : m.Accepted
      · -- the new session is under an ID of its own
        obtain ⟨_, id, server⟩ := processConnectRequest_accepted sys.shared m c accepted
        rw [server, id]
        refine ⟨OrderedMap.find?_insert_of_find? _ _ _ found, fun same => ?_⟩
        rw [← same, found] at unusedID
        cases unusedID
      · obtain ⟨id, server⟩ := processConnectRequest_refused sys.shared m c accepted
        rw [server, id]
        exact ⟨found, connected⟩
    have closes := (closesOwn_iff sys' c open_).mp (always c open_) _ i left.1
    exact left.2 (closes.mpr socket)
  · -- the new session is under the ID of threads that are not connected
    obtain ⟨accepted, last⟩ := reason.resolve_left connected
    obtain ⟨_, _, server⟩ := processConnectRequest_accepted sys.shared m c accepted
    have id := (newClientID_eq_invalid_iff sys.shared.sessionInfo).mpr ⟨last, h.invalid⟩
    have found : sys'.shared.sessionInfo.find? invalidClientID =
        some (.init invalidClientID .connected (some c)) := by
      rw [shared, server, ← id]
      change (sys.shared.sessionInfo.insert _ _).find? _ = _
      rw [OrderedMap.find?_insert, if_pos rfl, unusedID, Option.getD_none]
    have start : sys'.phase n = .start := unused n (Nat.le_refl n)
    have closes := (closesOwn_iff sys' n (by rw [start]; rfl)).mp
      (always n (by rw [start]; rfl)) _ _ found
    rw [start] at closes
    have same : c = n := Option.some.inj (closes.mp rfl)
    exact absurd same (Nat.ne_of_lt behind)

/-! ### All closes -/

/-- In every state of a run the close of each open connection removes exactly its own
sessions, if and only if no connect in the run is a bad one. -/
theorem closes_own_iff (accounts : AccountMap) (transactions : TransactionMap)
    (events : List (Socket × ReceiveResult)) :
    (∀ before after, events = before ++ after → ∀ c,
      ((runConnections accounts transactions before).phase c).bTerminate = false →
        ClosesOwn (runConnections accounts transactions before) c) ↔
      Run.Avoids connectionsStep ConnectsBadly (connectionsStart accounts transactions) events :=
  Run.always_iff_avoids OneSession
    (fun sys => ∀ c, (sys.phase c).bTerminate = false → ClosesOwn sys c)
    (connectionsStart accounts transactions) (oneSession_start accounts transactions)
    (fun _ event fine h => h.step event fine) (fun _ h c running => h.closesOwn c running)
    (fun _ event bad h => h.breaks event bad) events

/-- A connect as it is sent. -/
def connectBytes (dwValidationKey : Dword) : Received :=
  let m := ConnectRequest.init 0 0 majorVersion minorVersion dwValidationKey 0
  ⟨MsgType.connectRequest.encode m.hdr m.value, by rw [MsgType.length_encode]; decide,
    by rw [MsgType.length_encode]; decide⟩

/-- A connection connects and then sends a connect with a wrong key: its session outlives
it. -/
theorem session_outlives_connection :
    let events := [(7, .data (connectBytes validationKey) 0), (7, .data (connectBytes 0) 0)]
    ((runConnections .empty .empty events).phase 7).bTerminate = false ∧
      ¬ ClosesOwn (runConnections .empty .empty events) 7 := by
  intro events
  have running : ((runConnections .empty .empty events).phase 7).bTerminate = false := by
    decide +kernel
  have found : (runConnections .empty .empty events).shared.sessionInfo.find? 1 =
      some (.init 1 .connected (some 7)) := by
    decide +kernel
  refine ⟨running, fun closes => ?_⟩
  have removed := ((closesOwn_iff _ 7 running).mp closes 1 _ found).mpr rfl
  exact absurd removed (by decide +kernel)

end Cnp
