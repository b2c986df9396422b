import CnpProtocol.Server.SessionSteps

/-!
# Client IDs

The next client ID is one more than the largest in use, in 16 bits. It is usable as long
as the largest is neither 65534, whose successor is `INVALID_CLIENT_ID`, nor 65535 with 0
in use, where the insertion finds its key taken.
-/

namespace Cnp

/-- If the connect succeeds, the client ID it returns is valid, was not in use, and is the
key of the new session: connected, without a customer, on the socket of the request. -/
def ConnectsFresh (s : Server) (m : ConnectRequest) (c : Socket) : Prop :=
  let r := processConnectRequest s m c
  r.2.cerRR = .success →
    r.1 ≠ invalidClientID ∧ s.sessionInfo.find? r.1 = none ∧
      r.2.server.sessionInfo.find? r.1 = some ⟨r.1, .connected, some c, invalidCustomerID⟩

def Live (sessions : SessionMap) (w : Word) : Prop := (sessions.find? w).isSome = true

/-- With 65534 in use 65535 is in use too, and with 65535 in use 0 is free. -/
structure LeavesClientID (sessions : SessionMap) : Prop where
  valid : Live sessions 65534 → Live sessions 65535
  free : Live sessions 65535 → ¬ Live sessions 0

/-! ### The next client ID -/

theorem Live.le_lastKey {sessions : SessionMap} {w k : Word} (live : Live sessions w)
    (last : sessions.lastKey? = some k) : w ≤ k := by
  obtain ⟨i, found⟩ := Option.isSome_iff_exists.mp live
  exact sessions.le_lastKey last (w, i) ((sessions.find?_eq_some_iff w i).mp found)

theorem Live.lastKey_eq {sessions : SessionMap} {w : Word} (live : Live sessions w) :
    ∃ k, sessions.lastKey? = some k := by
  cases last : sessions.lastKey? with
  | some k => exact ⟨k, rfl⟩
  | none =>
    obtain ⟨i, found⟩ := Option.isSome_iff_exists.mp live
    have member := (sessions.find?_eq_some_iff w i).mp found
    rw [sessions.lastKey?_eq_none_iff.mp last] at member
    cases member

theorem newClientID_eq_invalid_iff (sessions : SessionMap) :
    newClientID sessions = invalidClientID ↔ Live sessions 65534 ∧ ¬ Live sessions 65535 := by
  constructor
  · intro invalid
    cases last : sessions.lastKey? with
    | none =>
      rw [newClientID, last] at invalid
      exact absurd invalid (by decide)
    | some k =>
      rw [newClientID, last] at invalid
      have largest : k = 65534 := by
        change k + 1 = 65535 at invalid
        bv_omega
      subst largest
      refine ⟨sessions.lastKey_mem last, fun live => ?_⟩
      exact absurd (live.le_lastKey last) (by decide)
  · rintro ⟨live, dead⟩
    obtain ⟨k, last⟩ := live.lastKey_eq
    have largest : k = 65534 := by
      have above := live.le_lastKey last
      have other : k ≠ 65535 := by
        rintro rfl
        exact dead (sessions.lastKey_mem last)
      bv_omega
    rw [newClientID, last, largest]
    rfl

/-- From 65535 the next ID wraps to 0. -/
theorem newClientID_wraps (sessions : SessionMap) (live : Live sessions 65535) :
    newClientID sessions = 0 := by
  obtain ⟨k, last⟩ := live.lastKey_eq
  have largest : k = 65535 := by
    have above := live.le_lastKey last
    bv_omega
  rw [newClientID, last, largest]
  rfl

/-- Without the wrap the next ID is above all others. -/
theorem newClientID_unused (sessions : SessionMap) (dead : ¬ Live sessions 65535) :
    sessions.find? (newClientID sessions) = none := by
  rw [OrderedMap.find?_eq_none_iff]
  intro e member
  cases last : sessions.lastKey? with
  | none =>
    rw [sessions.lastKey?_eq_none_iff.mp last] at member
    cases member
  | some k =>
    have below := sessions.le_lastKey last e member
    have other : k ≠ 65535 := by
      rintro rfl
      exact dead (sessions.lastKey_mem last)
    simp only [newClientID, last]
    bv_omega

theorem connectsFresh_iff (s : Server) (m : ConnectRequest) (c : Socket) (accepted : m.Accepted) :
    ConnectsFresh s m c ↔ LeavesClientID s.sessionInfo := by
  obtain ⟨code, id, server⟩ := processConnectRequest_accepted s m c accepted
  constructor
  · intro fresh
    obtain ⟨valid, unused, _⟩ := fresh code
    rw [id] at valid unused
    constructor
    · -- the successor of 65534 is the invalid ID
      intro live
      by_contra dead
      exact valid ((newClientID_eq_invalid_iff s.sessionInfo).mpr ⟨live, dead⟩)
    · -- after the wrap the ID is 0
      intro live zero
      rw [newClientID_wraps s.sessionInfo live] at unused
      rw [Live, unused] at zero
      cases zero
  · intro leaves _
    have unused : s.sessionInfo.find? (newClientID s.sessionInfo) = none := by
      by_cases live : Live s.sessionInfo 65535
      · rw [newClientID_wraps s.sessionInfo live]
        exact Option.not_isSome_iff_eq_none.mp (leaves.free live)
      · exact newClientID_unused s.sessionInfo live
    rw [id, server]
    refine ⟨fun invalid => ?_, unused, ?_⟩
    · obtain ⟨live, dead⟩ := (newClientID_eq_invalid_iff s.sessionInfo).mp invalid
      exact dead (leaves.valid live)
    · -- the insertion finds its key free
      change (s.sessionInfo.insert _ _).find? _ = _
      rw [OrderedMap.find?_insert, if_pos rfl, unused]
      rfl

/-! ### Overlapping connections -/

/-- Each client leaves after the next one has connected. -/
def overlapping (c : Socket) : Nat → List Op
  | 0 => [Client.sendConnect c 0]
  | n + 1 => overlapping c n ++ [Client.sendConnect c 0, .disconnect (BitVec.ofNat 16 (n + 1))]

/-- A client connects, and the only other one leaves. -/
theorem sessions_replaced (s : Server) (c : Socket) (w : Word) (i : SessionInfo)
    (only : s.sessionInfo.entries = [(w, i)]) (bound : w.toNat + 1 < 2 ^ 16) :
    (step (s.addSession c) (.disconnect w)).sessionInfo.entries =
      [(w + 1, .init (w + 1) .connected (some c))] := by
  have next : newClientID s.sessionInfo = w + 1 := by
    rw [newClientID, OrderedMap.lastKey?, only]
    rfl
  have below : ∀ e ∈ s.sessionInfo.entries, e.1 < newClientID s.sessionInfo := by
    intro e member
    rw [only, List.mem_singleton] at member
    rw [member, next]
    bv_omega
  -- the new session goes behind the one that is there
  have both : (s.addSession c).sessionInfo.entries =
      [(w, i), (w + 1, .init (w + 1) .connected (some c))] := by
    change (s.sessionInfo.insert _ _).entries = _
    rw [s.sessionInfo.entries_insert_last _ _ below, only, next]
    rfl
  have live : ((s.addSession c).sessionInfo.find? w).isSome = true := by
    rw [OrderedMap.find?_isSome_iff, OrderedMap.keys, both]
    simp
  obtain ⟨i', found⟩ := Option.isSome_iff_exists.mp live
  simp only [step, processDisconnect, found, OrderedMap.erase, both]
  simp

/-- One client is connected at a time, but the IDs keep growing. -/
theorem sessions_overlapping (c : Socket) (n : Nat) (bound : n + 1 < 2 ^ 16) :
    (run .empty (overlapping c n)).sessionInfo.entries =
      [(BitVec.ofNat 16 (n + 1), .init (BitVec.ofNat 16 (n + 1)) .connected (some c))] := by
  induction n with
  | zero => rfl
  | succ n ih =>
    have replaced := sessions_replaced (run .empty (overlapping c n)) c _ _ (ih (by omega))
      (by rw [BitVec.toNat_ofNat]; omega)
    have next : BitVec.ofNat 16 (n + 1) + 1 = BitVec.ofNat 16 (n + 1 + 1) :=
      (BitVec.ofNat_add (n + 1) 1).symm
    rw [next] at replaced
    rw [overlapping, run, Run.run_append]
    exact replaced

/-! ### Fresh client IDs -/

/-- In every reachable state an accepted connect gets a fresh client ID exactly when the
table leaves one. -/
theorem connect_fresh_iff (accounts : AccountMap) (transactions : TransactionMap)
    (ops : List Op) (m : ConnectRequest) (c : Socket) (accepted : m.Accepted) :
    ConnectsFresh (run (.boot accounts transactions) ops) m c ↔
      LeavesClientID (run (.boot accounts transactions) ops).sessionInfo :=
  connectsFresh_iff _ m c accepted

/-- Of three clients the first has left, and a fourth one connects. -/
theorem connect_fresh_iff_fourth :
    let s := run (.boot .empty .empty) [Client.sendConnect 7 0, Client.sendConnect 8 0,
      Client.sendConnect 9 0, .disconnect 1]
    s.sessionInfo.keys = [2, 3] ∧
      ConnectsFresh s (.init 0 0 majorVersion minorVersion validationKey 0) 10 := by
  intro s
  have high : s.sessionInfo.find? 65534 = none ∧ s.sessionInfo.find? 65535 = none := by decide
  refine ⟨by decide, (connect_fresh_iff .empty .empty _ _ 10 ⟨rfl, by decide, by decide⟩).mpr ?_⟩
  constructor
  · intro live
    rw [Live, high.1] at live
    cases live
  · intro live
    rw [Live, high.2] at live
    cases live

/-- After 65534 overlapping connections one client is live, and the next one gets
`INVALID_CLIENT_ID`. -/
theorem connect_after_overlapping :
    (run .empty (overlapping 7 65533)).sessionInfo.size < 65535 ∧
      ¬ ConnectsFresh (run .empty (overlapping 7 65533)) (.init 0 0 majorVersion minorVersion
        validationKey 0) 7 := by
  have only := sessions_overlapping 7 65533 (by decide)
  constructor
  · rw [OrderedMap.size, only]
    decide
  · rw [connectsFresh_iff _ _ _ ⟨rfl, by decide, by decide⟩]
    intro leaves
    have live : Live (run .empty (overlapping 7 65533)).sessionInfo 65534 := by
      rw [Live, OrderedMap.find?_isSome_iff, OrderedMap.keys, only]
      decide
    have dead := leaves.valid live
    rw [Live, OrderedMap.find?_isSome_iff, OrderedMap.keys, only] at dead
    exact absurd dead (by decide)

end Cnp
