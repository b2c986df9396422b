import CnpProtocol.Properties.ClientIDs
import Mathlib.Algebra.Order.BigOperators.Group.Finset

/-!
# Concurrent connects

Two connects get one client ID as soon as one of them computes its ID while the other has
not inserted its own. As long as this does not happen each ID is one above all IDs in the
table, so it is unused when it is inserted.
-/

namespace Cnp

variable {ι : Type*} [DecidableEq ι] (sockets : ι → Socket)

/-- The IDs that were returned are pairwise different, and each is the key of a session on
the socket of the call that returned it. -/
structure ConnectedApart (sys : Run.Threads ι Server ConnectPhase) : Prop where
  distinct : ∀ i j w, sys.phase i = .done w → sys.phase j = .done w → i = j
  mapped : ∀ i w, sys.phase i = .done w →
    ∃ session, sys.shared.sessionInfo.find? w = some session ∧
      session.socket = some (sockets i)

/-! ### One step -/

/-- The three steps of a connect. -/
theorem connectsStep_cases (sys : Run.Threads ι Server ConnectPhase) (i : ι) (u : Unit) :
    let sys' := connectsStep sockets sys (i, u)
    (sys.phase i = .start ∧ sys'.shared = sys.shared ∧
      sys'.phase i = .computed (newClientID sys.shared.sessionInfo)) ∨
    (∃ w, sys.phase i = .computed w ∧ sys'.phase i = .done w ∧
      sys'.shared.sessionInfo =
        sys.shared.sessionInfo.insert w (.init w .connected (some (sockets i)))) ∨
    (∃ w, sys.phase i = .done w ∧ sys'.shared = sys.shared ∧ sys'.phase i = .done w) := by
  intro sys'
  have own : sys'.phase i = (connectStep (sockets i) sys.shared (sys.phase i)).2 :=
    Run.Threads.step_phase_self _ sys i u
  have shared : sys'.shared = (connectStep (sockets i) sys.shared (sys.phase i)).1 := rfl
  cases phase : sys.phase i with
  | start =>
    rw [phase] at own shared
    exact Or.inl ⟨rfl, shared, own⟩
  | computed w =>
    rw [phase] at own shared
    exact Or.inr (Or.inl ⟨w, rfl, own, by rw [shared]; rfl⟩)
  | done w =>
    rw [phase] at own shared
    exact Or.inr (Or.inr ⟨w, rfl, shared, own⟩)

theorem connectsStep_of_ne (sys : Run.Threads ι Server ConnectPhase) (i j : ι) (u : Unit)
    (other : j ≠ i) : (connectsStep sockets sys (i, u)).phase j = sys.phase j :=
  Run.Threads.step_phase_of_ne _ sys i j u other

/-! ### While the connects are apart -/

/-- Calls that have inserted their session. -/
def ConnectPhase.inserted : ConnectPhase → Nat
  | .done _ => 1
  | _ => 0

@[simp] theorem ConnectPhase.inserted_start : ConnectPhase.start.inserted = 0 := rfl

@[simp] theorem ConnectPhase.inserted_computed (w : Word) :
    (ConnectPhase.computed w).inserted = 0 := rfl

@[simp] theorem ConnectPhase.inserted_done (w : Word) : (ConnectPhase.done w).inserted = 1 := rfl

variable [Fintype ι]

/-- At most one call is between its two steps, and its ID is still the next one; the
sessions of the others are in the table. -/
structure Serial (sys : Run.Threads ι Server ConnectPhase) : Prop where
  below : ∀ w, Live sys.shared.sessionInfo w →
    w.toNat < 65000 + ∑ j, (sys.phase j).inserted
  next : ∀ i w, sys.phase i = .computed w → w = newClientID sys.shared.sessionInfo
  one : ∀ i j w w', sys.phase i = .computed w → sys.phase j = .computed w' → i = j
  mapped : ∀ i w, sys.phase i = .done w →
    sys.shared.sessionInfo.find? w = some (.init w .connected (some (sockets i)))

/-- Two calls have the same ID. -/
def SameID (sys : Run.Threads ι Server ConnectPhase) : Prop :=
  ∃ i j w, i ≠ j ∧ (sys.phase i = .computed w ∨ sys.phase i = .done w) ∧
    (sys.phase j = .computed w ∨ sys.phase j = .done w)

omit [DecidableEq ι] in
theorem inserted_le_card (sys : Run.Threads ι Server ConnectPhase) :
    ∑ j, (sys.phase j).inserted ≤ Fintype.card ι := by
  have each (j : ι) : (sys.phase j).inserted ≤ 1 := by
    cases sys.phase j with
    | done w => exact Nat.le_refl 1
    | _ => exact Nat.zero_le 1
  calc ∑ j, (sys.phase j).inserted
      ≤ ∑ _j : ι, 1 := Finset.sum_le_sum fun j _ => each j
    _ = Fintype.card ι := by simp

theorem connectsStep_inserted (sys : Run.Threads ι Server ConnectPhase) (i : ι) (u : Unit) :
    (∑ j, ((connectsStep sockets sys (i, u)).phase j).inserted) + (sys.phase i).inserted =
      (∑ j, (sys.phase j).inserted) + ((connectsStep sockets sys (i, u)).phase i).inserted :=
  Run.Threads.sum_step _ (fun _ => ConnectPhase.inserted) sys i u

variable {sockets}

omit [DecidableEq ι] in
/-- With fewer than 500 calls the next ID stays below `INVALID_CLIENT_ID` and is unused. -/
theorem Serial.newClientID_spec {sys : Run.Threads ι Server ConnectPhase}
    (h : Serial sockets sys) (few : Fintype.card ι < 500) :
    sys.shared.sessionInfo.find? (newClientID sys.shared.sessionInfo) = none ∧
      (newClientID sys.shared.sessionInfo).toNat ≤ 65000 + ∑ j, (sys.phase j).inserted := by
  have count := inserted_le_card sys
  have dead : ¬ Live sys.shared.sessionInfo 65535 := by
    intro live
    have bound := h.below 65535 live
    change 65535 < _ at bound
    omega
  refine ⟨newClientID_unused _ dead, ?_⟩
  cases last : sys.shared.sessionInfo.lastKey? with
  | none =>
    rw [newClientID, last]
    change 1 ≤ _
    omega
  | some k =>
    have bound := h.below k (sys.shared.sessionInfo.lastKey_mem last)
    rw [newClientID, last]
    change (k + 1).toNat ≤ _
    bv_omega

omit [DecidableEq ι] in
theorem serial_start (s : Server) (below : ∀ k, s.sessionInfo.lastKey? = some k → k < 65000) :
    Serial sockets ⟨s, fun _ => .start⟩ where
  below w live := by
    obtain ⟨k, last⟩ := live.lastKey_eq
    have largest := live.le_lastKey last
    have bound := below k last
    simp only [ConnectPhase.inserted_start, Finset.sum_const_zero]
    bv_omega
  next i w computed := by cases computed
  one i j w w' computed := by cases computed
  mapped i w done := by cases done

/-- A step that does not compute an ID during another call keeps the calls apart. -/
theorem Serial.step {sys : Run.Threads ι Server ConnectPhase} (h : Serial sockets sys)
    (few : Fintype.card ι < 500) (turn : ι × Unit) (apart : ¬ ComputesDuring sys turn) :
    Serial sockets (connectsStep sockets sys turn) := by
  obtain ⟨i, u⟩ := turn
  have others := connectsStep_of_ne sockets sys i
  have count := connectsStep_inserted sockets sys i u
  rcases connectsStep_cases sockets sys i u with
    ⟨before, shared, after⟩ | ⟨w₀, before, after, sessions⟩ | ⟨w₀, before, shared, after⟩
  · -- call `i` computes its ID, and no other call is between its steps
    have idle (j : ι) (w : Word) (computed : sys.phase j = .computed w) : False :=
      apart ⟨before, j, w, computed⟩
    rw [before, after] at count
    simp only [ConnectPhase.inserted_start, ConnectPhase.inserted_computed, Nat.add_zero] at count
    constructor
    · rw [shared, count]
      exact h.below
    · intro j w computed
      rw [shared]
      by_cases same : j = i
      · subst same
        rw [after] at computed
        cases computed
        rfl
      · rw [others j u same] at computed
        exact (idle j w computed).elim
    · intro j j' w w' computed computed'
      by_cases same : j = i
      · by_cases same' : j' = i
        · rw [same, same']
        · rw [others j' u same'] at computed'
          exact (idle j' w' computed').elim
      · rw [others j u same] at computed
        exact (idle j w computed).elim
    · intro j w done
      rw [shared]
      by_cases same : j = i
      · rw [same, after] at done
        cases done
      · rw [others j u same] at done
        exact h.mapped j w done
  · -- call `i` inserts its session under the next ID
    obtain ⟨unused, bound⟩ := h.newClientID_spec few
    rw [← h.next i w₀ before] at unused bound
    rw [before, after] at count
    simp only [ConnectPhase.inserted_computed, ConnectPhase.inserted_done, Nat.add_zero] at count
    have idle (j : ι) (w : Word)
        (computed : (connectsStep sockets sys (i, u)).phase j = .computed w) : False := by
      by_cases same : j = i
      · rw [same, after] at computed
        cases computed
      · rw [others j u same] at computed
        exact same (h.one j i w w₀ computed before)
    constructor
    · intro w live
      obtain ⟨session, found⟩ := Option.isSome_iff_exists.mp live
      rw [sessions] at found
      rcases sys.shared.sessionInfo.find?_insert_cases found with old | ⟨rfl, _, _⟩
      · have below := h.below w (by rw [Live, old, Option.isSome_some])
        omega
      · omega
    · exact fun j w computed => (idle j w computed).elim
    · exact fun j j' w w' computed _ => (idle j w computed).elim
    · intro j w done
      rw [sessions]
      by_cases same : j = i
      · subst same
        rw [after] at done
        cases done
        rw [OrderedMap.find?_insert, if_pos rfl, unused, Option.getD_none]
      · rw [others j u same] at done
        exact sys.shared.sessionInfo.find?_insert_of_find? _ _ (h.mapped j w done)
  · -- call `i` has returned
    have same (j : ι) : (connectsStep sockets sys (i, u)).phase j = sys.phase j := by
      by_cases same : j = i
      · rw [same, after, before]
      · exact others j u same
    exact {
      below := by rw [shared]; simp only [same]; exact h.below
      next := by rw [shared]; simp only [same]; exact h.next
      one := by simp only [same]; exact h.one
      mapped := by rw [shared]; simp only [same]; exact h.mapped }

/-! ### Once two connects overlap -/

/-- The second call computes the ID that the first one is about to insert. -/
theorem Serial.sameID {sys : Run.Threads ι Server ConnectPhase} (h : Serial sockets sys)
    (turn : ι × Unit) (overlap : ComputesDuring sys turn) :
    SameID (connectsStep sockets sys turn) := by
  obtain ⟨i, u⟩ := turn
  obtain ⟨start, j, w, computed⟩ := overlap
  have different : j ≠ i := by
    rintro rfl
    rw [computed] at start
    cases start
  rcases connectsStep_cases sockets sys i u with
    ⟨_, _, after⟩ | ⟨_, before, _⟩ | ⟨_, before, _⟩
  · refine ⟨j, i, w, different, Or.inl ?_, Or.inl ?_⟩
    · rw [connectsStep_of_ne sockets sys i j u different, computed]
    · rw [after, h.next j w computed]
  · rw [before] at start
    cases start
  · rw [before] at start
    cases start

omit [Fintype ι] in
theorem SameID.step {sys : Run.Threads ι Server ConnectPhase} (h : SameID sys)
    (turn : ι × Unit) : SameID (connectsStep sockets sys turn) := by
  obtain ⟨i, u⟩ := turn
  -- a call keeps the ID it has computed
  have keeps (j : ι) (w : Word) (has : sys.phase j = .computed w ∨ sys.phase j = .done w) :
      (connectsStep sockets sys (i, u)).phase j = .computed w ∨
        (connectsStep sockets sys (i, u)).phase j = .done w := by
    by_cases same : j = i
    · subst same
      rcases connectsStep_cases sockets sys j u with
        ⟨before, _, _⟩ | ⟨w₀, before, after, _⟩ | ⟨w₀, before, _, after⟩
      · -- nothing has been computed yet
        rcases has with has | has
        · cases before.symm.trans has
        · cases before.symm.trans has
      · -- the session goes in under the computed ID
        rcases has with has | has
        · cases before.symm.trans has
          exact Or.inr after
        · cases before.symm.trans has
      · -- the call has returned
        rcases has with has | has
        · cases before.symm.trans has
        · cases before.symm.trans has
          exact Or.inr after
    · rw [connectsStep_of_ne sockets sys i j u same]
      exact has
  obtain ⟨j, j', w, different, first, second⟩ := h
  exact ⟨j, j', w, different, keeps j w first, keeps j' w second⟩

/-! ### Different client IDs -/

/-- When all connects have returned they have different IDs that lead to their own sockets
exactly when no ID was computed while another call was between its two steps. -/
theorem connected_apart_iff (injective : Function.Injective sockets) (few : Fintype.card ι < 500)
    (s : Server) (below : ∀ k, s.sessionInfo.lastKey? = some k → k < 65000)
    (turns : List (ι × Unit))
    (complete : ∀ i, ∃ w, (runConnects sockets s turns).phase i = .done w) :
    ConnectedApart sockets (runConnects sockets s turns) ↔
      Run.Avoids (connectsStep sockets) ComputesDuring ⟨s, fun _ => .start⟩ turns := by
  rcases Run.invariant_or_clash (Serial sockets) SameID _ (serial_start s below)
    (fun _ turn apart h => h.step few turn apart) (fun _ turn overlap h => h.sameID turn overlap)
    (fun _ turn h => h.step turn) turns with ⟨avoids, serial⟩ | ⟨clashed, same⟩
  · refine ⟨fun _ => avoids, fun _ => ⟨fun i j w first second => ?_, fun i w done => ?_⟩⟩
    · -- one session has one socket
      have sessions := (serial.mapped i w first).symm.trans (serial.mapped j w second)
      simp only [SessionInfo.init, Option.some.injEq, SessionInfo.mk.injEq] at sessions
      exact injective sessions.2.2.1
    · exact ⟨_, serial.mapped i w done, rfl⟩
  · refine ⟨fun apart => ?_, fun avoids => absurd avoids clashed⟩
    obtain ⟨i, j, w, different, first, second⟩ := same
    have returned (k : ι) (has : (runConnects sockets s turns).phase k = .computed w ∨
        (runConnects sockets s turns).phase k = .done w) :
        (runConnects sockets s turns).phase k = .done w := by
      rcases has with computed | done
      · obtain ⟨w', done⟩ := complete k
        rw [computed] at done
        cases done
      · exact done
    exact absurd (apart.distinct i j w (returned i first) (returned j second)) different

/-- Two connects one after the other. -/
theorem connected_apart_iff_pair :
    let sockets : Bool → Socket := fun second => if second then 8 else 7
    let turns := [(false, ()), (false, ()), (true, ()), (true, ())]
    ConnectedApart sockets (runConnects sockets .empty turns) ↔
      Run.Avoids (connectsStep sockets) ComputesDuring ⟨.empty, fun _ => .start⟩ turns := by
  intro sockets turns
  refine connected_apart_iff (fun i j same => ?_) (by decide) .empty (fun k last => ?_) turns
    fun i => ?_
  · revert same
    cases i <;> cases j <;> decide
  · cases last
  · cases i
    · exact ⟨1, by decide⟩
    · exact ⟨2, by decide⟩

/-- Two clients connect to an empty server, and both compute the ID 1 before either of them
inserts its session. -/
theorem connected_together :
    let sockets : Bool → Socket := fun second => if second then 8 else 7
    let turns := [(false, ()), (true, ()), (false, ()), (true, ())]
    (∀ i, (runConnects sockets .empty turns).phase i = .done 1) ∧
      ¬ ConnectedApart sockets (runConnects sockets .empty turns) := by
  intro sockets turns
  have returned (i : Bool) : (runConnects sockets .empty turns).phase i = .done 1 := by
    cases i <;> decide
  refine ⟨returned, fun apart => ?_⟩
  exact absurd (apart.distinct false true 1 (returned false) (returned true)) (by decide)

end Cnp
