import CnpProtocol.Properties.ClientIDs

/-!
# Concurrent account creation

Several clients create the account of one name and PIN at the same time. If a call looks
for the account while another one has found none and not inserted its own yet, both are
told that they created it.
-/

namespace Cnp

variable {ι : Type*} [DecidableEq ι] (calls : ι → CreateAccountRequest) (beyond : ι → List Byte)

/-- Every call is for the account `q`, with a valid name and PIN, from a live session. -/
structure SameAccount (s : Server) (q : Qword) : Prop where
  customer : ∀ i, (calls i).customerID (beyond i) = q
  name : ∀ i, isValidName ((calls i).getFirstName (beyond i)) = true
  pin : ∀ i, isValidPIN (calls i).request.pin = true
  live : ∀ i, Live s.sessionInfo (calls i).hdr.clientID

omit [DecidableEq ι] in
/-- Calls with one valid name and one valid PIN are for one account. -/
theorem sameAccount_of_name (s : Server) (szName : List Byte) (wPIN : Word)
    (valid : isValidName szName = true) (nonzero : wPIN ≠ invalidPin)
    (name : ∀ i, Bytes.cString ((calls i).getFirstName (beyond i)) = Bytes.cString szName)
    (pin : ∀ i, (calls i).request.pin = wPIN)
    (live : ∀ i, Live s.sessionInfo (calls i).hdr.clientID) :
    SameAccount calls beyond s (generateCustomerID szName (Bytes.strlen szName) wPIN) where
  customer i := by
    rw [CreateAccountRequest.customerID, generateCustomerID_eq_iff]
    exact ⟨congrArg nameBits (name i), pin i⟩
  name i := by
    rw [isValidName_iff] at valid ⊢
    rwa [name i]
  pin i := by simpa [isValidPIN, pin i] using nonzero
  live := live

/-- One call has succeeded and its data is stored; the others were told that the account
exists. -/
def OneWinner (q : Qword) (sys : Run.Threads ι Server CreatePhase) : Prop :=
  ∃ i, sys.phase i = .done .success ∧
    sys.shared.accountInfo.find? q = some ⟨(calls i).request, q, 0⟩ ∧
    ∀ j, j ≠ i → sys.phase j = .done .accountExists

/-! ### One step -/

/-- The steps of a call for the account `q` from a live session with a valid name and PIN. -/
inductive CreateEffect (q : Qword) (base : Prim.CreateAccountRequest) (s : Server) :
    CreatePhase → Server → CreatePhase → Prop
  | validated : CreateEffect q base s .start s .sessionFound
  | found (itA : AccountInfo) (account : s.accountInfo.find? q = some itA) :
      CreateEffect q base s .sessionFound s (.done .accountExists)
  | absent (unused : s.accountInfo.find? q = none) :
      CreateEffect q base s .sessionFound s .absent
  | inserted :
      CreateEffect q base s .absent
        { s with accountInfo := s.accountInfo.insert q ⟨base, q, 0⟩ } .inserted
  | updated (w : Word) :
      CreateEffect q base s .inserted (s.modifySession w (·.setState .accountCreated))
        (.done .success)
  | idle (cerRR : CerType) : CreateEffect q base s (.done cerRR) s (.done cerRR)

omit [DecidableEq ι] in
theorem createStep_effect {s₀ : Server} {q : Qword} (same : SameAccount calls beyond s₀ q)
    (i : ι) (s : Server) (live : Live s.sessionInfo (calls i).hdr.clientID) (p : CreatePhase) :
    CreateEffect q (calls i).request s p (createStep (calls i) (beyond i) s p).1
      (createStep (calls i) (beyond i) s p).2 := by
  cases p with
  | start =>
    obtain ⟨itS, session⟩ := Option.isSome_iff_exists.mp live
    have next : createStep (calls i) (beyond i) s .start = (s, .sessionFound) := by
      simp [createStep, session, same.name i, same.pin i]
    rw [next]
    exact .validated
  | sessionFound =>
    simp only [createStep, same.customer i]
    split
    next itA account => exact .found itA account
    next unused => exact .absent unused
  | absent =>
    simp only [createStep, same.customer i]
    exact .inserted
  | inserted => exact .updated _
  | done cerRR => exact .idle cerRR

theorem createsStep_effect {s₀ : Server} {q : Qword} (same : SameAccount calls beyond s₀ q)
    (sys : Run.Threads ι Server CreatePhase) (i : ι) (u : Unit)
    (live : Live sys.shared.sessionInfo (calls i).hdr.clientID) :
    CreateEffect q (calls i).request sys.shared (sys.phase i)
      (createsStep calls beyond sys (i, u)).shared
      ((createsStep calls beyond sys (i, u)).phase i) := by
  have effect := createStep_effect calls beyond same i sys.shared live (sys.phase i)
  rw [createsStep, Run.Threads.step_phase_self]
  exact effect

theorem createsStep_of_ne (sys : Run.Threads ι Server CreatePhase) (i j : ι) (u : Unit)
    (other : j ≠ i) : (createsStep calls beyond sys (i, u)).phase j = sys.phase j :=
  Run.Threads.step_phase_of_ne _ sys i j u other

/-- No call ends a session. -/
theorem CreateEffect.live {q : Qword} {base : Prim.CreateAccountRequest} {s s' : Server}
    {p p' : CreatePhase} (e : CreateEffect q base s p s' p') (w : Word)
    (live : Live s.sessionInfo w) : Live s'.sessionInfo w := by
  cases e with
  | updated w' =>
    rw [Live, Server.modifySession_sessionInfo, OrderedMap.isSome_find?_modify]
    exact live
  | _ => exact live

/-! ### While the lookups are apart -/

/-- A call that has not decided yet, or that was told that the account exists. -/
def CreatePhase.Loses (p : CreatePhase) : Prop :=
  p = .start ∨ p = .sessionFound ∨ p = .done .accountExists

/-- No call has inserted its account, and at most one has found none. -/
structure Open (q : Qword) (sys : Run.Threads ι Server CreatePhase) : Prop where
  unused : sys.shared.accountInfo.find? q = none
  phases : ∀ j, sys.phase j = .start ∨ sys.phase j = .sessionFound ∨ sys.phase j = .absent
  one : ∀ i j, sys.phase i = .absent → sys.phase j = .absent → i = j

/-- Call `i` has inserted its account, and no other call can. -/
structure WonBy (q : Qword) (sys : Run.Threads ι Server CreatePhase) (i : ι) : Prop where
  winner : sys.phase i = .inserted ∨ sys.phase i = .done .success
  stored : sys.shared.accountInfo.find? q = some ⟨(calls i).request, q, 0⟩
  others : ∀ j, j ≠ i → (sys.phase j).Loses

structure Exclusive (q : Qword) (sys : Run.Threads ι Server CreatePhase) : Prop where
  live : ∀ i, Live sys.shared.sessionInfo (calls i).hdr.clientID
  stage : Open q sys ∨ ∃ i, WonBy calls q sys i

/-- A call that will answer success. -/
def CreatePhase.Wins (p : CreatePhase) : Prop :=
  p = .absent ∨ p = .inserted ∨ p = .done .success

def TwoWinners (sys : Run.Threads ι Server CreatePhase) : Prop :=
  ∃ i j, i ≠ j ∧ (sys.phase i).Wins ∧ (sys.phase j).Wins

variable {calls beyond}

omit [DecidableEq ι] in
theorem exclusive_start {s : Server} {q : Qword} (same : SameAccount calls beyond s q)
    (absent : s.accountInfo.find? q = none) :
    Exclusive calls q ⟨s, fun _ => .start⟩ where
  live := same.live
  stage := Or.inl ⟨absent, fun _ => Or.inl rfl, fun _ _ found => by cases found⟩

/-- While no account is stored, the acting call may look, be the one that found none, or
insert its account and win. -/
theorem Open.step {s₀ : Server} {q : Qword} (same : SameAccount calls beyond s₀ q)
    {sys : Run.Threads ι Server CreatePhase} (h : Open q sys)
    (live : ∀ i, Live sys.shared.sessionInfo (calls i).hdr.clientID) (i : ι) (u : Unit)
    (apart : ¬ LooksDuring sys (i, u)) :
    Open q (createsStep calls beyond sys (i, u)) ∨
      WonBy calls q (createsStep calls beyond sys (i, u)) i := by
  have others := createsStep_of_ne calls beyond sys i
  have effect := createsStep_effect calls beyond same sys i u (live i)
  have phase := h.phases i
  generalize before : sys.phase i = p at effect phase
  generalize shared : (createsStep calls beyond sys (i, u)).shared = s' at effect
  generalize after : (createsStep calls beyond sys (i, u)).phase i = p' at effect
  cases effect with
  | validated =>
    -- no phase becomes `absent`
    refine Or.inl ⟨by rw [shared]; exact h.unused, fun j => ?_, fun j j' first second => ?_⟩
    · by_cases acting : j = i
      · exact Or.inr (Or.inl (acting ▸ after))
      · rw [others j u acting]
        exact h.phases j
    · have inner (k : ι) (found : (createsStep calls beyond sys (i, u)).phase k = .absent) :
          sys.phase k = .absent := by
        by_cases acting : k = i
        · rw [acting, after] at found
          cases found
        · rw [← others k u acting]
          exact found
      exact h.one j j' (inner j first) (inner j' second)
  | found itA account =>
    -- there is no account to find
    rw [h.unused] at account
    cases account
  | absent unused =>
    -- no other call is between its lookup and its insert
    have idle (j : ι) (acting : j ≠ i)
        (found : (createsStep calls beyond sys (i, u)).phase j = .absent) : False := by
      rw [others j u acting] at found
      exact apart ⟨before, j, found⟩
    refine Or.inl ⟨by rw [shared]; exact unused, fun j => ?_, fun j j' first second => ?_⟩
    · by_cases acting : j = i
      · exact Or.inr (Or.inr (acting ▸ after))
      · rw [others j u acting]
        exact h.phases j
    · have acting : j = i := by_contra fun other => idle j other first
      have acting' : j' = i := by_contra fun other => idle j' other second
      rw [acting, acting']
  | inserted =>
    -- the only call that found none stores its account
    refine Or.inr ⟨Or.inl after, ?_, fun j other => ?_⟩
    · rw [shared, OrderedMap.find?_insert, if_pos rfl, h.unused, Option.getD_none]
    · rw [others j u other]
      rcases h.phases j with start | found | absent
      · exact Or.inl start
      · exact Or.inr (Or.inl found)
      · exact absurd (h.one j i absent before) other
  | updated w => rcases phase with phase | phase | phase <;> cases phase
  | idle cerRR => rcases phase with phase | phase | phase <;> cases phase

/-- Once an account is stored the others find it. -/
theorem WonBy.step {s₀ : Server} {q : Qword} (same : SameAccount calls beyond s₀ q)
    {sys : Run.Threads ι Server CreatePhase} {winner : ι} (h : WonBy calls q sys winner)
    (live : ∀ i, Live sys.shared.sessionInfo (calls i).hdr.clientID) (i : ι) (u : Unit) :
    WonBy calls q (createsStep calls beyond sys (i, u)) winner := by
  have others := createsStep_of_ne calls beyond sys i
  have effect := createsStep_effect calls beyond same sys i u (live i)
  generalize before : sys.phase i = p at effect
  generalize shared : (createsStep calls beyond sys (i, u)).shared = s' at effect
  generalize after : (createsStep calls beyond sys (i, u)).phase i = p' at effect
  by_cases acting : i = winner
  · -- the winner updates its session and returns
    subst acting
    refine ⟨?_, ?_, fun j other => by rw [others j u other]; exact h.others j other⟩
    · have phase := h.winner
      rw [before] at phase
      cases effect with
      | updated w => exact Or.inr after
      | idle cerRR => exact after ▸ phase
      | _ => rcases phase with phase | phase <;> cases phase
    · rw [shared]
      have phase := h.winner
      rw [before] at phase
      cases effect with
      | inserted => rcases phase with phase | phase <;> cases phase
      | _ => exact h.stored
  · have phase := h.others i acting
    rw [before] at phase
    refine ⟨by rw [others winner u (Ne.symm acting)]; exact h.winner, ?_, fun j other => ?_⟩
    · rw [shared]
      cases effect with
      | inserted => rcases phase with phase | phase | phase <;> cases phase
      | _ => exact h.stored
    · by_cases same : j = i
      · subst same
        rw [after]
        cases effect with
        | validated => exact Or.inr (Or.inl rfl)
        | found itA account => exact Or.inr (Or.inr rfl)
        | absent unused =>
          -- the stored account is found
          rw [h.stored] at unused
          cases unused
        | idle cerRR => exact phase
        | _ => rcases phase with phase | phase | phase <;> cases phase
      · rw [others j u same]
        exact h.others j other

theorem Exclusive.step {s₀ : Server} {q : Qword} (same : SameAccount calls beyond s₀ q)
    {sys : Run.Threads ι Server CreatePhase} (h : Exclusive calls q sys) (turn : ι × Unit)
    (apart : ¬ LooksDuring sys turn) : Exclusive calls q (createsStep calls beyond sys turn) where
  live i :=
    (createsStep_effect calls beyond same sys turn.1 turn.2 (h.live turn.1)).live _ (h.live i)
  stage := by
    rcases h.stage with undecided | ⟨winner, won⟩
    · exact (undecided.step same h.live turn.1 turn.2 apart).imp_right fun won => ⟨turn.1, won⟩
    · exact Or.inr ⟨winner, won.step same h.live turn.1 turn.2⟩

/-! ### Once two lookups overlap -/

theorem Exclusive.twoWinners {s₀ : Server} {q : Qword} (same : SameAccount calls beyond s₀ q)
    {sys : Run.Threads ι Server CreatePhase} (h : Exclusive calls q sys) (turn : ι × Unit)
    (overlap : LooksDuring sys turn) : TwoWinners (createsStep calls beyond sys turn) := by
  obtain ⟨i, u⟩ := turn
  obtain ⟨looks, j, absent⟩ := overlap
  have different : j ≠ i := by
    rintro rfl
    rw [absent] at looks
    cases looks
  -- as long as call `j` has not inserted, nothing is stored
  have unused : sys.shared.accountInfo.find? q = none := by
    rcases h.stage with undecided | ⟨winner, won⟩
    · exact undecided.unused
    · by_cases wins : j = winner
      · have phase := won.winner
        rw [← wins, absent] at phase
        rcases phase with phase | phase <;> cases phase
      · have phase := won.others j wins
        rw [absent] at phase
        rcases phase with phase | phase | phase <;> cases phase
  refine ⟨j, i, different, Or.inl ?_, Or.inl ?_⟩
  · rw [createsStep_of_ne calls beyond sys i j u different, absent]
  · have effect := createsStep_effect calls beyond same sys i u (h.live i)
    rw [looks] at effect
    generalize (createsStep calls beyond sys (i, u)).shared = s' at effect
    generalize (createsStep calls beyond sys (i, u)).phase i = p' at effect
    cases effect with
    | found itA account =>
      change sys.shared.accountInfo.find? q = some itA at account
      rw [unused] at account
      cases account
    | absent => rfl

/-- A call past its lookup answers success, whatever the others do. -/
theorem CreatePhase.Wins.step {p : CreatePhase} (wins : p.Wins) (m : CreateAccountRequest)
    (beyond : List Byte) (s : Server) : (createStep m beyond s p).2.Wins := by
  rcases wins with rfl | rfl | rfl
  · exact Or.inr (Or.inl rfl)
  · exact Or.inr (Or.inr rfl)
  · exact Or.inr (Or.inr rfl)

theorem TwoWinners.step {sys : Run.Threads ι Server CreatePhase} (h : TwoWinners sys)
    (turn : ι × Unit) : TwoWinners (createsStep calls beyond sys turn) := by
  have keeps (j : ι) (wins : (sys.phase j).Wins) :
      ((createsStep calls beyond sys turn).phase j).Wins := by
    by_cases acting : j = turn.1
    · subst acting
      rw [createsStep, Run.Threads.step_phase_self]
      exact wins.step ..
    · rw [createsStep_of_ne calls beyond sys turn.1 j turn.2 acting]
      exact wins
  obtain ⟨i, j, different, first, second⟩ := h
  exact ⟨i, j, different, keeps i first, keeps j second⟩

/-! ### One winner -/

/-- When all calls have returned exactly one of them has succeeded, its data is stored and
all others were told that the account exists, exactly when no call looked for the account
while another one was between its lookup and its insert. -/
theorem one_winner_iff [Nonempty ι] (s : Server) (q : Qword) (same : SameAccount calls beyond s q)
    (absent : s.accountInfo.find? q = none) (turns : List (ι × Unit))
    (complete : ∀ i, ∃ cerRR, (runCreates calls beyond s turns).phase i = .done cerRR) :
    OneWinner calls q (runCreates calls beyond s turns) ↔
      Run.Avoids (createsStep calls beyond) LooksDuring ⟨s, fun _ => .start⟩ turns := by
  rcases Run.invariant_or_clash (Exclusive calls q) TwoWinners _
    (exclusive_start same absent) (fun _ turn apart h => h.step same turn apart)
    (fun _ turn overlap h => h.twoWinners same turn overlap) (fun _ turn h => h.step turn)
    turns with ⟨avoids, exclusive⟩ | ⟨clashed, two⟩
  · refine ⟨fun _ => avoids, fun _ => ?_⟩
    rcases exclusive.stage with undecided | ⟨i, won⟩
    · -- somebody has returned, so the account is stored
      obtain ⟨i⟩ := ‹Nonempty ι›
      obtain ⟨cerRR, done⟩ := complete i
      have phase := undecided.phases i
      rw [runCreates] at done
      rw [done] at phase
      rcases phase with phase | phase | phase <;> cases phase
    · -- the winner and the others have all returned
      refine ⟨i, ?_, won.stored, fun j other => ?_⟩
      · obtain ⟨cerRR, done⟩ := complete i
        have phase := won.winner
        rw [runCreates] at done ⊢
        rw [done] at phase ⊢
        rcases phase with phase | phase
        · cases phase
        · exact phase
      · obtain ⟨cerRR, done⟩ := complete j
        have phase := won.others j other
        rw [runCreates] at done ⊢
        rw [done] at phase ⊢
        rcases phase with phase | phase | phase
        · cases phase
        · cases phase
        · exact phase
  · refine ⟨fun ⟨winner, _, _, others⟩ => ?_, fun avoids => absurd avoids clashed⟩
    obtain ⟨i, j, different, first, second⟩ := two
    -- of two winners one is not the only one
    have lost (k : ι) (other : k ≠ winner)
        (wins : ((runCreates calls beyond s turns).phase k).Wins) : False := by
      rw [others k other] at wins
      rcases wins with wins | wins | wins <;> cases wins
    by_cases wins : i = winner
    · exact (lost j (fun also => different (wins.trans also.symm)) second).elim
    · exact (lost i wins first).elim

/-! ### Anna on two connections -/

/-- Two clients have connected. -/
def twoConnected : Server := run .empty [Client.sendConnect 7 0, Client.sendConnect 8 1]

/-- Both create an account for Anna with PIN 4711, with last names of their own. -/
def createTwice (second : Bool) : CreateAccountRequest :=
  if second then .init 2 2 [65, 110, 110, 97] [66] [] 4711 0 0 0
  else .init 3 1 [65, 110, 110, 97] [67] [] 4711 0 0 0

theorem sameAccount_createTwice :
    SameAccount createTwice (fun _ => []) twoConnected
      (generateCustomerID [65, 110, 110, 97] 4 4711) := by
  apply sameAccount_of_name createTwice _ twoConnected [65, 110, 110, 97] 4711
  · decide
  · decide
  · intro i
    cases i <;> decide +kernel
  · intro i
    cases i <;> rfl
  · intro i
    unfold Live
    cases i <;> decide +kernel

/-- One after the other. -/
theorem one_winner_iff_pair :
    let q := generateCustomerID [65, 110, 110, 97] 4 4711
    let turns := List.replicate 4 (false, ()) ++ List.replicate 2 (true, ())
    OneWinner createTwice q (runCreates createTwice (fun _ => []) twoConnected turns) ↔
      Run.Avoids (createsStep createTwice fun _ => []) LooksDuring
        ⟨twoConnected, fun _ => .start⟩ turns := by
  intro q turns
  refine one_winner_iff twoConnected q sameAccount_createTwice (by decide +kernel) turns fun i => ?_
  cases i
  · exact ⟨.success, by decide +kernel⟩
  · exact ⟨.accountExists, by decide +kernel⟩

/-- Both look before either of them inserts, and both are told that they have created the
account. -/
theorem two_winners :
    let q := generateCustomerID [65, 110, 110, 97] 4 4711
    let turns := [(false, ()), (false, ()), (true, ()), (true, ()), (false, ()), (false, ()),
      (true, ()), (true, ())]
    (∀ i, (runCreates createTwice (fun _ => []) twoConnected turns).phase i = .done .success) ∧
      ¬ OneWinner createTwice q (runCreates createTwice (fun _ => []) twoConnected turns) := by
  intro q turns
  have returned (i : Bool) :
      (runCreates createTwice (fun _ => []) twoConnected turns).phase i = .done .success := by
    cases i <;> decide +kernel
  refine ⟨returned, fun ⟨i, _, _, others⟩ => ?_⟩
  have other := others (!i) (by cases i <;> decide)
  rw [returned] at other
  cases other

end Cnp
