import CnpProtocol.Properties.TransactionTable
import CnpProtocol.Server.MoneySteps

/-!
# Recording

Calls of the money handlers interleave, but the section that takes the size of the
transaction table and inserts the record is one step. So the table stays dense in every
interleaving, and each successful call adds one record of its own.
-/

namespace Cnp

/-- The records of `s'` under keys that `s` did not have. -/
def addedRecords (s s' : Server) : List TransactionInfo :=
  (s'.transactionInfo.entries.filter
    fun e => (s.transactionInfo.find? e.1).isNone).map Prod.snd

theorem addedRecords_of_eq {s s' : Server} (same : s'.transactionInfo = s.transactionInfo) :
    addedRecords s s' = [] := by
  rw [addedRecords, same, List.map_eq_nil_iff, List.filter_eq_nil_iff]
  intro e member
  have found := (s.transactionInfo.find?_eq_some_iff e.1 e.2).mpr member
  simp [found]

theorem addedRecords_recordTransaction {s : Server} (dense : Dense s.transactionInfo)
    (room : s.transactionInfo.size + 1 < 2 ^ 32) (qwNow : Qword) (dwAmount : Dword)
    (wType : TransactionType) (q : Qword) :
    addedRecords s (s.recordTransaction qwNow dwAmount wType q) =
      [s.newTransaction qwNow dwAmount wType q] := by
  have old := addedRecords_of_eq (rfl : s.transactionInfo = s.transactionInfo)
  rw [addedRecords] at old
  -- in a dense table the next ID is free
  have new := dense.find?_nextID (Nat.le_refl _) room
  rw [nextID] at new
  rw [addedRecords, dense.entries_recordTransaction room, List.filter_append, List.map_append,
    old, List.nil_append]
  simp [new]

section Calls

variable {ι : Type*} [DecidableEq ι] (calls : ι → MoneyRequest) (s : Server)

/-- The records that the steps of call `i` added. -/
def addedBy (turns : List (ι × Qword)) (i : ι) : List TransactionInfo :=
  Run.Threads.changesBy (fun i qwNow => moneyStep (calls i) qwNow) addedRecords i
    ⟨s, fun _ => .start⟩ turns

theorem addedBy_concat (turns : List (ι × Qword)) (i j : ι) (qwNow : Qword) :
    addedBy calls s (turns ++ [(i, qwNow)]) j = addedBy calls s turns j ++
      if i = j then addedRecords (runCalls calls s turns).shared
        (runCalls calls s (turns ++ [(i, qwNow)])).shared
      else [] := by
  rw [addedBy, Run.Threads.changesBy_append, runCalls_concat]
  simp only [Run.Threads.changesBy, List.append_nil]
  rfl

/-! ### Nothing is changed or removed -/

theorem CallEffect.kept {m : MoneyRequest} {qwNow : Qword} {s s' : Server} {p p' : Phase}
    (e : CallEffect m qwNow s p s' p') (k : Dword) (t : TransactionInfo)
    (found : s.transactionInfo.find? k = some t) : s'.transactionInfo.find? k = some t := by
  cases e with
  | recorded q => exact s.transactionInfo.find?_insert_of_find? _ _ found
  | _ => exact found

theorem CallEffect.size_le {m : MoneyRequest} {qwNow : Qword} {s s' : Server} {p p' : Phase}
    (e : CallEffect m qwNow s p s' p') : s.transactionInfo.size ≤ s'.transactionInfo.size := by
  cases e with
  | recorded q => exact size_le_recordTransaction s _ _ _ _
  | _ => exact Nat.le_refl _

theorem runCalls_kept (first second : List (ι × Qword)) (k : Dword) (t : TransactionInfo)
    (found : (runCalls calls s first).shared.transactionInfo.find? k = some t) :
    (runCalls calls s (first ++ second)).shared.transactionInfo.find? k = some t := by
  rw [runCalls_append]
  exact Run.relation (callStep calls)
    (fun sys sys' => ∀ k t, sys.shared.transactionInfo.find? k = some t →
      sys'.shared.transactionInfo.find? k = some t)
    (fun _ _ _ found => found) (fun _ _ _ one two k t found => two k t (one k t found))
    (fun sys turn => (callStep_effect calls sys turn.1 turn.2).kept) _ second k t found

theorem runCalls_size_le (first second : List (ι × Qword)) :
    (runCalls calls s first).shared.transactionInfo.size ≤
      (runCalls calls s (first ++ second)).shared.transactionInfo.size := by
  rw [runCalls_append]
  exact Run.relation (callStep calls)
    (fun sys sys' => sys.shared.transactionInfo.size ≤ sys'.shared.transactionInfo.size)
    (fun _ => Nat.le_refl _) (fun _ _ _ => Nat.le_trans)
    (fun sys turn => (callStep_effect calls sys turn.1 turn.2).size_le) _ second

/-! ### The invariant -/

/-- The record of a call that has completed with success: its amount and type, and the
customer of its session. -/
def RecordOf (m : MoneyRequest) (s : Server) (t : TransactionInfo) : Prop :=
  ∃ itS, s.sessionInfo.find? m.clientID = some itS ∧ t.amount = m.amount ∧
    t.type = m.transactionType.code ∧ t.customerID = itS.customerID

/-- What holds after every interleaving `turns` that starts in `s`. -/
structure Recording (turns : List (ι × Qword)) : Prop where
  dense : Dense (runCalls calls s turns).shared.transactionInfo
  own : ∀ k t, (runCalls calls s turns).shared.transactionInfo.find? k = some t → t.id = k
  sessions : (runCalls calls s turns).shared.sessionInfo = s.sessionInfo
  customer : ∀ i q, ((runCalls calls s turns).phase i).customer? = some q →
    ∃ itS, s.sessionInfo.find? (calls i).clientID = some itS ∧ itS.customerID = q
  added : ∀ i, (runCalls calls s turns).phase i = .done .success →
    ∃ t, addedBy calls s turns i = [t] ∧ RecordOf (calls i) s t
  notAdded : ∀ i, (runCalls calls s turns).phase i ≠ .done .success →
    addedBy calls s turns i = []

/-- A step records nothing, or it is the last step of a successful call. -/
theorem CallEffect.records {m : MoneyRequest} {qwNow : Qword} {s s' : Server} {p p' : Phase}
    (e : CallEffect m qwNow s p s' p') :
    (s'.transactionInfo = s.transactionInfo ∧ (p' = .done .success ↔ p = .done .success)) ∨
    (∃ q, p = .updated q ∧ p' = .done .success ∧
      s' = s.recordTransaction qwNow m.amount m.transactionType q) := by
  cases e with
  | recorded q => exact Or.inr ⟨q, rfl, rfl, rfl⟩
  | idle p => exact Or.inl ⟨rfl, Iff.rfl⟩
  | notLoggedon itS found noCustomer =>
    -- the code depends on the request, but it is no success
    refine Or.inl ⟨rfl, ?_⟩
    cases m <;> simp [MoneyRequest.toRequest, Request.notLoggedon]
  | _ => exact Or.inl ⟨rfl, by simp⟩

theorem recording_start (dense : Dense s.transactionInfo)
    (own : ∀ k t, s.transactionInfo.find? k = some t → t.id = k) : Recording calls s [] where
  dense := dense
  own := own
  sessions := rfl
  customer _ _ works := by cases works
  added _ success := by cases success
  notAdded _ _ := rfl

theorem Recording.concat {turns : List (ι × Qword)} (h : Recording calls s turns) (i : ι)
    (qwNow : Qword)
    (room : (runCalls calls s turns).shared.transactionInfo.size + 1 < 2 ^ 32) :
    Recording calls s (turns ++ [(i, qwNow)]) := by
  have effect := callStep_effect calls (runCalls calls s turns) i qwNow
  have others (j : ι) (other : j ≠ i) :=
    callStep_phase_of_ne calls (runCalls calls s turns) i j qwNow other
  have addedOthers (j : ι) (other : j ≠ i) :
      addedBy calls s (turns ++ [(i, qwNow)]) j = addedBy calls s turns j := by
    rw [addedBy_concat, if_neg (Ne.symm other), List.append_nil]
  have addedSelf := addedBy_concat calls s turns i i qwNow
  rw [if_pos rfl] at addedSelf
  rw [← runCalls_concat] at effect
  simp only [← runCalls_concat] at others
  have sessions := runCalls_sessionInfo calls s (turns ++ [(i, qwNow)])
  have customer := runCalls_customer calls s (turns ++ [(i, qwNow)])
  rcases effect.records with ⟨table, success⟩ | ⟨q, before, after, table⟩
  · -- the step records nothing
    rw [addedRecords_of_eq table, List.append_nil] at addedSelf
    have unchanged (j : ι) :
        ((runCalls calls s (turns ++ [(i, qwNow)])).phase j = .done .success ↔
          (runCalls calls s turns).phase j = .done .success) ∧
        addedBy calls s (turns ++ [(i, qwNow)]) j = addedBy calls s turns j := by
      by_cases same : j = i
      · rw [same]
        exact ⟨success, addedSelf⟩
      · exact ⟨by rw [others j same], addedOthers j same⟩
    exact {
      dense := table ▸ h.dense
      own := table ▸ h.own
      sessions
      customer
      added := fun j done => by
        rw [(unchanged j).2]
        exact h.added j ((unchanged j).1.mp done)
      notAdded := fun j running => by
        rw [(unchanged j).2]
        exact h.notAdded j fun done => running ((unchanged j).1.mpr done) }
  · -- call `i` records its transaction
    obtain ⟨itS, session, rfl⟩ := h.customer i q (by rw [before]; rfl)
    have none : addedBy calls s turns i = [] := h.notAdded i (by rw [before]; simp)
    rw [none, table, addedRecords_recordTransaction h.dense room, List.nil_append] at addedSelf
    exact {
      dense := table ▸ h.dense.recordTransaction room _ _ _ _
      own := fun k t found => by
        rw [table] at found
        -- the record carries the ID it is stored under
        rcases OrderedMap.find?_insert_cases _ found with old | ⟨rfl, rfl, _⟩
        · exact h.own k t old
        · rfl
      sessions
      customer
      added := fun j done => by
        by_cases same : j = i
        · subst same
          exact ⟨_, addedSelf, itS, session, rfl, rfl, rfl⟩
        · rw [others j same] at done
          rw [addedOthers j same]
          exact h.added j done
      notAdded := fun j running => by
        by_cases same : j = i
        · subst same
          exact absurd after running
        · rw [others j same] at running
          rw [addedOthers j same]
          exact h.notAdded j running }

theorem recording_of_few (dense : Dense s.transactionInfo)
    (own : ∀ k t, s.transactionInfo.find? k = some t → t.id = k) (turns : List (ι × Qword))
    (few : (runCalls calls s turns).shared.transactionInfo.size < 2 ^ 32 - 1) :
    Recording calls s turns := by
  induction turns using List.reverseRecOn with
  | nil => exact recording_start calls s dense own
  | append_singleton turns turn ih =>
    have grows := runCalls_size_le calls s turns [turn]
    exact (ih (by omega)).concat calls s turn.1 turn.2 (by omega)

/-! ### Exactly one record for each success -/

/-- In every state of the interleaving the table is dense and its records carry their own
keys; later states keep all records; a successful call has added its record and no other,
and a call with any other result code none. -/
structure RecordedOnce (turns : List (ι × Qword)) : Prop where
  dense : ∀ first, first <+: turns → Dense (runCalls calls s first).shared.transactionInfo
  own : ∀ first, first <+: turns → ∀ k t,
    (runCalls calls s first).shared.transactionInfo.find? k = some t → t.id = k
  kept : ∀ first second, second <+: turns → first <+: second → ∀ k t,
    (runCalls calls s first).shared.transactionInfo.find? k = some t →
      (runCalls calls s second).shared.transactionInfo.find? k = some t
  success : ∀ i, (runCalls calls s turns).phase i = .done .success →
    ∃ t, addedBy calls s turns i = [t] ∧ RecordOf (calls i) s t
  failure : ∀ i cerRR, (runCalls calls s turns).phase i = .done cerRR → cerRR ≠ .success →
    addedBy calls s turns i = []

/-- Transactions are recorded exactly once in every interleaving that starts from a dense
table and stays below 2^32 - 1 records. -/
theorem recorded_once_run (dense : Dense s.transactionInfo)
    (own : ∀ k t, s.transactionInfo.find? k = some t → t.id = k) (turns : List (ι × Qword))
    (few : (runCalls calls s turns).shared.transactionInfo.size < 2 ^ 32 - 1) :
    RecordedOnce calls s turns := by
  have every (first : List (ι × Qword)) (inside : first <+: turns) :
      Recording calls s first := by
    obtain ⟨rest, rfl⟩ := inside
    have grows := runCalls_size_le calls s first rest
    exact recording_of_few calls s dense own first (by omega)
  have whole := every turns (List.prefix_refl turns)
  exact {
    dense := fun first inside => (every first inside).dense
    own := fun first inside => (every first inside).own
    kept := fun first second _ inside k t found => by
      obtain ⟨rest, rfl⟩ := inside
      exact runCalls_kept calls s first rest k t found
    success := whole.added
    failure := fun i cerRR done other => whole.notAdded i fun success => by
      rw [done, Phase.done.injEq] at success
      exact other success }

end Calls

/-- Two clients of one account pay in and take out at the same time: both succeed, and the
withdrawal gets the ID behind the deposit. -/
theorem recorded_once_run_pair :
    let calls : Bool → MoneyRequest := fun i => if i then .deposit (.init 5 1 100 .cash 0)
      else .withdrawal (.init 6 1 200 0)
    let s := run .empty (Client.firstVisit 7 [65, 110, 110, 97] 4711 500)
    let turns := [(true, 0), (false, 0), (false, 0), (true, 0), (false, 0), (false, 0), (true, 0),
      (true, 0), (false, 0)]
    RecordedOnce calls s turns ∧ (∀ i, (runCalls calls s turns).phase i = .done .success) ∧
      (addedBy calls s turns true).map (fun t => (t.id, t.amount, t.type)) =
        [(2, 100, TransactionType.deposit.code)] ∧
      (addedBy calls s turns false).map (fun t => (t.id, t.amount, t.type)) =
        [(3, 200, TransactionType.withdrawal.code)] := by
  intro calls s turns
  refine ⟨recorded_once_run calls s (by unfold Dense; decide +kernel) ?_ turns (by decide +kernel),
    by decide +kernel, by decide +kernel, by decide +kernel⟩
  exact (references_run _).own.transactions

end Cnp
