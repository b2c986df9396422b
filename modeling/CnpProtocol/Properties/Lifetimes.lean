import CnpProtocol.Properties.LoadedTables
import CnpProtocol.Properties.Shutdown
import CnpProtocol.Properties.TornSaves

/-!
# Lifetimes

A process finds what the last one left. If none is killed while it saves, the files have what
those did that came to their end, one after the other, and nothing of those that were killed. A
save that was cut can leave new balances with old transactions, but no gaps: so a request that
succeeds later is still recorded.
-/

namespace Cnp

section Lifetimes

variable (accounts : RecordImage AccountInfo) (transactions : RecordImage TransactionInfo)
  {newHandle : Finset Handle → Handle}

/-! ### One process -/

/-- The process has come from these files. -/
def StartedOn (newHandle : Finset Handle → Handle) (store : Store) (p : Process) : Prop :=
  ∃ listens turns, p = runProcess accounts transactions newHandle store listens turns

/-- It is killed after `SaveServerDB` has opened the first file and before it is done. -/
def Process.Cut (p : Process) (effects : Nat) : Prop :=
  p.control = .save ∧ 0 < effects ∧
    effects < (saveEffects accounts transactions p.server).length

namespace StartedOn

variable {accounts transactions} {store : Store} {p : Process}
  (h : StartedOn accounts transactions newHandle store p)

include h

theorem step (turn : ProcessTurn) :
    StartedOn accounts transactions newHandle store
      (processStep accounts transactions newHandle p turn) := by
  obtain ⟨listens, turns, rfl⟩ := h
  refine ⟨listens, turns ++ [turn], ?_⟩
  exact (Run.run_append (processStep accounts transactions newHandle) _ turns [turn]).symm

theorem tables : p.server = run (store.tables accounts transactions) p.ops := by
  obtain ⟨listens, turns, rfl⟩ := h
  exact (replays_runProcess accounts transactions store listens turns).state

theorem own : OwnKeys p.server := by
  rw [h.tables]
  exact ownKeys_run _ (ownKeys_loadServerDB accounts transactions store) p.ops

theorem dense (dense : Dense (store.tables accounts transactions).transactionInfo)
    (room : p.server.transactionInfo.size + 1 < 2 ^ 32) : Dense p.server.transactionInfo := by
  rw [h.tables] at room ⊢
  exact dense_run _ (ownKeys_loadServerDB accounts transactions store) dense p.ops
    (Nat.lt_sub_of_add_lt room)

variable (fresh : ∀ handles, newHandle handles ∉ handles)

include fresh

theorem store_eq (running : p.control ≠ .returned) : p.store = store := by
  obtain ⟨listens, turns, rfl⟩ := h
  exact (stops_saves_run accounts transactions fresh store listens turns).2.before running

theorem saved (returned : p.control = .returned) :
    p.store.tables accounts transactions =
      .boot p.server.accountInfo p.server.transactionInfo := by
  have own := h.own
  obtain ⟨listens, turns, rfl⟩ := h
  rw [(stops_saves_run accounts transactions fresh store listens turns).2.saved returned]
  exact restart_eq accounts transactions _ own

/-- What is left of a process that is killed, or that has returned. -/
theorem files_cases (effects : Nat) :
    (p.control = .save ∧ p.files accounts transactions effects =
      savedInPart accounts transactions store p.server effects) ∨
    (p.control = .returned ∧ (p.files accounts transactions effects).tables accounts transactions =
      .boot p.server.accountInfo p.server.transactionInfo) ∨
    (p.control ≠ .save ∧ p.control ≠ .returned ∧
      p.files accounts transactions effects = store) := by
  by_cases saving : p.control = .save
  · have running : p.control ≠ .returned := fun returned => by cases saving.symm.trans returned
    rw [Process.files, if_pos saving, h.store_eq fresh running]
    exact Or.inl ⟨saving, rfl⟩
  · rw [Process.files, if_neg saving]
    by_cases returned : p.control = .returned
    · exact Or.inr (Or.inl ⟨returned, h.saved fresh returned⟩)
    · exact Or.inr (Or.inr ⟨saving, returned, h.store_eq fresh returned⟩)

/-- A process that is gone has saved everything or nothing, unless it was killed while it
saved. -/
theorem files_of_not_cut (effects : Nat) (uncut : ¬ p.Cut accounts transactions effects) :
    (p.HasSaved accounts transactions effects ∧
      (p.files accounts transactions effects).tables accounts transactions =
        .boot p.server.accountInfo p.server.transactionInfo) ∨
    (¬ p.HasSaved accounts transactions effects ∧
      p.files accounts transactions effects = store) := by
  rcases h.files_cases fresh effects with
    ⟨saving, files⟩ | ⟨returned, tables⟩ | ⟨saving, running, files⟩
  · by_cases all : (saveEffects accounts transactions p.server).length ≤ effects
    · left
      refine ⟨Or.inr ⟨saving, all⟩, ?_⟩
      rw [files, savedInPart_of_length_le accounts transactions store p.server all]
      exact restart_eq accounts transactions p.server h.own
    · -- not all of it, and not some of it either
      right
      have none_ : effects = 0 := by
        by_contra some_
        exact uncut ⟨saving, Nat.pos_of_ne_zero some_, Nat.lt_of_not_le all⟩
      refine ⟨fun saved => ?_, ?_⟩
      · rcases saved with returned | ⟨_, whole⟩
        · cases saving.symm.trans returned
        · exact all whole
      · rw [files, none_, savedInPart_zero]
  · exact Or.inl ⟨Or.inl returned, tables⟩
  · refine Or.inr ⟨fun saved => ?_, files⟩
    rcases saved with returned | ⟨saving', _⟩
    · exact running returned
    · exact saving saving'

/-- Neither a kill nor a save that was cut leaves gaps. -/
theorem dense_files (dense : Dense (store.tables accounts transactions).transactionInfo)
    (room : p.server.transactionInfo.size + 1 < 2 ^ 32) (effects : Nat) :
    Dense ((p.files accounts transactions effects).tables accounts
      transactions).transactionInfo := by
  have new := h.dense dense room
  rcases h.files_cases fresh effects with ⟨_, files⟩ | ⟨_, tables⟩ | ⟨_, _, files⟩
  · rw [files, tables_savedInPart accounts transactions store h.own]
    -- the old records, or the first ones of the new table
    change Dense (ite _ _ _)
    split
    · exact dense
    · exact new.first _
  · rw [tables]
    exact new
  · rw [files]
    exact dense

end StartedOn

/-! ### Many processes -/

/-- The files satisfy `Q`, or those did that the process was started on. -/
def Machine.Lives (newHandle : Finset Handle → Handle) (Q : Store → List Op → Prop) :
    Machine → Prop
  | .off store past => Q store past
  | .on p past => ∃ store, StartedOn accounts transactions newHandle store p ∧ Q store past

/-- What every process hands on to the next one. -/
theorem lives_run (Q : Store → List Op → Prop) (Bad : Machine → MachineTurn → Prop)
    (store : Store) (initial : Q store [])
    (gone : ∀ found p past effects, StartedOn accounts transactions newHandle found p →
      Q found past → ¬ Bad (.on p past) (.gone effects) →
      Q (p.files accounts transactions effects)
        (if p.HasSaved accounts transactions effects then
          past ++ p.ops ++ [.restart accounts transactions] else past))
    (turns : List MachineTurn)
    (avoids : Run.Avoids (machineStep accounts transactions newHandle) Bad (.off store []) turns) :
    (runMachine accounts transactions newHandle store turns).Lives accounts transactions
      newHandle Q := by
  refine Run.avoids_invariant (Machine.Lives accounts transactions newHandle Q) (.off store [])
    initial (fun m turn allowed lives => ?_) turns avoids
  cases m with
  | off found past =>
    cases turn with
    | start listens => exact ⟨found, ⟨listens, [], rfl⟩, lives⟩
    | process turn => exact lives
    | gone effects => exact lives
  | on p past =>
    obtain ⟨found, started, holds⟩ := lives
    cases turn with
    | start listens => exact ⟨found, started, holds⟩
    | process turn => exact ⟨found, started.step turn, holds⟩
    | gone effects => exact gone found p past effects started holds allowed

/-- A process from its start on. -/
theorem run_life (store : Store) (past : List Op) (listens : Bool) (turns : List ProcessTurn) :
    Run.run (machineStep accounts transactions newHandle) (.off store past)
        (.start listens :: turns.map .process) =
      .on (runProcess accounts transactions newHandle store listens turns) past := by
  have life (p : Process) : Run.run (machineStep accounts transactions newHandle) (.on p past)
      (turns.map .process) = .on (Run.run (processStep accounts transactions newHandle) p turns)
        past := by
    induction turns generalizing p with
    | nil => rfl
    | cons turn rest ih => exact ih (processStep accounts transactions newHandle p turn)
  exact life (processStart accounts transactions newHandle store listens)

/-! ### No save is cut -/

/-- The process is gone while it saves. -/
def Machine.Cut : Machine → MachineTurn → Prop
  | .on p _, .gone effects => p.Cut accounts transactions effects
  | _, _ => False

/-- How far the save of a process had come when it was gone. -/
def MachineTurn.effects : MachineTurn → Nat
  | .gone effects => effects
  | _ => 0

theorem Machine.Cut.effects_pos {m : Machine} {turn : MachineTurn}
    (cut : m.Cut accounts transactions turn) : 0 < turn.effects := by
  cases turn with
  | gone effects =>
    cases m with
    | off store past => exact absurd cut not_false
    | on p past => exact cut.2.1
  | _ => cases m <;> exact absurd cut not_false

/-- The files have what those did that have saved, and the process has added to it. -/
def Machine.Follows (start : Server) : Machine → Prop
  | .off store past => store.tables accounts transactions = run start past
  | .on p past =>
    p.server = run start (past ++ p.ops) ∧
      (p.control ≠ .returned → p.store.tables accounts transactions = run start past) ∧
      (p.control = .returned → p.store.tables accounts transactions =
        run start (past ++ p.ops ++ [.restart accounts transactions]))

/-- The number of records of the process that runs. -/
def Machine.records : Machine → Nat
  | .off _ _ => 0
  | .on p _ => p.server.transactionInfo.size

theorem run_restart {start s : Server} {ops : List Op} (own : OwnKeys s)
    (state : s = run start ops) :
    run start (ops ++ [.restart accounts transactions]) =
      .boot s.accountInfo s.transactionInfo := by
  rw [state] at own ⊢
  exact (Run.run_append _ _ _ _).trans (restart_eq accounts transactions _ own)

end Lifetimes

/-- However often the process is started, ends or is killed, but not while it saves: the files
have what the processes did that have saved, one after the other, with a restart behind each. -/
theorem history_kept (accounts : RecordImage AccountInfo)
    (transactions : RecordImage TransactionInfo) (newHandle : Finset Handle → Handle)
    (fresh : ∀ handles, newHandle handles ∉ handles) (store : Store) (turns : List MachineTurn)
    (uncut : Run.Avoids (machineStep accounts transactions newHandle)
      (Machine.Cut accounts transactions) (.off store []) turns) :
    (runMachine accounts transactions newHandle store turns).Follows accounts transactions
      (store.tables accounts transactions) := by
  let start := store.tables accounts transactions
  -- a process adds its own operations to those that the files have
  have server {found : Store} {p : Process} {past : List Op}
      (started : StartedOn accounts transactions newHandle found p)
      (follows : found.tables accounts transactions = run start past) :
      p.server = run start (past ++ p.ops) := by
    rw [started.tables, follows]
    exact (Run.run_append _ _ _ _).symm
  have lives := lives_run accounts transactions
    (fun found past => found.tables accounts transactions = run start past)
    (Machine.Cut accounts transactions) store rfl
    (fun found p past effects started follows allowed => ?_) turns uncut
  · generalize runMachine accounts transactions newHandle store turns = m at *
    cases m with
    | off found past => exact lives
    | on p past =>
      obtain ⟨found, started, follows⟩ := lives
      have state := server started follows
      refine ⟨state, fun running => ?_, fun returned => ?_⟩
      · rw [started.store_eq fresh running]
        exact follows
      · rw [started.saved fresh returned]
        exact (run_restart accounts transactions started.own state).symm
  · -- what a process hands on when it is gone
    rcases started.files_of_not_cut fresh effects allowed with ⟨saved, tables⟩ | ⟨lost, files⟩
    · rw [if_pos saved, tables]
      exact (run_restart accounts transactions started.own (server started follows)).symm
    · rw [if_neg lost, files]
      exact follows

/-- A client opens an account, logs on and pays in; then the signal comes, and `main` is about
to save. -/
def annaPaysIn : List ProcessTurn :=
  let send (call : Call) (dwSequence : Dword) (w : Word) : ReceiveResult :=
    .data ⟨(call.request dwSequence w 0).bytes, (call.length_request dwSequence w 0).1,
      (call.length_request dwSequence w 0).2⟩ 0
  [.main true, .main true, .thread 0 .closed, .thread 0 (send .sendConnect 0 0),
    .thread 0 .closed, .thread 0 (send (.sendCreateAccount [65, 110, 110, 97] [] [] 4711) 1 1),
    .thread 0 .closed, .thread 0 (send (.sendLogIn [65, 110, 110, 97] 4711) 2 1),
    .thread 0 .closed, .thread 0 (send (.sendDeposit 500) 3 1), .signal, .main true, .main true,
    .thread 0 .closed, .main true, .main true, .main true]

/-- The first process saves its deposit, the second one is killed before it can. -/
theorem history_kept_anna :
    let accounts := accountInfoImage ⟨[0, 0, 0, 0, 0, 0], rfl⟩ ⟨[0, 0, 0, 0], rfl⟩
    let transactions := transactionInfoImage ⟨[0, 0, 0, 0, 0, 0], rfl⟩
    let life : List MachineTurn := .start true :: annaPaysIn.map .process
    let killed : List MachineTurn := life ++ .process (.main true) :: .gone 0 :: life
    let machine (turns : List MachineTurn) := runMachine accounts transactions lowestHandle
      ⟨[], []⟩ turns
    (machine killed).records = 2 ∧ (machine (killed ++ [.gone 0, .start true])).records = 1 ∧
      (machine (killed ++ [.gone 0, .start true])).Follows accounts transactions
        (Store.tables accounts transactions ⟨[], []⟩) := by
  intro accounts transactions life killed machine
  have none_ : (killed ++ [MachineTurn.gone 0, .start true]).all (·.effects = 0) := by
    decide +kernel
  refine ⟨by decide +kernel, by decide +kernel, history_kept accounts transactions lowestHandle
    lowestHandle_notMem ⟨[], []⟩ _ fun before turn after split cut => ?_⟩
  have zero := List.all_eq_true.mp none_ turn (by rw [split]; simp)
  exact absurd (of_decide_eq_true zero) (Nat.ne_of_gt cut.effects_pos)

/-! ### A save is cut -/

/-- What the next start loads when a process was killed while it saved: nothing was written yet;
the first accounts are there and the transactions are the old ones; or all accounts are there and
the first transactions. -/
theorem killed_while_saving (accounts : RecordImage AccountInfo)
    (transactions : RecordImage TransactionInfo) (newHandle : Finset Handle → Handle)
    (store : Store) (turns : List MachineTurn) (p : Process) (past : List Op)
    (reached : runMachine accounts transactions newHandle store turns = .on p past)
    (saving : p.control = .save) (effects : Nat) :
    let found := p.store.tables accounts transactions
    let left := (p.files accounts transactions effects).tables accounts transactions
    let whole := accounts.size * p.server.accountInfo.size + 1
    (effects = 0 → left = found) ∧
      (0 < effects → effects ≤ whole →
        left = .boot (p.server.accountInfo.first ((effects - 1) / accounts.size))
          found.transactionInfo) ∧
      (whole < effects →
        left = .boot p.server.accountInfo
          (p.server.transactionInfo.first ((effects - (whole + 1)) / transactions.size))) ∧
      ((saveEffects accounts transactions p.server).length ≤ effects →
        left = .boot p.server.accountInfo p.server.transactionInfo) := by
  intro found left whole
  have lives : (runMachine accounts transactions newHandle store turns).Lives accounts transactions
      newHandle fun _ _ => True :=
    lives_run accounts transactions (fun _ _ => True) (fun _ _ => False) store trivial
      (fun _ _ _ _ _ _ _ => trivial) turns fun _ _ _ _ => not_false
  rw [reached] at lives
  obtain ⟨_, started, _⟩ := lives
  have files : p.files accounts transactions effects =
      savedInPart accounts transactions p.store p.server effects := if_pos saving
  have tables := tables_savedInPart accounts transactions p.store started.own effects
  rw [← files] at tables
  refine ⟨fun none_ => ?_, fun some_ early => ?_, fun late => ?_, fun all => ?_⟩
  · simp only [left, files]
    rw [none_, savedInPart_zero]
  · exact tables.trans (by rw [if_neg (Nat.ne_of_gt some_), if_pos early])
  · -- the bytes of all accounts are there
    have accountsWhole : p.server.accountInfo.size ≤ (effects - 1) / accounts.size := by
      rw [Nat.le_div_iff_mul_le accounts.size_pos, Nat.mul_comm]
      omega
    refine tables.trans ?_
    rw [if_neg (by omega), if_neg (by omega), OrderedMap.first_of_size_le _ accountsWhole]
  · simp only [left, files, savedInPart_of_length_le accounts transactions p.store p.server all]
    exact restart_eq accounts transactions p.server started.own

/-- Both files are still empty, and the process is killed when it has written the account: Anna
keeps what she has paid in, without a record of it. -/
theorem killed_while_saving_anna :
    let accounts := accountInfoImage ⟨[0, 0, 0, 0, 0, 0], rfl⟩ ⟨[0, 0, 0, 0], rfl⟩
    let transactions := transactionInfoImage ⟨[0, 0, 0, 0, 0, 0], rfl⟩
    let p := runProcess accounts transactions lowestHandle ⟨[], []⟩ true annaPaysIn
    let effects := accounts.size + 1
    let left := (p.files accounts transactions effects).tables accounts transactions
    left = .boot (p.server.accountInfo.first ((effects - 1) / accounts.size))
        (Store.tables accounts transactions p.store).transactionInfo ∧
      left.accountInfo.values.map (·.balance) = [500] ∧ left.transactionInfo.values = [] := by
  intro accounts transactions p effects left
  have tables := (killed_while_saving accounts transactions lowestHandle ⟨[], []⟩
    (.start true :: annaPaysIn.map .process) p []
    (run_life accounts transactions ⟨[], []⟩ [] true annaPaysIn) (by decide +kernel) effects).2.1
    (Nat.succ_pos _) (by decide +kernel)
  refine ⟨tables, ?_, ?_⟩
  · rw [show left = _ from tables]
    decide +kernel
  · rw [show left = _ from tables]
    decide +kernel

/-! ### What a cut cannot do -/

/-- Whatever was killed before, and wherever a save was cut: as long as transaction IDs do not
run out, a money request that is answered with success is recorded. -/
theorem recorded_after_kills (accounts : RecordImage AccountInfo)
    (transactions : RecordImage TransactionInfo) (newHandle : Finset Handle → Handle)
    (fresh : ∀ handles, newHandle handles ∉ handles) (store : Store)
    (dense : Dense (store.tables accounts transactions).transactionInfo)
    (turns : List MachineTurn)
    (room : ∀ first, first <+: turns →
      (runMachine accounts transactions newHandle store first).records + 1 < 2 ^ 32)
    (p : Process) (past : List Op)
    (reached : runMachine accounts transactions newHandle store turns = .on p past)
    (c : Socket) (now : Qword) (m : MoneyRequest)
    (success : (dispatch p.server c now m.toRequest).cerRR = .success) :
    ∃ itS, p.server.sessionInfo.find? m.clientID = some itS ∧
      RecordedIn p.server.transactionInfo
        (dispatch p.server c now m.toRequest).server.transactionInfo m itS.customerID := by
  have lives : (runMachine accounts transactions newHandle store turns).Lives accounts transactions
      newHandle fun store _ => Dense (store.tables accounts transactions).transactionInfo :=
    lives_run accounts transactions
      (fun store _ => Dense (store.tables accounts transactions).transactionInfo)
      (fun m _ => ¬ m.records + 1 < 2 ^ 32) store dense
      (fun _ _ _ effects started dense room =>
        started.dense_files fresh dense (not_not.mp room) effects) turns
      fun before _ _ split full => full (room before ⟨_, split.symm⟩)
  -- the process was started on a table without gaps, and has not run out of IDs
  have last := room turns (List.prefix_refl turns)
  rw [reached] at lives last
  obtain ⟨store, started, dense⟩ := lives
  obtain ⟨itS, itA, found⟩ := accountFound_of_success success
  refine ⟨itS, found.session, ?_⟩
  rw [booked_of_success found success]
  exact (recordedIn_book_iff p.server now m itS.customerID).mpr
    ((started.dense dense last).nextFree last)

/-- After that cut Anna pays in twice more. -/
theorem recorded_after_kills_anna :
    let accounts := accountInfoImage ⟨[0, 0, 0, 0, 0, 0], rfl⟩ ⟨[0, 0, 0, 0], rfl⟩
    let transactions := transactionInfoImage ⟨[0, 0, 0, 0, 0, 0], rfl⟩
    let killed := runProcess accounts transactions lowestHandle ⟨[], []⟩ true annaPaysIn
    let p := runProcess accounts transactions lowestHandle
      (killed.files accounts transactions (accounts.size + 1)) true (annaPaysIn.take 10)
    p.server.accountInfo.values.map (·.balance) = [1000] ∧ p.server.transactionInfo.size = 1 ∧
      ∃ itS, p.server.sessionInfo.find? 1 = some itS ∧ RecordedIn p.server.transactionInfo
        (dispatch p.server 0 0 annaDeposit.toRequest).server.transactionInfo annaDeposit
        itS.customerID := by
  intro accounts transactions killed p
  let turns : List MachineTurn := (.start true :: annaPaysIn.map .process) ++
    .gone (accounts.size + 1) :: .start true :: (annaPaysIn.take 10).map .process
  obtain ⟨past, reached⟩ : ∃ past,
      runMachine accounts transactions lowestHandle ⟨[], []⟩ turns = .on p past := by
    rw [runMachine, Run.run_append, run_life, Run.run_cons]
    exact ⟨_, run_life accounts transactions _ _ true (annaPaysIn.take 10)⟩
  have room : ∀ first ∈ turns.inits, (runMachine accounts transactions lowestHandle ⟨[], []⟩
      first).records + 1 < 2 ^ 32 := by
    decide +kernel
  have dense : Dense (Store.tables accounts transactions ⟨[], []⟩).transactionInfo := by
    unfold Dense
    decide +kernel
  exact ⟨by decide +kernel, by decide +kernel, recorded_after_kills accounts transactions
    lowestHandle lowestHandle_notMem ⟨[], []⟩ dense turns
    (fun first inside => room first ((List.mem_inits _ _).mpr inside)) p past reached 0 0
    annaDeposit (by decide +kernel)⟩

end Cnp
