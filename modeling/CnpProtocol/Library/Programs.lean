import CnpProtocol.Library.Fairness
import Mathlib.Data.DFinsupp.WellFounded

/-!
# Concurrent programs

The program of a thread is a tree of accesses to a shared state. An access is atomic, may
have to wait, and decides from what it finds how the program goes on. Threads take turns.
A thread is verified on its own, against a contract: what it relies on while others take
turns, what it guarantees of its own turns, and where it may wait. Contracts that respect
each other hold of all threads together.
-/

/-- A program over the shared state `σ` with a result in `α`. `wrong` is where it does
something that has no meaning. -/
inductive Program (σ α : Type*)
  | ret (a : α)
  | wrong
  | act (next : σ → Option σ) (continues : σ → Program σ α)

namespace Program

variable {σ α β : Type*}

def bind : Program σ α → (α → Program σ β) → Program σ β
  | ret a, f => f a
  | wrong, _ => wrong
  | act next continues, f => act next fun s => (continues s).bind f

instance : Monad (Program σ) where
  pure := ret
  bind := bind

/-- Read from the shared state. -/
def read (f : σ → α) : Program σ α := act some fun s => ret (f s)

/-- Write to the shared state. -/
def write (f : σ → σ) : Program σ Unit := act (fun s => some (f s)) fun _ => ret ()

/-- One turn: the next access is made, unless it has to wait. -/
def turn (s : σ) : Program σ α → σ × Program σ α
  | act next continues =>
    match next s with
    | some s' => (s', continues s)
    | none => (s, act next continues)
  | p => (s, p)

/-- The program with no other thread in between. -/
def alone : Program σ α → σ → Option (α × σ)
  | ret a, s => some (a, s)
  | wrong, _ => none
  | act next continues, s => (next s).bind fun s' => (continues s).alone s'

theorem alone_bind (p : Program σ α) (f : α → Program σ β) (s : σ) :
    (p.bind f).alone s = (p.alone s).bind fun r => (f r.1).alone r.2 := by
  induction p generalizing s with
  | ret a => rfl
  | wrong => rfl
  | act next continues ih =>
    simp only [bind, alone]
    cases next s with
    | none => rfl
    | some s' => exact ih s s'

/-! ### Contracts -/

/-- The contract of one thread. `admitted` are the changes a schedule may let it make. -/
structure Contract (σ : Type*) where
  rely : σ → σ → Prop
  guarantee : σ → σ → Prop
  admitted : σ → σ → Prop
  waits : σ → Prop

variable (c : Contract σ)

/-- Whatever the others do, as far as the thread relies on it, the program does not go
wrong, makes only changes it guarantees, waits only where it may, and ends in `post`. -/
def Safe (post : α → σ → Prop) : Program σ α → σ → Prop
  | ret a, s => ∀ t, c.rely s t → post a t
  | wrong, _ => False
  | act next continues, s => ∀ t, c.rely s t →
      (next t = none → c.waits t) ∧ ∀ t', next t = some t' → c.admitted t t' →
        c.guarantee t t' ∧ (continues t).Safe post t'

variable {c}

theorem Safe.of_rely (trans : ∀ s t u, c.rely s t → c.rely t u → c.rely s u)
    {post : α → σ → Prop} {p : Program σ α} {s t : σ} (safe : p.Safe c post s)
    (related : c.rely s t) : p.Safe c post t := by
  cases p with
  | ret a => exact fun u later => safe u (trans s t u related later)
  | wrong => exact safe
  | act next continues => exact fun u later => safe u (trans s t u related later)

/-- One program after the other. -/
theorem Safe.bind (refl : ∀ s, c.rely s s) {mid : α → σ → Prop} {post : β → σ → Prop}
    {p : Program σ α} {f : α → Program σ β} {s : σ} (first : p.Safe c mid s)
    (second : ∀ a t, mid a t → (f a).Safe c post t) : (p.bind f).Safe c post s := by
  induction p generalizing s with
  | ret a => exact second a s (first s (refl s))
  | wrong => exact first.elim
  | act next continues ih =>
    intro t related
    obtain ⟨waits, moves⟩ := first t related
    refine ⟨waits, fun t' moved admitted => ?_⟩
    obtain ⟨guarantee, safe⟩ := moves t' moved admitted
    exact ⟨guarantee, ih t safe⟩

/-- An assertion that the others keep. -/
def Stable (c : Contract σ) (P : σ → Prop) : Prop := ∀ s t, c.rely s t → P s → P t

theorem Safe.ret {post : α → σ → Prop} {a : α} (stable : Stable c (post a)) {s : σ}
    (holds : post a s) : (Program.ret a).Safe c post s :=
  fun t related => stable s t related holds

/-- An access from where a stable assertion holds. -/
theorem Safe.act {post : α → σ → Prop} {next : σ → Option σ} {continues : σ → Program σ α}
    {P : σ → Prop} (stable : Stable c P) {s : σ} (holds : P s)
    (waits : ∀ t, P t → next t = none → c.waits t)
    (moves : ∀ t t', P t → next t = some t' → c.admitted t t' →
      c.guarantee t t' ∧ (continues t).Safe c post t') :
    (Program.act next continues).Safe c post s :=
  fun t related =>
    have here := stable s t related holds
    ⟨waits t here, fun t' moved admitted => moves t t' here moved admitted⟩

/-! ### Triples -/

/-- From `P` the program keeps its contract and ends in `Q`. -/
def Triple (c : Contract σ) (P : σ → Prop) (p : Program σ α) (Q : α → σ → Prop) : Prop :=
  ∀ s, P s → p.Safe c Q s

theorem Safe.mono {Q Q' : α → σ → Prop} (weaker : ∀ a s, Q a s → Q' a s) {p : Program σ α}
    {s : σ} (safe : p.Safe c Q s) : p.Safe c Q' s := by
  induction p generalizing s with
  | ret a => exact fun t related => weaker a t (safe t related)
  | wrong => exact safe.elim
  | act next continues ih =>
    intro t related
    obtain ⟨waits, moves⟩ := safe t related
    refine ⟨waits, fun t' moved admitted => ?_⟩
    obtain ⟨guarantee, later⟩ := moves t' moved admitted
    exact ⟨guarantee, ih t later⟩

theorem Triple.ret {Q : α → σ → Prop} {a : α} (stable : Stable c (Q a)) :
    Triple c (Q a) (Program.ret a) Q :=
  fun _ holds => Safe.ret stable holds

theorem Triple.bind (refl : ∀ s, c.rely s s) {P : σ → Prop} {R : α → σ → Prop}
    {Q : β → σ → Prop} {p : Program σ α} {f : α → Program σ β} (first : Triple c P p R)
    (second : ∀ a, Triple c (R a) (f a) Q) : Triple c P (p.bind f) Q :=
  fun s holds => (first s holds).bind refl second

theorem Triple.weaken {P P' : σ → Prop} {Q Q' : α → σ → Prop} {p : Program σ α}
    (triple : Triple c P p Q) (stronger : ∀ s, P' s → P s) (weaker : ∀ a s, Q a s → Q' a s) :
    Triple c P' p Q' :=
  fun s holds => (triple s (stronger s holds)).mono weaker

/-- An access that does not change the shared state. -/
theorem Triple.look {P : σ → Prop} {Q : α → σ → Prop} {continues : σ → Program σ α}
    (stable : Stable c P) (idle : ∀ s, c.guarantee s s)
    (later : ∀ s, P s → (continues s).Safe c Q s) :
    Triple c P (Program.act some continues) Q :=
  fun _ holds => Safe.act stable holds (fun _ _ stuck => by cases stuck) fun t t' here moved _ => by
    cases moved
    exact ⟨idle t, later t here⟩

/-- An access that need not wait. -/
theorem Triple.change {P : σ → Prop} {Q : α → σ → Prop} {f : σ → σ} {continues : σ → Program σ α}
    (stable : Stable c P)
    (moves : ∀ s, P s → c.admitted s (f s) →
      c.guarantee s (f s) ∧ (continues s).Safe c Q (f s)) :
    Triple c P (Program.act (fun s => some (f s)) continues) Q :=
  fun _ holds => Safe.act stable holds (fun _ _ stuck => by cases stuck)
    fun t t' here moved admitted => by
      cases moved
      exact moves t here admitted

/-! ### Threads -/

section Pools

variable {ι : Type*} [DecidableEq ι]

/-- The shared state and what is left of the program of each thread. -/
abbrev Pool (ι σ α : Type*) := Run.Threads ι σ (Program σ α)

/-- Thread `i` takes a turn. -/
def poolStep (pool : Pool ι σ α) (i : ι) : Pool ι σ α :=
  Run.Threads.step (fun _ (_ : Unit) => turn) pool (i, ())

def runPool (pool : Pool ι σ α) (turns : List ι) : Pool ι σ α := Run.run poolStep pool turns

theorem poolStep_shared (pool : Pool ι σ α) (i : ι) :
    (poolStep pool i).shared = (turn pool.shared (pool.phase i)).1 := rfl

theorem poolStep_phase_self (pool : Pool ι σ α) (i : ι) :
    (poolStep pool i).phase i = (turn pool.shared (pool.phase i)).2 :=
  Run.Threads.step_phase_self _ pool i ()

theorem poolStep_phase_of_ne (pool : Pool ι σ α) (i j : ι) (other : j ≠ i) :
    (poolStep pool i).phase j = pool.phase j :=
  Run.Threads.step_phase_of_ne _ pool i j () other

variable (contract : ι → Contract σ) (post : ι → α → σ → Prop)

/-- The contracts fit together. -/
structure Cooperate : Prop where
  refl : ∀ i s, (contract i).rely s s
  trans : ∀ i s t u, (contract i).rely s t → (contract i).rely t u → (contract i).rely s u
  respects : ∀ i j, j ≠ i → ∀ s t, (contract i).guarantee s t → (contract j).rely s t

/-- Every thread keeps its contract from here on. -/
def AllSafe (pool : Pool ι σ α) : Prop :=
  ∀ i, (pool.phase i).Safe (contract i) (post i) pool.shared

/-- The schedule lets a thread make a change that it should not. -/
def Forbidden (pool : Pool ι σ α) (i : ι) : Prop :=
  ¬ (contract i).admitted pool.shared (poolStep pool i).shared

variable {contract post}

/-- A turn changes the shared state as the thread guarantees, or not at all. -/
theorem AllSafe.turn {pool : Pool ι σ α} (safe : AllSafe contract post pool)
    (cooperate : Cooperate contract) (i : ι) (good : ¬ Forbidden contract pool i) :
    ((contract i).guarantee pool.shared (poolStep pool i).shared ∨
        (poolStep pool i).shared = pool.shared) ∧
      ((poolStep pool i).phase i).Safe (contract i) (post i) (poolStep pool i).shared := by
  have own := safe i
  rw [Forbidden, not_not] at good
  rw [poolStep_phase_self]
  rw [poolStep_shared] at good ⊢
  generalize pool.phase i = p at own good
  cases p with
  | ret a => exact ⟨Or.inr rfl, own⟩
  | wrong => exact own.elim
  | act next continues =>
    obtain ⟨_, moves⟩ := own pool.shared (cooperate.refl i pool.shared)
    cases moved : next pool.shared with
    | none =>
      simp only [Program.turn, moved, or_true, true_and]
      exact own
    | some t =>
      simp only [Program.turn, moved] at good ⊢
      obtain ⟨guarantee, later⟩ := moves t moved good
      exact ⟨Or.inl guarantee, later⟩

theorem AllSafe.step {pool : Pool ι σ α} (safe : AllSafe contract post pool)
    (cooperate : Cooperate contract) (i : ι) (good : ¬ Forbidden contract pool i) :
    AllSafe contract post (poolStep pool i) := by
  obtain ⟨change, own⟩ := safe.turn cooperate i good
  intro j
  by_cases same : j = i
  · subst same
    exact own
  · -- the other threads only see a change they rely on
    rw [poolStep_phase_of_ne pool i j same]
    rcases change with guarantee | idle
    · exact (safe j).of_rely (cooperate.trans j) (cooperate.respects i j same _ _ guarantee)
    · rw [idle]
      exact safe j

/-- Threads that keep their contracts at the start keep them in every interleaving, and so
does an invariant of all guaranteed changes. -/
theorem AllSafe.run {pool : Pool ι σ α} (safe : AllSafe contract post pool)
    (cooperate : Cooperate contract) (I : σ → Prop) (initial : I pool.shared)
    (keeps : ∀ i s t, (contract i).guarantee s t → I s → I t) (turns : List ι)
    (good : Run.Avoids poolStep (Forbidden contract) pool turns) :
    AllSafe contract post (runPool pool turns) ∧ I (runPool pool turns).shared := by
  refine Run.avoids_invariant (fun pool => AllSafe contract post pool ∧ I pool.shared) pool
    ⟨safe, initial⟩ (fun pool i allowed h => ⟨h.1.step cooperate i allowed, ?_⟩) turns good
  rcases (h.1.turn cooperate i allowed).1 with guarantee | idle
  · exact keeps i _ _ guarantee h.2
  · rw [idle]
    exact h.2

omit [DecidableEq ι] in
theorem AllSafe.not_wrong {pool : Pool ι σ α} (safe : AllSafe contract post pool) (i : ι) :
    pool.phase i ≠ wrong := by
  intro wrong
  have own := safe i
  rw [wrong] at own
  exact own

omit [DecidableEq ι] in
/-- What a thread that has ended leaves. -/
theorem AllSafe.ended {pool : Pool ι σ α} (safe : AllSafe contract post pool)
    (cooperate : Cooperate contract) {i : ι} {a : α} (ended : pool.phase i = ret a) :
    post i a pool.shared := by
  have own := safe i
  rw [ended] at own
  exact own pool.shared (cooperate.refl i pool.shared)

/-! ### Progress -/

def Ended (pool : Pool ι σ α) (i : ι) : Prop := ∃ a, pool.phase i = ret a

/-- The next access of the thread need not wait. -/
def CanMove (pool : Pool ι σ α) (i : ι) : Prop :=
  ∃ next continues s, pool.phase i = act next continues ∧ next pool.shared = some s

omit [DecidableEq ι] in
/-- Where somebody always has no reason to wait and has not ended, the threads are not
stuck. -/
theorem AllSafe.progress {pool : Pool ι σ α} (safe : AllSafe contract post pool)
    (cooperate : Cooperate contract)
    (someone : ∀ i, (contract i).waits pool.shared →
      ∃ j, ¬ (contract j).waits pool.shared ∧ ∀ a, ¬ post j a pool.shared) :
    (∀ i, Ended pool i) ∨ ∃ i, CanMove pool i := by
  -- a thread has ended, can move, or waits
  have cases_ (i : ι) : Ended pool i ∨ CanMove pool i ∨ (contract i).waits pool.shared := by
    have own := safe i
    cases phase : pool.phase i with
    | ret a => exact Or.inl ⟨a, phase⟩
    | wrong => exact absurd phase (safe.not_wrong i)
    | act next continues =>
      rw [phase] at own
      obtain ⟨waits, _⟩ := own pool.shared (cooperate.refl i pool.shared)
      cases moved : next pool.shared with
      | none => exact Or.inr (Or.inr (waits moved))
      | some s => exact Or.inr (Or.inl ⟨next, continues, s, phase, moved⟩)
  by_cases all : ∀ i, Ended pool i
  · exact Or.inl all
  · obtain ⟨i, running⟩ := not_forall.mp all
    rcases cases_ i with ended | moves | waits
    · exact absurd ended running
    · exact Or.inr ⟨i, moves⟩
    · obtain ⟨j, ready, unfinished⟩ := someone i waits
      rcases cases_ j with ⟨a, ended⟩ | moves | waits'
      · exact absurd (safe.ended cooperate ended) (unfinished a)
      · exact Or.inr ⟨j, moves⟩
      · exact absurd waits' ready

/-- What is left of a program after one access. -/
inductive Rest : Program σ α → Program σ α → Prop
  | intro (next : σ → Option σ) (continues : σ → Program σ α) (s : σ) :
      Rest (continues s) (act next continues)

theorem rest_wellFounded : WellFounded (Rest : Program σ α → Program σ α → Prop) := by
  refine ⟨fun p => ?_⟩
  induction p with
  | ret a => exact ⟨_, fun _ rest => by cases rest⟩
  | wrong => exact ⟨_, fun _ rest => by cases rest⟩
  | act next continues ih =>
    refine ⟨_, fun q rest => ?_⟩
    cases rest with
    | intro _ _ s => exact ih s

/-- A turn of a thread that can move. -/
def Moves (after before : Pool ι σ α) : Prop :=
  ∃ i, CanMove before i ∧ after = poolStep before i

/-- Finitely many threads make finitely many accesses, however they are interleaved. -/
theorem moves_wellFounded [Finite ι] :
    WellFounded (Moves : Pool ι σ α → Pool ι σ α → Prop) := by
  have lex := Pi.Lex.wellFounded (ι := ι) (r := WellOrderingRel) fun _ : ι =>
    rest_wellFounded (σ := σ) (α := α)
  refine Subrelation.wf ?_ (InvImage.wf Run.Threads.phase lex)
  rintro _ before ⟨i, ⟨next, continues, s, phase, moved⟩, rfl⟩
  refine ⟨i, fun j below => poolStep_phase_of_ne before i j ?_, ?_⟩
  · rintro rfl
    exact irrefl_of WellOrderingRel j below
  rw [poolStep_phase_self, phase]
  simp only [turn, moved]
  exact .intro next continues before.shared

/-! ### Fair schedules -/

/-- Every thread always gets another turn. -/
def Fair (schedule : Nat → ι) : Prop := ∀ i, Run.Again schedule (· = i)

/-- A turn of a thread that cannot move changes nothing. -/
theorem poolStep_of_stuck {pool : Pool ι σ α} {i : ι} (stuck : ¬ CanMove pool i) :
    poolStep pool i = pool := by
  have idle : turn pool.shared (pool.phase i) = (pool.shared, pool.phase i) := by
    cases phase : pool.phase i with
    | ret a => rfl
    | wrong => rfl
    | act next continues =>
      cases moved : next pool.shared with
      | none => simp only [turn, moved]
      | some s => exact absurd ⟨next, continues, s, phase, moved⟩ stuck
  have same : poolStep pool i = ⟨(turn pool.shared (pool.phase i)).1,
    Function.update pool.phase i (turn pool.shared (pool.phase i)).2⟩ := rfl
  rw [same, idle, Function.update_eq_self]

/-- Finitely many threads that are never stuck all end under a fair schedule. -/
theorem fair_ends [Finite ι] {pool : Pool ι σ α} {schedule : Nat → ι} (fair : Fair schedule)
    (progress : ∀ n, (∀ i, Ended (runPool pool (Run.firstTurns schedule n)) i) ∨
      ∃ i, CanMove (runPool pool (Run.firstTurns schedule n)) i) :
    ∃ n, ∀ i, Ended (runPool pool (Run.firstTurns schedule n)) i := by
  refine Run.fair_ends Moves moves_wellFounded (fun pool => ∀ i, Ended pool i)
    (fun n => ?_) (fun n => ?_)
  · by_cases moves : CanMove (Run.stateAt poolStep pool schedule n) (schedule n)
    · exact Or.inr ⟨schedule n, moves, rfl⟩
    · exact Or.inl (poolStep_of_stuck moves)
  · refine (progress n).imp_right fun ⟨i, moves⟩ => ⟨(· = i), fair i, fun j same => ?_⟩
    exact ⟨j, same.symm ▸ moves, rfl⟩

end Pools

end Program
