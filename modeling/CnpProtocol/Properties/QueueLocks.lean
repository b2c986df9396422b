import CnpProtocol.Server.ThreadSafeQueue

/-!
# Locks of the queue

The operations of the queue declare a `TLock`, which has no destructor, so none of them
releases the mutex. The first thread that calls the queue owns it for good, and the calls of
all other threads wait. With the destructor of `TAutoLock` every operation would leave the
mutex as it found it.
-/

namespace Cnp

namespace TTSQueue

variable {ι α : Type} [DecidableEq ι]

/-! ### Items without a mutex -/

/-- The bodies of the calls one after the other: the items delivered and those that are
left. -/
def bodies (que : List α) : List (ι × Call α) → List α × List α
  | [] => ([], que)
  | c :: rest =>
    let done := c.2.body que
    (done.1.toList ++ (bodies done.2 rest).1, (bodies done.2 rest).2)

/-- `Push` and `PopFront`, which drop no item. -/
def Call.Transfers : Call α → Prop
  | .push _ | .popFront _ => True
  | .init | .pop => False

def Call.pushed : Call α → List α
  | .push item => [item]
  | _ => []

/-- The items that calls push, in order. -/
def pushed (ops : List (ι × Call α)) : List α := ops.flatMap fun c => c.2.pushed

omit [DecidableEq ι] in
/-- Items come out in the order in which they went in, each once. -/
theorem bodies_inOrder (que : List α) (ops : List (ι × Call α))
    (transfers : ∀ c ∈ ops, c.2.Transfers) :
    que ++ pushed ops = (bodies que ops).1 ++ (bodies que ops).2 := by
  induction ops generalizing que with
  | nil => simp [bodies, pushed]
  | cons c rest ih =>
    obtain ⟨i, call⟩ := c
    have later := fun que' => ih que' fun c' member => transfers c' (List.mem_cons_of_mem _ member)
    have first : que ++ call.pushed = (call.body que).1.toList ++ (call.body que).2 := by
      cases call with
      | push item => rfl
      | popFront item =>
        cases que with
        | nil => rfl
        | cons front rest => simp [Call.body, Call.pushed]
      | init => exact (transfers (i, .init) (by simp)).elim
      | pop => exact (transfers (i, .pop) (by simp)).elim
    calc que ++ pushed ((i, call) :: rest)
        = que ++ call.pushed ++ pushed rest := by rw [List.append_assoc]; rfl
      _ = (call.body que).1.toList ++ ((call.body que).2 ++ pushed rest) := by
          rw [first, List.append_assoc]
      _ = (bodies que ((i, call) :: rest)).1 ++ (bodies que ((i, call) :: rest)).2 := by
          rw [later, ← List.append_assoc]
          rfl

/-! ### Calls of one thread -/

/-- After every call that has returned the mutex is free, and the next call of any thread
returns. -/
structure LockReleased (cls : LockClass) (que : List α) (ops : List (ι × Call α)) : Prop where
  free : ∀ before after out q, ops = before ++ after → before ≠ [] →
    calls cls ⟨.free, que⟩ before = some (out, q) → q.cs = .free
  next : ∀ before after out q, ops = before ++ after → before ≠ [] →
    calls cls ⟨.free, que⟩ before = some (out, q) → ∀ i c, (q.call cls i c).isSome = true

/-- All calls return, and what they deliver and leave in the queue are the items that were
there and those that were pushed, in order. -/
def DeliversInOrder (cls : LockClass) (que : List α) (ops : List (ι × Call α)) : Prop :=
  ∃ out q, calls cls ⟨.free, que⟩ ops = some (out, q) ∧ que ++ pushed ops = out ++ q.que

/-- A call leaves the mutex as it found it. -/
theorem call_tAutoLock (q : TTSQueue ι α) (i : ι) (c : Call α) {out : Option α}
    {q' : TTSQueue ι α} (done : q.call .tAutoLock i c = some (out, q')) : q'.cs = q.cs := by
  rw [call_eq, Option.map_eq_some_iff] at done
  obtain ⟨cs, locked, same⟩ := done
  rw [← (Prod.mk.inj same).2]
  exact RecursiveMutex.unlock_of_lock locked

theorem calls_tAutoLock (que : List α) (ops : List (ι × Call α)) :
    calls .tAutoLock ⟨.free, que⟩ ops =
      some ((bodies que ops).1, ⟨.free, (bodies que ops).2⟩) := by
  induction ops generalizing que with
  | nil => rfl
  | cons c rest ih =>
    have released : LockClass.tAutoLock.destroy .this c.1 (.held c.1 0) = .free :=
      RecursiveMutex.unlock_of_lock (RecursiveMutex.lock_free c.1)
    simp only [calls, call_eq, RecursiveMutex.lock_free, Option.map_some, Option.bind_some,
      released, ih, bodies]

/-- Any threads can call the queue in any order. -/
theorem released_tAutoLock (que : List α) (ops : List (ι × Call α)) :
    LockReleased .tAutoLock que ops ∧
      ((∀ c ∈ ops, c.2.Transfers) → DeliversInOrder .tAutoLock que ops) := by
  have free (before : List (ι × Call α)) (out : List α) (q : TTSQueue ι α)
      (done : calls .tAutoLock ⟨.free, que⟩ before = some (out, q)) : q.cs = .free := by
    rw [calls_tAutoLock, Option.some.injEq] at done
    rw [← (Prod.mk.inj done).2]
  refine ⟨⟨fun before _ out q _ _ => free before out q, ?_⟩, fun transfers => ?_⟩
  · intro before _ out q _ _ done i c
    exact (call_isSome_iff .tAutoLock q i c).mpr (Or.inl (free before out q done))
  · exact ⟨_, _, calls_tAutoLock que ops, bodies_inOrder que ops transfers⟩

end TTSQueue

end Cnp
