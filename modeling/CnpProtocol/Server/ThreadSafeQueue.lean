import CnpProtocol.Library.RecursiveMutex

/-!
# The thread-safe queue

`TTSQueue` of `TSQueue.h` with the lock objects of `ThreadMisc.h`. Every operation declares
a lock object on its stack, which takes the recursive mutex of the queue; whether the mutex
is released when the operation returns is up to the destructor of that object. An operation
of a thread that has to wait for the mutex does not return.
-/

namespace Cnp

/-! ### Lock objects -/

/-- The classes for lock objects: `TLock`, and `TAutoLock` derived from it. -/
inductive LockClass
  | tLock | tAutoLock
  deriving DecidableEq

/-- `TLock` in an operation of the queue: its pointer is null or points to the queue. -/
inductive TLock
  | null | this
  deriving DecidableEq

namespace TLock

variable {ι : Type} [DecidableEq ι]

/-- `if (m_pCS) m_pCS->Lock()`. -/
def lock (l : TLock) (i : ι) (cs : RecursiveMutex ι) : Option (RecursiveMutex ι) :=
  match l with
  | .null => some cs
  | .this => cs.lock i

/-- `if (m_pCS) m_pCS->Unlock()`. -/
def unlock (l : TLock) (i : ι) (cs : RecursiveMutex ι) : RecursiveMutex ι :=
  match l with
  | .null => cs
  | .this => cs.unlock i

/-- `m_pCS = pCS; Lock();` -/
def setLock (i : ι) (cs : RecursiveMutex ι) : Option (TLock × RecursiveMutex ι) :=
  (lock .this i cs).map fun cs => (.this, cs)

end TLock

/-- The end of a lock object: only `TAutoLock` declares a destructor. -/
def LockClass.destroy {ι : Type} [DecidableEq ι] (cls : LockClass) (l : TLock) (i : ι)
    (cs : RecursiveMutex ι) : RecursiveMutex ι :=
  match cls with
  | .tLock => cs
  | .tAutoLock => l.unlock i cs

/-! ### The queue -/

/-- `TTSQueue`: the mutex and the items, the front first. -/
structure TTSQueue (ι α : Type) where
  cs : RecursiveMutex ι
  que : List α
  deriving DecidableEq

namespace TTSQueue

variable {ι α β : Type} [DecidableEq ι]

/-- The frame of an operation of thread `i`: the lock object, which locks if `bLock` is set,
the body, and the end of the scope. The source declares a `_Lock`, which is `TLock`. -/
def locked (cls : LockClass) (q : TTSQueue ι α) (i : ι) (bLock : Bool)
    (body : List α → β × List α) : Option (β × TTSQueue ι α) :=
  (if bLock then TLock.setLock i q.cs else some (.null, q.cs)).map fun lock =>
    let done := body q.que
    (done.1, ⟨cls.destroy lock.1 i lock.2, done.2⟩)

/-- `while (m_que.empty() == false) m_que.pop();` -/
def clear : List α → List α
  | [] => []
  | _ :: rest => clear rest

def init (cls : LockClass) (q : TTSQueue ι α) (i : ι) (bLock : Bool) :
    Option (Unit × TTSQueue ι α) :=
  q.locked cls i bLock fun que => ((), clear que)

def push (cls : LockClass) (q : TTSQueue ι α) (i : ι) (item : α) (bLock : Bool) :
    Option (Unit × TTSQueue ι α) :=
  q.locked cls i bLock fun que => ((), que ++ [item])

def pop (cls : LockClass) (q : TTSQueue ι α) (i : ι) (bLock : Bool) :
    Option (Bool × TTSQueue ι α) :=
  q.locked cls i bLock fun que =>
    match que with
    | [] => (false, [])
    | _ :: rest => (true, rest)

/-- The result and `Item`, which stays as it is when the queue is empty. -/
def popFront (cls : LockClass) (q : TTSQueue ι α) (i : ι) (item : α) (bLock : Bool) :
    Option ((Bool × α) × TTSQueue ι α) :=
  q.locked cls i bLock fun que =>
    match que with
    | [] => ((false, item), [])
    | front :: rest => ((true, front), rest)

/-! ### Calls with `bLock` set -/

/-- An operation with its arguments; `PopFront` comes with the variable it copies into. -/
inductive Call (α : Type)
  | init
  | push (item : α)
  | pop
  | popFront (item : α)
  deriving DecidableEq

/-- What a call delivers to its caller, and the queue it leaves. -/
def call (cls : LockClass) (q : TTSQueue ι α) (i : ι) : Call α → Option (Option α × TTSQueue ι α)
  | .init => (q.init cls i true).map fun done => (none, done.2)
  | .push item => (q.push cls i item true).map fun done => (none, done.2)
  | .pop => (q.pop cls i true).map fun done => (none, done.2)
  | .popFront item => (q.popFront cls i item true).map fun done =>
    (if done.1.1 then some done.1.2 else none, done.2)

/-- Calls one after the other: the items delivered and the queue in the end, if every call
returns. -/
def calls (cls : LockClass) (q : TTSQueue ι α) : List (ι × Call α) → Option (List α × TTSQueue ι α)
  | [] => some ([], q)
  | c :: rest =>
    (q.call cls c.1 c.2).bind fun done =>
      (calls cls done.2 rest).map fun later => (done.1.toList ++ later.1, later.2)

/-! ### What a call does -/

/-- What the body of a call delivers, and the items it leaves. -/
def Call.body : Call α → List α → Option α × List α
  | .init, _ => (none, [])
  | .push item, que => (none, que ++ [item])
  | .pop, que => (none, que.tail)
  | .popFront _, que => (que.head?, que.tail)

theorem clear_eq (que : List α) : clear que = [] := by
  induction que with
  | nil => rfl
  | cons _ rest ih => exact ih

theorem locked_true (cls : LockClass) (q : TTSQueue ι α) (i : ι) (body : List α → β × List α) :
    q.locked cls i true body = (q.cs.lock i).map fun cs =>
      ((body q.que).1, ⟨cls.destroy .this i cs, (body q.que).2⟩) := by
  rw [locked, if_pos rfl, TLock.setLock, Option.map_map]
  rfl

/-- A call returns when its thread gets the mutex, and does its body then. -/
theorem call_eq (cls : LockClass) (q : TTSQueue ι α) (i : ι) (c : Call α) :
    q.call cls i c = (q.cs.lock i).map fun cs =>
      ((c.body q.que).1, ⟨cls.destroy .this i cs, (c.body q.que).2⟩) := by
  cases c with
  | init =>
    rw [call, init, locked_true, Option.map_map, clear_eq]
    rfl
  | push item =>
    rw [call, push, locked_true, Option.map_map]
    rfl
  | pop =>
    rw [call, pop, locked_true, Option.map_map]
    cases q.que with
    | nil => rfl
    | cons front rest => rfl
  | popFront item =>
    rw [call, popFront, locked_true, Option.map_map]
    cases q.que with
    | nil => rfl
    | cons front rest => rfl

/-- A call returns while the mutex is free or belongs to its thread. -/
theorem call_isSome_iff (cls : LockClass) (q : TTSQueue ι α) (i : ι) (c : Call α) :
    (q.call cls i c).isSome = true ↔ q.cs = .free ∨ ∃ again, q.cs = .held i again := by
  rw [call_eq, Option.isSome_map]
  exact RecursiveMutex.lock_isSome_iff q.cs i

end TTSQueue

end Cnp
