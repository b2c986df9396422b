import CnpProtocol.Properties.Integrity

/-!
# The transaction table

New IDs come from the size of the table. As long as the table is dense, the ID it yields
is above all others, so the insertion appends and the table stays dense.
-/

namespace Cnp

/-- The keys are exactly 1, 2, …, n in this order. -/
def Dense (t : TransactionMap) : Prop := t.keys.map BitVec.toNat = List.range' 1 t.size

/-- The record that `recordTransaction` inserts. -/
def Server.newTransaction (s : Server) (qwNow : Qword) (dwAmount : Dword)
    (wType : TransactionType) (qwCustomerID : Qword) : TransactionInfo :=
  ⟨⟨BitVec.ofNat 32 (s.transactionInfo.size + 1), qwNow, dwAmount, wType.code⟩, qwCustomerID⟩

/-- The ID of the next record of a table of `n` records. -/
def nextID (n : Nat) : Dword := BitVec.ofNat 32 (n + 1)

theorem recordTransaction_transactionInfo (s : Server) (qwNow : Qword) (dwAmount : Dword)
    (wType : TransactionType) (q : Qword) :
    (s.recordTransaction qwNow dwAmount wType q).transactionInfo =
      s.transactionInfo.insert (nextID s.transactionInfo.size)
        (s.newTransaction qwNow dwAmount wType q) := rfl

theorem dense_empty : Dense .empty := rfl

namespace Dense

section Keys

variable {t : TransactionMap} (dense : Dense t)
include dense

theorem key_mem_range (e : Dword × TransactionInfo) (member : e ∈ t.entries) :
    1 ≤ e.1.toNat ∧ e.1.toNat ≤ t.size := by
  have key : e.1.toNat ∈ t.keys.map BitVec.toNat :=
    List.mem_map_of_mem (List.mem_map_of_mem member)
  rw [dense, List.mem_range'_1] at key
  omega

/-- No key is above the size, so the IDs of the records to come are free. -/
theorem find?_nextID {n : Nat} (above : t.size ≤ n) (room : n + 1 < 2 ^ 32) :
    t.find? (nextID n) = none := by
  refine (t.find?_eq_none_iff _).mpr fun e member same => ?_
  have bound := (dense.key_mem_range e member).2
  rw [same, nextID, BitVec.toNat_ofNat, Nat.mod_eq_of_lt room] at bound
  exact absurd (Nat.le_trans bound above) (Nat.not_succ_le_self n)

/-- The first records are numbered as they were. -/
theorem first (n : Nat) : Dense (t.first n) := by
  have keys : (t.first n).keys = t.keys.take n := List.map_take
  have size : (t.first n).size = min n t.size := List.length_take
  rw [Dense, keys, size, List.map_take, dense]
  rcases Nat.le_total n t.size with inside | whole
  · rw [List.take_range'_of_length_ge inside, Nat.min_eq_left inside]
  · rw [List.take_range'_of_length_le whole, Nat.min_eq_right whole]

end Keys

variable {s : Server} (dense : Dense s.transactionInfo)
include dense

/-- A record that fits under a 32-bit ID goes to the end of the table. -/
theorem entries_recordTransaction (room : s.transactionInfo.size + 1 < 2 ^ 32) (qwNow : Qword)
    (dwAmount : Dword) (wType : TransactionType) (q : Qword) :
    (s.recordTransaction qwNow dwAmount wType q).transactionInfo.entries =
      s.transactionInfo.entries ++ [(BitVec.ofNat 32 (s.transactionInfo.size + 1),
        s.newTransaction qwNow dwAmount wType q)] := by
  apply s.transactionInfo.entries_insert_last
  -- all keys are at most the size, and the new ID is one above it
  intro e member
  have bound := (dense.key_mem_range e member).2
  rw [BitVec.lt_def, BitVec.toNat_ofNat, Nat.mod_eq_of_lt room]
  omega

theorem size_recordTransaction (room : s.transactionInfo.size + 1 < 2 ^ 32) (qwNow : Qword)
    (dwAmount : Dword) (wType : TransactionType) (q : Qword) :
    (s.recordTransaction qwNow dwAmount wType q).transactionInfo.size =
      s.transactionInfo.size + 1 := by
  rw [OrderedMap.size, dense.entries_recordTransaction room, List.length_append]
  rfl

theorem values_recordTransaction (room : s.transactionInfo.size + 1 < 2 ^ 32) (qwNow : Qword)
    (dwAmount : Dword) (wType : TransactionType) (q : Qword) :
    (s.recordTransaction qwNow dwAmount wType q).transactionInfo.values =
      s.transactionInfo.values ++ [s.newTransaction qwNow dwAmount wType q] := by
  rw [OrderedMap.values, dense.entries_recordTransaction room, List.map_append]
  rfl

theorem recordTransaction (room : s.transactionInfo.size + 1 < 2 ^ 32) (qwNow : Qword)
    (dwAmount : Dword) (wType : TransactionType) (q : Qword) :
    Dense (s.recordTransaction qwNow dwAmount wType q).transactionInfo := by
  have keys : (s.recordTransaction qwNow dwAmount wType q).transactionInfo.keys =
      s.transactionInfo.keys ++ [BitVec.ofNat 32 (s.transactionInfo.size + 1)] := by
    rw [OrderedMap.keys, dense.entries_recordTransaction room, List.map_append]
    rfl
  rw [Dense, keys, List.map_append, dense, dense.size_recordTransaction room,
    List.range'_1_concat, List.map_singleton, BitVec.toNat_ofNat, Nat.mod_eq_of_lt room,
    Nat.add_comm 1]

end Dense

/-! ### The table only grows -/

theorem size_le_recordTransaction (s : Server) (qwNow : Qword) (dwAmount : Dword)
    (wType : TransactionType) (q : Qword) :
    s.transactionInfo.size ≤ (s.recordTransaction qwNow dwAmount wType q).transactionInfo.size :=
  s.transactionInfo.size_le_size_insert _ _

theorem Effect.size_le {s s' : Server} {op : Op} (own : OwnKeys s) (e : Effect s op s') :
    s.transactionInfo.size ≤ s'.transactionInfo.size := by
  cases e with
  | paidIn _ qwNow dwAmount q itA account =>
    exact size_le_recordTransaction (s.modifyAccount q (·.incrBalance dwAmount)) _ _ _ _
  | paidOut _ qwNow dwAmount wType debit q itA account covered =>
    simp only [payOut, if_pos covered]
    exact size_le_recordTransaction (s.modifyAccount q (·.decrBalance dwAmount)) _ _ _ _
  | restarted accounts transactions =>
    rw [restart_eq accounts transactions s own]
    exact Nat.le_refl _
  | _ => exact Nat.le_refl _

theorem size_le_run (s : Server) (own : OwnKeys s) (ops : List Op) :
    s.transactionInfo.size ≤ (run s ops).transactionInfo.size := by
  induction ops generalizing s with
  | nil => exact Nat.le_refl _
  | cons op rest ih =>
    have effect := step_effect s op
    exact Nat.le_trans (effect.size_le own) (ih (step s op) (own.effect effect))

/-- There is no ID left for another record. -/
def Full (s : Server) (_op : Op) : Prop := 2 ^ 32 ≤ s.transactionInfo.size + 1

theorem avoids_full (s : Server) (own : OwnKeys s) (ops : List Op)
    (few : (run s ops).transactionInfo.size < 2 ^ 32 - 1) : Run.Avoids step Full s ops := by
  rintro before op after rfl full
  have grows := size_le_run (run s before) (ownKeys_run s own before) (op :: after)
  have whole : run s (before ++ op :: after) = run (run s before) (op :: after) :=
    Run.run_append ..
  rw [whole] at few
  have full : 2 ^ 32 ≤ (run s before).transactionInfo.size + 1 := full
  omega

theorem Effect.dense {s s' : Server} {op : Op} (own : OwnKeys s) (dense : Dense s.transactionInfo)
    (room : ¬ Full s op) (e : Effect s op s') : Dense s'.transactionInfo := by
  have room : s.transactionInfo.size + 1 < 2 ^ 32 := not_le.mp room
  cases e with
  | paidIn _ qwNow dwAmount q itA account =>
    exact Dense.recordTransaction (s := s.modifyAccount q (·.incrBalance dwAmount)) dense room ..
  | paidOut _ qwNow dwAmount wType debit q itA account covered =>
    simp only [payOut, if_pos covered]
    exact Dense.recordTransaction (s := s.modifyAccount q (·.decrBalance dwAmount)) dense room ..
  | restarted accounts transactions =>
    rw [restart_eq accounts transactions s own]
    exact dense
  | _ => exact dense

theorem dense_run (s : Server) (own : OwnKeys s) (dense : Dense s.transactionInfo) (ops : List Op)
    (few : (run s ops).transactionInfo.size < 2 ^ 32 - 1) : Dense (run s ops).transactionInfo :=
  (Run.avoids_invariant (fun s => OwnKeys s ∧ Dense s.transactionInfo) s ⟨own, dense⟩
    (fun s op room h => ⟨h.1.effect (step_effect s op), (step_effect s op).dense h.1 h.2 room⟩)
    ops (avoids_full s own ops few)).2

end Cnp
