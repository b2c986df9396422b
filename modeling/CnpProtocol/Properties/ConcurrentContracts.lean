import CnpProtocol.Properties.Bookkeeping
import CnpProtocol.Server.Concurrent
import Mathlib.Algebra.BigOperators.Group.Finset.Piecewise

/-!
# The contract of a handler thread

What the program of a handler relies on while other handlers take turns, what it guarantees
of its own turns, and one rule for each of its accesses. The tables stay in order in every
interleaving: no reference dangles, no record is lost, and a balance shows all moves made.
-/

namespace Cnp

/-! ### Histories by thread -/

section Histories

variable {ι α : Type} [DecidableEq ι]

/-- The part of a history that thread `i` made. -/
def madeBy (i : ι) (history : List (ι × α)) : List α :=
  (history.filter fun e => e.1 = i).map Prod.snd

@[simp] theorem madeBy_nil (i : ι) : madeBy i ([] : List (ι × α)) = [] := rfl

theorem madeBy_append (i : ι) (l k : List (ι × α)) :
    madeBy i (l ++ k) = madeBy i l ++ madeBy i k := by
  rw [madeBy, List.filter_append, List.map_append]
  rfl

theorem madeBy_concat_self (i : ι) (l : List (ι × α)) (a : α) :
    madeBy i (l ++ [(i, a)]) = madeBy i l ++ [a] := by
  rw [madeBy_append]
  simp [madeBy]

theorem madeBy_concat_of_ne {i j : ι} (other : j ≠ i) (l : List (ι × α)) (a : α) :
    madeBy j (l ++ [(i, a)]) = madeBy j l := by
  rw [madeBy_append]
  simp [madeBy, Ne.symm other]

theorem count_madeBy [DecidableEq α] (i : ι) (a : α) (l : List (ι × α)) :
    (madeBy i l).count a = l.count (i, a) := by
  induction l with
  | nil => rfl
  | cons e l ih =>
    obtain ⟨j, b⟩ := e
    by_cases same : j = i
    · subst same
      have mine : madeBy j ((j, b) :: l) = b :: madeBy j l := by simp [madeBy]
      rw [mine, List.count_cons, List.count_cons, ih]
      simp
    · have others : madeBy i ((j, b) :: l) = madeBy i l := by simp [madeBy, same]
      rw [others, List.count_cons, ih]
      simp [same]

/-- Two histories with the same part of each thread have the same entries. -/
theorem perm_of_madeBy [DecidableEq α] {l k : List (ι × α)} (same : ∀ i, madeBy i l = madeBy i k) :
    l.Perm k := by
  rw [List.perm_iff_count]
  rintro ⟨i, a⟩
  rw [← count_madeBy, ← count_madeBy, same]

theorem length_eq_sum_madeBy [Fintype ι] (l : List (ι × α)) :
    l.length = ∑ i, (madeBy i l).length := by
  induction l with
  | nil => simp
  | cons e l ih =>
    have one (i : ι) : (madeBy i (e :: l)).length =
        (if e.1 = i then 1 else 0) + (madeBy i l).length := by
      by_cases mine : e.1 = i
      · simp [madeBy, mine, Nat.add_comm]
      · simp [madeBy, mine]
    rw [List.length_cons, ih, Finset.sum_congr rfl fun i _ => one i, Finset.sum_add_distrib,
      Finset.sum_ite_eq, if_pos (Finset.mem_univ _), Nat.add_comm]

end Histories

/-! ### Tables in order -/

/-- No reference dangles, and every balance shows the recorded transactions. -/
structure InOrder (s : Server) : Prop where
  references : References s
  dense : Dense s.transactionInfo
  shows : ∀ q a, s.accountInfo.find? q = some a →
    Ledger.Shows (2 ^ 32) a.balance.toNat (ledgerOf s q)

/-- What a record says about the money that moved. -/
def posting (t : TransactionInfo) : Option (Qword × Entry) :=
  (entryOf t).map fun e => (t.customerID, e)

theorem References.insertSession {s : Server} (h : References s) (w : Word) (info : SessionInfo)
    (clientID : info.clientID = w) (customer : info.customerID = invalidCustomerID) :
    References { s with sessionInfo := s.sessionInfo.insert w info } where
  sessionKey w' info' found := by
    rcases s.sessionInfo.find?_insert_cases found with old | ⟨rfl, rfl, _⟩
    · exact h.sessionKey w' info' old
    · exact clientID
  own := ⟨h.own.accounts, h.own.transactions⟩
  sessionCustomer w' info' found := by
    rcases s.sessionInfo.find?_insert_cases found with old | ⟨rfl, rfl, _⟩
    · exact h.sessionCustomer w' info' old
    · exact Or.inl customer
  transactionCustomer := h.transactionCustomer

theorem References.insertAccount {s : Server} (h : References s) (base : Prim.CreateAccountRequest)
    (q : Qword) : References { s with accountInfo := s.accountInfo.insert q ⟨base, q, 0⟩ } where
  sessionKey := h.sessionKey
  own := h.own.insertAccount base q 0
  sessionCustomer w info found :=
    (h.sessionCustomer w info found).imp_right (s.accountInfo.isSome_find?_insert q _)
  transactionCustomer k t found :=
    s.accountInfo.isSome_find?_insert q _ (h.transactionCustomer k t found)

/-- The update of a balance is the entry, modulo 2^32. -/
structure Posts (f : AccountInfo → AccountInfo) (entry : Entry) : Prop where
  customerID : ∀ a, (f a).customerID = a.customerID
  shows : ∀ a k, Ledger.Shows (2 ^ 32) a.balance.toNat k →
    Ledger.Shows (2 ^ 32) (f a).balance.toNat (k ++ [entry])

theorem posts_incrBalance (dwAmount : Dword) :
    Posts (·.incrBalance dwAmount) (.credit dwAmount.toNat) where
  customerID _ := rfl
  shows a k machine := by
    rw [AccountInfo.incrBalance, BitVec.toNat_add]
    exact machine.credit dwAmount.toNat

theorem posts_decrBalance (dwAmount : Dword) :
    Posts (·.decrBalance dwAmount) (.debit dwAmount.toNat) where
  customerID _ := rfl
  shows a k machine := by
    rw [AccountInfo.decrBalance, BitVec.toNat_sub]
    exact machine.debit_wrap dwAmount.toNat dwAmount.isLt.le

/-- The record that `recordTransaction` makes of a table of `n` records. -/
def newRecord (n : Nat) (qwNow : Qword) (dwAmount : Dword) (wType : TransactionType)
    (qwCustomerID : Qword) : TransactionInfo :=
  ⟨⟨BitVec.ofNat 32 (n + 1), qwNow, dwAmount, wType.code⟩, qwCustomerID⟩

section States

variable {ι : Type} (s₀ : Server)

/-- The moves on the account of a customer. -/
def Shared.moved (s : Shared ι) (q : Qword) : List Entry :=
  s.moves.filterMap fun m => if m.2.1 = q then some m.2.2 else none

/-- There is an ID for every record. -/
def Fits (s : Shared ι) : Prop := s₀.transactionInfo.size + s.records.length < 2 ^ 32

/-- What holds after every access since the tables were `s₀`. -/
structure Consistent (s : Shared ι) : Prop where
  references : References s.server
  dense : Fits s₀ s → Dense s.server.transactionInfo
  table : Fits s₀ s → s.server.transactionInfo.values =
    s₀.transactionInfo.values ++ s.records.map Prod.snd
  shows : ∀ q a, s.server.accountInfo.find? q = some a →
    Ledger.Shows (2 ^ 32) a.balance.toNat (ledgerOf s₀ q ++ s.moved q)
  unopened : ∀ q, s.server.accountInfo.find? q = none → ledgerOf s₀ q ++ s.moved q = []

theorem consistent_start (start : InOrder s₀) :
    Consistent s₀ (Shared.start s₀ : Shared ι) where
  references := start.references
  dense _ := start.dense
  table _ := (List.append_nil _).symm
  shows q a found := (List.append_nil (ledgerOf s₀ q)).symm ▸ start.shows q a found
  unopened q unused := by
    rw [start.references.ledgerOf_eq_nil q unused]
    rfl

variable {s₀}

theorem Consistent.size {s : Shared ι} (h : Consistent s₀ s) (fits : Fits s₀ s) :
    s.server.transactionInfo.size = s₀.transactionInfo.size + s.records.length := by
  have lengths := congrArg List.length (h.table fits)
  simpa [OrderedMap.values, OrderedMap.size] using lengths

/-- An access that changes at most the sessions. -/
theorem Consistent.sessions {s t : Shared ι} (h : Consistent s₀ s)
    (references : References t.server)
    (accounts : t.server.accountInfo = s.server.accountInfo)
    (transactions : t.server.transactionInfo = s.server.transactionInfo)
    (records : t.records = s.records) (moves : t.moves = s.moves) : Consistent s₀ t where
  references := references
  dense fits := by
    rw [Fits, records] at fits
    exact transactions ▸ h.dense fits
  table fits := by
    rw [Fits, records] at fits
    rw [transactions, records, h.table fits]
  shows q a found := by
    rw [accounts] at found
    rw [Shared.moved, moves]
    exact h.shows q a found
  unopened q unused := by
    rw [accounts] at unused
    rw [Shared.moved, moves]
    exact h.unopened q unused

/-- A new account has an empty ledger; one that is there stays as it is. -/
theorem Consistent.insertAccount {s : Shared ι} (h : Consistent s₀ s)
    (base : Prim.CreateAccountRequest) (q : Qword) :
    Consistent s₀
      { s with server.accountInfo := s.server.accountInfo.insert q ⟨base, q, 0⟩ } where
  references := h.references.insertAccount base q
  dense := h.dense
  table := h.table
  shows q' a found := by
    rcases s.server.accountInfo.find?_insert_cases found with old | ⟨rfl, rfl, unused⟩
    · exact h.shows q' a old
    · have empty : ledgerOf s₀ q' ++ s.moved q' = [] := h.unopened q' unused
      have shown : Ledger.Shows (2 ^ 32) 0 (ledgerOf s₀ q' ++ s.moved q') :=
        empty ▸ .nil (by decide)
      exact shown
  unopened q' unused := by
    refine h.unopened q' (Option.eq_none_iff_forall_ne_some.mpr fun a found => ?_)
    have present := s.server.accountInfo.isSome_find?_insert q ⟨base, q, 0⟩
      (Option.isSome_of_mem found)
    rw [unused] at present
    cases present

theorem Consistent.updateBalance {s : Shared ι} (h : Consistent s₀ s) (i : ι) (q : Qword)
    (account : (s.server.accountInfo.find? q).isSome = true) {f : AccountInfo → AccountInfo}
    {entry : Entry} (posts : Posts f entry) :
    Consistent s₀
      { s with
        server := s.server.modifyAccount q f
        moves := s.moves ++ [(i, q, entry)] } := by
  have moved (q' : Qword) : Shared.moved { s with
        server := s.server.modifyAccount q f
        moves := s.moves ++ [(i, q, entry)] } q' =
      s.moved q' ++ if q = q' then [entry] else [] := by
    simp only [Shared.moved, List.filterMap_append]
    split
    next same => simp [same]
    next other => simp [other]
  refine {
    references := h.references.modifyAccount q f posts.customerID
    dense := h.dense
    table := h.table
    shows := fun q' a found => ?_
    unopened := fun q' unused => ?_ }
  · obtain ⟨a', old, rfl⟩ := s.server.accountInfo.find?_modify_eq_some found
    rw [moved, ← List.append_assoc]
    by_cases same : q' = q
    · rw [if_pos same, if_pos same.symm]
      exact posts.shows a' _ (h.shows q' a' old)
    · rw [if_neg same, if_neg (Ne.symm same), List.append_nil]
      exact h.shows q' a' old
  · have absent : s.server.accountInfo.find? q' = none := by
      have same := s.server.accountInfo.isSome_find?_modify q q' f
      rw [Server.modifyAccount_accountInfo] at unused
      rw [unused] at same
      exact Option.isSome_eq_false_iff.mp same.symm |> Option.isNone_iff_eq_none.mp
    have other : q ≠ q' := by
      rintro rfl
      rw [absent] at account
      cases account
    rw [moved, if_neg other, List.append_nil]
    exact h.unopened q' absent

theorem Consistent.insertTransaction {s : Shared ι} (h : Consistent s₀ s) (i : ι) (qwNow : Qword)
    (dwAmount : Dword) (wType : TransactionType) (q : Qword)
    (account : (s.server.accountInfo.find? q).isSome = true) :
    Consistent s₀
      { s with
        server := s.server.recordTransaction qwNow dwAmount wType q
        records := s.records ++
          [(i, newRecord s.server.transactionInfo.size qwNow dwAmount wType q)] } := by
  -- the ID of the record is above all others
  have room (fits : s₀.transactionInfo.size + (s.records.length + 1) < 2 ^ 32) :
      Fits s₀ s ∧ s.server.transactionInfo.size + 1 < 2 ^ 32 := by
    have before : Fits s₀ s := Nat.lt_of_succ_lt fits
    rw [h.size before]
    exact ⟨before, fits⟩
  refine {
    references := h.references.recordTransaction qwNow dwAmount wType q account
    dense := fun fits => ?_
    table := fun fits => ?_
    shows := h.shows
    unopened := h.unopened }
  · rw [Fits, List.length_append, List.length_singleton] at fits
    obtain ⟨before, room⟩ := room fits
    exact (h.dense before).recordTransaction room qwNow dwAmount wType q
  · rw [Fits, List.length_append, List.length_singleton] at fits
    obtain ⟨before, room⟩ := room fits
    rw [(h.dense before).values_recordTransaction room, h.table before, List.map_append,
      ← List.append_assoc]
    rfl

end States

namespace Concurrent

open Program

variable {ι : Type} [DecidableEq ι] (s₀ : Server) (closes : ι → Prop)

/-! ### The contract -/

/-- What thread `i` relies on: its mutexes and its past are its own, the session it uses is
not erased, accounts stay, and the table does not change under its mutex. -/
structure Relies (i : ι) (s t : Shared ι) : Prop where
  owner : ∀ m, t.owner m = some i ↔ s.owner m = some i
  inUse : t.inUse i = s.inUse i
  erased : ∀ w, s.inUse i = some w → t.erased w = s.erased w
  session : ∀ w, s.inUse i = some w → (s.server.sessionInfo.find? w).isSome = true →
    (t.server.sessionInfo.find? w).isSome = true
  account : ∀ q, (s.server.accountInfo.find? q).isSome = true →
    (t.server.accountInfo.find? q).isSome = true
  table : s.owner .transaction = some i → t.server.transactionInfo = s.server.transactionInfo
  records : madeBy i t.records = madeBy i s.records
  moves : madeBy i t.moves = madeBy i s.moves

theorem Relies.refl (i : ι) (s : Shared ι) : Relies i s s :=
  ⟨fun _ => Iff.rfl, rfl, fun _ _ => rfl, fun _ _ => id, fun _ => id, fun _ => rfl, rfl, rfl⟩

theorem Relies.trans (i : ι) (s t u : Shared ι) (first : Relies i s t) (second : Relies i t u) :
    Relies i s u where
  owner m := (second.owner m).trans (first.owner m)
  inUse := second.inUse.trans first.inUse
  erased w used := (second.erased w (first.inUse.trans used)).trans (first.erased w used)
  session w used found := second.session w (first.inUse.trans used) (first.session w used found)
  account q found := second.account q (first.account q found)
  table owned := (second.table ((first.owner _).mpr owned)).trans (first.table owned)
  records := second.records.trans first.records
  moves := second.moves.trans first.moves

/-- What thread `i` grants the others and the tables. -/
structure Grants (i : ι) (s t : Shared ι) : Prop where
  relied : ∀ j, j ≠ i → Relies j s t
  consistent : Consistent s₀ s → Consistent s₀ t

/-- A schedule may not let a connection close while its session is in use by a call of
another thread. -/
def contract (i : ι) : Contract (Shared ι) where
  rely := Relies i
  guarantee := Grants s₀ i
  admitted s t := closes i → ∀ j, j ≠ i → ∀ w, s.inUse j = some w → t.erased w = s.erased w
  waits s := (∀ m, s.owner m ≠ some i) ∧ ∃ m j, s.owner m = some j

theorem cooperate : Cooperate (contract s₀ closes : ι → Contract (Shared ι)) where
  refl := Relies.refl
  trans := Relies.trans
  respects _ j other _ _ guarantee := guarantee.relied j other

/-! ### Where a thread is -/

/-- What a thread knows between two accesses. -/
structure Local where
  held : Option Mutex
  session : Option SessionIterator
  account : Option Qword
  /-- The size of the table, known under its mutex. -/
  size : Option Nat
  records : List TransactionInfo
  /-- Moves without a record yet. -/
  owed : List (Qword × Entry)

/-- Between two calls. -/
def Local.rest (records : List TransactionInfo) : Local := ⟨none, none, none, none, records, []⟩

structure At (i : ι) (l : Local) (s : Shared ι) : Prop where
  owner : ∀ m, s.owner m = some i ↔ l.held = some m
  session : ∀ itS, l.session = some itS → s.inUse i = some itS.key ∧
    s.erased itS.key = itS.generation ∧ (s.server.sessionInfo.find? itS.key).isSome = true
  account : ∀ q, l.account = some q → (s.server.accountInfo.find? q).isSome = true
  size : ∀ n, l.size = some n →
    l.held = some .transaction ∧ s.server.transactionInfo.size = n
  records : madeBy i s.records = l.records
  moves : madeBy i s.moves = l.records.filterMap posting ++ l.owed

variable {s₀ closes} in
theorem stable_at (i : ι) (l : Local) : Stable (contract s₀ closes i) (At i l) := by
  intro s t related here
  exact {
    owner := fun m => (related.owner m).trans (here.owner m)
    session := fun itS known => by
      obtain ⟨used, fresh, found⟩ := here.session itS known
      exact ⟨related.inUse.trans used, (related.erased _ used).trans fresh,
        related.session _ used found⟩
    account := fun q known => related.account q (here.account q known)
    size := fun n known => by
      obtain ⟨held, size⟩ := here.size n known
      exact ⟨held, (related.table ((here.owner _).mpr held)) ▸ size⟩
    records := related.records.trans here.records
    moves := related.moves.trans here.moves }

/-- Where the calls of a thread begin. -/
theorem at_rest_start (i : ι) : At i (.rest []) (Shared.start s₀ : Shared ι) where
  owner m := by simp [Shared.start, Local.rest]
  session _ known := by cases known
  account _ known := by cases known
  size _ known := by cases known
  records := rfl
  moves := rfl

variable {s₀ closes} {i : ι} {α β : Type}

theorem triple_bind {P : Shared ι → Prop} {R : α → Shared ι → Prop} {Q : β → Shared ι → Prop}
    {p : Program (Shared ι) α} {f : α → Program (Shared ι) β}
    (first : Triple (contract s₀ closes i) P p R)
    (second : ∀ a, Triple (contract s₀ closes i) (R a) (f a) Q) :
    Triple (contract s₀ closes i) P (p.bind f) Q :=
  Triple.bind (Relies.refl i) first second

/-! ### Rules for the accesses -/

section Rules

variable (l : Local)

theorem guarantee_idle (s : Shared ι) : (contract s₀ closes i).guarantee s s :=
  ⟨fun j _ => Relies.refl j s, id⟩

theorem triple_read {f : Shared ι → α} {Q : α → Shared ι → Prop}
    (stable : ∀ a, Stable (contract s₀ closes i) (Q a)) (holds : ∀ s, At i l s → Q (f s) s) :
    Triple (contract s₀ closes i) (At i l) (Program.read f) Q :=
  Triple.look (stable_at i l) guarantee_idle fun s here => Safe.ret (stable _) (holds s here)

/-- A value that the rest does not depend on. -/
theorem triple_read_any (f : Shared ι → α) :
    Triple (contract s₀ closes i) (At i l) (Program.read f) fun _ => At i l :=
  triple_read l (fun _ => stable_at i l) fun _ here => here

theorem triple_lock (m : Mutex) (free : l.held = none) :
    Triple (contract s₀ closes i) (At i l) (lock i m) fun _ => At i { l with held := some m } := by
  refine fun s holds => Safe.act (stable_at i l) holds ?_ ?_
  · -- somebody else owns the mutex
    intro t here stuck
    refine ⟨fun m' owned => ?_, m, ?_⟩
    · have held := (here.owner m').mp owned
      rw [free] at held
      cases held
    · apply Option.ne_none_iff_exists'.mp
      intro unowned
      rw [if_pos unowned] at stuck
      cases stuck
  · intro t t' here moved _
    split at moved
    next unowned =>
      cases moved
      refine ⟨⟨fun j other => { Relies.refl j t with owner := fun m' => ?_ }, fun h =>
        h.sessions h.references rfl rfl rfl rfl⟩, Safe.ret (stable_at i _) ?_⟩
      · by_cases same : m' = m
        · subst same
          simp [unowned, Ne.symm other]
        · simp [same]
      · exact {
          owner := fun m' => by
            by_cases same : m' = m
            · subst same
              simp
            · have others := here.owner m'
              rw [free] at others
              simpa [same, Ne.symm same] using others
          session := here.session
          account := here.account
          size := fun n known => by
            have held := (here.size n known).1
            rw [free] at held
            cases held
          records := here.records
          moves := here.moves }
    · cases moved

theorem triple_unlock (m : Mutex) (held : l.held = some m) :
    Triple (contract s₀ closes i) (At i l) (unlock i m) fun _ =>
      At i { l with held := none, size := none } := by
  refine Triple.change (stable_at i l) fun s here _ => ?_
  have owned := (here.owner m).mpr held
  rw [if_pos owned]
  refine ⟨⟨fun j other => { Relies.refl j s with owner := fun m' => ?_ }, fun h =>
    h.sessions h.references rfl rfl rfl rfl⟩, Safe.ret (stable_at i _) ?_⟩
  · by_cases same : m' = m
    · subst same
      simp [owned, Ne.symm other]
    · simp [same]
  · exact {
      owner := fun m' => by
        by_cases same : m' = m
        · subst same
          simp
        · have others := here.owner m'
          rw [held] at others
          simpa [same, Ne.symm same] using others
      session := here.session
      account := here.account
      size := fun _ known => by cases known
      records := here.records
      moves := here.moves }

/-! #### Sessions -/

theorem triple_findSession (w : Word) :
    Triple (contract s₀ closes i) (At i l) (findSession i w) fun itS =>
      At i { l with session := itS } := by
  refine Triple.change (stable_at i l) fun s here _ => ?_
  refine ⟨⟨fun j other => { Relies.refl j s with inUse := ?_ }, fun h =>
    h.sessions h.references rfl rfl rfl rfl⟩, Safe.ret (stable_at i _) ?_⟩
  · split
    · exact Function.update_of_ne other _ _
    · rfl
  · refine { here with session := fun itS known => ?_ }
    obtain ⟨info, found, rfl⟩ := Option.map_eq_some_iff.mp known
    refine ⟨?_, rfl, ?_⟩
    · simp [found]
    · rw [found, Option.isSome_some]

variable {l} in
theorem At.target {itS : SessionIterator} (known : l.session = some itS) {s : Shared ι}
    (here : At i l s) : ∃ info, itS.target s = some info := by
  obtain ⟨_, fresh, found⟩ := here.session itS known
  obtain ⟨info, found⟩ := Option.isSome_iff_exists.mp found
  exact ⟨info, (if_pos fresh).trans found⟩

theorem triple_readSession {itS : SessionIterator} (known : l.session = some itS)
    (f : SessionInfo → α) :
    Triple (contract s₀ closes i) (At i l) (itS.read f) fun _ => At i l := by
  refine Triple.look (stable_at i l) guarantee_idle fun s here => ?_
  obtain ⟨info, target⟩ := here.target known
  rw [target]
  exact Safe.ret (stable_at i l) here

theorem triple_updateSession {itS : SessionIterator} (known : l.session = some itS)
    (f : SessionInfo → SessionInfo) (clientID : ∀ info, (f info).clientID = info.clientID)
    (customer : ∀ info, (f info).customerID = invalidCustomerID ∨
      (f info).customerID = info.customerID ∨ l.account = some (f info).customerID) :
    Triple (contract s₀ closes i) (At i l) (itS.update f) fun _ => At i l := by
  refine Triple.change (stable_at i l) fun s here _ => ?_
  obtain ⟨info, target⟩ := here.target known
  have present (w : Word) : ((s.server.modifySession itS.key f).sessionInfo.find? w).isSome =
      (s.server.sessionInfo.find? w).isSome := s.server.sessionInfo.isSome_find?_modify _ w f
  have later : At i l { s with server := s.server.modifySession itS.key f } := by
    refine { here with session := fun itS' known' => ?_ }
    obtain ⟨used, fresh, found⟩ := here.session itS' known'
    exact ⟨used, fresh, (present _).trans found⟩
  rw [target]
  refine ⟨⟨fun j _ => { Relies.refl j s with session := fun w _ found => (present w).trans found },
    fun h => h.sessions (h.references.modifySession _ f clientID fun info => ?_) rfl rfl rfl rfl⟩,
    Safe.ret (stable_at i _) later⟩
  rcases customer info with none | kept | account
  · exact Or.inl none
  · exact Or.inr (Or.inl kept)
  · exact Or.inr (Or.inr (here.account _ account))

theorem triple_insertSession (w : Word) (info : SessionInfo) (clientID : info.clientID = w)
    (customer : info.customerID = invalidCustomerID) :
    Triple (contract s₀ closes i) (At i l) (insertSession w info) fun _ => At i l := by
  refine Triple.change (stable_at i l) fun s here _ => ?_
  have present (w' : Word) (found : (s.server.sessionInfo.find? w').isSome = true) :
      ((s.server.sessionInfo.insert w info).find? w').isSome = true :=
    s.server.sessionInfo.isSome_find?_insert w info found
  refine ⟨⟨fun j _ => { Relies.refl j s with session := fun w' _ => present w' }, fun h =>
    h.sessions (h.references.insertSession w info clientID customer) rfl rfl rfl rfl⟩,
    Safe.ret (stable_at i _) { here with session := fun itS known => ?_ }⟩
  obtain ⟨used, fresh, found⟩ := here.session itS known
  exact ⟨used, fresh, present _ found⟩

/-- The schedule does not let a session go that another thread uses. -/
theorem triple_eraseSession (w : Word) (unused : l.session = none) (closing : closes i) :
    Triple (contract s₀ closes i) (At i l) (eraseSession w) fun _ => At i l := by
  refine Triple.change (stable_at i l) fun s here admitted => ?_
  have kept (j : ι) (other : j ≠ i) (w' : Word) (used : s.inUse j = some w') : w' ≠ w := by
    rintro rfl
    have same := admitted closing j other w' used
    simp at same
  refine ⟨⟨fun j other => { Relies.refl j s with
      erased := admitted closing j other
      session := fun w' used found => ?_ }, fun h => h.sessions ?_ rfl rfl rfl rfl⟩,
    Safe.ret (stable_at i _) { here with session := fun itS known => ?_ }⟩
  · rw [OrderedMap.find?_erase, if_neg (kept j other w' used)]
    exact found
  · exact {
      sessionKey := fun w' info found =>
        h.references.sessionKey w' info (s.server.sessionInfo.find?_of_find?_erase found).2
      own := ⟨h.references.own.accounts, h.references.own.transactions⟩
      sessionCustomer := fun w' info found =>
        h.references.sessionCustomer w' info (s.server.sessionInfo.find?_of_find?_erase found).2
      transactionCustomer := h.references.transactionCustomer }
  · rw [unused] at known
    cases known

/-! #### Accounts -/

/-- Once seen, an account stays. -/
theorem triple_findAccount (q : Qword) :
    Triple (contract s₀ closes i) (At i l) (findAccount q) fun found =>
      At i (if found then { l with account := some q } else l) := by
  refine triple_read l (fun found => stable_at i _) fun s here => ?_
  split
  next found =>
    refine { here with account := fun q' known => ?_ }
    cases known
    exact found
  · exact here

theorem triple_readAccount {q : Qword} (known : l.account = some q) (f : AccountInfo → α) :
    Triple (contract s₀ closes i) (At i l) (readAccount q f) fun _ => At i l := by
  refine Triple.look (stable_at i l) guarantee_idle fun s here => ?_
  obtain ⟨itA, found⟩ := Option.isSome_iff_exists.mp (here.account q known)
  rw [found]
  exact Safe.ret (stable_at i l) here

theorem triple_insertAccount (base : Prim.CreateAccountRequest) (q : Qword) :
    Triple (contract s₀ closes i) (At i l) (insertAccount q ⟨base, q, 0⟩) fun _ => At i l := by
  refine Triple.change (stable_at i l) fun s here _ => ?_
  have present (q' : Qword) (found : (s.server.accountInfo.find? q').isSome = true) :
      ((s.server.accountInfo.insert q ⟨base, q, 0⟩).find? q').isSome = true :=
    s.server.accountInfo.isSome_find?_insert q _ found
  exact ⟨⟨fun j _ => { Relies.refl j s with account := present }, fun h =>
    h.insertAccount base q⟩, Safe.ret (stable_at i _)
    { here with account := fun q' known => present q' (here.account q' known) }⟩

/-! #### Money -/

theorem triple_updateBalance {q : Qword} (known : l.account = some q) (settled : l.owed = [])
    {f : AccountInfo → AccountInfo} {entry : Entry} (posts : Posts f entry) :
    Triple (contract s₀ closes i) (At i l) (updateBalance i q f entry) fun _ =>
      At i { l with owed := [(q, entry)] } := by
  refine Triple.change (stable_at i l) fun s here _ => ?_
  have account := here.account q known
  obtain ⟨itA, found⟩ := Option.isSome_iff_exists.mp account
  have present (q' : Qword) (old : (s.server.accountInfo.find? q').isSome = true) :
      ((s.server.accountInfo.modify q f).find? q').isSome = true :=
    (s.server.accountInfo.isSome_find?_modify q q' f).trans old
  rw [found]
  refine ⟨⟨fun j other => { Relies.refl j s with
      account := present
      moves := madeBy_concat_of_ne other _ _ }, fun h =>
    h.updateBalance i q account posts⟩, Safe.ret (stable_at i _) ?_⟩
  refine { here with
    account := fun q' known' => present q' (here.account q' known')
    moves := ?_ }
  have moves := here.moves
  rw [settled, List.append_nil] at moves
  exact (madeBy_concat_self i _ _).trans (congrArg (· ++ _) moves)

theorem triple_size (held : l.held = some .transaction) :
    Triple (contract s₀ closes i) (At i l)
      (Program.read fun s => s.server.transactionInfo.size) fun n =>
        At i { l with size := some n } := by
  refine triple_read l (fun n => stable_at i _) fun s here => ?_
  refine { here with size := fun n known => ?_ }
  cases known
  exact ⟨held, rfl⟩

theorem triple_insertTransaction {n : Nat} (size : l.size = some n) {q : Qword}
    (known : l.account = some q) (qwNow : Qword) (dwAmount : Dword) (wType : TransactionType)
    (due : l.owed = (posting (newRecord n qwNow dwAmount wType q)).toList) :
    Triple (contract s₀ closes i) (At i l)
      (insertTransaction i (newRecord n qwNow dwAmount wType q)) fun _ =>
        At i { l with
          size := none
          records := l.records ++ [newRecord n qwNow dwAmount wType q]
          owed := [] } := by
  refine Triple.change (stable_at i l) fun s here _ => ?_
  obtain ⟨held, sizes⟩ := here.size n size
  have owned := (here.owner .transaction).mpr held
  have account := here.account q known
  subst sizes
  refine ⟨⟨fun j other => { Relies.refl j s with
      table := fun theirs => ?_
      records := madeBy_concat_of_ne other _ _ }, fun h =>
    h.insertTransaction i qwNow dwAmount wType q account⟩,
    Safe.ret (stable_at i _) ?_⟩
  · rw [owned] at theirs
    exact absurd (Option.some.inj theirs).symm other
  · refine { here with
      size := fun _ none => by cases none
      records := (madeBy_concat_self i _ _).trans (congrArg (· ++ _) here.records)
      moves := ?_ }
    have moves := here.moves
    rw [due] at moves
    rw [List.filterMap_append, List.append_nil]
    refine moves.trans (congrArg (_ ++ ·) ?_)
    cases posted : posting (newRecord s.server.transactionInfo.size qwNow dwAmount wType q) with
    | none => simp [posted]
    | some p => simp [posted]

/-! #### The end of a call -/

theorem triple_respond (free : l.held = none) (settled : l.owed = []) (pSocket : Option Socket)
    (respMsg : Response) :
    Triple (contract s₀ closes i) (At i l) (respond i pSocket respMsg) fun _ =>
      At i (.rest l.records) := by
  refine Triple.change (stable_at i l) fun s here _ => ?_
  refine ⟨⟨fun j other => { Relies.refl j s with inUse := Function.update_of_ne other _ _ },
    fun h => h.sessions h.references rfl rfl rfl rfl⟩, Safe.ret (stable_at i _) ?_⟩
  exact {
    owner := fun m => (here.owner m).trans (by rw [free]; rfl)
    session := fun _ none => by cases none
    account := fun _ none => by cases none
    size := fun _ none => by cases none
    records := here.records
    moves := here.moves.trans (by rw [settled]; rfl) }

end Rules

end Concurrent

end Cnp
