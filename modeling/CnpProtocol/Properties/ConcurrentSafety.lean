import CnpProtocol.Properties.ConcurrentContracts
import CnpProtocol.Properties.Overdraw

/-!
# Handlers in any interleaving

Each handler keeps the contract of its thread, and so does the thread of a connection with
whatever it receives. All threads together then keep the tables in order, record what they
answered, and leave balances that the records account for.
-/

namespace Cnp

/-- What a record says but for its ID and its customer: time, amount and type. -/
def TransactionInfo.summary (t : TransactionInfo) : Qword × Dword × Word :=
  (t.dateTime, t.amount, t.type)

/-- What a money request that is answered with `cerRR` owes. -/
def owed (qwNow : Qword) (dwAmount : Dword) (wType : TransactionType) (cerRR : CerType) :
    List (Qword × Dword × Word) :=
  if cerRR = .success then [(qwNow, dwAmount, wType.code)] else []

theorem length_owed (qwNow : Qword) (dwAmount : Dword) (wType : TransactionType)
    (cerRR : CerType) : (owed qwNow dwAmount wType cerRR).length ≤ 1 := by
  rw [owed]
  split
  · exact Nat.le_refl 1
  · exact Nat.zero_le 1

/-- The records that a request owes when it is answered with `cerRR`. -/
def Request.due (qwNow : Qword) : Request → CerType → List (Qword × Dword × Word)
  | .deposit m => owed qwNow m.request.amount .deposit
  | .withdrawal m => owed qwNow m.request.amount .withdrawal
  | .stampPurchase m => owed qwNow m.request.amount .stampPurchase
  | _ => fun _ => []

/-! ### Balances at rest -/

section Balances

variable {ι : Type} [DecidableEq ι]

/-- The moves that the records account for. -/
def posted (s : Shared ι) : List (ι × Qword × Entry) :=
  s.records.filterMap fun r => (posting r.2).map fun p => (r.1, p)

theorem madeBy_posted (i : ι) (s : Shared ι) :
    madeBy i (posted s) = (madeBy i s.records).filterMap posting := by
  rw [posted]
  induction s.records with
  | nil => rfl
  | cons r rest ih =>
    obtain ⟨j, t⟩ := r
    by_cases same : j = i
    · subst same
      cases posts : posting t with
      | none => simpa [madeBy, posts] using ih
      | some p => simpa [madeBy, posts] using ih
    · cases posts : posting t with
      | none => simpa [madeBy, same, posts] using ih
      | some p => simpa [madeBy, same, posts] using ih

omit [DecidableEq ι] in
/-- The posted moves on the account of a customer are the new part of its ledger. -/
theorem filterMap_posted (q : Qword) (s : Shared ι) :
    (posted s).filterMap (fun m => if m.2.1 = q then some m.2.2 else none) =
      ((s.records.map Prod.snd).filter fun t => t.customerID = q).filterMap entryOf := by
  rw [posted]
  induction s.records with
  | nil => rfl
  | cons r rest ih =>
    obtain ⟨j, t⟩ := r
    by_cases same : t.customerID = q
    · cases entry : entryOf t with
      | none => simpa [posting, entry, same] using ih
      | some e => simpa [posting, entry, same] using ih
    · cases entry : entryOf t with
      | none => simpa [posting, entry, same] using ih
      | some e => simpa [posting, entry, same] using ih

/-- Where every thread has recorded its moves, the tables are in order. -/
theorem Consistent.inOrder {s₀ : Server} {s : Shared ι} (h : Consistent s₀ s) (fits : Fits s₀ s)
    (settled : ∀ i, madeBy i s.moves = (madeBy i s.records).filterMap posting) :
    InOrder s.server where
  references := h.references
  dense := h.dense fits
  shows q a found := by
    have perm : s.moves.Perm (posted s) :=
      perm_of_madeBy fun i => (settled i).trans (madeBy_posted i s).symm
    have ledger : ledgerOf s.server q = ledgerOf s₀ q ++
        ((s.records.map Prod.snd).filter fun t => t.customerID = q).filterMap entryOf := by
      rw [ledgerOf, transactionsOf, h.table fits, List.filter_append, List.filterMap_append]
      rfl
    rw [ledger, ← filterMap_posted]
    exact (h.shows q a found).perm ((perm.filterMap _).append_left _)

end Balances

namespace Concurrent

open Program

/-- The records that the inputs of a thread owe, given the codes of its answers. -/
def due : List Input → List CerType → List (Qword × Dword × Word)
  | .message qwNow r :: rest, cerRR :: codes => r.due qwNow cerRR ++ due rest codes
  | _, _ => []

/-- A message owes at most one record. -/
theorem length_due (inputs : List Input) (codes : List CerType) :
    (due inputs codes).length ≤ inputs.length := by
  induction inputs generalizing codes with
  | nil => simp [due]
  | cons input rest ih =>
    cases input with
    | closed => simp [due]
    | message qwNow r =>
      cases codes with
      | nil => simp [due]
      | cons cerRR codes =>
        have one : (r.due qwNow cerRR).length ≤ 1 := by
          cases r with
          | deposit m => exact length_owed ..
          | withdrawal m => exact length_owed ..
          | stampPurchase m => exact length_owed ..
          | _ => exact Nat.zero_le 1
        have later := ih codes
        rw [due, List.length_append, List.length_cons]
        omega

variable {ι : Type} [DecidableEq ι] {s₀ : Server} {closes : ι → Prop} {i : ι} {α : Type}

/-! ### Where a call ends -/

/-- No mutex is held, every move has its record, and `new` are the records the call made. -/
def Settled (i : ι) (records : List TransactionInfo) (owes : List (Qword × Dword × Word))
    (s : Shared ι) : Prop :=
  ∃ l new, l.held = none ∧ l.owed = [] ∧ l.records = records ++ new ∧
    new.map (·.summary) = owes ∧ At i l s

/-- A call has ended, with the records it owes. -/
def Called (i : ι) (records : List TransactionInfo) (owes : List (Qword × Dword × Word))
    (s : Shared ι) : Prop :=
  ∃ new, new.map (·.summary) = owes ∧ At i (.rest (records ++ new)) s

theorem stable_settled (records : List TransactionInfo) (owes : List (Qword × Dword × Word)) :
    Stable (contract s₀ closes i) (Settled i records owes) := by
  rintro s t related ⟨l, new, held, owed, all, summary, here⟩
  exact ⟨l, new, held, owed, all, summary, stable_at i l s t related here⟩

theorem stable_called (records : List TransactionInfo) (owes : List (Qword × Dword × Word)) :
    Stable (contract s₀ closes i) (Called i records owes) := by
  rintro s t related ⟨new, summary, here⟩
  exact ⟨new, summary, stable_at i _ s t related here⟩

theorem At.settled {l : Local} (held : l.held = none) (owed : l.owed = []) {s : Shared ι}
    (here : At i l s) : Settled i l.records [] s :=
  ⟨l, [], held, owed, (List.append_nil _).symm, rfl, here⟩

theorem triple_respond_settled (records : List TransactionInfo)
    (owes : List (Qword × Dword × Word)) (pSocket : Option Socket) (respMsg : Response) :
    Triple (contract s₀ closes i) (Settled i records owes) (respond i pSocket respMsg) fun _ =>
      Called i records owes := by
  rintro s ⟨l, new, held, owed, all, summary, here⟩
  refine (triple_respond l held owed pSocket respMsg s here).mono fun _ t later => ?_
  exact ⟨new, summary, all ▸ later⟩

/-! ### Sessions and accounts -/

section Handlers

variable (records : List TransactionInfo)

theorem triple_processConnectRequest (m : ConnectRequest) (c : Socket) :
    Triple (contract s₀ closes i) (At i (.rest records)) (processConnectRequest i m c) fun _ =>
      At i (.rest records) := by
  simp only [processConnectRequest]
  split
  · split
    · refine triple_bind (triple_read_any _ _) fun w => ?_
      refine triple_bind (triple_lock _ .session rfl) fun _ => ?_
      refine triple_bind (triple_insertSession _ w _ rfl rfl) fun _ => ?_
      refine triple_bind (triple_unlock _ .session rfl) fun _ => ?_
      exact triple_bind (triple_respond _ rfl rfl _ _) fun _ => .ret (stable_at i _)
    · exact triple_bind (triple_respond _ rfl rfl _ _) fun _ => .ret (stable_at i _)
  · exact triple_bind (triple_respond _ rfl rfl _ _) fun _ => .ret (stable_at i _)

theorem triple_processDisconnect (w : Word) (closing : closes i) :
    Triple (contract s₀ closes i) (At i (.rest records)) (processDisconnect i w) fun _ =>
      At i (.rest records) := by
  refine triple_bind (triple_lock _ .session rfl) fun _ => ?_
  refine triple_bind (triple_read_any _ _) fun found => ?_
  cases found with
  | true =>
    refine triple_bind (triple_eraseSession _ w rfl closing) fun _ => ?_
    exact triple_bind (triple_unlock _ .session rfl) fun _ => .ret (stable_at i _)
  | false => exact triple_bind (triple_unlock _ .session rfl) fun _ => .ret (stable_at i _)

theorem triple_processCreateAccountRequest (m : CreateAccountRequest) (beyond : List Byte) :
    Triple (contract s₀ closes i) (At i (.rest records)) (processCreateAccountRequest i m beyond)
      fun _ => At i (.rest records) := by
  refine triple_bind (triple_findSession _ _) fun itS => ?_
  cases itS with
  | none => exact triple_bind (triple_respond _ rfl rfl _ _) fun _ => .ret (stable_at i _)
  | some itS =>
    refine triple_bind (triple_readSession _ rfl _) fun pSocket => ?_
    dsimp only
    split
    · refine triple_bind (triple_findAccount _ _) fun found => ?_
      cases found with
      | true => exact triple_bind (triple_respond _ rfl rfl _ _) fun _ => .ret (stable_at i _)
      | false =>
        refine triple_bind (triple_lock _ .account rfl) fun _ => ?_
        refine triple_bind (triple_insertAccount _ _ _) fun _ => ?_
        refine triple_bind (triple_updateSession _ rfl _ (fun _ => rfl)
          fun _ => Or.inr (Or.inl rfl)) fun _ => ?_
        refine triple_bind (triple_unlock _ .account rfl) fun _ => ?_
        exact triple_bind (triple_respond _ rfl rfl _ _) fun _ => .ret (stable_at i _)
    · exact triple_bind (triple_respond _ rfl rfl _ _) fun _ => .ret (stable_at i _)

theorem triple_processLogonRequest (m : LogonRequest) (beyond : List Byte) :
    Triple (contract s₀ closes i) (At i (.rest records)) (processLogonRequest i m beyond) fun _ =>
      At i (.rest records) := by
  refine triple_bind (triple_findSession _ _) fun itS => ?_
  cases itS with
  | none => exact triple_bind (triple_respond _ rfl rfl _ _) fun _ => .ret (stable_at i _)
  | some itS =>
    refine triple_bind (triple_readSession _ rfl _) fun pSocket => ?_
    dsimp only
    split
    · refine triple_bind (triple_findAccount _ _) fun found => ?_
      cases found with
      | false => exact triple_bind (triple_respond _ rfl rfl _ _) fun _ => .ret (stable_at i _)
      | true =>
        -- the session may name the account that was found
        refine triple_bind (triple_updateSession _ rfl _ (fun _ => rfl)
          fun _ => Or.inr (Or.inr rfl)) fun _ => ?_
        refine triple_bind (triple_updateSession _ rfl _ (fun _ => rfl)
          fun _ => Or.inr (Or.inl rfl)) fun _ => ?_
        exact triple_bind (triple_respond _ rfl rfl _ _) fun _ => .ret (stable_at i _)
    · exact triple_bind (triple_respond _ rfl rfl _ _) fun _ => .ret (stable_at i _)

theorem triple_processLogoffRequest (m : LogoffRequest) :
    Triple (contract s₀ closes i) (At i (.rest records)) (processLogoffRequest i m) fun _ =>
      At i (.rest records) := by
  refine triple_bind (triple_findSession _ _) fun itS => ?_
  cases itS with
  | none => exact triple_bind (triple_respond _ rfl rfl _ _) fun _ => .ret (stable_at i _)
  | some itS =>
    refine triple_bind (triple_readSession _ rfl _) fun pSocket => ?_
    refine triple_bind (triple_readSession _ rfl _) fun qwCustomerID => ?_
    dsimp only
    split
    · refine triple_bind (triple_updateSession _ rfl _ (fun _ => rfl) fun _ => Or.inl rfl)
        fun _ => ?_
      refine triple_bind (triple_updateSession _ rfl _ (fun _ => rfl)
        fun _ => Or.inr (Or.inl rfl)) fun _ => ?_
      exact triple_bind (triple_respond _ rfl rfl _ _) fun _ => .ret (stable_at i _)
    · refine triple_bind (triple_updateSession _ rfl _ (fun _ => rfl)
        fun _ => Or.inr (Or.inl rfl)) fun _ => ?_
      exact triple_bind (triple_respond _ rfl rfl _ _) fun _ => .ret (stable_at i _)

/-! ### Requests on an account -/

/-- Where the account of a call has been found. -/
def withSession (itS : SessionIterator) (q : Qword) : Local :=
  { Local.rest records with
    session := some itS
    account := some q }

/-- An account handler owes records for its success only. -/
theorem triple_withAccount {w : Word} {notLoggedon : CerType} {data : α}
    {act : Qword → Program (Shared ι) (CerType × α)} {owes : CerType → List (Qword × Dword × Word)}
    (quiet : ∀ cerRR, cerRR ≠ .success → owes cerRR = []) (refused : notLoggedon ≠ .success)
    (acts : ∀ itS q, Triple (contract s₀ closes i) (At i (withSession records itS q)) (act q)
      fun done => Settled i records (owes done.1)) :
    Triple (contract s₀ closes i) (At i (.rest records)) (withAccount i w notLoggedon data act)
      fun h => Settled i records (owes h.2.1) := by
  -- the three refusals end where they are
  have refuse (l : Local) (held : l.held = none) (owed : l.owed = []) (same : l.records = records)
      (pSocket : Option Socket) (cerRR : CerType) (failed : cerRR ≠ .success) :
      Triple (contract s₀ closes i) (At i l) (.ret (pSocket, cerRR, data)) fun h =>
        Settled i records (owes h.2.1) := by
    intro s here
    refine Safe.ret (stable_settled records _) ?_
    rw [quiet cerRR failed, ← same]
    exact here.settled held owed
  refine triple_bind (triple_findSession _ _) fun itS => ?_
  cases itS with
  | none => exact refuse _ rfl rfl rfl none .invalidClientID (by decide)
  | some itS =>
    refine triple_bind (triple_readSession _ rfl _) fun pSocket => ?_
    refine triple_bind (triple_readSession _ rfl _) fun q => ?_
    split
    · refine triple_bind (triple_findAccount _ _) fun found => ?_
      cases found with
      | false => exact refuse _ rfl rfl rfl pSocket .accountNotFound (by decide)
      | true => exact triple_bind (acts itS q) fun done => .ret (stable_settled records _)
    · exact refuse _ rfl rfl rfl pSocket notLoggedon refused

/-- The section under `g_TransactionMutex` settles the move before it. -/
theorem triple_recordTransaction (itS : SessionIterator) (q : Qword) (qwNow : Qword)
    (dwAmount : Dword) (wType : TransactionType) (entry : Entry)
    (due : ∀ n, posting (newRecord n qwNow dwAmount wType q) = some (q, entry)) :
    Triple (contract s₀ closes i)
      (At i { withSession records itS q with owed := [(q, entry)] })
      (recordTransaction i qwNow dwAmount wType q)
      fun _ => Settled i records [(qwNow, dwAmount, wType.code)] := by
  refine triple_bind (triple_lock _ .transaction rfl) fun _ => ?_
  refine triple_bind (triple_size _ rfl) fun n => ?_
  refine triple_bind (triple_insertTransaction _ rfl rfl qwNow dwAmount wType ?_) fun _ => ?_
  · rw [due n]
    rfl
  · refine (triple_unlock _ .transaction rfl).weaken (fun _ => id) fun _ s here => ?_
    exact ⟨_, [newRecord n qwNow dwAmount wType q], rfl, rfl, rfl, rfl, here⟩

theorem owed_failed (qwNow : Qword) (dwAmount : Dword) (wType : TransactionType) (cerRR : CerType)
    (failed : cerRR ≠ .success) : owed qwNow dwAmount wType cerRR = [] := if_neg failed

theorem triple_payIn (qwNow : Qword) (dwAmount : Dword) (itS : SessionIterator) (q : Qword) :
    Triple (contract s₀ closes i) (At i (withSession records itS q)) (payIn i qwNow dwAmount q)
      fun done => Settled i records (owed qwNow dwAmount .deposit done.1) := by
  refine triple_bind (triple_updateBalance _ rfl rfl (posts_incrBalance dwAmount)) fun _ => ?_
  refine triple_bind (triple_recordTransaction records itS q qwNow dwAmount .deposit _
    fun n => rfl) fun _ => ?_
  exact .ret (stable_settled records _)

theorem triple_payOut (qwNow : Qword) (dwAmount : Dword) (wType : TransactionType)
    (debit : wType = .withdrawal ∨ wType = .stampPurchase) (itS : SessionIterator) (q : Qword) :
    Triple (contract s₀ closes i) (At i (withSession records itS q))
      (payOut i qwNow dwAmount wType q)
      fun done => Settled i records (owed qwNow dwAmount wType done.1) := by
  have entry (n : Nat) : posting (newRecord n qwNow dwAmount wType q) =
      some (q, .debit dwAmount.toNat) := by
    rcases debit with rfl | rfl
    · rfl
    · rfl
  refine triple_bind (triple_readAccount _ rfl _) fun dwCurBalance => ?_
  split
  · refine triple_bind (triple_updateBalance _ rfl rfl (posts_decrBalance dwAmount)) fun _ => ?_
    refine triple_bind (triple_recordTransaction records itS q qwNow dwAmount wType _ entry)
      fun _ => ?_
    exact .ret (stable_settled records _)
  · intro s here
    exact Safe.ret (stable_settled records _) (here.settled rfl rfl)

theorem triple_processDepositRequest (qwNow : Qword) (m : DepositRequest) :
    Triple (contract s₀ closes i) (At i (.rest records)) (processDepositRequest i qwNow m)
      fun cerRR => Called i records (owed qwNow m.request.amount .deposit cerRR) := by
  refine triple_bind (triple_withAccount records (owed_failed _ _ _) (by decide)
    (triple_payIn records qwNow m.request.amount)) fun h => ?_
  exact triple_bind (triple_respond_settled records _ _ _) fun _ => .ret (stable_called records _)

theorem triple_processWithdrawalRequest (qwNow : Qword) (m : WithdrawalRequest) :
    Triple (contract s₀ closes i) (At i (.rest records)) (processWithdrawalRequest i qwNow m)
      fun cerRR => Called i records (owed qwNow m.request.amount .withdrawal cerRR) := by
  refine triple_bind (triple_withAccount records (owed_failed _ _ _) (by decide)
    (triple_payOut records qwNow m.request.amount .withdrawal (Or.inl rfl))) fun h => ?_
  exact triple_bind (triple_respond_settled records _ _ _) fun _ => .ret (stable_called records _)

theorem triple_processStampPurchaseRequest (qwNow : Qword) (m : StampPurchaseRequest) :
    Triple (contract s₀ closes i) (At i (.rest records)) (processStampPurchaseRequest i qwNow m)
      fun cerRR => Called i records (owed qwNow m.request.amount .stampPurchase cerRR) := by
  refine triple_bind (triple_withAccount records (owed_failed _ _ _) (by decide)
    (triple_payOut records qwNow m.request.amount .stampPurchase (Or.inr rfl))) fun h => ?_
  exact triple_bind (triple_respond_settled records _ _ _) fun _ => .ret (stable_called records _)

theorem triple_processBalanceQueryRequest (m : BalanceQueryRequest) :
    Triple (contract s₀ closes i) (At i (.rest records)) (processBalanceQueryRequest i m) fun _ =>
      Called i records [] := by
  refine triple_bind (triple_withAccount records (fun _ _ => rfl) (by decide)
    fun itS q => ?_) fun h => ?_
  · refine triple_bind (triple_readAccount _ rfl _) fun dwBalance s here => ?_
    exact Safe.ret (stable_settled records _) (here.settled rfl rfl)
  · exact triple_bind (triple_respond_settled records _ _ _) fun _ => .ret (stable_called records _)

theorem triple_collectTransactions (l : Local) (q : Qword) (wCount n : Word)
    (itT : Option (Dword × TransactionInfo)) :
    Triple (contract s₀ closes i) (At i l) (collectTransactions q wCount n itT)
      fun _ => At i l := by
  -- along the recursion of the loop; every turn only reads
  induction n, itT using collectTransactions.induct (ι := ι) q wCount with
  | case1 n itT few mine ih =>
    rw [collectTransactions, if_pos few, if_pos mine]
    refine Triple.look (stable_at i l) guarantee_idle fun s here => ?_
    refine triple_bind (ih s) (fun r => ?_) s here
    exact .ret (stable_at i l)
  | case2 n itT few other ih =>
    rw [collectTransactions, if_pos few, if_neg other]
    exact Triple.look (stable_at i l) guarantee_idle fun s here => ih s s here
  | case3 n itT full =>
    rw [collectTransactions, if_neg full]
    exact .ret (stable_at i l)
  | case4 n =>
    rw [collectTransactions]
    exact .ret (stable_at i l)

theorem triple_processTransactionQueryRequest (m : TransactionQueryRequest) :
    Triple (contract s₀ closes i) (At i (.rest records)) (processTransactionQueryRequest i m)
      fun _ => Called i records [] := by
  refine triple_bind (triple_withAccount records (fun _ _ => rfl) (by decide)
    fun itS q => ?_) fun h => ?_
  · refine triple_bind (triple_read_any _ _) fun itT => ?_
    refine triple_bind (triple_collectTransactions _ _ _ _ _) fun r s here => ?_
    exact Safe.ret (stable_settled records _) (here.settled rfl rfl)
  · exact triple_bind (triple_respond_settled records _ _ _) fun _ => .ret (stable_called records _)

/-! ### Threads -/

/-- A request that owes nothing. -/
theorem At.called {s : Shared ι} (here : At i (.rest records) s) : Called i records [] s :=
  ⟨[], rfl, (List.append_nil records).symm ▸ here⟩

theorem triple_process (c : Socket) (qwNow : Qword) (w : Word) (r : Request) :
    Triple (contract s₀ closes i) (At i (.rest records)) (process i c qwNow w r)
      fun done => Called i records (r.due qwNow done.1) := by
  -- the switch only adds the client ID to the code
  have code {p : Program (Shared ι) CerType} {owes : CerType → List (Qword × Dword × Word)}
      (h : Triple (contract s₀ closes i) (At i (.rest records)) p fun cerRR =>
        Called i records (owes cerRR)) :
      Triple (contract s₀ closes i) (At i (.rest records)) ((·, w) <$> p) fun done =>
        Called i records (owes done.1) :=
    triple_bind h fun _ => .ret (stable_called records _)
  have quiet {p : Program (Shared ι) CerType}
      (h : Triple (contract s₀ closes i) (At i (.rest records)) p fun _ => At i (.rest records)) :
      Triple (contract s₀ closes i) (At i (.rest records)) p fun _ => Called i records [] :=
    h.weaken (fun _ => id) fun _ _ => At.called records
  cases r with
  | connect m =>
    exact (triple_processConnectRequest records m c).weaken (fun _ => id) fun _ _ =>
      At.called records
  | createAccount m beyond =>
    exact code (quiet (triple_processCreateAccountRequest records m beyond))
  | logon m beyond => exact code (quiet (triple_processLogonRequest records m beyond))
  | logoff m => exact code (quiet (triple_processLogoffRequest records m))
  | deposit m => exact code (triple_processDepositRequest records qwNow m)
  | withdrawal m => exact code (triple_processWithdrawalRequest records qwNow m)
  | stampPurchase m => exact code (triple_processStampPurchaseRequest records qwNow m)
  | balanceQuery m => exact code (triple_processBalanceQueryRequest records m)
  | transactionQuery m => exact code (triple_processTransactionQueryRequest records m)

/-- The thread of a connection, whatever it receives. -/
theorem triple_clientThread (c : Socket) (w : Word) (inputs : List Input)
    (closing : Input.closed ∈ inputs → closes i) :
    Triple (contract s₀ closes i) (At i (.rest records)) (clientThread i c w inputs)
      fun codes => Called i records (due inputs codes) := by
  induction inputs generalizing w records with
  | nil =>
    intro s here
    exact Safe.ret (stable_called records _) (here.called records)
  | cons input rest ih =>
    cases input with
    | closed =>
      refine triple_bind (triple_processDisconnect records w (closing (by simp))) fun _ s here => ?_
      exact Safe.ret (stable_called records _) (here.called records)
    | message qwNow r =>
      refine triple_bind (triple_process records c qwNow w r) ?_
      rintro ⟨cerRR, w'⟩ s ⟨new, summary, here⟩
      refine triple_bind (ih (records ++ new) w' fun last => closing (by simp [last]))
        (fun codes t later => ?_) s here
      refine Safe.ret (stable_called records _) ?_
      obtain ⟨more, summary', here'⟩ := later
      refine ⟨new ++ more, ?_, ?_⟩
      · rw [List.map_append, summary, summary']
        rfl
      · rw [← List.append_assoc]
        exact here'

end Handlers

/-! ### All threads -/

section Pools

variable (s₀ : Server) (sockets : ι → Socket) (received : ι → List Input)

/-- The threads of all connections before their first access. -/
def threads : Pool ι (Shared ι) (List CerType) :=
  ⟨.start s₀, fun i => clientThread i (sockets i) invalidClientID (received i)⟩

/-- What a thread leaves when it has ended. -/
def leaves (i : ι) (codes : List CerType) : Shared ι → Prop :=
  Called i [] (due (received i) codes)

/-- The connections that close in the end. -/
def closing (i : ι) : Prop := Input.closed ∈ received i

/-- A schedule in which no connection closes while its session is in use by a call of another
thread. -/
def Scheduled (turns : List ι) : Prop :=
  Run.Avoids poolStep (Forbidden (contract s₀ (closing received))) (threads s₀ sockets received)
    turns

theorem allSafe_threads :
    AllSafe (contract s₀ (closing received)) (leaves received) (threads s₀ sockets received) :=
  fun i =>
    have closes : Input.closed ∈ received i → closing received i := id
    triple_clientThread [] (sockets i) invalidClientID (received i) closes _ (at_rest_start s₀ i)

variable {s₀ sockets received}

theorem allSafe_run (turns : List ι) (scheduled : Scheduled s₀ sockets received turns) :
    AllSafe (contract s₀ (closing received)) (leaves received)
      (runPool (threads s₀ sockets received) turns) :=
  ((allSafe_threads s₀ sockets received).run (cooperate s₀ _) (fun _ => True) trivial
    (fun _ _ _ _ _ => trivial) turns scheduled).1

theorem consistent_run (start : InOrder s₀) (turns : List ι)
    (scheduled : Scheduled s₀ sockets received turns) :
    Consistent s₀ (runPool (threads s₀ sockets received) turns).shared :=
  ((allSafe_threads s₀ sockets received).run (cooperate s₀ _) (Consistent s₀)
    (consistent_start s₀ start) (fun _ _ _ guarantee => guarantee.consistent) turns scheduled).2

/-- If no connection closes, every schedule will do. -/
theorem scheduled_of_open (open_ : ∀ i, Input.closed ∉ received i) (turns : List ι) :
    Scheduled s₀ sockets received turns := by
  intro before i after _ forbidden
  exact forbidden fun closes => absurd closes (open_ i)

/-- A turn of one thread leaves the session that another one uses. -/
def Spares (pool : Pool ι (Shared ι) (List CerType)) (i j : ι) : Prop :=
  match pool.shared.inUse j with
  | some w => (poolStep pool i).shared.erased w = pool.shared.erased w
  | none => True

instance (pool : Pool ι (Shared ι) (List CerType)) (i j : ι) : Decidable (Spares pool i j) :=
  match used : pool.shared.inUse j with
  | some w => decidable_of_iff ((poolStep pool i).shared.erased w = pool.shared.erased w)
    (by simp only [Spares, used])
  | none => .isTrue (by simp only [Spares, used])

theorem scheduled_of_spares (turns : List ι)
    (spares : ∀ k i, turns[k]? = some i → ∀ j, j ≠ i →
      Spares (runPool (threads s₀ sockets received) (turns.take k)) i j) :
    Scheduled s₀ sockets received turns := by
  refine Run.avoids_of_getElem? _ _ fun k i taken forbidden => forbidden fun _ j other w used => ?_
  have here := spares k i taken j other
  change (runPool (threads s₀ sockets received) (turns.take k)).shared.inUse j = some w at used
  rw [Spares, used] at here
  exact here

/-- What a thread that has ended leaves, and where. -/
theorem ended_leaves (turns : List ι)
    (scheduled : Scheduled s₀ sockets received turns) (i : ι) (codes : List CerType)
    (ended : (runPool (threads s₀ sockets received) turns).phase i = .ret codes) :
    ∃ records, records.map (·.summary) = due (received i) codes ∧
      At i (.rest records) (runPool (threads s₀ sockets received) turns).shared :=
  (allSafe_run turns scheduled).ended (cooperate s₀ _) ended

theorem someone_moves (s : Shared ι) (i : ι) (waits : (contract s₀ closes i).waits s) :
    ∃ j, ¬ (contract s₀ closes j).waits s ∧ ∀ codes, ¬ leaves received j codes s := by
  -- the owner of a mutex neither waits nor has it ended
  obtain ⟨_, m, j, owned⟩ := waits
  refine ⟨j, fun waits => waits.1 m owned, fun codes ended => ?_⟩
  obtain ⟨new, _, here⟩ := ended
  have held := (here.owner m).mp owned
  cases held

/-- In the end there are no more records than messages. -/
theorem fits_of_ended [Fintype ι] (turns : List ι)
    (scheduled : Scheduled s₀ sockets received turns)
    (ended : ∀ i, Ended (runPool (threads s₀ sockets received) turns) i)
    (few : s₀.transactionInfo.size + ∑ i, (received i).length < 2 ^ 32) :
    Fits s₀ (runPool (threads s₀ sockets received) turns).shared := by
  refine lt_of_le_of_lt (Nat.add_le_add_left ?_ _) few
  rw [length_eq_sum_madeBy]
  refine Finset.sum_le_sum fun i _ => ?_
  obtain ⟨codes, phase⟩ := ended i
  obtain ⟨records, summary, here⟩ := ended_leaves turns scheduled i codes phase
  rw [here.records]
  have length := congrArg List.length summary
  rw [List.length_map] at length
  exact length.trans_le (length_due (received i) codes)

/-- A fair schedule serves every connection to its end. -/
theorem exists_ended [Finite ι] {schedule : Nat → ι} (fair : Fair schedule)
    (scheduled : ∀ n, Scheduled s₀ sockets received (Run.firstTurns schedule n)) :
    ∃ n, ∀ i, Ended (runPool (threads s₀ sockets received) (Run.firstTurns schedule n)) i :=
  fair_ends fair fun n =>
    (allSafe_run (Run.firstTurns schedule n) (scheduled n)).progress (cooperate s₀ _)
      (someone_moves _)

end Pools

end Concurrent

open Program Concurrent

section Interleavings

variable {ι : Type} [DecidableEq ι] (s₀ : Server) (sockets : ι → Socket) (received : ι → List Input)

/-- In every interleaving that spares the sessions in use: no dangling iterator is used, no mutex
of another thread is unlocked, and all references hold; the table is the loaded one and every
record made since, as long as there are IDs; and a thread that has ended has recorded what it
answered, in order. -/
theorem interleaving_safe (start : InOrder s₀) (turns : List ι)
    (scheduled : Scheduled s₀ sockets received turns) :
    let pool := runPool (threads s₀ sockets received) turns
    (∀ i, pool.phase i ≠ .wrong) ∧ References pool.shared.server ∧
      (Fits s₀ pool.shared → Dense pool.shared.server.transactionInfo ∧
        pool.shared.server.transactionInfo.values =
          s₀.transactionInfo.values ++ pool.shared.records.map Prod.snd) ∧
      ∀ i codes, pool.phase i = .ret codes →
        (madeBy i pool.shared.records).map (·.summary) = due (received i) codes := by
  have consistent := consistent_run start turns scheduled
  refine ⟨(allSafe_run turns scheduled).not_wrong, consistent.references,
    fun fits => ⟨consistent.dense fits, consistent.table fits⟩, fun i codes ended => ?_⟩
  obtain ⟨records, summary, here⟩ := ended_leaves turns scheduled i codes ended
  rw [here.records]
  exact summary

/-- When all threads have ended, after any interleaving that spares the sessions in use, and there
were IDs for all records, the tables are in order again: every balance is what the loaded and the
new records say, modulo 2^32. -/
theorem interleaving_in_order (start : InOrder s₀) (turns : List ι)
    (scheduled : Scheduled s₀ sockets received turns)
    (ended : ∀ i, Ended (runPool (threads s₀ sockets received) turns) i)
    (fits : Fits s₀ (runPool (threads s₀ sockets received) turns).shared) :
    InOrder (runPool (threads s₀ sockets received) turns).shared.server := by
  refine (consistent_run start turns scheduled).inOrder fits fun i => ?_
  obtain ⟨codes, phase⟩ := ended i
  obtain ⟨records, _, here⟩ := ended_leaves turns scheduled i codes phase
  rw [here.moves, here.records]
  exact List.append_nil _

/-- Finitely many connections are all served to their end under every fair schedule that spares
the sessions in use, and no mutex stays locked. -/
theorem interleaving_ends [Finite ι] (schedule : Nat → ι) (fair : Fair schedule)
    (scheduled : ∀ n, Scheduled s₀ sockets received (Run.firstTurns schedule n)) :
    ∃ n, let pool := runPool (threads s₀ sockets received) (Run.firstTurns schedule n)
      (∀ i, Ended pool i) ∧ ∀ m, pool.shared.owner m = none := by
  obtain ⟨n, ended⟩ := exists_ended fair scheduled
  refine ⟨n, ended, fun m => Option.eq_none_iff_forall_ne_some.mpr fun i owned => ?_⟩
  obtain ⟨codes, phase⟩ := ended i
  obtain ⟨records, _, here⟩ := ended_leaves _ (scheduled n) i codes phase
  have held := (here.owner m).mp owned
  cases held

end Interleavings

/-! ### Two clients at once -/

theorem Books.inOrder {s : Server} (books : Books s) : InOrder s :=
  ⟨books.references, books.dense, books.shows⟩

theorem inOrder_annaTwice : InOrder annaTwice :=
  (books_run _ (by decide +kernel)).inOrder

/-- Anna withdraws 100 on each of her two connections. -/
def withdrawals (second : Bool) : List Input := [.message 5 (withdrawTwice 100 second).toRequest]

theorem open_withdrawals (i : Bool) : Input.closed ∉ withdrawals i := by simp [withdrawals]

def alternating (n : Nat) : Bool := n % 2 = 0

theorem fair_alternating : Fair alternating := by
  intro i n
  cases i with
  | true => exact ⟨2 * n, by omega, by simp [alternating]⟩
  | false => exact ⟨2 * n + 1, by omega, by simp [alternating]⟩

/-- Anna withdraws on her connection, while on another one somebody connects, withdraws with her
other client ID and leaves. -/
def visits (first : Bool) : List Input :=
  if first then [.message 5 (withdrawTwice 60 false).toRequest]
  else [.message 5 (.connect (.init 0 0 majorVersion minorVersion validationKey 0)),
    .message 6 (withdrawTwice 40 true).toRequest, .closed]

def visitors (first : Bool) : Socket := if first then 7 else 9

def inTurn : List Bool := (List.replicate 20 [true, false]).flatten

theorem scheduled_visits : Scheduled annaTwice visitors visits inTurn := by
  have spared : ∀ k < 40, Spares (runPool (threads annaTwice visitors visits) (inTurn.take k))
      (inTurn.getD k true) (!inTurn.getD k true) := by
    decide +kernel
  refine scheduled_of_spares inTurn fun k i taken j other => ?_
  obtain ⟨inside, rfl⟩ := List.getElem?_eq_some_iff.mp taken
  have here := spared k inside
  rw [List.getD_eq_getElem _ _ inside] at here
  rwa [Bool.eq_not.mpr other]

/-- Both withdrawals are recorded and the session of the visitor is erased. -/
theorem interleaving_safe_anna :
    let pool := runPool (threads annaTwice visitors visits) inTurn
    (pool.shared.records.map (fun e => (e.1, e.2.amount)) = [(true, 60), (false, 40)] ∧
        pool.shared.erased 3 = 1) ∧
      (∀ i, pool.phase i ≠ .wrong) ∧ References pool.shared.server ∧
      (Fits annaTwice pool.shared → Dense pool.shared.server.transactionInfo ∧
        pool.shared.server.transactionInfo.values =
          annaTwice.transactionInfo.values ++ pool.shared.records.map Prod.snd) ∧
      ∀ i codes, pool.phase i = .ret codes →
        (madeBy i pool.shared.records).map (·.summary) = due (visits i) codes :=
  ⟨by decide +kernel,
    interleaving_safe annaTwice visitors visits inOrder_annaTwice inTurn scheduled_visits⟩

/-- When both withdrawals are done, the books balance. -/
theorem interleaving_in_order_anna :
    ∃ n, let pool :=
        runPool (threads annaTwice (fun _ => 7) withdrawals) (Run.firstTurns alternating n)
      (∀ i, Ended pool i) ∧ InOrder pool.shared.server := by
  have scheduled (n : Nat) :
      Scheduled annaTwice (fun _ => 7) withdrawals (Run.firstTurns alternating n) :=
    scheduled_of_open open_withdrawals _
  obtain ⟨n, ended⟩ := exists_ended fair_alternating scheduled
  have few : annaTwice.transactionInfo.size + ∑ i, (withdrawals i).length < 2 ^ 32 := by
    decide +kernel
  exact ⟨n, ended, interleaving_in_order annaTwice _ withdrawals inOrder_annaTwice _ (scheduled n)
    ended (fits_of_ended _ (scheduled n) ended few)⟩

theorem interleaving_ends_anna :
    ∃ n, let pool :=
        runPool (threads annaTwice (fun _ => 7) withdrawals) (Run.firstTurns alternating n)
      (∀ i, Ended pool i) ∧ ∀ m, pool.shared.owner m = none :=
  interleaving_ends annaTwice _ withdrawals alternating fair_alternating fun _ =>
    scheduled_of_open open_withdrawals _

end Cnp
