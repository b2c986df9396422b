import CnpProtocol.Properties.Disconnects
import CnpProtocol.Server.Concurrent

/-!
# Handlers that run alone

Without another thread in between, the program of a handler never waits and never goes wrong,
and leaves the tables, the code and the response of the handler as one step.
-/

namespace Cnp

/-- The shared state without its history. -/
structure View (ι : Type) where
  server : Server
  owner : Mutex → Option ι
  sent : List (Socket × Response)
  erased : Word → Nat

def Shared.view {ι : Type} (s : Shared ι) : View ι := ⟨s.server, s.owner, s.sent, s.erased⟩

namespace Concurrent

open Program

variable {ι : Type} {α β : Type}

/-! ### Programs that run alone -/

/-- What a program that runs alone ends with. -/
def Yields (p : Program (Shared ι) α) (v : View ι) (a : α) (v' : View ι) : Prop :=
  ∀ s : Shared ι, s.view = v → ∃ s', p.alone s = some (a, s') ∧ s'.view = v'

theorem Yields.pure (a : α) (v : View ι) : Yields (Program.ret a) v a v :=
  fun s same => ⟨s, rfl, same⟩

theorem Yields.bind {p : Program (Shared ι) α} {f : α → Program (Shared ι) β} {v v' v'' : View ι}
    {a : α} {b : β} (first : Yields p v a v') (second : Yields (f a) v' b v'') :
    Yields (p.bind f) v b v'' := by
  intro s same
  obtain ⟨t, alone, view⟩ := first s same
  obtain ⟨u, alone', view'⟩ := second t view
  refine ⟨u, ?_, view'⟩
  rw [alone_bind, alone]
  exact alone'

theorem Yields.map {p : Program (Shared ι) α} {v v' : View ι} {a : α} (f : α → β)
    (h : Yields p v a v') : Yields (f <$> p) v (f a) v' :=
  h.bind (.pure (f a) v')

/-! ### The accesses -/

section Accesses

variable (v : View ι)

theorem yields_read {f : Shared ι → α} (g : View ι → α) (same : ∀ s, f s = g s.view) :
    Yields (Program.read f) v (g v) v := by
  rintro s rfl
  exact ⟨s, congrArg some (Prod.ext (same s) rfl), rfl⟩

theorem yields_findAccount (q : Qword) :
    Yields (findAccount q) v (v.server.accountInfo.find? q).isSome v :=
  yields_read v (fun v => (v.server.accountInfo.find? q).isSome) fun _ => rfl

theorem yields_insertSession (w : Word) (i : SessionInfo) :
    Yields (insertSession w i) v ()
      { v with server.sessionInfo := v.server.sessionInfo.insert w i } := by
  rintro s rfl
  exact ⟨_, rfl, rfl⟩

theorem yields_eraseSession (w : Word) :
    Yields (eraseSession w) v ()
      { v with
        server.sessionInfo := v.server.sessionInfo.erase w
        erased := Function.update v.erased w (v.erased w + 1) } := by
  rintro s rfl
  exact ⟨_, rfl, rfl⟩

theorem yields_insertAccount (q : Qword) (a : AccountInfo) :
    Yields (insertAccount q a) v ()
      { v with server.accountInfo := v.server.accountInfo.insert q a } := by
  rintro s rfl
  exact ⟨_, rfl, rfl⟩

theorem yields_insertTransaction (i : ι) (t : TransactionInfo) :
    Yields (insertTransaction i t) v ()
      { v with server.transactionInfo := v.server.transactionInfo.insert t.id t } := by
  rintro s rfl
  exact ⟨_, rfl, rfl⟩

variable {v}

theorem yields_readSession {itS : SessionIterator} {i : SessionInfo}
    (fresh : v.erased itS.key = itS.generation)
    (found : v.server.sessionInfo.find? itS.key = some i)
    (f : SessionInfo → α) : Yields (itS.read f) v (f i) v := by
  rintro s rfl
  have target : itS.target s = some i := (if_pos fresh).trans found
  exact ⟨s, by simp only [SessionIterator.read, alone, target, Option.bind_some], rfl⟩

theorem yields_updateSession {itS : SessionIterator} {i : SessionInfo}
    (fresh : v.erased itS.key = itS.generation)
    (found : v.server.sessionInfo.find? itS.key = some i)
    (f : SessionInfo → SessionInfo) :
    Yields (itS.update f) v () { v with server := v.server.modifySession itS.key f } := by
  rintro s rfl
  have target : itS.target s = some i := (if_pos fresh).trans found
  refine ⟨{ s with server := s.server.modifySession itS.key f }, ?_, rfl⟩
  simp only [SessionIterator.update, alone, target, Option.bind_some]

theorem yields_readAccount {q : Qword} {itA : AccountInfo}
    (account : v.server.accountInfo.find? q = some itA) (f : AccountInfo → α) :
    Yields (readAccount q f) v (f itA) v := by
  rintro s rfl
  have here : s.server.accountInfo.find? q = some itA := account
  exact ⟨s, by simp only [readAccount, alone, here, Option.bind_some], rfl⟩

variable [DecidableEq ι] (i : ι)

theorem yields_respond (pSocket : Option Socket) (respMsg : Response) :
    Yields (respond i pSocket respMsg) v () { v with sent := v.sent ++ send pSocket respMsg } := by
  rintro s rfl
  exact ⟨_, rfl, rfl⟩

theorem yields_findSession (w : Word) :
    Yields (findSession i w) v ((v.server.sessionInfo.find? w).map fun _ => ⟨w, v.erased w⟩) v := by
  rintro s rfl
  exact ⟨_, rfl, rfl⟩

omit [DecidableEq ι] in
theorem yields_updateBalance {q : Qword} {itA : AccountInfo}
    (account : v.server.accountInfo.find? q = some itA) (f : AccountInfo → AccountInfo)
    (entry : Entry) :
    Yields (updateBalance i q f entry) v () { v with server := v.server.modifyAccount q f } := by
  rintro s rfl
  have here : s.server.accountInfo.find? q = some itA := account
  refine ⟨{ s with
    server := s.server.modifyAccount q f
    moves := s.moves ++ [(i, q, entry)] }, ?_, rfl⟩
  simp only [updateBalance, alone, here, Option.bind_some]

omit [DecidableEq ι] in
theorem yields_lock (m : Mutex) (free : v.owner m = none) :
    Yields (lock i m) v () { v with owner := Function.update v.owner m (some i) } := by
  rintro s rfl
  have here : s.owner m = none := free
  refine ⟨{ s with owner := Function.update s.owner m (some i) }, ?_, rfl⟩
  simp only [lock, alone, here, if_true, Option.bind_some]

theorem yields_unlock (m : Mutex) (owner : Mutex → Option ι) (free : owner m = none)
    (held : v.owner = Function.update owner m (some i)) :
    Yields (unlock i m) v () { v with owner } := by
  rintro s rfl
  have here : s.owner = Function.update owner m (some i) := held
  have owned : s.owner m = some i := by rw [here, Function.update_self]
  refine ⟨{ s with owner := Function.update s.owner m none }, ?_, ?_⟩
  · simp only [unlock, alone, Option.bind_some, if_pos owned]
  have released : Function.update s.owner m none = owner := by
    rw [here, Function.update_idem, ← free, Function.update_eq_self]
  simp only [Shared.view, released]

end Accesses

/-! ### The handlers -/

section Handlers

variable [DecidableEq ι] (i : ι) (v : View ι) (free : ∀ m, v.owner m = none)

/-- A handler as one step, seen from the shared state. -/
def View.after (v : View ι) (o : Outcome) : View ι :=
  { v with
    server := o.server
    sent := v.sent ++ o.sent }

omit [DecidableEq ι] in
/-- The session after an update. -/
theorem modified {w : Word} {itS : SessionInfo} (session : v.server.sessionInfo.find? w = some itS)
    (f : SessionInfo → SessionInfo) :
    (v.server.modifySession w f).sessionInfo.find? w = some (f itS) := by
  rw [Server.modifySession_sessionInfo, OrderedMap.find?_modify, if_pos rfl, session,
    Option.map_some]

theorem modifySession_twice (s : Server) (w : Word) (f g : SessionInfo → SessionInfo) :
    (s.modifySession w f).modifySession w g = s.modifySession w fun i => g (f i) := by
  have entries :
      ((s.sessionInfo.modify w f).modify w g) = s.sessionInfo.modify w fun i => g (f i) := by
    apply OrderedMap.ext_entries
    simp only [OrderedMap.modify, List.map_map]
    apply List.map_congr_left
    intro e _
    by_cases same : e.1 = w
    · simp [same]
    · simp [same]
  simp only [Server.modifySession, entries]

include free in
theorem connect_alone (m : ConnectRequest) (c : Socket) :
    Yields (processConnectRequest i m c) v
      ((Cnp.processConnectRequest v.server m c).2.cerRR,
        (Cnp.processConnectRequest v.server m c).1)
      (View.after v (Cnp.processConnectRequest v.server m c).2) := by
  simp only [processConnectRequest, Cnp.processConnectRequest]
  split
  · split
    · refine (yields_read v (fun v => newClientID v.server.sessionInfo) fun _ => rfl).bind ?_
      refine (yields_lock i .session (free .session)).bind ?_
      refine (yields_insertSession _ _ _).bind ?_
      refine (yields_unlock i .session v.owner (free .session) rfl).bind ?_
      exact (yields_respond i _ _).bind (.pure _ _)
    · exact (yields_respond i _ _).bind (.pure _ _)
  · exact (yields_respond i _ _).bind (.pure _ _)

include free in
theorem createAccount_alone (m : CreateAccountRequest) (beyond : List Byte) :
    Yields (processCreateAccountRequest i m beyond) v
      (Cnp.processCreateAccountRequest v.server m beyond).cerRR
      (View.after v (Cnp.processCreateAccountRequest v.server m beyond)) := by
  simp only [processCreateAccountRequest, Cnp.processCreateAccountRequest]
  refine (yields_findSession i _).bind ?_
  cases session : v.server.sessionInfo.find? m.hdr.clientID with
  | none => exact (yields_respond i _ _).bind (.pure _ _)
  | some itS =>
    refine Yields.bind (yields_readSession rfl session _) ?_
    dsimp only
    split
    · refine (yields_findAccount v _).bind ?_
      cases account : v.server.accountInfo.find? (m.customerID beyond) with
      | some itA => exact (yields_respond i _ _).bind (.pure _ _)
      | none =>
        refine (yields_lock i .account (free .account)).bind ?_
        refine (yields_insertAccount _ _ _).bind ?_
        refine Yields.bind (yields_updateSession rfl session _) ?_
        refine (yields_unlock i .account v.owner (free .account) rfl).bind ?_
        exact (yields_respond i _ _).bind (.pure _ _)
    · exact (yields_respond i _ _).bind (.pure _ _)

theorem logon_alone (m : LogonRequest) (beyond : List Byte) :
    Yields (processLogonRequest i m beyond) v (Cnp.processLogonRequest v.server m beyond).cerRR
      (View.after v (Cnp.processLogonRequest v.server m beyond)) := by
  simp only [processLogonRequest, Cnp.processLogonRequest]
  refine (yields_findSession i _).bind ?_
  cases session : v.server.sessionInfo.find? m.hdr.clientID with
  | none => exact (yields_respond i _ _).bind (.pure _ _)
  | some itS =>
    refine Yields.bind (yields_readSession rfl session _) ?_
    dsimp only
    split
    · refine (yields_findAccount v _).bind ?_
      cases account : v.server.accountInfo.find? (m.customerID beyond) with
      | none => exact (yields_respond i _ _).bind (.pure _ _)
      | some itA =>
        refine Yields.bind (yields_updateSession rfl session _) ?_
        refine Yields.bind (yields_updateSession rfl (modified v session _) _) ?_
        rw [modifySession_twice]
        exact (yields_respond i _ _).bind (.pure _ _)
    · exact (yields_respond i _ _).bind (.pure _ _)

theorem logoff_alone (m : LogoffRequest) :
    Yields (processLogoffRequest i m) v (Cnp.processLogoffRequest v.server m).cerRR
      (View.after v (Cnp.processLogoffRequest v.server m)) := by
  simp only [processLogoffRequest, Cnp.processLogoffRequest]
  refine (yields_findSession i _).bind ?_
  cases session : v.server.sessionInfo.find? m.hdr.clientID with
  | none => exact (yields_respond i _ _).bind (.pure _ _)
  | some itS =>
    refine Yields.bind (yields_readSession rfl session _) ?_
    refine Yields.bind (yields_readSession rfl session _) ?_
    dsimp only
    split
    · refine Yields.bind (yields_updateSession rfl session _) ?_
      refine Yields.bind (yields_updateSession rfl (modified v session _) _) ?_
      rw [modifySession_twice]
      exact (yields_respond i _ _).bind (.pure _ _)
    · refine Yields.bind (yields_updateSession rfl session _) ?_
      exact (yields_respond i _ _).bind (.pure _ _)

theorem withAccount_alone (w : Word) (notLoggedon : CerType) (data : α)
    (act : Qword → Program (Shared ι) (CerType × α))
    (act' : Qword → AccountInfo → CerType × Server × α)
    (acts : ∀ q itA, v.server.accountInfo.find? q = some itA →
      Yields (act q) v ((act' q itA).1, (act' q itA).2.2) { v with server := (act' q itA).2.1 }) :
    let h := Cnp.withAccount v.server w notLoggedon data act'
    Yields (withAccount i w notLoggedon data act) v (h.socket, h.cerRR, h.data)
      { v with server := h.server } := by
  simp only [withAccount, Cnp.withAccount]
  refine (yields_findSession i _).bind ?_
  cases session : v.server.sessionInfo.find? w with
  | none => exact .pure _ _
  | some itS =>
    refine Yields.bind (yields_readSession rfl session _) ?_
    refine Yields.bind (yields_readSession rfl session _) ?_
    dsimp only
    split
    · refine (yields_findAccount v _).bind ?_
      cases account : v.server.accountInfo.find? itS.customerID with
      | none => exact .pure _ _
      | some itA => exact (acts _ itA account).bind (.pure _ _)
    · exact .pure _ _

include free

theorem recordTransaction_alone (now : Qword) (dwAmount : Dword) (wType : TransactionType)
    (q : Qword) :
    Yields (recordTransaction i now dwAmount wType q) v ()
      { v with server := v.server.recordTransaction now dwAmount wType q } := by
  refine (yields_lock i .transaction (free .transaction)).bind ?_
  refine (yields_read _ (fun v => v.server.transactionInfo.size) fun _ => rfl).bind ?_
  refine (yields_insertTransaction _ i _).bind ?_
  exact yields_unlock i .transaction v.owner (free .transaction) rfl

theorem payIn_alone (now : Qword) (dwAmount : Dword) (q : Qword) (itA : AccountInfo)
    (account : v.server.accountInfo.find? q = some itA) :
    Yields (payIn i now dwAmount q) v
      ((Cnp.payIn v.server now dwAmount q itA).1, (Cnp.payIn v.server now dwAmount q itA).2.2)
      { v with server := (Cnp.payIn v.server now dwAmount q itA).2.1 } := by
  refine Yields.bind (yields_updateBalance i account _ _) ?_
  exact Yields.bind (recordTransaction_alone i
    { v with server := v.server.modifyAccount q (·.incrBalance dwAmount) } free now dwAmount
    .deposit q) (.pure _ _)

theorem payOut_alone (now : Qword) (dwAmount : Dword) (wType : TransactionType) (q : Qword)
    (itA : AccountInfo) (account : v.server.accountInfo.find? q = some itA) :
    Yields (payOut i now dwAmount wType q) v
      ((Cnp.payOut v.server now dwAmount wType q itA).1,
        (Cnp.payOut v.server now dwAmount wType q itA).2.2)
      { v with server := (Cnp.payOut v.server now dwAmount wType q itA).2.1 } := by
  refine Yields.bind (yields_readAccount account _) ?_
  simp only [Cnp.payOut]
  split
  · refine Yields.bind (yields_updateBalance i account _ _) ?_
    exact Yields.bind (recordTransaction_alone i
      { v with server := v.server.modifyAccount q (·.decrBalance dwAmount) } free now dwAmount
      wType q) (.pure _ _)
  · exact .pure _ _

theorem deposit_alone (now : Qword) (m : DepositRequest) :
    Yields (processDepositRequest i now m) v (Cnp.processDepositRequest v.server now m).cerRR
      (View.after v (Cnp.processDepositRequest v.server now m)) := by
  refine Yields.bind (withAccount_alone i v _ _ _ _ _ fun q itA account =>
    payIn_alone i v free now m.request.amount q itA account) ?_
  exact (yields_respond i _ _).bind (.pure _ _)

theorem withdrawal_alone (now : Qword) (m : WithdrawalRequest) :
    Yields (processWithdrawalRequest i now m) v
      (Cnp.processWithdrawalRequest v.server now m).cerRR
      (View.after v (Cnp.processWithdrawalRequest v.server now m)) := by
  refine Yields.bind (withAccount_alone i v _ _ _ _ _ fun q itA account =>
    payOut_alone i v free now m.request.amount .withdrawal q itA account) ?_
  exact (yields_respond i _ _).bind (.pure _ _)

theorem stampPurchase_alone (now : Qword) (m : StampPurchaseRequest) :
    Yields (processStampPurchaseRequest i now m) v
      (Cnp.processStampPurchaseRequest v.server now m).cerRR
      (View.after v (Cnp.processStampPurchaseRequest v.server now m)) := by
  refine Yields.bind (withAccount_alone i v _ _ _ _ _ fun q itA account =>
    payOut_alone i v free now m.request.amount .stampPurchase q itA account) ?_
  exact (yields_respond i _ _).bind (.pure _ _)

omit free

theorem balanceQuery_alone (m : BalanceQueryRequest) :
    Yields (processBalanceQueryRequest i m) v
      (Cnp.processBalanceQueryRequest v.server m).cerRR
      (View.after v (Cnp.processBalanceQueryRequest v.server m)) := by
  refine Yields.bind (withAccount_alone i v _ _ _ _
    (fun _ itA => (.success, v.server, itA.balance)) fun q itA account =>
      Yields.bind (yields_readAccount account (·.balance)) (.pure _ v)) ?_
  exact (yields_respond i _ _).bind (.pure _ _)

/-- The entry after the first of a part of the table. -/
theorem nextTransaction_append (t : TransactionMap) (l : List (Dword × TransactionInfo))
    (itT : Dword × TransactionInfo) (rest : List (Dword × TransactionInfo))
    (entries : t.entries = l ++ itT :: rest) : nextTransaction itT.1 t = rest.head? := by
  have sorted := t.sorted
  rw [entries, List.pairwise_append] at sorted
  obtain ⟨_, after, before⟩ := sorted
  rw [nextTransaction, entries, List.find?_append]
  have none : l.find? (fun e => decide (itT.1 < e.1)) = none := by
    rw [List.find?_eq_none]
    intro e inside later
    exact lt_asymm (before e inside itT List.mem_cons_self) (of_decide_eq_true later)
  rw [none, Option.none_or, List.find?_cons_of_neg (by simp)]
  cases rest with
  | nil => rfl
  | cons next rest =>
    have above := (List.pairwise_cons.mp after).1 next List.mem_cons_self
    exact List.find?_cons_of_pos (by simpa using above)

omit [DecidableEq ι] in
/-- The loop over the rest of the table. -/
theorem collectTransactions_alone (q : Qword) (wCount : Word)
    (rest : List (Dword × TransactionInfo)) (n : Word)
    (suffix : rest <:+ v.server.transactionInfo.entries) :
    Yields (collectTransactions q wCount n rest.head?) v
      (Cnp.collectTransactions q wCount n rest) v := by
  induction rest generalizing n with
  | nil =>
    rw [List.head?_nil, collectTransactions, Cnp.collectTransactions]
    exact .pure _ _
  | cons itT rest ih =>
    obtain ⟨l, entries⟩ := suffix
    have next := nextTransaction_append _ l itT rest entries.symm
    have inside : rest <:+ v.server.transactionInfo.entries :=
      (List.suffix_cons itT rest).trans ⟨l, entries⟩
    rw [List.head?_cons, collectTransactions, Cnp.collectTransactions]
    split
    · split
      · rintro s rfl
        have found : nextTransaction itT.1 s.server.transactionInfo = rest.head? := next
        simp only [alone, Option.bind_some, found]
        exact Yields.bind (ih (n + 1) inside) (f := fun r =>
          .ret (r.1, itT.2.toTransaction :: r.2)) (.pure _ s.view) s rfl
      · rintro s rfl
        have found : nextTransaction itT.1 s.server.transactionInfo = rest.head? := next
        simp only [alone, Option.bind_some, found]
        exact ih n inside s rfl
    · exact .pure _ _

theorem transactionQuery_alone (m : TransactionQueryRequest) :
    Yields (processTransactionQueryRequest i m) v
      (Cnp.processTransactionQueryRequest v.server m).cerRR
      (View.after v (Cnp.processTransactionQueryRequest v.server m)) := by
  refine Yields.bind (withAccount_alone i v _ _ _ _
    (fun q _ => (.success, v.server, Cnp.collectTransactions q m.request.transactionCount 0
      (v.server.transactionInfo.lowerBound m.request.startID))) fun q itA account => ?_) ?_
  · refine (yields_read v (fun v =>
      (v.server.transactionInfo.lowerBound m.request.startID).head?) fun _ => rfl).bind ?_
    refine Yields.bind (collectTransactions_alone v q m.request.transactionCount _ 0 ?_)
      (.pure _ v)
    exact List.dropWhile_suffix _
  · exact (yields_respond i _ _).bind (.pure _ _)

include free

/-- A disconnect ends the iterators of the client ID. -/
theorem disconnect_alone (w : Word) :
    Yields (processDisconnect i w) v (Cnp.processDisconnect v.server w).1
      { v with
        server := (Cnp.processDisconnect v.server w).2
        erased := if (Cnp.processDisconnect v.server w).1 then
          Function.update v.erased w (v.erased w + 1) else v.erased } := by
  have result : Cnp.processDisconnect v.server w =
      if (v.server.sessionInfo.find? w).isSome then
        (true, { v.server with sessionInfo := v.server.sessionInfo.erase w })
      else (false, v.server) := by
    cases session : v.server.sessionInfo.find? w with
    | none => simp [Cnp.processDisconnect, session]
    | some itS => simp [Cnp.processDisconnect, session]
  rw [result]
  refine Yields.bind (yields_lock i .session (free .session)) ?_
  refine Yields.bind (yields_read _ (fun v => (v.server.sessionInfo.find? w).isSome)
    fun _ => rfl) ?_
  dsimp only
  split
  · refine Yields.bind (yields_eraseSession _ w) ?_
    exact (yields_unlock i .session v.owner (free .session) rfl).bind (.pure _ _)
  · exact (yields_unlock i .session v.owner (free .session) rfl).bind (.pure _ _)

/-- A request served with no other thread in between is one step of the server. -/
theorem process_alone (c : Socket) (now : Qword) (w : Word) (r : Request) :
    Yields (process i c now w r) v
      ((dispatch v.server c now r).cerRR, clientIDAfter v.server c w r)
      (View.after v (dispatch v.server c now r)) := by
  cases r with
  | connect m => exact connect_alone i v free m c
  | createAccount m beyond => exact (createAccount_alone i v free m beyond).map (·, w)
  | logon m beyond => exact (logon_alone i v m beyond).map (·, w)
  | logoff m => exact (logoff_alone i v m).map (·, w)
  | deposit m => exact (deposit_alone i v free now m).map (·, w)
  | withdrawal m => exact (withdrawal_alone i v free now m).map (·, w)
  | balanceQuery m => exact (balanceQuery_alone i v m).map (·, w)
  | transactionQuery m => exact (transactionQuery_alone i v m).map (·, w)
  | stampPurchase m => exact (stampPurchase_alone i v free now m).map (·, w)

end Handlers

/-! ### The thread of a connection -/

/-- What the buffer makes of the results of `Receive`: the inputs of the switch. -/
def inputs : RgBuffer → List ReceiveResult → List Input
  | _, [] => []
  | rgBuffer, .error _ _ :: rest => inputs rgBuffer rest
  | _, .closed :: _ => [.closed]
  | rgBuffer, .data received qwNow :: rest =>
    let rgBuffer := rgBuffer.receive received
    match requestAt rgBuffer.bytes with
    | some r => .message qwNow r :: inputs rgBuffer rest
    | none => inputs rgBuffer rest

/-- The turns of one thread on the tables. -/
def serve (pSocket : Socket) (st : Server × ClientThread) (result : ReceiveResult) :
    Server × ClientThread :=
  clientThreadStep pSocket result st.1 st.2

/-- What the handler of a turn leaves behind, if the turn calls one. -/
def outcome? (pSocket : Socket) (st : Server × ClientThread) : ReceiveResult → Option Outcome
  | .data received qwNow =>
    if st.2.bTerminate then none
    else (dispatchBuffer st.1 pSocket qwNow st.2.wClientID
      (st.2.rgBuffer.receive received).bytes).map (·.2)
  | _ => none

/-- The handlers called in the turns, in order. -/
def outcomes (pSocket : Socket) (s : Server) (t : ClientThread) (results : List ReceiveResult) :
    List Outcome :=
  (Run.outputs (serve pSocket) (outcome? pSocket) (s, t) results).flatMap Option.toList

theorem outcomes_cons (c : Socket) (s : Server) (t : ClientThread) (result : ReceiveResult)
    (rest : List ReceiveResult) :
    outcomes c s t (result :: rest) = (outcome? c (s, t) result).toList ++
      outcomes c (serve c (s, t) result).1 (serve c (s, t) result).2 rest :=
  List.flatMap_cons

/-- A thread that has terminated does nothing. -/
theorem serve_terminated (c : Socket) (s : Server) (t : ClientThread)
    (terminated : t.bTerminate = true)
    (results : List ReceiveResult) :
    Run.run (serve c) (s, t) results = (s, t) ∧ outcomes c s t results = [] := by
  induction results with
  | nil => exact ⟨rfl, rfl⟩
  | cons result rest ih =>
    have idle : serve c (s, t) result = (s, t) := by
      simp only [serve, clientThreadStep, terminated, if_true]
    have silent : outcome? c (s, t) result = none := by
      cases result with
      | data received now => simp only [outcome?, terminated, if_true]
      | _ => rfl
    refine ⟨?_, ?_⟩
    · rw [Run.run_cons, idle, ih.1]
    · rw [outcomes_cons, idle, silent]
      exact ih.2

theorem clientThread_alone [DecidableEq ι] (i : ι) (c : Socket) (t : ClientThread)
    (running : t.bTerminate = false) (results : List ReceiveResult) (v : View ι)
    (free : ∀ m, v.owner m = none) :
    ∃ erased, Yields (clientThread i c t.wClientID (inputs t.rgBuffer results)) v
      ((outcomes c v.server t results).map (·.cerRR))
      ⟨(Run.run (serve c) (v.server, t) results).1, v.owner,
        v.sent ++ (outcomes c v.server t results).flatMap (·.sent), erased⟩ := by
  induction results generalizing t v with
  | nil =>
    refine ⟨v.erased, ?_⟩
    rw [inputs, clientThread, outcomes, Run.outputs, List.flatMap_nil, List.flatMap_nil,
      List.append_nil]
    exact .pure _ v
  | cons result rest ih =>
    cases result with
    | error wouldBlock interrupted =>
      have idle : serve c (v.server, t) (.error wouldBlock interrupted) = (v.server, t) := by
        simp only [serve, clientThreadStep, running, Bool.false_eq_true, if_false]
      rw [inputs, outcomes_cons, Run.run_cons, idle]
      exact ih t running v free
    | closed =>
      have served : serve c (v.server, t) .closed =
          ((Cnp.processDisconnect v.server t.wClientID).2, { t with bTerminate := true }) := by
        simp only [serve, clientThreadStep, running, Bool.false_eq_true, if_false]
      obtain ⟨state, quiet⟩ := serve_terminated c (Cnp.processDisconnect v.server t.wClientID).2
        { t with bTerminate := true } rfl rest
      refine ⟨if (Cnp.processDisconnect v.server t.wClientID).1 then
        Function.update v.erased t.wClientID (v.erased t.wClientID + 1) else v.erased, ?_⟩
      rw [inputs, outcomes_cons, Run.run_cons, served, state, quiet, clientThread]
      refine Yields.bind (disconnect_alone i v free t.wClientID) ?_
      have silent : outcome? c (v.server, t) .closed = none := rfl
      rw [silent, Option.toList_none, List.append_nil, List.flatMap_nil, List.append_nil]
      exact .pure _ _
    | data received now =>
      cases cast : requestAt (t.rgBuffer.receive received).bytes with
      | none =>
        -- the switch ignores the message
        have served : serve c (v.server, t) (.data received now) =
            (v.server, { t with rgBuffer := t.rgBuffer.receive received }) := by
          simp [serve, clientThreadStep, dispatchBuffer, running, cast]
        have silent : outcome? c (v.server, t) (.data received now) = none := by
          simp [outcome?, dispatchBuffer, cast]
        simp only [inputs, cast]
        rw [outcomes_cons, Run.run_cons, served, silent]
        exact ih { t with rgBuffer := t.rgBuffer.receive received } running v free
      | some r =>
        have served : serve c (v.server, t) (.data received now) =
            ((dispatch v.server c now r).server,
              { t with
                rgBuffer := t.rgBuffer.receive received
                wClientID := clientIDAfter v.server c t.wClientID r }) := by
          simp [serve, clientThreadStep, dispatchBuffer, running, cast]
        have answered : outcome? c (v.server, t) (.data received now) =
            some (dispatch v.server c now r) := by
          simp [outcome?, dispatchBuffer, running, cast]
        obtain ⟨erased, later⟩ := ih
          { t with
            rgBuffer := t.rgBuffer.receive received
            wClientID := clientIDAfter v.server c t.wClientID r } running
          (View.after v (dispatch v.server c now r)) free
        refine ⟨erased, ?_⟩
        simp only [inputs, cast]
        rw [outcomes_cons, Run.run_cons, served, answered, Option.toList_some,
          List.singleton_append, List.map_cons, List.flatMap_cons, ← List.append_assoc,
          clientThread]
        exact Yields.bind (process_alone i v free c now t.wClientID r)
          (Yields.bind later (.pure _ _))

end Concurrent

open Concurrent in
/-- The program of a connection that runs alone, on whatever `Receive` delivers, is the turns
of its thread, each handler one step: it comes to its end with all mutexes released, with the
codes and the responses of the handlers in order. -/
theorem connection_alone {ι : Type} [DecidableEq ι] (i : ι) (c : Socket) (t : ClientThread)
    (running : t.bTerminate = false) (results : List ReceiveResult) (s : Shared ι)
    (free : ∀ m, s.owner m = none) :
    ∃ s', (clientThread i c t.wClientID (inputs t.rgBuffer results)).alone s =
        some ((outcomes c s.server t results).map (·.cerRR), s') ∧
      s'.server = (Run.run (serve c) (s.server, t) results).1 ∧
      s'.sent = s.sent ++ (outcomes c s.server t results).flatMap (·.sent) ∧
      ∀ m, s'.owner m = none := by
  obtain ⟨erased, yields⟩ := clientThread_alone i c t running results s.view free
  obtain ⟨s', alone, view⟩ := yields s rfl
  have owner : s'.owner = s.owner := congrArg View.owner view
  exact ⟨s', alone, congrArg View.server view, congrArg View.sent view, fun m => by
    rw [owner, free m]⟩

open Concurrent in
/-- A connection connects and closes, with a hiccup of `Receive` in between. -/
theorem connection_alone_once :
    let results := [.data (connectBytes validationKey) 0, .error true false, .closed]
    ∃ s', (clientThread (0 : Nat) 7 invalidClientID (inputs .zero results)).alone
        (Shared.start .empty) = some ((outcomes 7 .empty .start results).map (·.cerRR), s') ∧
      s'.server = (Run.run (serve 7) (.empty, .start) results).1 ∧
      s'.sent = [] ++ (outcomes 7 .empty .start results).flatMap (·.sent) ∧
      ∀ m, s'.owner m = none :=
  connection_alone 0 7 .start rfl _ (Shared.start .empty) fun _ => rfl

end Cnp
