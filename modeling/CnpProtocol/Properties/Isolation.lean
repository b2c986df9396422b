import CnpProtocol.Properties.Responses

/-!
# Isolation

Eight of the nine handlers identify their client by the ID in the header and never see
the connection. What they change and say is confined to the session with that ID and to
the customer it is logged on as; the connection itself decides nothing.
-/

namespace Cnp

/-- A change of the tables on behalf of client `w`: other sessions and other customers'
accounts stay, transactions stay, and new ones are the customer's own. -/
structure Confined (s : Server) (w : Word) (s' : Server) : Prop where
  sessions : ∀ w', w' ≠ w → s'.sessionInfo.find? w' = s.sessionInfo.find? w'
  accounts : ∀ q a, s.accountInfo.find? q = some a →
    s'.accountInfo.find? q = some a ∨ LoggedOnAs s w q
  recorded : ∀ k t, s'.transactionInfo.find? k = some t →
    s.transactionInfo.find? k = some t ∨ LoggedOnAs s w t.customerID
  kept : ∀ k t, s.transactionInfo.find? k = some t → s'.transactionInfo.find? k = some t

namespace Confined

theorem refl (s : Server) (w : Word) : Confined s w s where
  sessions _ _ := rfl
  accounts _ _ found := Or.inl found
  recorded _ _ found := Or.inl found
  kept _ _ found := found

theorem modifySession (s : Server) (w : Word) (f : SessionInfo → SessionInfo) :
    Confined s w (s.modifySession w f) where
  sessions w' other := by
    rw [Server.modifySession_sessionInfo, OrderedMap.find?_modify, if_neg other]
  accounts _ _ found := Or.inl found
  recorded _ _ found := Or.inl found
  kept _ _ found := found

theorem addAccount (s : Server) (w : Word) (base : Prim.CreateAccountRequest) (q : Qword) :
    Confined s w (s.addAccount w base q) where
  sessions := (modifySession s w (·.setState .accountCreated)).sessions
  accounts _ _ found := Or.inl (s.accountInfo.find?_insert_of_find? q _ found)
  recorded _ _ found := Or.inl found
  kept _ _ found := found

/-- A balance change and a record for the customer of the session. -/
theorem move (s : Server) (w : Word) (q : Qword) (customer : LoggedOnAs s w q)
    (f : AccountInfo → AccountInfo) (qwNow : Qword) (dwAmount : Dword) (wType : TransactionType) :
    Confined s w ((s.modifyAccount q f).recordTransaction qwNow dwAmount wType q) where
  sessions _ _ := rfl
  accounts q' a found := by
    by_cases same : q' = q
    · exact Or.inr (same ▸ customer)
    · -- another account is not touched
      refine Or.inl ?_
      rw [Server.recordTransaction_accountInfo, Server.modifyAccount_accountInfo,
        OrderedMap.find?_modify, if_neg same]
      exact found
  recorded k t found := by
    rcases s.transactionInfo.find?_insert_cases found with old | ⟨_, rfl, _⟩
    · exact Or.inl old
    · exact Or.inr customer
  kept k t found := s.transactionInfo.find?_insert_of_find? _ _ found

theorem payOut (s : Server) (w : Word) (q : Qword) (itA : AccountInfo)
    (customer : LoggedOnAs s w q) (qwNow : Qword) (dwAmount : Dword) (wType : TransactionType) :
    Confined s w (payOut s qwNow dwAmount wType q itA).2.1 := by
  simp only [Cnp.payOut]
  split
  · exact move s w q customer (·.decrBalance dwAmount) qwNow dwAmount wType
  · exact refl s w

theorem withAccount {α : Type} (s : Server) (w : Word) (notLoggedon : CerType) (data : α)
    (act : Qword → AccountInfo → CerType × Server × α)
    (acts : ∀ q itA, LoggedOnAs s w q → Confined s w (act q itA).2.1) :
    Confined s w (withAccount s w notLoggedon data act).server := by
  rcases withAccount_cases s w notLoggedon data act with
    ⟨_, h⟩ | ⟨_, _, _, h⟩ | ⟨_, _, _, _, h⟩ | ⟨itS, itA, session, customer, _, h⟩
  · rw [h]; exact refl s w
  · rw [h]; exact refl s w
  · rw [h]; exact refl s w
  · rw [h]; exact acts _ itA ⟨itS, session, customer, rfl⟩

end Confined

/-! ### What a request changes -/

theorem dispatch_confined (s : Server) (c : Socket) (now : Qword) (r : Request)
    (other : r.type ≠ .connect) : Confined s r.hdr.clientID (dispatch s c now r).server := by
  cases r with
  | connect m => exact absurd rfl other
  | createAccount m beyond =>
    rcases processCreateAccountRequest_cases s m beyond with
      ⟨_, _, _, _, _, _, server⟩ | ⟨_, server⟩
    · simp only [dispatch, server]; exact .addAccount s _ _ _
    · simp only [dispatch, server]; exact .refl s _
  | logon m beyond =>
    rcases processLogonRequest_cases s m beyond with
      ⟨_, _, _, _, _, _, _, server⟩ | ⟨_, _, server⟩
    · simp only [dispatch, server]; exact .modifySession s _ _
    · simp only [dispatch, server]; exact .refl s _
  | logoff m =>
    rcases processLogoffRequest_cases s m with
      ⟨_, _, _, _, server⟩ | ⟨_, _, _, _, server⟩ | ⟨_, _, server⟩
    · simp only [dispatch, server]; exact .modifySession s _ _
    · simp only [dispatch, server]; exact .modifySession s _ _
    · simp only [dispatch, server]; exact .refl s _
  | deposit m =>
    exact .withAccount s _ _ _ _ fun q _ customer =>
      .move s _ q customer (·.incrBalance m.request.amount) now m.request.amount .deposit
  | withdrawal m =>
    exact .withAccount s _ _ _ _ fun q itA customer => .payOut s _ q itA customer _ _ _
  | stampPurchase m =>
    exact .withAccount s _ _ _ _ fun q itA customer => .payOut s _ q itA customer _ _ _
  | balanceQuery m => exact .withAccount s _ _ _ _ fun _ _ _ => .refl s _
  | transactionQuery m => exact .withAccount s _ _ _ _ fun _ _ _ => .refl s _

private theorem withAccount_unknown {α : Type} (s : Server) (w : Word) (notLoggedon : CerType)
    (data : α) (act : Qword → AccountInfo → CerType × Server × α)
    (unknown : s.sessionInfo.find? w = none) :
    (withAccount s w notLoggedon data act).server = s := by
  simp only [withAccount, unknown]

/-- A client ID without a session changes nothing. -/
theorem dispatch_unknown (s : Server) (c : Socket) (now : Qword) (r : Request)
    (other : r.type ≠ .connect) (unknown : s.sessionInfo.find? r.hdr.clientID = none) :
    (dispatch s c now r).server = s := by
  cases r with
  | connect m => exact absurd rfl other
  | createAccount m beyond =>
    rcases processCreateAccountRequest_cases s m beyond with ⟨_, session, _⟩ | ⟨_, server⟩
    · cases unknown.symm.trans session
    · exact server
  | logon m beyond =>
    rcases processLogonRequest_cases s m beyond with ⟨_, _, session, _⟩ | ⟨_, _, server⟩
    · cases unknown.symm.trans session
    · exact server
  | logoff m =>
    rcases processLogoffRequest_cases s m with ⟨_, session, _⟩ | ⟨_, session, _⟩ | ⟨_, _, server⟩
    · cases unknown.symm.trans session
    · cases unknown.symm.trans session
    · exact server
  | deposit m => exact withAccount_unknown s _ _ _ _ unknown
  | withdrawal m => exact withAccount_unknown s _ _ _ _ unknown
  | stampPurchase m => exact withAccount_unknown s _ _ _ _ unknown
  | balanceQuery m => exact withAccount_unknown s _ _ _ _ unknown
  | transactionQuery m => exact withAccount_unknown s _ _ _ _ unknown

/-! ### What a response tells -/

theorem dispatch_recipient (s : Server) (c : Socket) (now : Qword) (r : Request)
    (other : r.type ≠ .connect) (out : Socket × Response)
    (member : out ∈ (dispatch s c now r).sent) :
    ∃ i, s.sessionInfo.find? r.hdr.clientID = some i ∧ i.socket = some out.1 := by
  obtain ⟨resp, sent, _⟩ := dispatch_sent s c now r
  rw [sent, mem_send_iff, replySocket_of_ne_connect s c r other] at member
  exact Option.bind_eq_some_iff.mp member.1

/-- The balance in a response is the customer's, or the marker for no balance. -/
theorem dispatch_balance (s : Server) (c : Socket) (now : Qword) (r : Request)
    (out : Socket × Response) (member : out ∈ (dispatch s c now r).sent) (b : Dword)
    (carries : out.2.balance? = some b) :
    b = invalidBalance ∨ ∃ q a, LoggedOnAs s r.hdr.clientID q ∧
      s.accountInfo.find? q = some a ∧ b = a.balance := by
  by_cases query : r.type = .balanceQuery
  · cases r with
    | balanceQuery m =>
      obtain ⟨_, built⟩ := (mem_send_iff _ _ _).mp member
      rw [built] at carries
      have data := (Option.some.inj carries).symm
      rcases withAccount_cases s m.hdr.clientID .clientNotLoggedon invalidBalance
          (fun _ itA => (.success, s, itA.balance)) with
        ⟨_, h⟩ | ⟨_, _, _, h⟩ | ⟨_, _, _, _, h⟩ | ⟨itS, itA, session, customer, account, h⟩
      · exact Or.inl (data.trans (congrArg Handled.data h))
      · exact Or.inl (data.trans (congrArg Handled.data h))
      · exact Or.inl (data.trans (congrArg Handled.data h))
      · -- the session is logged on and its account is there
        exact Or.inr ⟨_, itA, ⟨itS, session, customer, rfl⟩, account,
          data.trans (congrArg Handled.data h)⟩
    | _ => cases query
  · obtain ⟨resp, sent, answers⟩ := dispatch_sent s c now r
    rw [sent, mem_send_iff] at member
    rw [member.2, answers.balance query] at carries
    cases carries

theorem mem_collectTransactions (q : Qword) (wCount i : Word) (l : List (Dword × TransactionInfo))
    (t : Transaction) (member : t ∈ (collectTransactions q wCount i l).2) :
    ∃ e ∈ l, e.2.customerID = q ∧ e.2.toTransaction = t := by
  induction l generalizing i with
  | nil => cases member
  | cons e rest ih =>
    simp only [collectTransactions] at member
    split at member
    · split at member
      next customer =>
        rcases List.mem_cons.mp member with rfl | tail
        · exact ⟨e, by simp, customer, rfl⟩
        · obtain ⟨e', old, found⟩ := ih _ tail
          exact ⟨e', List.mem_cons_of_mem _ old, found⟩
      · obtain ⟨e', old, found⟩ := ih _ member
        exact ⟨e', List.mem_cons_of_mem _ old, found⟩
    · cases member

/-- The transactions in a response are records of the customer. -/
theorem dispatch_transactions (s : Server) (c : Socket) (now : Qword) (r : Request)
    (out : Socket × Response) (member : out ∈ (dispatch s c now r).sent) (t : Transaction)
    (carries : t ∈ out.2.transactions) :
    ∃ k info, LoggedOnAs s r.hdr.clientID info.customerID ∧
      s.transactionInfo.find? k = some info ∧ info.toTransaction = t := by
  by_cases query : r.type = .transactionQuery
  · cases r with
    | transactionQuery m =>
      obtain ⟨_, built⟩ := (mem_send_iff _ _ _).mp member
      rw [built] at carries
      let act : Qword → AccountInfo → CerType × Server × (Word × List Transaction) :=
        fun q _ => (.success, s, collectTransactions q m.request.transactionCount 0
          (s.transactionInfo.lowerBound m.request.startID))
      have carried : t ∈
          (withAccount s m.hdr.clientID .clientNotLoggedon (0, []) act).data.2 := carries
      rcases withAccount_cases s m.hdr.clientID .clientNotLoggedon (0, []) act with
        ⟨_, h⟩ | ⟨_, _, _, h⟩ | ⟨_, _, _, _, h⟩ | ⟨itS, itA, session, customer, account, h⟩
      · rw [h] at carried; cases carried
      · rw [h] at carried; cases carried
      · rw [h] at carried; cases carried
      · -- the loop visits entries of the table and keeps those of the customer
        rw [h] at carried
        obtain ⟨e, visited, own, rfl⟩ := mem_collectTransactions _ _ _ _ t carried
        have stored := s.transactionInfo.mem_entries_of_mem_lowerBound _ e visited
        exact ⟨e.1, e.2, ⟨itS, session, customer, own.symm⟩,
          (s.transactionInfo.find?_eq_some_iff _ _).mpr stored, rfl⟩
    | _ => cases query
  · obtain ⟨resp, sent, answers⟩ := dispatch_sent s c now r
    rw [sent, mem_send_iff] at member
    rw [member.2, answers.transactions query] at carries
    cases carries

/-! ### Isolation by client ID -/

/-- What connection `c` can do and learn with the request `r` in state `s`. -/
structure Isolation (s : Server) (c : Socket) (r : Request) (o : Outcome) : Prop where
  confined : Confined s r.hdr.clientID o.server
  unknown : s.sessionInfo.find? r.hdr.clientID = none → o.server = s ∧ o.sent = []
  recipient : ∀ out ∈ o.sent,
    ∃ i, s.sessionInfo.find? r.hdr.clientID = some i ∧ i.socket = some out.1
  outsider : (∀ i, s.sessionInfo.find? r.hdr.clientID = some i → i.socket ≠ some c) →
    ∀ out ∈ o.sent, out.1 ≠ c
  balance : ∀ out ∈ o.sent, ∀ b, out.2.balance? = some b →
    b = invalidBalance ∨ ∃ q a, LoggedOnAs s r.hdr.clientID q ∧
      s.accountInfo.find? q = some a ∧ b = a.balance
  transactions : ∀ out ∈ o.sent, ∀ t ∈ out.2.transactions,
    ∃ k info, LoggedOnAs s r.hdr.clientID info.customerID ∧
      s.transactionInfo.find? k = some info ∧ info.toTransaction = t

theorem dispatch_isolation (s : Server) (c : Socket) (now : Qword) (r : Request)
    (other : r.type ≠ .connect) : Isolation s c r (dispatch s c now r) where
  confined := dispatch_confined s c now r other
  unknown none := by
    refine ⟨dispatch_unknown s c now r other none, List.eq_nil_iff_forall_not_mem.mpr ?_⟩
    intro out member
    obtain ⟨i, session, _⟩ := dispatch_recipient s c now r other out member
    cases none.symm.trans session
  recipient := dispatch_recipient s c now r other
  outsider elsewhere := by
    rintro out member rfl
    obtain ⟨i, session, socket⟩ := dispatch_recipient s _ now r other out member
    exact elsewhere i session socket
  balance := dispatch_balance s c now r
  transactions := dispatch_transactions s c now r

/-- In every reachable state the eight other requests are isolated by their client ID. -/
theorem isolation_run (accounts : AccountMap) (transactions : TransactionMap) (ops : List Op)
    (c : Socket) (now : Qword) (r : Request) (other : r.type ≠ .connect) :
    Isolation (run (.boot accounts transactions) ops) c r
      (dispatch (run (.boot accounts transactions) ops) c now r) :=
  dispatch_isolation _ c now r other

theorem isolation_run_withdrawal :
    let s := run (.boot .empty .empty) (Client.firstVisit 7 [65, 110, 110, 97] 4711 500)
    Isolation s 8 (.withdrawal (.init 5 1 200 0))
      (dispatch s 8 0 (.withdrawal (.init 5 1 200 0))) :=
  isolation_run .empty .empty _ 8 0 _ (by decide)

/-- A second connection takes money out of the account that the first one is logged on
to. -/
theorem withdrawal_from_other_connection :
    let s := run .empty (Client.firstVisit 7 [65, 110, 110, 97] 4711 500 ++
      [Client.sendConnect 8 4])
    (∀ i, s.sessionInfo.find? 1 = some i → i.socket ≠ some 8) ∧
      (dispatch s 8 0 (.withdrawal (.init 5 1 200 0))).server ≠ s := by
  intro s
  have seven : (s.sessionInfo.find? 1).map (·.socket) = some (some 7) := by decide +kernel
  have before : (s.accountInfo.find? (generateCustomerID [65, 110, 110, 97] 4 4711)).map
      (·.balance) = some 500 := by decide +kernel
  have after : ((dispatch s 8 0 (.withdrawal (.init 5 1 200 0))).server.accountInfo.find?
      (generateCustomerID [65, 110, 110, 97] 4 4711)).map (·.balance) = some 300 := by
    decide +kernel
  constructor
  · intro i session
    rw [session, Option.map_some, Option.some.injEq] at seven
    rw [seven]
    decide
  · intro same
    rw [same, before] at after
    exact absurd after (by decide)

end Cnp
