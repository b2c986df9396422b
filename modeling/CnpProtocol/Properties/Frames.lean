import CnpProtocol.Properties.AccountRequests

/-!
# Frames

What a request leaves alone: everything but a session's state when it fails, and
everything but the session and the account it names when it succeeds. Both hold in every
state, reachable or not.
-/

namespace Cnp

/-! ### Failed requests -/

/-- A session without its state. -/
def SessionInfo.login (i : SessionInfo) : Word × Option Socket × Qword :=
  (i.clientID, i.socket, i.customerID)

/-- The second state has the money, the records and the logins of the first one. -/
structure Untouched (s s' : Server) : Prop where
  accounts : s'.accountInfo = s.accountInfo
  transactions : s'.transactionInfo = s.transactionInfo
  logins : ∀ w, (s'.sessionInfo.find? w).map SessionInfo.login =
    (s.sessionInfo.find? w).map SessionInfo.login

theorem Untouched.refl (s : Server) : Untouched s s := ⟨rfl, rfl, fun _ => rfl⟩

theorem Untouched.modifySession (s : Server) (w : Word) (f : SessionInfo → SessionInfo)
    (login : ∀ i, (f i).login = i.login) : Untouched s (s.modifySession w f) where
  accounts := rfl
  transactions := rfl
  logins w' := by
    rw [Server.modifySession_sessionInfo, OrderedMap.find?_modify]
    split
    next same =>
      rw [same, Option.map_map]
      exact congrArg (Option.map · _) (funext login)
    · rfl

/-- In every state a request that is not answered with success changes no account, no
transaction and no login. -/
theorem failed_request_untouched (s : Server) (c : Socket) (now : Qword) (r : Request)
    (failed : (dispatch s c now r).cerRR ≠ .success) :
    Untouched s (dispatch s c now r).server := by
  have account (onAccount : r.OnAccount) : Untouched s (dispatch s c now r).server := by
    rcases dispatch_onAccount s c now r onAccount with ⟨_, _, _, _, _, _, success, _⟩ | server
    · exact absurd success failed
    · rw [server]; exact .refl s
  cases r with
  | connect m =>
    rcases processConnectRequest_cases s m c with ⟨_, _, _, success, _⟩ | ⟨_, server⟩
    · exact absurd success failed
    · simp only [dispatch, server]; exact .refl s
  | createAccount m beyond =>
    rcases processCreateAccountRequest_cases s m beyond with
      ⟨_, _, _, _, _, success, _⟩ | ⟨_, server⟩
    · exact absurd success failed
    · simp only [dispatch, server]; exact .refl s
  | logon m beyond =>
    rcases processLogonRequest_cases s m beyond with
      ⟨_, _, _, _, _, _, success, _⟩ | ⟨_, _, server⟩
    · exact absurd success failed
    · simp only [dispatch, server]; exact .refl s
  | logoff m =>
    rcases processLogoffRequest_cases s m with
      ⟨_, _, _, success, _⟩ | ⟨_, _, _, _, server⟩ | ⟨_, _, server⟩
    · exact absurd success failed
    · -- the state of a session that is not logged on becomes `loggedOff`
      simp only [dispatch, server]
      exact .modifySession s _ _ fun _ => rfl
    · simp only [dispatch, server]; exact .refl s
  | deposit m => exact account trivial
  | withdrawal m => exact account trivial
  | balanceQuery m => exact account trivial
  | transactionQuery m => exact account trivial
  | stampPurchase m => exact account trivial

/-- Anna has 500 and withdraws 900. -/
theorem failed_request_untouched_anna :
    let s := run (.boot .empty .empty) (Client.firstVisit 7 [65, 110, 110, 97] 4711 500)
    Untouched s (dispatch s 7 0 (.withdrawal (.init 4 1 900 0))).server :=
  failed_request_untouched _ 7 0 _ (by decide +kernel)

/-! ### What a request touches -/

/-- All changes between the two states are those a request may make in the name of its
client ID. -/
structure Touches (s : Server) (r : Request) (s' : Server) : Prop where
  otherSessions : ∀ w, w ≠ r.hdr.clientID → s'.sessionInfo.find? w = s.sessionInfo.find? w
  ownSession : (s'.sessionInfo.find? r.hdr.clientID).map (fun i => (i.clientID, i.socket)) =
    (s.sessionInfo.find? r.hdr.clientID).map fun i => (i.clientID, i.socket)
  transactionsKept : ∀ k t, s.transactionInfo.find? k = some t →
    s'.transactionInfo.find? k = some t
  accountsKept : ∀ q a, s.accountInfo.find? q = some a →
    ∃ a', s'.accountInfo.find? q = some a' ∧
      a'.toCreateAccountRequest = a.toCreateAccountRequest ∧ a'.customerID = a.customerID
  balances : ∀ q a a', s.accountInfo.find? q = some a → s'.accountInfo.find? q = some a' →
    a'.balance ≠ a.balance → LoggedOnAs s r.hdr.clientID q ∧
      (r.type = .deposit ∨ r.type = .withdrawal ∨ r.type = .purchaseStamps)
  added : ∀ q a, s.accountInfo.find? q = none → s'.accountInfo.find? q = some a →
    r.type = .createAccount ∧ a.balance = 0
  addedOnce : ∀ q q', s.accountInfo.find? q = none → s.accountInfo.find? q' = none →
    (s'.accountInfo.find? q).isSome = true → (s'.accountInfo.find? q').isSome = true → q = q'
  queries : r.type = .balanceQuery ∨ r.type = .transactionQuery → s' = s

namespace Touches

variable (s : Server) (r : Request)

/-- A change of the sessions alone. -/
theorem of_sessions (s' : Server)
    (otherSessions : ∀ w, w ≠ r.hdr.clientID → s'.sessionInfo.find? w = s.sessionInfo.find? w)
    (ownSession : (s'.sessionInfo.find? r.hdr.clientID).map (fun i => (i.clientID, i.socket)) =
      (s.sessionInfo.find? r.hdr.clientID).map fun i => (i.clientID, i.socket))
    (accounts : s'.accountInfo = s.accountInfo)
    (transactions : s'.transactionInfo = s.transactionInfo)
    (queries : r.type = .balanceQuery ∨ r.type = .transactionQuery → s' = s) :
    Touches s r s' where
  otherSessions := otherSessions
  ownSession := ownSession
  transactionsKept k t found := transactions ▸ found
  accountsKept q a found := ⟨a, accounts ▸ found, rfl, rfl⟩
  balances q a a' old new := by
    rw [accounts, old, Option.some.injEq] at new
    exact fun changed => absurd (congrArg AccountInfo.balance new.symm) changed
  added q a old new := by
    rw [accounts, old] at new
    cases new
  addedOnce q q' old _ new := by
    rw [accounts, old] at new
    cases new
  queries := queries

theorem refl : Touches s r s := of_sessions s r s (fun _ _ => rfl) rfl rfl rfl fun _ => rfl

theorem modifySession (f : SessionInfo → SessionInfo)
    (kept : ∀ i, (f i).clientID = i.clientID ∧ (f i).socket = i.socket)
    (other : r.type ≠ .balanceQuery ∧ r.type ≠ .transactionQuery) :
    Touches s r (s.modifySession r.hdr.clientID f) := by
  refine of_sessions s r _ (fun w different => ?_) ?_ rfl rfl
    fun query => (query.elim other.1 other.2).elim
  · rw [Server.modifySession_sessionInfo, OrderedMap.find?_modify, if_neg different]
  · rw [Server.modifySession_sessionInfo, OrderedMap.find?_modify, if_pos rfl, Option.map_map]
    exact congrArg (Option.map · _)
      (funext fun i => Prod.ext (kept i).1 (kept i).2)

/-- A new account; one that is there already stays as it is. -/
theorem addAccount (m : CreateAccountRequest) (beyond : List Byte) :
    Touches s (.createAccount m beyond)
      (s.addAccount m.hdr.clientID m.request (m.customerID beyond)) := by
  have sessions := modifySession s (.createAccount m beyond) (·.setState .accountCreated)
    (fun _ => ⟨rfl, rfl⟩) (by simp [Request.type])
  -- `insert` overwrites nothing
  have kept (q : Qword) (a : AccountInfo) (found : s.accountInfo.find? q = some a) :
      (s.addAccount m.hdr.clientID m.request (m.customerID beyond)).accountInfo.find? q = some a :=
    s.accountInfo.find?_insert_of_find? _ _ found
  have new (q : Qword) (a : AccountInfo) (absent : s.accountInfo.find? q = none)
      (found : (s.addAccount m.hdr.clientID m.request (m.customerID beyond)).accountInfo.find? q =
        some a) : q = m.customerID beyond ∧ a.balance = 0 := by
    rcases s.accountInfo.find?_insert_cases found with old | ⟨rfl, rfl, _⟩
    · cases absent.symm.trans old
    · exact ⟨rfl, rfl⟩
  exact {
    otherSessions := sessions.otherSessions
    ownSession := sessions.ownSession
    transactionsKept := fun k t found => found
    accountsKept := fun q a found => ⟨a, kept q a found, rfl, rfl⟩
    balances := fun q a a' old found changed => by
      rw [kept q a old, Option.some.injEq] at found
      exact absurd (congrArg AccountInfo.balance found.symm) changed
    added := fun q a absent found => ⟨rfl, (new q a absent found).2⟩
    addedOnce := fun q q' absent absent' found found' => by
      obtain ⟨a, found⟩ := Option.isSome_iff_exists.mp found
      obtain ⟨a', found'⟩ := Option.isSome_iff_exists.mp found'
      rw [(new q a absent found).1, (new q' a' absent' found').1]
    queries := fun query => by simp [Request.type] at query }

/-- A balance update of the session's account and a record. -/
theorem book (m : MoneyRequest) (now : Qword) {itS : SessionInfo} {itA : AccountInfo}
    (found : AccountFound s m.clientID itS itA) :
    Touches s m.toRequest (m.book s now itS.customerID) := by
  have lookup (q : Qword) : (m.book s now itS.customerID).accountInfo.find? q =
      if q = itS.customerID then some (m.update itA) else s.accountInfo.find? q := by
    rw [MoneyRequest.book_accountInfo, OrderedMap.find?_modify, found.account, Option.map_some]
  have still (q : Qword) (absent : s.accountInfo.find? q = none) :
      (m.book s now itS.customerID).accountInfo.find? q = none := by
    rw [lookup, if_neg, absent]
    rintro rfl
    cases absent.symm.trans found.account
  exact {
    otherSessions := fun _ _ => rfl
    ownSession := rfl
    transactionsKept := fun k t old => s.transactionInfo.find?_insert_of_find? _ _ old
    accountsKept := fun q a old => by
      rw [lookup]
      split
      next same =>
        -- the update writes the balance only
        rw [same, found.account, Option.some.injEq] at old
        subst old
        exact ⟨_, rfl, m.update_base itA, m.update_customerID itA⟩
      · exact ⟨a, old, rfl, rfl⟩
    balances := fun q a a' old new changed => by
      rw [lookup] at new
      split at new
      next same =>
        -- the balance of the session's own account
        refine ⟨same ▸ found.loggedOnAs, ?_⟩
        cases m <;> simp [MoneyRequest.toRequest, Request.type]
      · rw [old, Option.some.injEq] at new
        exact absurd (congrArg AccountInfo.balance new.symm) changed
    added := fun q a absent new => by cases (still q absent).symm.trans new
    addedOnce := fun q q' absent _ new => by
      rw [still q absent] at new
      cases new
    queries := fun query => by
      cases m <;> simp [MoneyRequest.toRequest, Request.type] at query }

end Touches

/-- In every state each request but a connect touches nothing but what it names. -/
theorem dispatch_touches (s : Server) (c : Socket) (now : Qword) (r : Request)
    (other : r.type ≠ .connect) : Touches s r (dispatch s c now r).server := by
  -- a request on an account books, or does nothing
  have account (onAccount : r.OnAccount) : Touches s r (dispatch s c now r).server := by
    rcases dispatch_onAccount s c now r onAccount with
      ⟨m, itS, itA, rfl, found, _, _, server⟩ | server
    · rw [server]; exact .book s m now found
    · rw [server]; exact .refl s r
  cases r with
  | connect m => exact absurd rfl other
  | createAccount m beyond =>
    rcases processCreateAccountRequest_cases s m beyond with
      ⟨_, _, _, _, _, _, server⟩ | ⟨_, server⟩
    · simp only [dispatch, server]; exact .addAccount s m beyond
    · simp only [dispatch, server]; exact .refl s _
  | logon m beyond =>
    rcases processLogonRequest_cases s m beyond with
      ⟨_, _, _, _, _, _, _, server⟩ | ⟨_, _, server⟩
    · simp only [dispatch, server]
      exact .modifySession s (.logon m beyond) _ (fun _ => ⟨rfl, rfl⟩) (by simp [Request.type])
    · simp only [dispatch, server]; exact .refl s _
  | logoff m =>
    rcases processLogoffRequest_cases s m with
      ⟨_, _, _, _, server⟩ | ⟨_, _, _, _, server⟩ | ⟨_, _, server⟩
    · simp only [dispatch, server]
      exact .modifySession s (.logoff m) _ (fun _ => ⟨rfl, rfl⟩) (by simp [Request.type])
    · simp only [dispatch, server]
      exact .modifySession s (.logoff m) _ (fun _ => ⟨rfl, rfl⟩) (by simp [Request.type])
    · simp only [dispatch, server]; exact .refl s _
  | deposit m => exact account trivial
  | withdrawal m => exact account trivial
  | balanceQuery m => exact account trivial
  | transactionQuery m => exact account trivial
  | stampPurchase m => exact account trivial

/-- Anna pays in 200. -/
theorem dispatch_touches_deposit :
    let s := run (.boot .empty .empty) (Client.firstVisit 7 [65, 110, 110, 97] 4711 500)
    Touches s (.deposit (.init 4 1 200 .cash 0))
      (dispatch s 7 0 (.deposit (.init 4 1 200 .cash 0))).server :=
  dispatch_touches _ 7 0 _ (by decide)

end Cnp
