import CnpProtocol.Properties.Authentication

/-!
# Storage

What is saved comes back, and an account that was created is there for every later logon
with its name and PIN, across restarts and whatever was loaded first.
-/

namespace Cnp

variable (accounts : RecordImage AccountInfo) (transactions : RecordImage TransactionInfo)

/-! ### Saving and loading -/

/-- Saving and loading into empty tables restores both tables, and both count all their
records. -/
theorem load_save (s : Server) (own : OwnKeys s) (sessions : SessionMap) :
    let saved := saveServerDB accounts transactions s
    let loaded := loadServerDB accounts transactions saved.2 ⟨sessions, .empty, .empty⟩
    loaded.2 = ⟨sessions, s.accountInfo, s.transactionInfo⟩ ∧
      saved.1 = s.accountInfo.size + s.transactionInfo.size ∧
      loaded.1 = s.accountInfo.size + s.transactionInfo.size := by
  intro saved loaded
  have both := loadServerDB_saved accounts transactions s own sessions
  refine ⟨congrArg Prod.snd both, ?_, congrArg Prod.fst both⟩
  simp only [saved, saveServerDB, saveContainer_eq]

/-- One customer with a deposit and a withdrawal. -/
theorem load_save_anna :
    let s := run .empty (Client.firstVisit 7 [65, 110, 110, 97] 4711 500 ++
      [Client.sendWithdrawal 7 4 1 200])
    let a := accountInfoImage ⟨[0, 0, 0, 0, 0, 0], rfl⟩ ⟨[0, 0, 0, 0], rfl⟩
    let t := transactionInfoImage ⟨[0, 0, 0, 0, 0, 0], rfl⟩
    (loadServerDB a t (saveServerDB a t s).2 .empty).2 = .boot s.accountInfo s.transactionInfo :=
  (load_save _ _ _ (references_run _).own .empty).1

/-! ### Accounts that stay -/

/-- No operation changes or removes the data of an account. -/
theorem accountData_run (s : Server) (own : OwnKeys s) (q : Qword) (r : Prim.CreateAccountRequest)
    (ops : List Op) (created : s.accountData q = some r) :
    (run s ops).accountData q = some r := by
  have both := Run.invariant step (fun s => OwnKeys s ∧ s.accountData q = some r) (fun _ => True)
    (fun s op _ h => ⟨h.1.effect (step_effect s op), ?_⟩) s ⟨own, created⟩ ops fun _ _ => trivial
  · exact both.2
  · rcases step_accountData s h.1 op with ⟨q', r', _, unused, data⟩ | ⟨_, data⟩
    · -- a new account has a customer ID of its own
      have other : q ≠ q' := by
        rintro rfl
        rw [unused] at h
        cases h.2
      rw [data, if_neg other]
      exact h.2
    · rw [data]
      exact h.2

/-- A successful `CreateAccount` had a valid name and PIN and stored its request. -/
theorem created_of_success (s : Server) (m : CreateAccountRequest) (beyond : List Byte)
    (success : (processCreateAccountRequest s m beyond).cerRR = .success) :
    isValidName (m.getFirstName beyond) = true ∧ isValidPIN m.request.pin = true ∧
      (processCreateAccountRequest s m beyond).server.accountData (m.customerID beyond) =
        some m.request := by
  rcases processCreateAccountRequest_cases s m beyond with
    ⟨itS, _, name, pin, unused, _, server⟩ | ⟨code, _⟩
  · refine ⟨name, pin, ?_⟩
    rw [server]
    simp only [Server.accountData, Server.addAccount, Server.modifySession_accountInfo,
      OrderedMap.find?_insert, if_true, unused, Option.getD_none, Option.map_some]
  · exact absurd success code

/-- A logon with a live session and an account under its customer ID binds the session. -/
theorem logon_binds (s : Server) (m : LogonRequest) (beyond : List Byte)
    (live : (s.sessionInfo.find? m.hdr.clientID).isSome = true)
    (name : isValidName (m.getFirstName beyond) = true) (pin : isValidPIN m.request.pin = true)
    (account : (s.accountData (m.customerID beyond)).isSome = true) :
    let o := processLogonRequest s m beyond
    o.cerRR = .success ∧ o.server.accountData = s.accountData ∧
      ∃ itS, o.server.sessionInfo.find? m.hdr.clientID = some itS ∧
        itS.customerID = m.customerID beyond := by
  intro o
  rcases processLogonRequest_cases s m beyond with
    ⟨itS, itA, session, _, _, _, code, server⟩ | ⟨reason, _, _⟩
  · have bound := session_of_logon s m beyond itS session
    rw [← server] at bound
    refine ⟨code, ?_, _, bound, rfl⟩
    simp only [o, server]
    rfl
  · -- each reason for a refusal is excluded
    rcases reason with none | invalid | invalid | unknown
    · rw [none] at live
      cases live
    · rw [name] at invalid
      cases invalid
    · rw [pin] at invalid
      cases invalid
    · rw [Server.accountData, unknown] at account
      cases account

section Constructors

variable (szFirstName szLastName szEmailAddress : List Byte) (wPIN : Word)

/-- Both constructors store the name alike, so both handlers compute one customer ID and
judge the name alike. -/
theorem constructors_agree (dwSequence dwSequence' : Dword) (wClientID w : Word)
    (dwSSN dwDLN dwContext dwContext' : Dword) (beyond beyond' : List Byte) :
    let m := CreateAccountRequest.init dwSequence wClientID szFirstName szLastName szEmailAddress
      wPIN dwSSN dwDLN dwContext
    let l := LogonRequest.init dwSequence' w szFirstName wPIN dwContext'
    l.customerID beyond' = m.customerID beyond ∧
      isValidName (l.getFirstName beyond') = isValidName (m.getFirstName beyond) := by
  intro m l
  have terminated := NameField.zero_mem_set_zero szFirstName
  have logon : Bytes.cString (l.getFirstName beyond') =
      Bytes.cString (NameField.zero.set szFirstName).bytes :=
    Bytes.cString_append _ _ terminated
  have create : Bytes.cString (m.getFirstName beyond) =
      Bytes.cString (NameField.zero.set szFirstName).bytes :=
    Bytes.cString_append _ _ terminated
  constructor
  · rw [LogonRequest.customerID, CreateAccountRequest.customerID, generateCustomerID_eq_iff,
      logon, create]
    exact ⟨rfl, rfl⟩
  · rw [Bool.eq_iff_iff, isValidName_iff, isValidName_iff, logon, create]

end Constructors

/-! ### Logging on again -/

/-- On a server started with any store and after any run: once a `CREATE_ACCOUNT_REQUEST`
of the constructor was answered `CER_SUCCESS`, a `LOGON_REQUEST` of the constructor with
the same name and PIN succeeds on every live session after any further run, and binds the
session to the account that holds the data of the creation. -/
theorem logon_after_creation (store : Store) (before after : List Op) (c c' : Socket)
    (now now' : Qword) (dwSequence dwSequence' : Dword) (wClientID w : Word)
    (szFirstName szLastName szEmailAddress : List Byte) (wPIN : Word)
    (dwSSN dwDLN dwContext dwContext' : Dword) (beyond beyond' : List Byte) :
    let m := CreateAccountRequest.init dwSequence wClientID szFirstName szLastName szEmailAddress
      wPIN dwSSN dwDLN dwContext
    let l := LogonRequest.init dwSequence' w szFirstName wPIN dwContext'
    let s := run (loadServerDB accounts transactions store .empty).2 before
    let created := dispatch s c now (.createAccount m beyond)
    let s' := run created.server after
    let o := dispatch s' c' now' (.logon l beyond')
    created.cerRR = .success → (s'.sessionInfo.find? w).isSome = true →
      o.cerRR = .success ∧ ∃ itS, o.server.sessionInfo.find? w = some itS ∧
        itS.customerID = m.customerID beyond ∧
        o.server.accountData (m.customerID beyond) = some m.request := by
  intro m l s created s' o success live
  have own : OwnKeys s :=
    ownKeys_run _ (ownKeys_loadServerDB accounts transactions store) before
  obtain ⟨name, pin, stored⟩ := created_of_success s m beyond success
  have kept : s'.accountData (m.customerID beyond) = some m.request :=
    accountData_run _ (own.effect (step_effect s (.message c now (.createAccount m beyond)))) _ _
      after stored
  obtain ⟨key, valid⟩ := constructors_agree szFirstName szLastName szEmailAddress wPIN dwSequence
    dwSequence' wClientID w dwSSN dwDLN dwContext dwContext' beyond beyond'
  obtain ⟨code, data, itS, session, customer⟩ := logon_binds s' l beyond' live
    (by rw [valid]; exact name) pin (by rw [key, kept, Option.isSome_some])
  refine ⟨code, itS, session, customer.trans key, ?_⟩
  rw [← kept]
  exact congrFun data _

/-- A name of 35 characters, of which the messages keep 31. -/
def longName : List Byte := List.replicate 35 97

/-- The customer with the long name logs on on connection 8 after the server was started
again. -/
theorem logon_after_creation_long :
    let a := accountInfoImage ⟨[0, 0, 0, 0, 0, 0], rfl⟩ ⟨[0, 0, 0, 0], rfl⟩
    let t := transactionInfoImage ⟨[0, 0, 0, 0, 0, 0], rfl⟩
    let s := run (loadServerDB a t ⟨[], []⟩ .empty).2 [Client.sendConnect 7 0]
    let created := dispatch s 7 0 (.createAccount (.init 1 1 longName [] [] 4711 0 0 0) [])
    let s' := run created.server [.restart a t, Client.sendConnect 8 2]
    (dispatch s' 8 0 (.logon (.init 3 1 longName 4711 0) [])).cerRR = .success := by
  intro a t s created s'
  have started : (loadServerDB a t ⟨[], []⟩ .empty).2 = .empty := by
    simp only [loadServerDB, loadContainer, Server.empty, Server.boot, loadRecords_end]
  have connected : s = run .empty [Client.sendConnect 7 0] := by simp only [s, started]
  have success : created.cerRR = .success := by
    simp only [created, connected]
    decide +kernel
  have own : OwnKeys created.server := by
    simp only [created, connected]
    exact (references_run [Client.sendConnect 7 0, .message 7 0 (.createAccount
      (.init 1 1 longName [] [] 4711 0 0 0) [])]).own
  have live : (s'.sessionInfo.find? 1).isSome = true := by
    -- the restart ends session 1, and the connection takes its client ID
    have again : s' = (Server.boot created.server.accountInfo
        created.server.transactionInfo).addSession 8 := by
      change (restart a t created.server).addSession 8 = _
      rw [restart_eq a t created.server own]
    rw [again]
    rfl
  exact (logon_after_creation a t ⟨[], []⟩ _ _ 7 8 0 0 1 3 1 1 longName [] [] 4711 0 0 0 0 [] []
    success live).1

end Cnp
