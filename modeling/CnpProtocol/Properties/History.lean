import CnpProtocol.Properties.Integrity

/-!
# Histories

The log of a run: every operation with the result code its handler computed. The account
table is the list of the creations in the log: an account keeps the name, the PIN and the
other data it was created with, and nothing removes it.
-/

namespace Cnp

/-- An operation and the result code of its handler; `Disconnect` and a restart have none. -/
structure Event where
  op : Op
  cerRR : Option CerType

/-- What an operation does to the log. -/
def event (s : Server) (op : Op) : Event where
  op := op
  cerRR := match op with
    | .message c now r => some (dispatch s c now r).cerRR
    | _ => none

def history (s : Server) (ops : List Op) : List Event := Run.outputs step event s ops

/-- A successful logon leaves its session with the customer ID of the request. -/
theorem session_of_logon (s : Server) (m : LogonRequest) (beyond : List Byte)
    (itS : SessionInfo) (session : s.sessionInfo.find? m.hdr.clientID = some itS) :
    (s.modifySession m.hdr.clientID fun i =>
        (i.setCustomerID (m.customerID beyond)).setState .loggedOn).sessionInfo.find?
      m.hdr.clientID = some ((itS.setCustomerID (m.customerID beyond)).setState .loggedOn) := by
  rw [Server.modifySession_sessionInfo, OrderedMap.find?_modify, if_pos rfl, session,
    Option.map_some]

/-! ### Account creations -/

/-- The customer ID and the data of an account that an event creates. -/
def Event.created? : Event → Option (Qword × Prim.CreateAccountRequest)
  | ⟨.message _ _ (.createAccount m beyond), some .success⟩ =>
    some (m.customerID beyond, m.request)
  | _ => none

/-- The accounts created in a run that starts from empty tables. -/
def creations (ops : List Op) : List (Qword × Prim.CreateAccountRequest) :=
  (history .empty ops).filterMap Event.created?

/-- The account data under a customer ID, without the balance. -/
def Server.accountData (s : Server) (q : Qword) : Option Prim.CreateAccountRequest :=
  (s.accountInfo.find? q).map (·.toCreateAccountRequest)

theorem accountData_modifyAccount (s : Server) (q : Qword) (f : AccountInfo → AccountInfo)
    (base : ∀ a, (f a).toCreateAccountRequest = a.toCreateAccountRequest) :
    (s.modifyAccount q f).accountData = s.accountData := by
  funext q'
  rw [Server.accountData, Server.modifyAccount_accountInfo, OrderedMap.find?_modify]
  split
  next same =>
    rw [same, Option.map_map]
    exact congrFun (congrArg Option.map (funext base)) _
  · rfl

/-- Only a `CreateAccount` changes account data. -/
theorem Effect.accountData {s s' : Server} {op : Op} (own : OwnKeys s) (e : Effect s op s')
    (other : ∀ c now m beyond, op ≠ .message c now (.createAccount m beyond)) :
    s'.accountData = s.accountData := by
  cases e with
  | created c now m beyond => exact absurd rfl (other c now m beyond)
  | paidIn _ qwNow dwAmount q itA account =>
    exact accountData_modifyAccount s q (·.incrBalance dwAmount) fun _ => rfl
  | paidOut _ qwNow dwAmount wType debit q itA account covered =>
    simp only [payOut, if_pos covered]
    exact accountData_modifyAccount s q (·.decrBalance dwAmount) fun _ => rfl
  | restarted accounts transactions =>
    rw [restart_eq accounts transactions s own]
    rfl
  | _ => rfl

/-- An operation that creates an account adds its data under an unused customer ID; every
other operation keeps the data. -/
theorem step_accountData (s : Server) (own : OwnKeys s) (op : Op) :
    (∃ q r, (event s op).created? = some (q, r) ∧ s.accountData q = none ∧
      ∀ q', (step s op).accountData q' = if q' = q then some r else s.accountData q') ∨
    ((event s op).created? = none ∧ (step s op).accountData = s.accountData) := by
  by_cases create : ∃ c now m beyond, op = .message c now (.createAccount m beyond)
  · obtain ⟨c, now, m, beyond, rfl⟩ := create
    rcases processCreateAccountRequest_cases s m beyond with
      ⟨itS, _, _, _, unused, code, server⟩ | ⟨code, server⟩
    · -- the account is created
      refine Or.inl ⟨m.customerID beyond, m.request, ?_, ?_, fun q' => ?_⟩
      · simp only [event, dispatch, code, Event.created?]
      · rw [Server.accountData, unused, Option.map_none]
      · simp only [step, dispatch, server, Server.accountData, Server.addAccount,
          Server.modifySession_accountInfo, OrderedMap.find?_insert]
        split
        · rw [unused, Option.getD_none, Option.map_some]
        · rfl
    · refine Or.inr ⟨?_, by simp only [step, dispatch, server]⟩
      -- any code but success creates nothing
      simp only [event, dispatch]
      cases answer : (processCreateAccountRequest s m beyond).cerRR with
      | success => exact absurd answer code
      | _ => rfl
  · -- every other operation
    have other c now m beyond : op ≠ .message c now (.createAccount m beyond) :=
      fun same => create ⟨c, now, m, beyond, same⟩
    refine Or.inr ⟨?_, (step_effect s op).accountData own other⟩
    cases op with
    | message c now r =>
      cases r with
      | createAccount m beyond => exact absurd rfl (other c now m beyond)
      | _ => rfl
    | _ => rfl

/-- The accounts of a state reached from empty tables are those that were created. -/
theorem mem_creations_iff (ops : List Op) (q : Qword) (r : Prim.CreateAccountRequest) :
    (q, r) ∈ creations ops ↔ (run .empty ops).accountData q = some r := by
  have both := Run.history_invariant step event
    (fun past s => References s ∧
      ∀ q r, (q, r) ∈ past.filterMap Event.created? ↔ s.accountData q = some r)
    (fun _ => True) (fun past s op _ h => ?_) .empty ⟨references_empty, fun _ _ => by
      simp [Server.accountData, Server.empty, Server.boot]⟩ ops fun _ _ => trivial
  · exact both.2 q r
  · obtain ⟨references, same⟩ := h
    refine ⟨references.effect (step_effect s op), fun q r => ?_⟩
    rw [List.filterMap_append, List.mem_append, same]
    rcases step_accountData s references.own op with
      ⟨q₁, r₁, created, unused, data⟩ | ⟨created, data⟩
    · rw [List.filterMap_cons_some created, data, List.filterMap_nil, List.mem_singleton,
        Prod.mk.injEq]
      by_cases new : q = q₁
      · -- an unused customer ID was not in the list
        subst new
        simp [unused, eq_comm]
      · simp [new]
    · rw [List.filterMap_cons_none created, data]
      simp

end Cnp
