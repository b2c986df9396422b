import CnpProtocol.Properties.LogonHistory

/-!
# Session states

A session says twice whether somebody is logged on: by its state and by its customer ID.
Logon and Logoff set both. CreateAccount sets the state only, so the two part when an account
is created from a session that is logged on, and they part in no other way.
-/

namespace Cnp

/-- The state of the session says what its customer ID says. -/
def SessionInfo.Agrees (i : SessionInfo) : Prop :=
  i.state = .loggedOn ↔ isValidCustomerID i.customerID = true

instance (i : SessionInfo) : Decidable i.Agrees :=
  inferInstanceAs (Decidable (i.state = .loggedOn ↔ isValidCustomerID i.customerID = true))

def StatesAgree (s : Server) : Prop :=
  ∀ w i, s.sessionInfo.find? w = some i → i.Agrees

/-- The operation creates an account from a session that is logged on. -/
inductive CreatesLoggedOn (s : Server) : Op → Prop
  | intro (c : Socket) (now : Qword) (m : CreateAccountRequest) (beyond : List Byte)
      (itS : SessionInfo) (session : s.sessionInfo.find? m.hdr.clientID = some itS)
      (loggedOn : isValidCustomerID itS.customerID = true)
      (name : isValidName (m.getFirstName beyond) = true)
      (pin : isValidPIN m.request.pin = true)
      (unused : s.accountInfo.find? (m.customerID beyond) = none) :
      CreatesLoggedOn s (.message c now (.createAccount m beyond))

/-! ### One operation -/

section Step

variable {s : Server}

theorem statesAgree_boot (accounts : AccountMap) (transactions : TransactionMap) :
    StatesAgree (.boot accounts transactions) := by
  intro w i found
  cases found

theorem StatesAgree.addSession (h : StatesAgree s) (c : Socket) :
    StatesAgree (s.addSession c) := by
  intro w i found
  rcases s.sessionInfo.find?_insert_cases found with old | ⟨_, rfl, _⟩
  · exact h w i old
  · -- a new session is connected and has no customer
    simp [SessionInfo.Agrees, SessionInfo.init, isValidCustomerID]

/-- An update of one session that leaves its two fields in agreement. -/
theorem StatesAgree.modifySession (h : StatesAgree s) (w : Word)
    (f : SessionInfo → SessionInfo)
    (agrees : ∀ i, s.sessionInfo.find? w = some i → (f i).Agrees) :
    StatesAgree (s.modifySession w f) := by
  intro w' i found
  obtain ⟨i', old, rfl⟩ := s.sessionInfo.find?_modify_eq_some found
  split
  next same =>
    subst same
    exact agrees i' old
  · exact h w' i' old

theorem StatesAgree.effect (h : StatesAgree s) {op : Op} {s' : Server}
    (fine : ¬ CreatesLoggedOn s op) (e : Effect s op s') : StatesAgree s' := by
  cases e with
  | idle => exact h
  | connected c now m => exact h.addSession c
  | created c now m beyond itS session name pin unused =>
    -- nobody is logged on, and the new state does not say so either
    have nobody : ¬ isValidCustomerID itS.customerID = true := fun loggedOn =>
      fine (.intro c now m beyond itS session loggedOn name pin unused)
    have added (accounts : AccountMap) : StatesAgree { s with accountInfo := accounts } := h
    refine (added _).modifySession _ (·.setState .accountCreated) fun i found => ?_
    obtain rfl : itS = i := Option.some.inj (session.symm.trans found)
    simp [SessionInfo.Agrees, SessionInfo.setState, nobody]
  | loggedOn c now m beyond itS itA session name pin account =>
    have valid := m.customerID_valid beyond pin
    refine h.modifySession _ _ fun i found => ?_
    simp [SessionInfo.Agrees, SessionInfo.setState, SessionInfo.setCustomerID, valid]
  | loggedOff c now m itS session customer =>
    refine h.modifySession _ _ fun i found => ?_
    simp [SessionInfo.Agrees, SessionInfo.setState, SessionInfo.setCustomerID, isValidCustomerID]
  | notLoggedOff c now m itS session noCustomer =>
    -- a failed logoff sets the state of a session that has no customer anyway
    refine h.modifySession _ _ fun i found => ?_
    obtain rfl : itS = i := Option.some.inj (session.symm.trans found)
    simp [SessionInfo.Agrees, SessionInfo.setState, noCustomer]
  | paidIn => exact h
  | paidOut _ qwNow dwAmount wType debit q itA account covered =>
    simp only [payOut, if_pos covered]
    exact h
  | disconnected w =>
    exact fun w' i found => h w' i (s.sessionInfo.find?_of_find?_erase found).2
  | restarted => exact statesAgree_boot _ _

/-- After the account creation the session has a customer and the state of one that has
none. -/
theorem CreatesLoggedOn.breaks {op : Op} (bad : CreatesLoggedOn s op) :
    ¬ StatesAgree (step s op) := by
  cases bad with
  | intro c now m beyond itS session loggedOn name pin unused =>
    intro agree
    have server : step s (.message c now (.createAccount m beyond)) =
        s.addAccount m.hdr.clientID m.request (m.customerID beyond) := by
      simp [step, dispatch, processCreateAccountRequest, session, name, pin, unused]
    have found : (step s (.message c now (.createAccount m beyond))).sessionInfo.find?
        m.hdr.clientID = some (itS.setState .accountCreated) := by
      rw [server]
      change (s.sessionInfo.modify _ _).find? _ = _
      rw [OrderedMap.find?_modify, if_pos rfl, session, Option.map_some]
    have state := (agree _ _ found).mpr loggedOn
    cases state

end Step

/-! ### Runs -/

/-- In every run state and login agree in all states, if and only if no account is created
from a session that is logged on. -/
theorem states_agree_iff (accounts : AccountMap) (transactions : TransactionMap)
    (ops : List Op) :
    (∀ before after, ops = before ++ after →
      StatesAgree (run (.boot accounts transactions) before)) ↔
      Run.Avoids step CreatesLoggedOn (.boot accounts transactions) ops :=
  Run.always_iff_avoids StatesAgree StatesAgree (.boot accounts transactions)
    (statesAgree_boot accounts transactions)
    (fun s op fine agree => agree.effect fine (step_effect s op)) (fun _ agree => agree)
    (fun _ _ bad _ => bad.breaks) ops

/-- Anna is logged on and creates a second account, for Bob. -/
theorem create_while_loggedOn :
    let ops := Client.firstVisit 7 [65, 110, 110, 97] 4711 500 ++
      [Client.sendCreateAccount 7 5 1 [66, 111, 98] [] [] 4712]
    ¬ ∀ w i, (run (.boot .empty .empty) ops).sessionInfo.find? w = some i →
      (i.state = .loggedOn ↔ isValidCustomerID i.customerID = true) := by
  intro ops agree
  have found : (run (.boot .empty .empty) ops).sessionInfo.find? 1 =
      some ⟨1, .accountCreated, some 7, generateCustomerID [65, 110, 110, 97] 4 4711⟩ := by
    decide +kernel
  have state := (agree 1 _ found).mpr (by decide +kernel)
  cases state

end Cnp
