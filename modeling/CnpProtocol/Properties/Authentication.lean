import CnpProtocol.Server.ClientRequests
import CnpProtocol.Properties.History

/-!
# Authentication

A logon compares neither names nor PINs: it selects the account under the customer ID of
the request. The ID holds the PIN and 16 bits of the name's hash, so a logon
authenticates the PIN, and the name up to collisions of those bits.
-/

namespace Cnp

/-- If the logon succeeds, the account it selects was created with the name and the PIN of
the request. -/
def Authenticates (ops : List Op) (m : LogonRequest) (beyond : List Byte) : Prop :=
  let o := processLogonRequest (run .empty ops) m beyond
  o.cerRR = .success →
    ∃ itS r, o.server.sessionInfo.find? m.hdr.clientID = some itS ∧
      (itS.customerID, r) ∈ creations ops ∧
      r.firstName.string = m.request.firstName.string ∧ r.pin = m.request.pin

/-- No account with this PIN has another name with the same hash bits in its ID. -/
def NoCollision (s : Server) (szName : List Byte) (wPIN : Word) : Prop :=
  ∀ q a, s.accountInfo.find? q = some a → a.pin = wPIN → hashHalf q = nameBits szName →
    a.firstName.string = szName

theorem created_of_account (ops : List Op) (q : Qword) (a : AccountInfo)
    (account : (run .empty ops).accountInfo.find? q = some a) :
    (q, a.toCreateAccountRequest) ∈ creations ops := by
  rw [mem_creations_iff, Server.accountData, account, Option.map_some]

/-- The lower half of an account's customer ID is its PIN, whatever its name is. -/
theorem customerID_of_account (ops : List Op) (q : Qword) (a : AccountInfo)
    (account : (run .empty ops).accountInfo.find? q = some a) :
    q = (hashHalf q ++ a.pin).setWidth 64 := by
  have created := created_of_account ops q a account
  obtain ⟨e, _, creates⟩ := List.mem_filterMap.mp created
  unfold Event.created? at creates
  split at creates
  next m beyond =>
    -- the key was computed from the PIN that is stored
    obtain ⟨key, data⟩ := Prod.mk.inj (Option.some.inj creates)
    rw [← data, ← key, CreateAccountRequest.customerID, generateCustomerID_strlen, hashHalf_joined]
  · cases creates

/-- The customer ID of a logon whose name is terminated in its field. -/
theorem LogonRequest.customerID_eq (m : LogonRequest) (beyond : List Byte)
    (terminated : 0 ∈ m.request.firstName.bytes) :
    m.customerID beyond =
      (nameBits m.request.firstName.string ++ m.request.pin).setWidth 64 := by
  rw [LogonRequest.customerID, generateCustomerID_strlen, LogonRequest.getFirstName,
    Bytes.cString_append _ _ terminated]
  rfl

theorem isValidName_logon (m : LogonRequest) (beyond : List Byte)
    (terminated : 0 ∈ m.request.firstName.bytes) :
    isValidName (m.getFirstName beyond) = true ↔ m.request.firstName.string ≠ [] := by
  rw [isValidName_iff, LogonRequest.getFirstName, Bytes.cString_append _ _ terminated]
  rfl

/-- Whenever the logon reaches an account, it authenticates exactly when no account
collides with the request. -/
theorem authenticates_iff_noCollision (ops : List Op) (m : LogonRequest) (beyond : List Byte)
    (terminated : 0 ∈ m.request.firstName.bytes) :
    Authenticates ops m beyond ↔
      (run .empty ops).sessionInfo.find? m.hdr.clientID = none ∨
      m.request.firstName.string = [] ∨ m.request.pin = invalidPin ∨
      NoCollision (run .empty ops) m.request.firstName.string m.request.pin := by
  have key := m.customerID_eq beyond terminated
  have named := isValidName_logon m beyond terminated
  -- every colliding account is the selected one
  have colliding (q : Qword) (a : AccountInfo)
      (found : (run .empty ops).accountInfo.find? q = some a) (samePin : a.pin = m.request.pin)
      (half : hashHalf q = nameBits m.request.firstName.string) : q = m.customerID beyond := by
    rw [customerID_of_account ops q a found, half, samePin, key]
  rcases processLogonRequest_cases (run .empty ops) m beyond with
    ⟨itS, itA, session, name, pin, account, code, server⟩ | ⟨reason, code, server⟩
  · -- the logon succeeds and selects `itA`
    have created := created_of_account ops _ itA account
    have samePin : itA.pin = m.request.pin := by
      have joined := customerID_of_account ops _ itA account
      rw [key, hashHalf_joined, joined_eq_iff] at joined
      exact joined.2.symm
    have selected := session_of_logon (run .empty ops) m beyond itS session
    constructor
    · intro authenticates
      refine Or.inr (Or.inr (Or.inr fun q a found apin half => ?_))
      have same := colliding q a found apin half
      obtain ⟨itS', r, session', created', sameName, _⟩ := authenticates code
      rw [server, selected] at session'
      cases session'
      have data := (mem_creations_iff ops _ _).mp (created_of_account ops q a found)
      rw [same] at data
      cases data.symm.trans ((mem_creations_iff ops _ _).mp created')
      exact sameName
    · intro condition _
      have noCollision : NoCollision (run .empty ops) m.request.firstName.string m.request.pin := by
        rcases condition with none | empty | zero | noCollision
        · rw [session] at none
          cases none
        · exact absurd empty (named.mp name)
        · exact absurd zero ((isValidPIN_iff _).mp pin)
        · exact noCollision
      have sameName := noCollision _ itA account samePin (by rw [key, hashHalf_joined])
      refine ⟨(itS.setCustomerID (m.customerID beyond)).setState .loggedOn,
        itA.toCreateAccountRequest, ?_, created, sameName, samePin⟩
      rw [server]
      exact selected
  · -- nothing is promised about a logon that fails
    constructor
    · intro _
      rcases reason with none | name | pin | unknown
      · exact Or.inl none
      · refine Or.inr (Or.inl (by_contra fun nonempty => ?_))
        rw [named.mpr nonempty] at name
        cases name
      · refine Or.inr (Or.inr (Or.inl (by_contra fun nonzero => ?_)))
        rw [(isValidPIN_iff _).mpr nonzero] at pin
        cases pin
      · -- a colliding account would have been found
        refine Or.inr (Or.inr (Or.inr fun q a found apin half => ?_))
        rw [colliding q a found apin half, unknown] at found
        cases found
    · exact fun _ success => absurd success code

/-- For every run and every `LOGON_REQUEST` of the constructor: the logon authenticates
exactly when it is refused before the lookup or no account collides with it. -/
theorem logon_authenticates_iff (ops : List Op) (dwSequence : Dword) (wClientID : Word)
    (szFirstName : List Byte) (wPIN : Word) (dwContext : Dword) (beyond : List Byte) :
    Authenticates ops (.init dwSequence wClientID szFirstName wPIN dwContext) beyond ↔
      (run .empty ops).sessionInfo.find? wClientID = none ∨
      (Bytes.cString szFirstName).take (maxNameLen - 1) = [] ∨ wPIN = invalidPin ∨
      NoCollision (run .empty ops) ((Bytes.cString szFirstName).take (maxNameLen - 1)) wPIN := by
  have stored : (LogonRequest.init dwSequence wClientID szFirstName wPIN
      dwContext).request.firstName.string = (Bytes.cString szFirstName).take (maxNameLen - 1) :=
    NameField.string_set_zero szFirstName
  rw [← stored]
  exact authenticates_iff_noCollision ops _ beyond (NameField.zero_mem_set_zero szFirstName)

/-- Dan has opened an account with PIN 4711; Eaq logs on to it with the same PIN. -/
theorem eaq_logs_on_to_dan :
    ¬ Authenticates (Client.firstVisit 7 [68, 97, 110] 4711 500)
      (.init 4 1 [69, 97, 113] 4711 0) [] := by
  rw [authenticates_iff_noCollision _ _ _ (NameField.zero_mem_set_zero _)]
  have dan : ((run .empty (Client.firstVisit 7 [68, 97, 110] 4711 500)).accountInfo.find?
      (generateCustomerID [69, 97, 113] 3 4711)).map (fun a => (a.pin, a.firstName.string)) =
        some (4711, [68, 97, 110]) := by decide +kernel
  obtain ⟨a, account, stored⟩ := Option.map_eq_some_iff.mp dan
  obtain ⟨pin, name⟩ := Prod.mk.inj stored
  rintro (none | empty | zero | noCollision)
  · exact absurd none (by decide +kernel)
  · exact absurd empty (by decide +kernel)
  · exact absurd zero (by decide)
  · have equal := noCollision _ a account pin (by decide +kernel)
    rw [name] at equal
    exact absurd equal (by decide +kernel)

end Cnp
