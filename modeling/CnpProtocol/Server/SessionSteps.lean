import CnpProtocol.Server.ClientRequests

/-!
# Connects and account creations, step by step

`ProcessConnectRequest` computes the client ID before it takes `g_SessionMutex`, and
`ProcessCreateAccountRequest` looks for the account before it takes `g_AccountMutex`. Here
each is the sequence of its accesses to the shared tables, so that steps of calls on
different threads interleave. A call that runs alone does what the handler does.
-/

namespace Cnp

/-! ### Connecting -/

/-- Where a connect that passed its checks is; the new ID is a local variable. -/
inductive ConnectPhase
  | start
  | computed (wNewClientID : Word)
  | done (wNewClientID : Word)
  deriving DecidableEq

def connectStep (pSocket : Socket) (s : Server) : ConnectPhase → Server × ConnectPhase
  -- 3. Generate a unique ClientID for the session
  | .start => (s, .computed (newClientID s.sessionInfo))
  -- 4. the section under `g_SessionMutex`; the result of `insert` is not looked at
  | .computed w =>
    ({ s with sessionInfo := s.sessionInfo.insert w (.init w .connected (some pSocket)) }, .done w)
  | .done w => (s, .done w)

/-- A connect with the right key and a supported version. -/
structure ConnectRequest.Accepted (m : ConnectRequest) : Prop where
  key : m.request.validationKey = validationKey
  major : m.request.majorVersion ≤ serverMajorVersion
  minor : m.request.minorVersion ≤ serverMinorVersion

theorem processConnectRequest_accepted (s : Server) (m : ConnectRequest) (c : Socket)
    (accepted : m.Accepted) :
    (processConnectRequest s m c).2.cerRR = .success ∧
      (processConnectRequest s m c).1 = newClientID s.sessionInfo ∧
      (processConnectRequest s m c).2.server = s.addSession c := by
  simp [processConnectRequest, accepted.key, accepted.major, accepted.minor]

theorem connect_alone (s : Server) (m : ConnectRequest) (c : Socket) (accepted : m.Accepted) :
    Run.Threads.alone (connectStep c) 2 (s, .start) =
      ((processConnectRequest s m c).2.server, .done (processConnectRequest s m c).1) := by
  obtain ⟨_, id, server⟩ := processConnectRequest_accepted s m c accepted
  rw [id, server]
  rfl

section Connects

variable {ι : Type*} [DecidableEq ι] (sockets : ι → Socket)

/-- The connects, one on each socket, interleaved as the turns say. -/
def connectsStep : Run.Threads ι Server ConnectPhase → ι × Unit →
    Run.Threads ι Server ConnectPhase :=
  Run.Threads.step fun i _ => connectStep (sockets i)

def runConnects (s : Server) (turns : List (ι × Unit)) : Run.Threads ι Server ConnectPhase :=
  Run.run (connectsStep sockets) ⟨s, fun _ => .start⟩ turns

/-- The acting call computes its ID while another one has not inserted its own yet. -/
def ComputesDuring (sys : Run.Threads ι Server ConnectPhase) (turn : ι × Unit) : Prop :=
  sys.phase turn.1 = .start ∧ ∃ j w, sys.phase j = .computed w

end Connects

/-! ### Creating an account -/

inductive CreatePhase
  | start
  | sessionFound
  | absent
  | inserted
  | done (cerRR : CerType)
  deriving DecidableEq

section Create

variable (m : CreateAccountRequest) (beyond : List Byte)

def createStep (s : Server) : CreatePhase → Server × CreatePhase
  -- 1. and 2. Validate the connection, the name and the PIN
  | .start =>
    match s.sessionInfo.find? m.hdr.clientID with
    | some _ =>
      if isValidName (m.getFirstName beyond) && isValidPIN m.request.pin then (s, .sessionFound)
      else (s, .done .invalidNamePin)
    | none => (s, .done .invalidClientID)
  -- 3. Make sure the Name+PIN combo doesn't already exist
  | .sessionFound =>
    match s.accountInfo.find? (m.customerID beyond) with
    | some _ => (s, .done .accountExists)
    | none => (s, .absent)
  -- 4. the insert under `g_AccountMutex`; its result is not looked at
  | .absent =>
    let newAccount : AccountInfo := ⟨m.request, m.customerID beyond, 0⟩
    ({ s with accountInfo := s.accountInfo.insert (m.customerID beyond) newAccount }, .inserted)
  -- 5. Update the session state table
  | .inserted =>
    (s.modifySession m.hdr.clientID (·.setState .accountCreated), .done .success)
  | .done cerRR => (s, .done cerRR)

theorem create_alone (s : Server) :
    Run.Threads.alone (createStep m beyond) 4 (s, .start) =
      ((processCreateAccountRequest s m beyond).server,
        .done (processCreateAccountRequest s m beyond).cerRR) := by
  cases session : s.sessionInfo.find? m.hdr.clientID with
  | none => simp [Run.Threads.alone, createStep, processCreateAccountRequest, session]
  | some itS =>
    cases valid : isValidName (m.getFirstName beyond) && isValidPIN m.request.pin with
    | false => simp [Run.Threads.alone, createStep, processCreateAccountRequest, session, valid]
    | true =>
      cases account : s.accountInfo.find? (m.customerID beyond) with
      | some itA =>
        simp [Run.Threads.alone, createStep, processCreateAccountRequest, session, valid, account]
      | none =>
        simp [Run.Threads.alone, createStep, processCreateAccountRequest, session, valid, account,
          Server.addAccount]

end Create

section Creations

variable {ι : Type*} [DecidableEq ι] (calls : ι → CreateAccountRequest) (beyond : ι → List Byte)

def createsStep : Run.Threads ι Server CreatePhase → ι × Unit →
    Run.Threads ι Server CreatePhase :=
  Run.Threads.step fun i _ => createStep (calls i) (beyond i)

def runCreates (s : Server) (turns : List (ι × Unit)) : Run.Threads ι Server CreatePhase :=
  Run.run (createsStep calls beyond) ⟨s, fun _ => .start⟩ turns

/-- The acting call looks for the account while another one has found none and not inserted
its own yet. -/
def LooksDuring (sys : Run.Threads ι Server CreatePhase) (turn : ι × Unit) : Prop :=
  sys.phase turn.1 = .sessionFound ∧ ∃ j, sys.phase j = .absent

end Creations

end Cnp
