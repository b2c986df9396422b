import CnpProtocol.Properties.Disconnects
import CnpProtocol.Server.ReceiveLoop

/-!
# Socket errors

A connection that is closed in order ends: its session is removed, its socket is closed and
its thread leaves the loop. One that breaks does not, because the loop takes every error for
one to try again.
-/

namespace Cnp

namespace ReceiveResult

/-- An error that is neither would-block nor interrupted. -/
def Fatal (result : ReceiveResult) : Prop :=
  result.cbMsgLen = socketError ∧ result.wouldBlock = false ∧ result.interrupted = false

/-- The outcomes after which there is nothing more to receive. -/
def Ends (result : ReceiveResult) : Prop := result.cbMsgLen = 0 ∨ result.Fatal

theorem ends_closed : closed.Ends := Or.inl rfl

theorem not_ends_data (received : Received) (qwNow : Qword) : ¬ (data received qwNow).Ends := by
  -- a length that is neither zero nor `SOCKET_ERROR`
  have positive : 0 < received.bytes.length := received.length_pos
  simp only [Ends, Fatal, cbMsgLen, socketError]
  omega

theorem ends_error_iff (wouldBlock interrupted : Bool) :
    (error wouldBlock interrupted).Ends ↔ (error wouldBlock interrupted).Fatal := by
  simp [Ends, cbMsgLen, socketError]

end ReceiveResult

/-- Among the events there is a connect that the thread of `c` accepts. -/
def HasConnected (accounts : AccountMap) (transactions : TransactionMap) (c : Socket)
    (events : List (Socket × ReceiveResult)) : Prop :=
  ∃ earlier received qwNow later m, events = earlier ++ (c, .data received qwNow) :: later ∧
    let t := (runConnections accounts transactions earlier).phase c
    t.bTerminate = false ∧
      requestAt (t.rgBuffer.receive received).bytes = some (.connect m) ∧ m.Accepted

/-- What the next turn of `c` has to do with an outcome: after the last one the calls are
made, the session is gone and the loop is left for good; after any other one nothing of this
happens. -/
structure EndsRightly (sys : Connections) (c : Socket) (result : ReceiveResult) : Prop where
  calls : result.Ends → (sys.phase c).calls result =
    [.processDisconnect (sys.phase c).wClientID, .close, .terminate]
  session : result.Ends → (connectionsStep sys (c, result)).shared.sessionInfo.find?
    (sys.phase c).wClientID = none
  left : result.Ends → ∀ after,
    ((Run.run connectionsStep (connectionsStep sys (c, result)) after).phase c).bTerminate = true
  stays : ¬ result.Ends → (∀ call ∈ (sys.phase c).calls result, ¬ call.Ending) ∧
    ((connectionsStep sys (c, result)).phase c).bTerminate = false

/-! ### A thread that has left its loop -/

theorem connectionsStep_phase_self (sys : Connections) (c : Socket) (result : ReceiveResult) :
    (connectionsStep sys (c, result)).phase c =
      (clientThreadStep c result sys.shared (sys.phase c)).2 :=
  Run.Threads.step_phase_self clientThreadStep sys c result

theorem connectionsStep_bTerminate (sys : Connections) (c : Socket)
    (left : (sys.phase c).bTerminate = true) (event : Socket × ReceiveResult) :
    ((connectionsStep sys event).phase c).bTerminate = true := by
  by_cases own : c = event.1
  · subst own
    -- the loop condition is tested before anything is received
    have outside : clientThreadStep event.1 event.2 sys.shared (sys.phase event.1) =
        (sys.shared, sys.phase event.1) := if_pos left
    rw [connectionsStep_phase_self, outside]
    exact left
  · have same : (connectionsStep sys event).phase c = sys.phase c :=
      Run.Threads.step_phase_of_ne clientThreadStep sys event.1 c event.2 own
    rw [same]
    exact left

/-- Whatever the connections do, it stays outside. -/
theorem bTerminate_run (sys : Connections) (c : Socket)
    (left : (sys.phase c).bTerminate = true) (events : List (Socket × ReceiveResult)) :
    ((Run.run connectionsStep sys events).phase c).bTerminate = true :=
  Run.invariant connectionsStep (fun sys => (sys.phase c).bTerminate = true) (fun _ => True)
    (fun sys event _ left => connectionsStep_bTerminate sys c left event) sys left events
    (fun _ _ => trivial)

/-! ### One turn -/

section Turn

variable {sys : Connections} {c : Socket} (running : (sys.phase c).bTerminate = false)
include running

theorem endsRightly_closed : EndsRightly sys c .closed := by
  have turn : clientThreadStep c .closed sys.shared (sys.phase c) =
      ((processDisconnect sys.shared (sys.phase c).wClientID).2,
        { sys.phase c with bTerminate := true }) := if_neg (by simp [running])
  constructor
  · intro _
    simp [ClientThread.calls, running]
  · intro _
    change (clientThreadStep c .closed sys.shared (sys.phase c)).1.sessionInfo.find? _ = none
    rw [turn, find?_processDisconnect, if_pos rfl]
  · intro _ after
    refine bTerminate_run _ c ?_ after
    rw [connectionsStep_phase_self, turn]
  · exact fun goes => absurd ReceiveResult.ends_closed goes

/-- Outcomes that end nothing: the thread stays in its loop and makes no such call. -/
theorem endsRightly_of_not_ends {result : ReceiveResult} (goes : ¬ result.Ends) :
    EndsRightly sys c result := by
  refine ⟨fun ends => absurd ends goes, fun ends => absurd ends goes,
    fun ends => absurd ends goes, fun _ => ?_⟩
  rw [connectionsStep_phase_self, clientThreadStep_eq_foldl, ClientThread.calls,
    if_neg (by simp [running])]
  cases result with
  | closed => exact absurd ReceiveResult.ends_closed goes
  | error wouldBlock interrupted =>
    rw [ReceiveResult.calls_error]
    exact ⟨fun _ nothing => (List.not_mem_nil nothing).elim, running⟩
  | data received qwNow =>
    rw [ReceiveResult.calls_data]
    refine ⟨fun call member => ?_, ?_⟩
    · rw [List.mem_singleton.mp member]
      exact id
    · -- the switch leaves `m_bTerminate` alone
      simp only [List.foldl_cons, List.foldl_nil, LoopCall.perform]
      split
      · exact running
      · exact running

/-- A fatal error makes no call at all. -/
theorem not_endsRightly_of_fatal {result : ReceiveResult} (fatal : result.Fatal) :
    ¬ EndsRightly sys c result := by
  intro rightly
  have calls := rightly.calls (Or.inr fatal)
  -- the first test takes the error, and its branch is empty
  have nothing : (sys.phase c).calls result = [] := by
    rw [ClientThread.calls, if_neg (by simp [running]), ReceiveResult.calls, if_pos fatal.1]
    split
    · rfl
    · rfl
  rw [nothing] at calls
  cases calls

theorem endsRightly_iff (result : ReceiveResult) : EndsRightly sys c result ↔ ¬ result.Fatal := by
  constructor
  · exact fun rightly fatal => not_endsRightly_of_fatal running fatal rightly
  · -- of the outcomes that are not fatal only the close ends anything
    intro harmless
    cases result with
    | closed => exact endsRightly_closed running
    | error wouldBlock interrupted =>
      exact endsRightly_of_not_ends running fun ends =>
        harmless ((ReceiveResult.ends_error_iff wouldBlock interrupted).mp ends)
    | data received qwNow =>
      exact endsRightly_of_not_ends running (ReceiveResult.not_ends_data received qwNow)

end Turn

/-! ### Runs -/

/-- In every run of the connections the turns of a connected client end its session when they
have to and only then, if and only if none of them sees a fatal error. -/
theorem ends_rightly_iff (accounts : AccountMap) (transactions : TransactionMap) (c : Socket)
    (events : List (Socket × ReceiveResult)) :
    (∀ before result after, events = before ++ (c, result) :: after →
      HasConnected accounts transactions c before →
      ((runConnections accounts transactions before).phase c).bTerminate = false →
        EndsRightly (runConnections accounts transactions before) c result) ↔
      ∀ before result after, events = before ++ (c, result) :: after →
        HasConnected accounts transactions c before →
        ((runConnections accounts transactions before).phase c).bTerminate = false →
          ¬ result.Fatal := by
  constructor
  · intro rightly before result after split connected running
    exact (endsRightly_iff running result).mp (rightly before result after split connected running)
  · intro harmless before result after split connected running
    exact (endsRightly_iff running result).mpr
      (harmless before result after split connected running)

/-- A connect as it is sent is accepted by a thread that starts. -/
theorem hasConnected_connectBytes (accounts : AccountMap) (transactions : TransactionMap)
    (c : Socket) :
    HasConnected accounts transactions c [(c, .data (connectBytes validationKey) 0)] := by
  let m := ConnectRequest.init 0 0 majorVersion minorVersion validationKey 0
  have cast : requestAt (RgBuffer.receive .zero (connectBytes validationKey)).bytes =
      some (.connect m) := by
    have arrived : (RgBuffer.receive .zero (connectBytes validationKey)).bytes =
        MsgType.connectRequest.encode m.hdr m.value ++
          (.zero : RgBuffer).bytes.drop (connectBytes validationKey).bytes.length :=
      RgBuffer.bytes_receive .zero _
    rw [arrived, requestAt_encode _ _ _ _ rfl, MsgType.cast, ConnectRequest.at_encode]
  exact ⟨[], connectBytes validationKey, 0, [], m, rfl, rfl, cast, ⟨rfl, by decide, by decide⟩⟩

/-- A client connects and its connection is reset: the session stays, and so does the
thread. -/
theorem reset_keeps_session :
    let before := [(7, .data (connectBytes validationKey) 0)]
    HasConnected .empty .empty 7 before ∧
      ((runConnections .empty .empty before).phase 7).bTerminate = false ∧
      ¬ EndsRightly (runConnections .empty .empty before) 7 (.error false false) := by
  intro before
  have running : ((runConnections .empty .empty before).phase 7).bTerminate = false := by
    decide +kernel
  exact ⟨hasConnected_connectBytes .empty .empty 7, running,
    not_endsRightly_of_fatal running ⟨rfl, rfl, rfl⟩⟩

end Cnp
