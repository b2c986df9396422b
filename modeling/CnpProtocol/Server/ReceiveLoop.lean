import CnpProtocol.Server.ClientThread

/-!
# The receive loop

The chain of tests `ClientThreadHandler` puts the result of `Receive` through, as the list of
calls each branch makes. The second test asks for `SOCKET_ERROR` again, which the first one
has taken already, so an error makes no call at all.
-/

namespace Cnp

def socketError : Int := -1

namespace ReceiveResult

/-- The number `Receive` returns. -/
def cbMsgLen : ReceiveResult → Int
  | .data received _ => received.bytes.length
  | .closed => 0
  | .error _ _ => socketError

/-- `CNP_Socket::WouldBlock` after the call. -/
def wouldBlock : ReceiveResult → Bool
  | .error wouldBlock _ => wouldBlock
  | _ => false

/-- `CNP_Socket::Interrupted` after the call. -/
def interrupted : ReceiveResult → Bool
  | .error _ interrupted => interrupted
  | _ => false

end ReceiveResult

/-- What a turn of the loop does after `Receive`. -/
inductive LoopCall
  | processDisconnect (wClientID : Word)
  | close
  | terminate
  | switch
  deriving DecidableEq

namespace LoopCall

/-- The calls that end a session. -/
def Ending : LoopCall → Prop
  | .switch => False
  | _ => True

/-- What a call does to the tables and the locals of the thread; a closed socket shows in
neither of them. -/
def perform (pSocket : Socket) (result : ReceiveResult) (p : Server × ClientThread) :
    LoopCall → Server × ClientThread
  | .processDisconnect wClientID => ((Cnp.processDisconnect p.1 wClientID).2, p.2)
  | .close => p
  | .terminate => (p.1, { p.2 with bTerminate := true })
  | .switch =>
    match result with
    | .data received qwNow =>
      let rgBuffer := p.2.rgBuffer.receive received
      match dispatchBuffer p.1 pSocket qwNow p.2.wClientID rgBuffer.bytes with
      | some (wClientID, o) => (o.server, { p.2 with rgBuffer, wClientID })
      | none => (p.1, { p.2 with rgBuffer })
    | _ => p

end LoopCall

/-- The chain of tests, in the order of the source. -/
def ReceiveResult.calls (result : ReceiveResult) (wClientID : Word) : List LoopCall :=
  if result.cbMsgLen = socketError then
    -- both are safe to ignore and try again; for any other error there is no branch
    if result.wouldBlock || result.interrupted then [] else []
  else if result.cbMsgLen = 0 ∨ result.cbMsgLen = socketError then
    [.processDisconnect wClientID, .close, .terminate]
  else if result.cbMsgLen > 0 ∧ result.cbMsgLen ≠ socketError then [.switch]
  else []

/-- The calls of a turn; a thread that has left its loop makes none. -/
def ClientThread.calls (t : ClientThread) (result : ReceiveResult) : List LoopCall :=
  if t.bTerminate then [] else result.calls t.wClientID

section

variable (w : Word)

@[simp] theorem ReceiveResult.calls_error (wouldBlock interrupted : Bool) :
    (ReceiveResult.error wouldBlock interrupted).calls w = [] := by
  simp [calls, cbMsgLen]

@[simp] theorem ReceiveResult.calls_closed :
    ReceiveResult.closed.calls w = [.processDisconnect w, .close, .terminate] := by
  simp [calls, cbMsgLen, socketError]

@[simp] theorem ReceiveResult.calls_data (received : Received) (qwNow : Qword) :
    (ReceiveResult.data received qwNow).calls w = [.switch] := by
  have positive : 0 < received.bytes.length := received.length_pos
  have length : received.bytes.length ≠ 0 := Nat.ne_of_gt positive
  have noError : (received.bytes.length : Int) ≠ socketError := by
    rw [socketError]
    omega
  simp [calls, cbMsgLen, noError, length, positive]

end

/-- A turn of the loop is its calls, one after the other. -/
theorem clientThreadStep_eq_foldl (c : Socket) (result : ReceiveResult) (s : Server)
    (t : ClientThread) :
    clientThreadStep c result s t =
      (t.calls result).foldl (LoopCall.perform c result) (s, t) := by
  obtain ⟨wClientID, bTerminate, rgBuffer⟩ := t
  cases bTerminate with
  | true => rfl
  | false =>
    rw [ClientThread.calls, if_neg Bool.false_ne_true]
    cases result with
    | error wouldBlock interrupted =>
      rw [ReceiveResult.calls_error]
      rfl
    | closed =>
      rw [ReceiveResult.calls_closed]
      rfl
    | data received qwNow =>
      rw [ReceiveResult.calls_data]
      rfl

end Cnp
