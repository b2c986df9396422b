import CnpProtocol.Client.Calls
import CnpProtocol.Server.ClientThread

/-!
# Clients and server

The programs of all clients, the threads that serve them, and the two streams of bytes of
every connection. Every program and every thread takes its turns in any order. A turn of a
thread is all it does with one message, from `Receive` to `Send`: the handlers of two threads do
not overlap here. No signal stops the server.

Bytes take their time. A call of `Receive` takes what has arrived of its stream, up to the size
it is given, and waits while there is nothing; the end of the connection comes behind the last
byte. A message can arrive in parts, and neither side checks for that, as the README says.
-/

namespace Cnp

/-- A request as a call sends it, `get_Size` bytes. The last one of a logoff or a balance query
is that of an empty `m_Request`; no constructor sets it and no handler reads it, here it is 0. -/
def Request.bytes : Request → List Byte
  | .connect m => MsgType.connectRequest.encode m.hdr m.value
  | .createAccount m _ => MsgType.createAccountRequest.encode m.hdr m.value
  | .logon m _ => MsgType.logonRequest.encode m.hdr m.value
  | .logoff m => MsgType.logoffRequest.encode m.hdr fun _ => 0
  | .deposit m => MsgType.depositRequest.encode m.hdr m.value
  | .withdrawal m => MsgType.withdrawalRequest.encode m.hdr m.request.value
  | .balanceQuery m => MsgType.balanceQueryRequest.encode m.hdr fun _ => 0
  | .transactionQuery m => MsgType.transactionQueryRequest.encode m.hdr m.value
  | .stampPurchase m => MsgType.purchaseStampsRequest.encode m.hdr m.request.value

/-! ### The parts -/

/-- The program of a client in `main`: `calls` is what the user still enters, the call that
is being made in front. -/
structure ClientProcess where
  program : ClientProgram
  calls : List Call
  waiting : Bool
  exited : Bool

def ClientProcess.start (calls : List Call) : ClientProcess := ⟨.start, calls, false, false⟩

/-- What happens on a connection: a request is sent, the server handles the request it
reads, the client reads a result and prints records, the server takes its leave. -/
inductive LogEntry
  | sent (r : Request)
  | served (qwNow : Qword) (r : Request) (o : Outcome)
  | received (cerResult : Dword) (printed : List Transaction)
  | closed (wClientID : Word)

structure Network where
  server : Connections
  clients : Socket → ClientProcess
  toServer : Socket → List Byte
  toClient : Socket → List Byte
  log : List (Socket × LogEntry)

/-- The server has loaded its tables, the connections are accepted, and the users know what
they want. -/
def networkStart (accounts : AccountMap) (transactions : TransactionMap)
    (calls : Socket → List Call) : Network where
  server := connectionsStart accounts transactions
  clients := fun c => .start (calls c)
  toServer := fun _ => []
  toClient := fun _ => []
  log := []

/-! ### Turns -/

section Turns

variable (beyond : List Byte) (net : Network) (c : Socket)

/-- The first half of a call. -/
def sendTurn (call : Call) : Network :=
  let p := (net.clients c).program
  let request := call.request p.dwSequenceNumber p.wClientID p.dwStartID
  { net with
    clients := Function.update net.clients c { net.clients c with
      program := { p with dwSequenceNumber := p.dwSequenceNumber + 1 }
      waiting := true }
    toServer := Function.update net.toServer c (net.toServer c ++ request.bytes)
    log := net.log ++ [(c, .sent request)] }

/-- The second half of a call; the first bytes of its stream have arrived. -/
def receiveTurn (call : Call) (arrived : Nat) : Network :=
  let p := (net.clients c).program
  let szBuffer := ReceiveBuffer.receive p.szBuffer ((net.toClient c).take arrived)
  let turn := call.finish beyond { p with szBuffer }
  let cerResult : Dword := BitVec.ofNat 32 (call.respType.get (szBuffer.bytes ++ beyond) .result)
  { net with
    clients := Function.update net.clients c { net.clients c with
      program := turn.program
      calls := if turn.cerResult.isSome then (net.clients c).calls.tail else (net.clients c).calls
      waiting := false }
    toClient := Function.update net.toClient c
      ((net.toClient c).drop (min arrived (sizeofSzBuffer - 1)))
    log := net.log ++ [(c, .received cerResult turn.printed)] }

/-- `'x'` ends the loop of `main`, which closes the socket. -/
def exitTurn : Network :=
  { net with clients := Function.update net.clients c { net.clients c with exited := true } }

def clientTurn (arrived : Nat) : Network :=
  if (net.clients c).exited then net
  else
    match (net.clients c).calls with
    | [] => exitTurn net c
    | call :: _ =>
      if (net.clients c).waiting then
        -- `Receive` waits for the first byte
        if (net.toClient c).take arrived = [] then net else receiveTurn beyond net c call arrived
      else sendTurn net c call

/-- What `Receive` takes of the bytes that have arrived. -/
def receive? (bytes : List Byte) : Option Received :=
  if some_ : 0 < bytes.length then
    some ⟨bytes.take (sizeofRgBuffer - 1), by simp [sizeofRgBuffer, some_],
      List.length_take_le _ _⟩
  else none

/-- The bytes that go out on a connection. -/
def bytesTo (sent : List (Socket × Response)) : List Byte :=
  (sent.filter fun out => out.1 = c).flatMap fun out => out.2.bytes

/-- What is left when a thread has received. -/
def restAfter (arrived : Nat) : Socket → List Byte :=
  Function.update net.toServer c ((net.toServer c).drop (min arrived (sizeofRgBuffer - 1)))

/-- A thread has a request in its buffer and handles it. -/
def serveTurn (qwNow : Qword) (arrived : Nat) (received : Received) (r : Request) : Network :=
  let o := dispatch net.server.shared c qwNow r
  { net with
    server := connectionsStep net.server (c, .data received qwNow)
    toServer := restAfter net c arrived
    toClient := fun c' => net.toClient c' ++ bytesTo c' o.sent
    log := net.log ++ [(c, .served qwNow r o)] }

/-- The type of the message is none of the switch. -/
def ignoreTurn (qwNow : Qword) (arrived : Nat) (received : Received) : Network :=
  { net with
    server := connectionsStep net.server (c, .data received qwNow)
    toServer := restAfter net c arrived }

/-- The client has left and everything it sent is read. -/
def closeTurn : Network :=
  { net with
    server := connectionsStep net.server (c, .closed)
    log := net.log ++ [(c, .closed (net.server.phase c).wClientID)] }

/-- A turn of the thread that serves the connection: `Receive`, the handler and `Send`. -/
def serverTurn (qwNow : Qword) (arrived : Nat) : Network :=
  let t := net.server.phase c
  if t.bTerminate then net
  else
    match receive? ((net.toServer c).take arrived) with
    | some received =>
      match requestAt (t.rgBuffer.receive received).bytes with
      | some r => serveTurn net c qwNow arrived received r
      | none => ignoreTurn net c qwNow arrived received
    -- `Receive` waits while the client is there or something is under way
    | none => if net.toServer c = [] ∧ (net.clients c).exited then closeTurn net c else net

end Turns

/-- Whose turn it is, and how many bytes of its stream have arrived. -/
inductive Party
  | client (arrived : Nat)
  | server (qwNow : Qword) (arrived : Nat)

def networkStep (beyond : List Byte) (net : Network) : Socket × Party → Network
  | (c, .client arrived) => clientTurn beyond net c arrived
  | (c, .server qwNow arrived) => serverTurn net c qwNow arrived

def runNetwork (beyond : List Byte) (accounts : AccountMap) (transactions : TransactionMap)
    (calls : Socket → List Call) (turns : List (Socket × Party)) : Network :=
  Run.run (networkStep beyond) (networkStart accounts transactions calls) turns

/-- A part of what is in the stream has arrived. -/
def Splits (net : Network) : Socket × Party → Prop
  | (c, .client arrived) => 0 < arrived ∧ arrived < (net.toClient c).length
  | (c, .server _ arrived) => 0 < arrived ∧ arrived < (net.toServer c).length

instance (net : Network) : (turn : Socket × Party) → Decidable (Splits net turn)
  | (_, .client _) => inferInstanceAs (Decidable (_ ∧ _))
  | (_, .server _ _) => inferInstanceAs (Decidable (_ ∧ _))

/-- Every turn, with what is known when it is taken. -/
inductive Turned (beyond : List Byte) (net : Network) : Socket × Party → Network → Prop
  | idle (turn : Socket × Party) : Turned beyond net turn net
  | exited (c : Socket) (arrived : Nat) (running : (net.clients c).exited = false)
      (calls : (net.clients c).calls = []) : Turned beyond net (c, .client arrived) (exitTurn net c)
  | sent (c : Socket) (arrived : Nat) (call : Call) (rest : List Call)
      (running : (net.clients c).exited = false) (calls : (net.clients c).calls = call :: rest)
      (ready : (net.clients c).waiting = false) :
      Turned beyond net (c, .client arrived) (sendTurn net c call)
  | received (c : Socket) (arrived : Nat) (call : Call) (rest : List Call)
      (running : (net.clients c).exited = false) (calls : (net.clients c).calls = call :: rest)
      (waits : (net.clients c).waiting = true) (taken : (net.toClient c).take arrived ≠ []) :
      Turned beyond net (c, .client arrived) (receiveTurn beyond net c call arrived)
  | served (c : Socket) (qwNow : Qword) (arrived : Nat) (data : Received) (r : Request)
      (running : (net.server.phase c).bTerminate = false)
      (taken : receive? ((net.toServer c).take arrived) = some data)
      (read : requestAt ((net.server.phase c).rgBuffer.receive data).bytes = some r) :
      Turned beyond net (c, .server qwNow arrived) (serveTurn net c qwNow arrived data r)
  | ignored (c : Socket) (qwNow : Qword) (arrived : Nat) (data : Received)
      (running : (net.server.phase c).bTerminate = false)
      (taken : receive? ((net.toServer c).take arrived) = some data)
      (read : requestAt ((net.server.phase c).rgBuffer.receive data).bytes = none) :
      Turned beyond net (c, .server qwNow arrived) (ignoreTurn net c qwNow arrived data)
  | closed (c : Socket) (qwNow : Qword) (arrived : Nat)
      (running : (net.server.phase c).bTerminate = false) (empty : net.toServer c = [])
      (exited : (net.clients c).exited = true) :
      Turned beyond net (c, .server qwNow arrived) (closeTurn net c)

theorem networkStep_turned (beyond : List Byte) (net : Network) (turn : Socket × Party) :
    Turned beyond net turn (networkStep beyond net turn) := by
  obtain ⟨c, party⟩ := turn
  cases party with
  | client arrived =>
    simp only [networkStep, clientTurn]
    split
    · exact .idle _
    next running =>
      split
      next calls => exact .exited c arrived (Bool.eq_false_iff.mpr running) calls
      next call rest calls =>
        split
        next waits =>
          split
          · exact .idle _
          next taken =>
            exact .received c arrived call rest (Bool.eq_false_iff.mpr running) calls waits taken
        next ready =>
          exact .sent c arrived call rest (Bool.eq_false_iff.mpr running) calls
            (Bool.eq_false_iff.mpr ready)
  | server qwNow arrived =>
    simp only [networkStep, serverTurn]
    split
    · exact .idle _
    next running =>
      have running := Bool.eq_false_iff.mpr running
      split
      next data taken =>
        split
        next r read => exact .served c qwNow arrived data r running taken read
        next read => exact .ignored c qwNow arrived data running taken read
      next none =>
        split
        next closed => exact .closed c qwNow arrived running closed.1 closed.2
        · exact .idle _

/-! ### What was logged -/

/-- What happened on one connection. -/
def logOf (c : Socket) (log : List (Socket × LogEntry)) : List LogEntry :=
  log.filterMap fun e => if e.1 = c then some e.2 else none

def LogEntry.request? : LogEntry → Option Request
  | .sent r => some r
  | _ => none

/-- The request that was read, the code, and the records of the response. -/
def LogEntry.served? : LogEntry → Option (Request × Outcome)
  | .served _ r o => some (r, o)
  | _ => none

def LogEntry.received? : LogEntry → Option (Dword × List Transaction)
  | .received cerResult printed => some (cerResult, printed)
  | _ => none

/-- The operation of the server that an entry stands for. -/
def LogEntry.op? (c : Socket) : LogEntry → Option Op
  | .served qwNow r _ => some (.message c qwNow r)
  | .closed wClientID => some (.disconnect wClientID)
  | _ => none

/-- The operations of the server, in order. -/
def opsOf (log : List (Socket × LogEntry)) : List Op := log.filterMap fun e => e.2.op? e.1

end Cnp
