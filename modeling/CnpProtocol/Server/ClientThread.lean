import CnpProtocol.Library.ReceiveBuffer
import CnpProtocol.Protocol.Encoding
import CnpProtocol.Server.ClientRequests

/-!
# Client threads

`ClientThreadHandler`: the receive buffer, the switch over the message type and one turn of
the loop. Every accepted connection has a thread with these locals; the threads share the
tables of the server.
-/

namespace Cnp

/-! ### The receive buffer -/

def sizeofRgBuffer : Nat := 2048

/-- `rgBuffer`; `Receive` is called with `sizeof(rgBuffer) - 1`. -/
abbrev RgBuffer := ReceiveBuffer (sizeofRgBuffer - 1)

/-- What a call of `Receive` with a positive result has delivered. -/
structure Received where
  bytes : List Byte
  length_pos : 0 < bytes.length
  length_le : bytes.length ≤ sizeofRgBuffer - 1

def RgBuffer.receive (rgBuffer : RgBuffer) (data : Received) : RgBuffer :=
  ReceiveBuffer.receive rgBuffer data.bytes

/-- The bytes behind a message are those of earlier messages. -/
theorem RgBuffer.bytes_receive (rgBuffer : RgBuffer) (data : Received) :
    (rgBuffer.receive data).bytes =
      data.bytes ++ rgBuffer.bytes.drop data.bytes.length :=
  ReceiveBuffer.bytes_receive rgBuffer data.bytes data.length_le

/-! ### The switch -/

/-- The branch of the switch for a message type; every other one is ignored. -/
def MsgType.cast (rgBuffer : List Byte) : MsgType → Option Request
  | .connectRequest => some (.connect (.at rgBuffer))
  | .createAccountRequest => some (.createAccount (.at rgBuffer)
      (rgBuffer.drop (Packed.sizeOf Build.win32.width MsgType.createAccountRequest.members)))
  | .logonRequest => some (.logon (.at rgBuffer)
      (rgBuffer.drop (Packed.sizeOf Build.win32.width MsgType.logonRequest.members)))
  | .logoffRequest => some (.logoff (.at rgBuffer))
  | .depositRequest => some (.deposit (.at rgBuffer))
  | .withdrawalRequest => some (.withdrawal (.at rgBuffer))
  | .balanceQueryRequest => some (.balanceQuery (.at rgBuffer))
  | .transactionQueryRequest => some (.transactionQuery (.at rgBuffer))
  | .purchaseStampsRequest => some (.stampPurchase (.at rgBuffer))
  | _ => none

/-- The buffer as the request its message type says it is. -/
def requestAt (rgBuffer : List Byte) : Option Request :=
  (MsgType.ofCode? (StdHdr.at rgBuffer).msgType).bind (MsgType.cast rgBuffer)

/-- A whole message reaches the branch of its type. -/
theorem requestAt_encode (t : MsgType) (hdr : StdHdr) (body : Field → Nat) (beyond : List Byte)
    (type : hdr.msgType = t.code) :
    requestAt (t.encode hdr body ++ beyond) = t.cast (t.encode hdr body ++ beyond) := by
  rw [requestAt, MsgType.hdr_encode, type, MsgType.ofCode?_code]
  rfl

/-- The value of `wClientID` a request leaves: what `ProcessConnectRequest` returns, or the
old one. -/
def clientIDAfter (s : Server) (pSocket : Socket) (wClientID : Word) : Request → Word
  | .connect m => (processConnectRequest s m pSocket).1
  | _ => wClientID

/-- What the switch does with the buffer. -/
def dispatchBuffer (s : Server) (pSocket : Socket) (qwNow : Qword) (wClientID : Word)
    (rgBuffer : List Byte) : Option (Word × Outcome) :=
  (requestAt rgBuffer).map fun r =>
    (clientIDAfter s pSocket wClientID r, dispatch s pSocket qwNow r)

/-! ### The loop -/

/-- The results of `Receive`: data, the orderly close, or `SOCKET_ERROR`. -/
inductive ReceiveResult
  | data (received : Received) (qwNow : Qword)
  | closed
  | error (wouldBlock interrupted : Bool)

/-- The locals of a thread. -/
structure ClientThread where
  wClientID : Word
  bTerminate : Bool
  rgBuffer : RgBuffer

def ClientThread.start : ClientThread := ⟨invalidClientID, false, .zero⟩

/-- One turn of the loop of the thread that serves a connection. -/
def clientThreadStep (pSocket : Socket) (result : ReceiveResult) (s : Server) (t : ClientThread) :
    Server × ClientThread :=
  if t.bTerminate then (s, t)
  else
    match result with
    -- the two recoverable errors are tried again, and so are all others
    | .error _ _ => (s, t)
    | .closed => ((processDisconnect s t.wClientID).2, { t with bTerminate := true })
    | .data received qwNow =>
      let rgBuffer := t.rgBuffer.receive received
      match dispatchBuffer s pSocket qwNow t.wClientID rgBuffer.bytes with
      | some (wClientID, o) => (o.server, { t with rgBuffer, wClientID })
      | none => (s, { t with rgBuffer })

/-- Every turn of the loop, with what is known when it is taken. -/
inductive ThreadEffect (c : Socket) (s : Server) (t : ClientThread) :
    ReceiveResult → Server → ClientThread → Prop
  | idle (result : ReceiveResult) (rgBuffer : RgBuffer) :
      ThreadEffect c s t result s { t with rgBuffer }
  | closed (running : t.bTerminate = false) :
      ThreadEffect c s t .closed (processDisconnect s t.wClientID).2 { t with bTerminate := true }
  | connect (received : Received) (qwNow : Qword) (m : ConnectRequest)
      (running : t.bTerminate = false)
      (cast : requestAt (t.rgBuffer.receive received).bytes = some (.connect m)) :
      ThreadEffect c s t (.data received qwNow) (processConnectRequest s m c).2.server
        { t with
          rgBuffer := t.rgBuffer.receive received
          wClientID := (processConnectRequest s m c).1 }
  | request (received : Received) (qwNow : Qword) (r : Request) (other : ∀ m, r ≠ .connect m) :
      ThreadEffect c s t (.data received qwNow) (dispatch s c qwNow r).server
        { t with rgBuffer := t.rgBuffer.receive received }

theorem clientThreadStep_connect (c : Socket) (s : Server) (t : ClientThread) (received : Received)
    (qwNow : Qword) (m : ConnectRequest) (running : t.bTerminate = false)
    (cast : requestAt (t.rgBuffer.receive received).bytes = some (.connect m)) :
    clientThreadStep c (.data received qwNow) s t =
      ((processConnectRequest s m c).2.server,
        { t with
          rgBuffer := t.rgBuffer.receive received
          wClientID := (processConnectRequest s m c).1 }) := by
  simp [clientThreadStep, dispatchBuffer, clientIDAfter, dispatch, running, cast]

theorem clientThreadStep_effect (c : Socket) (result : ReceiveResult) (s : Server)
    (t : ClientThread) :
    ThreadEffect c s t result (clientThreadStep c result s t).1
      (clientThreadStep c result s t).2 := by
  obtain ⟨wClientID, bTerminate, rgBuffer⟩ := t
  cases bTerminate with
  | true => exact .idle result rgBuffer
  | false =>
    cases result with
    | error wouldBlock interrupted => exact .idle _ rgBuffer
    | closed => exact .closed rfl
    | data received qwNow =>
      cases cast : requestAt (rgBuffer.receive received).bytes with
      | none =>
        -- the default branch of the switch
        simp only [clientThreadStep, dispatchBuffer, cast, Bool.false_eq_true, if_false,
          Option.map_none]
        exact .idle _ _
      | some r =>
        simp only [clientThreadStep, dispatchBuffer, cast, Bool.false_eq_true, if_false,
          Option.map_some]
        cases r with
        | connect m => exact .connect received qwNow m rfl cast
        | _ => exact .request received qwNow _ (by intro m equal; cases equal)

/-- All connections of a server; the thread of a connection is named by its socket. -/
abbrev Connections := Run.Threads Socket Server ClientThread

def connectionsStep : Connections → Socket × ReceiveResult → Connections :=
  Run.Threads.step clientThreadStep

/-- The server before the first connection, with what it loaded. -/
def connectionsStart (accounts : AccountMap) (transactions : TransactionMap) : Connections :=
  ⟨.boot accounts transactions, fun _ => .start⟩

def runConnections (accounts : AccountMap) (transactions : TransactionMap)
    (events : List (Socket × ReceiveResult)) : Connections :=
  Run.run connectionsStep (connectionsStart accounts transactions) events

/-! ### The name in memory

`strlen` starts at the first name and runs on into what follows it. -/

/-- A piece of memory in front of what follows it. -/
private theorem take_append_drop_drop (memory : List Byte) (m n : Nat) :
    (memory.drop m).take n ++ memory.drop (m + n) = memory.drop m := by
  rw [← List.drop_drop, List.take_append_drop]

private theorem NameField.bytes_at (memory : List Byte) (long : maxNameLen ≤ memory.length) :
    (NameField.at memory).bytes = memory.take maxNameLen :=
  List.take_append_of_le_length long

/-- A number that was read spells the bytes it was read from. -/
private theorem leBytes_ofNat (n : Nat) (memory : List Byte) (long : n ≤ memory.length) :
    Bytes.leBytes n (BitVec.ofNat (8 * n) (Bytes.leNat (memory.take n))).toNat = memory.take n := by
  have length : (memory.take n).length = n := List.length_take_of_le long
  have small := Bytes.leNat_lt (memory.take n)
  have spelled := Bytes.leBytes_leNat (memory.take n)
  rw [length] at small spelled
  rw [BitVec.toNat_ofNat, Nat.pow_mul, Nat.mod_eq_of_lt small, spelled]

theorem CreateAccountRequest.getFirstName_at (memory : List Byte) (long : 122 ≤ memory.length) :
    (CreateAccountRequest.at memory).getFirstName (memory.drop 122) = memory.drop 16 := by
  have rest (n : Nat) : (memory.drop n).length = memory.length - n := List.length_drop
  have dlNumber : Bytes.leBytes 4 (CreateAccountRequest.at memory).request.dlNumber.toNat =
      (memory.drop 118).take 4 := leBytes_ofNat 4 (memory.drop 118) (by rw [rest]; omega)
  have ssNumber : Bytes.leBytes 4 (CreateAccountRequest.at memory).request.ssNumber.toNat =
      (memory.drop 114).take 4 := leBytes_ofNat 4 (memory.drop 114) (by rw [rest]; omega)
  have pin : Bytes.leBytes 2 (CreateAccountRequest.at memory).request.pin.toNat =
      (memory.drop 112).take 2 := leBytes_ofNat 2 (memory.drop 112) (by rw [rest]; omega)
  have firstName : (CreateAccountRequest.at memory).request.firstName.bytes =
      (memory.drop 16).take 32 :=
    NameField.bytes_at (memory.drop 16) (by rw [rest, maxNameLen]; omega)
  have lastName : (CreateAccountRequest.at memory).request.lastName.bytes =
      (memory.drop 48).take 32 :=
    NameField.bytes_at (memory.drop 48) (by rw [rest, maxNameLen]; omega)
  have emailAddress : (CreateAccountRequest.at memory).request.emailAddress.bytes =
      (memory.drop 80).take 32 :=
    NameField.bytes_at (memory.drop 80) (by rw [rest, maxNameLen]; omega)
  rw [CreateAccountRequest.getFirstName, firstName, lastName, emailAddress, pin, ssNumber, dlNumber,
    take_append_drop_drop memory 118 4, take_append_drop_drop memory 114 4,
    take_append_drop_drop memory 112 2, take_append_drop_drop memory 80 32,
    take_append_drop_drop memory 48 32, take_append_drop_drop memory 16 32]

theorem LogonRequest.getFirstName_at (memory : List Byte) (long : 50 ≤ memory.length) :
    (LogonRequest.at memory).getFirstName (memory.drop 50) = memory.drop 16 := by
  have rest (n : Nat) : (memory.drop n).length = memory.length - n := List.length_drop
  have pin : Bytes.leBytes 2 (LogonRequest.at memory).request.pin.toNat =
      (memory.drop 48).take 2 := leBytes_ofNat 2 (memory.drop 48) (by rw [rest]; omega)
  have firstName : (LogonRequest.at memory).request.firstName.bytes = (memory.drop 16).take 32 :=
    NameField.bytes_at (memory.drop 16) (by rw [rest, maxNameLen]; omega)
  rw [LogonRequest.getFirstName, firstName, pin, take_append_drop_drop memory 48 2,
    take_append_drop_drop memory 16 32]

end Cnp
