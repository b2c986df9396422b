import CnpProtocol.Library.Handles
import CnpProtocol.Server.ClientThread
import CnpProtocol.Server.Persistence
import Mathlib.Data.Fintype.EquivFin

/-!
# The server process

`main` of `CNP_Server.cpp`. It loads the tables and accepts connections until a signal comes;
every connection gets a `THREAD_INFO` with a socket of its own and a thread. Then it stops and
joins the threads one after the other, deletes what belongs to them, and saves the tables.
`main`, the threads and the signal take their turns in any order. What a thread does with one
message, from `Receive` to `Send`, is one turn; the single accesses are in `Server.Concurrent`.
-/

namespace Cnp

/-- A `SOCKET` of the operating system. -/
abbrev Handle := Nat

/-- The lowest one that is not open, which is how a Linux system chooses. -/
def lowestHandle (handles : Finset Handle) : Handle :=
  Nat.find (Infinite.exists_notMem_finset handles)

theorem lowestHandle_notMem (handles : Finset Handle) : lowestHandle handles ∉ handles :=
  Nat.find_spec (Infinite.exists_notMem_finset handles)

/-- Where a thread is in `ClientThreadHandler`: before the test of its loop, in `Receive`, or
behind the loop. -/
inductive ThreadControl
  | test
  | receive
  | returned
  deriving DecidableEq

/-- `THREAD_INFO`: the socket, which holds no handle once it is closed, and the thread with its
locals. The flag `m_bTerminate` is the one of the locals. -/
structure ThreadInfo where
  hSocket : Option Handle
  control : ThreadControl
  locals : ClientThread

/-- Where `main` is: before the test of its loop, in `Accept`, before the next element of
`lstClientThreadInfo`, in the `join` of one, before the last two statements, or at its end. -/
inductive MainControl
  | test
  | accept
  | stop (rest : List Socket)
  | join (it : Socket) (rest : List Socket)
  | close
  | save
  | returned
  deriving DecidableEq

/-- What the process does. -/
inductive ProcessEntry
  | signalled
  | accepted (c : Socket) (hNewSocket : Handle)
  | handled (c : Socket) (qwNow : Qword) (r : Request) (o : Outcome)
  | disconnected (c : Socket) (wClientID : Word)
  | terminated (c : Socket)
  | closed (c : Socket) (hSocket : Handle)
  | deleted (c : Socket)

/-- The process; `threads` are the `THREAD_INFO` objects that are allocated. -/
structure Process where
  server : Server
  bTerminate : Bool
  control : MainControl
  lstClientThreadInfo : List Socket
  threads : Socket → Option ThreadInfo
  hSvrSocket : Option Handle
  handles : Finset Handle
  store : Store
  log : List ProcessEntry

/-- The handle of a socket, if the socket is there and not closed; `Close` gives it back. -/
def Process.hSocket (p : Process) (c : Socket) : Option Handle := (p.threads c).bind (·.hSocket)

def closedEntry (c : Socket) (hSocket : Option Handle) : List ProcessEntry :=
  hSocket.toList.map (.closed c)

section Process

variable (accounts : RecordImage AccountInfo) (transactions : RecordImage TransactionInfo)
  (newHandle : Finset Handle → Handle)

/-- The tables are loaded and the listening socket is created, or not. -/
def processStart (store : Store) (listens : Bool) : Process where
  server := (loadServerDB accounts transactions store .empty).2
  bTerminate := false
  control := .test
  lstClientThreadInfo := []
  threads := fun _ => none
  hSvrSocket := if listens then some (newHandle ∅) else none
  handles := if listens then {newHandle ∅} else ∅
  store := store
  log := []

/-! ### Turns of `main` -/

/-- A new object, at an address that no other one has had: until the end none is deleted. -/
def acceptTurn (p : Process) : Process :=
  let c := p.lstClientThreadInfo.length
  let hNewSocket := newHandle p.handles
  { p with
    control := .test
    lstClientThreadInfo := c :: p.lstClientThreadInfo
    threads := Function.update p.threads c (some ⟨some hNewSocket, .test, .start⟩)
    handles := insert hNewSocket p.handles
    log := p.log ++ [.accepted c hNewSocket] }

def terminateTurn (p : Process) (it : Socket) (rest : List Socket) : Process :=
  { p with
    control := .join it rest
    threads := Function.update p.threads it ((p.threads it).map fun info =>
      { info with locals := { info.locals with bTerminate := true } })
    log := p.log ++ [.terminated it] }

/-- The destructor closes the socket, if the thread has not. -/
def deleteTurn (p : Process) (it : Socket) (rest : List Socket) : Process :=
  { p with
    control := .stop rest
    threads := Function.update p.threads it none
    handles := Handles.close p.handles (p.hSocket it)
    log := p.log ++ closedEntry it (p.hSocket it) ++ [.deleted it] }

/-- The listening socket is closed. -/
def closeServerTurn (p : Process) : Process :=
  { p with
    control := .save
    hSvrSocket := none
    handles := Handles.close p.handles p.hSvrSocket }

def mainTurn (p : Process) (pending : Bool) : Process :=
  match p.control with
  | .test =>
    if p.bTerminate then { p with control := .stop p.lstClientThreadInfo }
    else { p with control := .accept }
  | .accept =>
    if pending ∧ p.hSvrSocket.isSome then acceptTurn newHandle p else { p with control := .test }
  | .stop [] => { p with control := .close }
  | .stop (it :: rest) => terminateTurn p it rest
  | .join it rest =>
    -- `join` waits for the thread
    if (p.threads it).all (·.control = .returned) then deleteTurn p it rest else p
  | .close => closeServerTurn p
  | .save =>
    { p with control := .returned, store := (saveServerDB accounts transactions p.server).2 }
  | .returned => p

/-! ### Turns of a thread -/

section Thread

variable (p : Process) (c : Socket) (info : ThreadInfo)

/-- The thread has handled a request and sent the response, all in one turn. -/
def handleTurn (received : Received) (qwNow : Qword) (r : Request) : Process :=
  let o := dispatch p.server c qwNow r
  { p with
    server := o.server
    threads := Function.update p.threads c (some { info with
      control := .test
      locals := { info.locals with
        rgBuffer := info.locals.rgBuffer.receive received
        wClientID := clientIDAfter p.server c info.locals.wClientID r } })
    log := p.log ++ [.handled c qwNow r o] }

/-- The client has disconnected. -/
def disconnectTurn : Process :=
  { p with
    server := (processDisconnect p.server info.locals.wClientID).2
    threads := Function.update p.threads c (some { info with
      hSocket := none
      control := .test
      locals := { info.locals with bTerminate := true } })
    handles := Handles.close p.handles info.hSocket
    log := p.log ++ .disconnected c info.locals.wClientID :: closedEntry c info.hSocket }

/-- The tables are left alone. -/
def emptyTurn (control : ThreadControl) (rgBuffer : RgBuffer) : Process :=
  { p with
    threads := Function.update p.threads c (some { info with
      control
      locals := { info.locals with rgBuffer } }) }

def bodyTurn (result : ReceiveResult) : Process :=
  match result with
  | .error _ _ => emptyTurn p c info .test info.locals.rgBuffer
  | .closed => disconnectTurn p c info
  | .data received qwNow =>
    let rgBuffer := info.locals.rgBuffer.receive received
    match requestAt rgBuffer.bytes with
    | some r => handleTurn p c info received qwNow r
    | none => emptyTurn p c info .test rgBuffer

end Thread

def threadTurn (p : Process) (c : Socket) (result : ReceiveResult) : Process :=
  match p.threads c with
  | none => p
  | some info =>
    match info.control with
    | .test => emptyTurn p c info (if info.locals.bTerminate then .returned else .receive)
        info.locals.rgBuffer
    -- without a handle `Receive` fails
    | .receive => bodyTurn p c info (if info.hSocket.isSome then result else .error false false)
    | .returned => p

inductive ProcessTurn
  | signal
  | main (pending : Bool)
  | thread (c : Socket) (result : ReceiveResult)

def processStep (p : Process) : ProcessTurn → Process
  | .signal => { p with bTerminate := true, log := p.log ++ [.signalled] }
  | .main pending => mainTurn accounts transactions newHandle p pending
  | .thread c result => threadTurn p c result

def runProcess (store : Store) (listens : Bool) (turns : List ProcessTurn) : Process :=
  Run.run (processStep accounts transactions newHandle)
    (processStart accounts transactions newHandle store listens) turns

/-- Every turn, with what is known when it is taken. -/
inductive Stepped (p : Process) : ProcessTurn → Process → Prop
  | idle (turn : ProcessTurn) : Stepped p turn p
  | signalled : Stepped p .signal { p with bTerminate := true, log := p.log ++ [.signalled] }
  | entered (pending : Bool) (at_ : p.control = .test) (running : p.bTerminate = false) :
      Stepped p (.main pending) { p with control := .accept }
  | ended (pending : Bool) (at_ : p.control = .test) (signalled : p.bTerminate = true) :
      Stepped p (.main pending) { p with control := .stop p.lstClientThreadInfo }
  | refused (pending : Bool) (at_ : p.control = .accept) :
      Stepped p (.main pending) { p with control := .test }
  | accepted (pending : Bool) (at_ : p.control = .accept) :
      Stepped p (.main pending) (acceptTurn newHandle p)
  | stopped (pending : Bool) (at_ : p.control = .stop []) :
      Stepped p (.main pending) { p with control := .close }
  | terminated (pending : Bool) (it : Socket) (rest : List Socket)
      (at_ : p.control = .stop (it :: rest)) :
      Stepped p (.main pending) (terminateTurn p it rest)
  | deleted (pending : Bool) (it : Socket) (rest : List Socket) (at_ : p.control = .join it rest)
      (joined : ∀ info, p.threads it = some info → info.control = .returned) :
      Stepped p (.main pending) (deleteTurn p it rest)
  | closed (pending : Bool) (at_ : p.control = .close) :
      Stepped p (.main pending) (closeServerTurn p)
  | saved (pending : Bool) (at_ : p.control = .save) :
      Stepped p (.main pending)
        { p with control := .returned, store := (saveServerDB accounts transactions p.server).2 }
  | looped (c : Socket) (result : ReceiveResult) (info : ThreadInfo)
      (found : p.threads c = some info) (at_ : info.control = .test) :
      Stepped p (.thread c result) (emptyTurn p c info
        (if info.locals.bTerminate then .returned else .receive) info.locals.rgBuffer)
  | missed (c : Socket) (result : ReceiveResult) (info : ThreadInfo)
      (found : p.threads c = some info) (at_ : info.control = .receive) :
      Stepped p (.thread c result) (emptyTurn p c info .test info.locals.rgBuffer)
  | ignored (c : Socket) (received : Received) (qwNow : Qword) (info : ThreadInfo)
      (found : p.threads c = some info) (at_ : info.control = .receive)
      (holds : info.hSocket.isSome)
      (read : requestAt (info.locals.rgBuffer.receive received).bytes = none) :
      Stepped p (.thread c (.data received qwNow))
        (emptyTurn p c info .test (info.locals.rgBuffer.receive received))
  | handled (c : Socket) (received : Received) (qwNow : Qword) (info : ThreadInfo) (r : Request)
      (found : p.threads c = some info) (at_ : info.control = .receive)
      (holds : info.hSocket.isSome)
      (read : requestAt (info.locals.rgBuffer.receive received).bytes = some r) :
      Stepped p (.thread c (.data received qwNow)) (handleTurn p c info received qwNow r)
  | disconnected (c : Socket) (info : ThreadInfo) (found : p.threads c = some info)
      (at_ : info.control = .receive) (holds : info.hSocket.isSome) :
      Stepped p (.thread c .closed) (disconnectTurn p c info)

theorem processStep_stepped (p : Process) (turn : ProcessTurn) :
    Stepped accounts transactions newHandle p turn
      (processStep accounts transactions newHandle p turn) := by
  cases turn with
  | signal => exact .signalled
  | main pending =>
    simp only [processStep, mainTurn]
    split
    next at_ =>
      split
      next signalled => exact .ended pending at_ signalled
      next running => exact .entered pending at_ (Bool.eq_false_iff.mpr running)
    next at_ =>
      split
      · exact .accepted pending at_
      · exact .refused pending at_
    next at_ => exact .stopped pending at_
    next it rest at_ => exact .terminated pending it rest at_
    next it rest at_ =>
      split
      next all =>
        refine .deleted pending it rest at_ fun info found => ?_
        simpa [found] using all
      · exact .idle _
    next at_ => exact .closed pending at_
    next at_ => exact .saved pending at_
    · exact .idle _
  | thread c result =>
    simp only [processStep, threadTurn]
    split
    · exact .idle _
    next info found =>
      split
      next at_ => exact .looped c result info found at_
      next at_ =>
        split
        next holds =>
          cases result with
          | error wouldBlock interrupted => exact .missed c _ info found at_
          | closed => exact .disconnected c info found at_ holds
          | data received qwNow =>
            simp only [bodyTurn]
            split
            next r read => exact .handled c received qwNow info r found at_ holds read
            next read => exact .ignored c received qwNow info found at_ holds read
        · exact .missed c _ info found at_
      · exact .idle _

end Process

/-! ### What was logged -/

namespace ProcessEntry

/-- The operation of the server that an entry stands for. -/
def op? : ProcessEntry → Option Op
  | .handled c qwNow r _ => some (.message c qwNow r)
  | .disconnected _ wClientID => some (.disconnect wClientID)
  | _ => none

/-- The handle that a socket got. -/
def accepted? (c : Socket) : ProcessEntry → Option Handle
  | .accepted c' hNewSocket => if c' = c then some hNewSocket else none
  | _ => none

/-- The handle that a socket gave back. -/
def closed? (c : Socket) : ProcessEntry → Option Handle
  | .closed c' hSocket => if c' = c then some hSocket else none
  | _ => none

end ProcessEntry

def Process.ops (p : Process) : List Op := p.log.filterMap ProcessEntry.op?

end Cnp
