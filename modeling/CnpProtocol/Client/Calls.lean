import CnpProtocol.Library.ReceiveBuffer
import CnpProtocol.Protocol.Encoding
import CnpProtocol.Server.Operations

/-!
# Client calls

The nine functions of `CNP_Client.cpp` that send a request and wait for its response. They
share the buffer `g_szBuffer`, which is a global of the program, and look at neither result
of `Send` and `Receive`. One exchange is one request with what `Receive` makes of it; every
call is one exchange, except for the loop of `SendTransaction`.
-/

namespace Cnp

def sizeofSzBuffer : Nat := 512

/-- `g_szBuffer`; `Receive` is called with `sizeof(g_szBuffer) - 1`. -/
abbrev SzBuffer := ReceiveBuffer (sizeofSzBuffer - 1)

/-! ### The calls -/

/-- The calls, each with what the user enters for it. -/
inductive Call
  | sendConnect
  | sendCreateAccount (strFirstName strLastName strEmailAddress : List Byte) (wPIN : Word)
  | sendLogIn (strFirstName : List Byte) (wPIN : Word)
  | sendLogOut
  | sendDeposit (dwAmount : Dword)
  | sendWithdrawal (dwAmount : Dword)
  | sendBalance
  | sendTransaction
  | sendStampPurchase (dwAmount : Dword)

/-- `wTransCnt`. -/
def wTransCnt : Word := 5

/-- The request a call sends; the start ID is that of `SendTransaction`. -/
def Call.request (dwSequence : Dword) (wClientID : Word) (dwStartID : Dword) : Call → Request
  | .sendConnect => .connect (.init dwSequence 0 majorVersion minorVersion validationKey 0)
  | .sendCreateAccount strFirstName strLastName strEmailAddress wPIN =>
    .createAccount
      (.init dwSequence wClientID strFirstName strLastName strEmailAddress wPIN 0 0 0) []
  | .sendLogIn strFirstName wPIN => .logon (.init dwSequence wClientID strFirstName wPIN 0) []
  | .sendLogOut => .logoff (.init dwSequence wClientID 0)
  | .sendDeposit dwAmount => .deposit (.init dwSequence wClientID dwAmount .cash 0)
  | .sendWithdrawal dwAmount => .withdrawal (.init dwSequence wClientID dwAmount 0)
  | .sendBalance => .balanceQuery (.init dwSequence wClientID 0)
  | .sendTransaction => .transactionQuery (.init dwSequence wClientID dwStartID wTransCnt 0)
  | .sendStampPurchase dwAmount => .stampPurchase (.init dwSequence wClientID dwAmount 0)

/-- The structure `pResp` points to. -/
def Call.respType : Call → MsgType
  | .sendConnect => .connectResponse
  | .sendCreateAccount _ _ _ _ => .createAccountResponse
  | .sendLogIn _ _ => .logonResponse
  | .sendLogOut => .logoffResponse
  | .sendDeposit _ => .depositResponse
  | .sendWithdrawal _ => .withdrawalResponse
  | .sendBalance => .balanceQueryResponse
  | .sendTransaction => .transactionQueryResponse
  | .sendStampPurchase _ => .purchaseStampsResponse

/-! ### One exchange -/

/-- A response and the number of the request it answers. -/
structure Answer where
  request : Nat
  response : Response

/-- What `Receive` does: it fills the buffer, or returns 0 or `SOCKET_ERROR`. -/
inductive Receipt
  | answer (a : Answer)
  | closed
  | error

/-- The outcomes of `Send` and `Receive` in one exchange. -/
structure Exchange where
  sendFailed : Bool
  receipt : Receipt

/-- The globals and the variables of `main`, and the start ID of the next query of
`SendTransaction`, 0 outside its loop. -/
structure ClientProgram where
  szBuffer : SzBuffer
  dwSequenceNumber : Dword
  wClientID : Word
  dwStartID : Dword

def ClientProgram.start : ClientProgram := ⟨.zero, 0, invalidClientID, 0⟩

/-- The program after an exchange, the records it printed, and what the call returned, if
it did. -/
structure Turn where
  program : ClientProgram
  printed : List Transaction
  cerResult : Option Dword

/-- The buffer after `Receive`. -/
def SzBuffer.receive (szBuffer : SzBuffer) : Receipt → SzBuffer
  | .answer a => ReceiveBuffer.receive szBuffer a.response.bytes
  | .closed => szBuffer
  | .error => szBuffer

/-- What follows `Receive`; `beyond` is the memory behind `g_szBuffer`. -/
def Call.finish (call : Call) (beyond : List Byte) (p : ClientProgram) : Turn :=
  let memory := p.szBuffer.bytes ++ beyond
  let cerResult : Dword := BitVec.ofNat 32 (call.respType.get memory .result)
  match call with
  | .sendConnect =>
    if cerResult = CerType.success.code then
      ⟨{ p with wClientID := BitVec.ofNat 16 (MsgType.connectResponse.get memory .newClientID) },
        [], some cerResult⟩
    else ⟨p, [], some cerResult⟩
  | .sendTransaction =>
    if cerResult = CerType.success.code then
      let wCnt : Word :=
        BitVec.ofNat 16 (MsgType.transactionQueryResponse.get memory .transactionCount)
      let printed := (List.range wCnt.toNat).map (Transaction.at memory)
      if wCnt < wTransCnt then ⟨{ p with dwStartID := 0 }, printed, some cerResult⟩
      -- `bMoreRecords` stays true
      else ⟨{ p with dwStartID := (Transaction.at memory (wCnt - 1).toNat).id + 1 }, printed, none⟩
    else ⟨{ p with dwStartID := 0 }, [], some cerResult⟩
  | _ => ⟨p, [], some cerResult⟩

/-- A request is built and sent, and something or nothing is received; the results of
`Send` and `Receive` are not looked at. -/
def Call.exchange (call : Call) (beyond : List Byte) (io : Exchange) (p : ClientProgram) : Turn :=
  call.finish beyond { p with
    dwSequenceNumber := p.dwSequenceNumber + 1
    szBuffer := p.szBuffer.receive io.receipt }

/-! ### Runs of the program -/

/-- The program and the number of calls that have returned. -/
structure ClientRun where
  program : ClientProgram
  returned : Nat

/-- The program after `n` exchanges; the user makes the calls in order. -/
def runClient (beyond : List Byte) (calls : Nat → Call) (io : Nat → Exchange) : Nat → ClientRun
  | 0 => ⟨.start, 0⟩
  | n + 1 =>
    let r := runClient beyond calls io n
    let turn := (calls r.returned).exchange beyond (io n) r.program
    ⟨turn.program, if turn.cerResult.isSome then r.returned + 1 else r.returned⟩

section

variable (beyond : List Byte) (calls : Nat → Call) (io : Nat → Exchange) (n : Nat)

/-- The call that makes exchange `n`. -/
def callAt : Call := calls (runClient beyond calls io n).returned

/-- Exchange `n`. -/
def turnAt : Turn :=
  (callAt beyond calls io n).exchange beyond (io n) (runClient beyond calls io n).program

end

end Cnp
