import CnpProtocol.Client.Conversation
import CnpProtocol.Client.Network
import CnpProtocol.Properties.ClientAnswers
import CnpProtocol.Properties.LeftoverBytes
import CnpProtocol.Properties.Responses
import CnpProtocol.Server.QueryBuffer

/-!
# Delivered messages

A request of a client that arrives whole is the one the client built, up to the bytes the
handler takes for the rest of a name, and a response that arrives whole is the one the
handler sent, whatever both buffers held before.
-/

namespace Cnp

/-! ### Requests -/

section Requests

variable (call : Call) (dwSequence : Dword) (w : Word) (dwStartID : Dword)

theorem Call.length_request :
    0 < (call.request dwSequence w dwStartID).bytes.length ∧
      (call.request dwSequence w dwStartID).bytes.length ≤ sizeofRgBuffer - 1 := by
  cases call with
  | _ =>
    simp only [Call.request, Request.bytes, MsgType.length_encode]
    decide

/-- The buffer is cast to the request that was sent. -/
theorem Call.requestAt_request (rest : List Byte) :
    ∃ r, requestAt ((call.request dwSequence w dwStartID).bytes ++ rest) = some r ∧
      SameRequest (call.request dwSequence w dwStartID) r := by
  cases call with
  | sendConnect =>
    simp only [Call.request, Request.bytes]
    rw [requestAt_encode _ _ _ _ rfl, MsgType.cast, ConnectRequest.at_encode]
    exact ⟨_, rfl, .same _⟩
  | sendCreateAccount strFirstName strLastName strEmailAddress wPIN =>
    simp only [Call.request, Request.bytes]
    rw [requestAt_encode _ _ _ _ rfl, MsgType.cast, CreateAccountRequest.at_encode]
    refine ⟨_, rfl, .createAccount _ _ _ ?_⟩
    -- the name ends inside its field
    have terminated := NameField.zero_mem_set_zero strFirstName
    exact (Bytes.cString_append _ _ terminated).trans (Bytes.cString_append _ _ terminated).symm
  | sendLogIn strFirstName wPIN =>
    simp only [Call.request, Request.bytes]
    rw [requestAt_encode _ _ _ _ rfl, MsgType.cast, LogonRequest.at_encode]
    refine ⟨_, rfl, .logon _ _ _ ?_⟩
    have terminated := NameField.zero_mem_set_zero strFirstName
    exact (Bytes.cString_append _ _ terminated).trans (Bytes.cString_append _ _ terminated).symm
  | sendLogOut =>
    simp only [Call.request, Request.bytes]
    rw [requestAt_encode _ _ _ _ rfl, MsgType.cast, LogoffRequest.at_encode]
    exact ⟨_, rfl, .same _⟩
  | sendDeposit dwAmount =>
    simp only [Call.request, Request.bytes]
    rw [requestAt_encode _ _ _ _ rfl, MsgType.cast, DepositRequest.at_encode]
    exact ⟨_, rfl, .same _⟩
  | sendWithdrawal dwAmount =>
    simp only [Call.request, Request.bytes]
    rw [requestAt_encode _ _ _ _ rfl, MsgType.cast, WithdrawalRequest.at_encode]
    exact ⟨_, rfl, .same _⟩
  | sendBalance =>
    simp only [Call.request, Request.bytes]
    rw [requestAt_encode _ _ _ _ rfl, MsgType.cast, BalanceQueryRequest.at_encode]
    exact ⟨_, rfl, .same _⟩
  | sendTransaction =>
    simp only [Call.request, Request.bytes]
    rw [requestAt_encode _ _ _ _ rfl, MsgType.cast, TransactionQueryRequest.at_encode]
    exact ⟨_, rfl, .same _⟩
  | sendStampPurchase dwAmount =>
    simp only [Call.request, Request.bytes]
    rw [requestAt_encode _ _ _ _ rfl, MsgType.cast, StampPurchaseRequest.at_encode]
    exact ⟨_, rfl, .same _⟩

/-- `Receive` takes the whole request. -/
theorem receive?_request :
    ∃ received, receive? (call.request dwSequence w dwStartID).bytes = some received ∧
      received.bytes = (call.request dwSequence w dwStartID).bytes := by
  obtain ⟨positive, short⟩ := call.length_request dwSequence w dwStartID
  refine ⟨_, dif_pos positive, ?_⟩
  exact List.take_of_length_le short

end Requests

theorem receive?_nil : receive? [] = none := rfl

/-! ### Responses -/

/-- The responses a call is made for. -/
def Call.Expects : Call → Response → Prop
  | .sendConnect, .connect _ => True
  | .sendConnect, _ => False
  | .sendBalance, .balanceQuery _ => True
  | .sendBalance, _ => False
  | .sendTransaction, .transactionQuery m =>
    m.response.transactionCount = BitVec.ofNat 16 m.response.transactions.length ∧
      m.response.transactions.length ≤ wTransCnt.toNat ∧
        (m.response.result ≠ CerType.success.code → m.response.transactions = [])
  | .sendTransaction, _ => False
  | _, .result _ => True
  | _, _ => False

/-- What the handler has found for a query, at most the number asked for. -/
theorem queryHandled_data (s : Server) (m : TransactionQueryRequest) :
    (queryHandled s m).data.1 = BitVec.ofNat 16 (queryHandled s m).data.2.length ∧
      (queryHandled s m).data.2.length ≤ m.request.transactionCount.toNat ∧
        ((queryHandled s m).cerRR ≠ .success → (queryHandled s m).data.2 = []) := by
  rcases withAccount_cases s m.hdr.clientID .clientNotLoggedon ((0, []) : Word × List Transaction)
    (fun qwCustomerID _ => (.success, s, collectTransactions qwCustomerID
      m.request.transactionCount 0 (s.transactionInfo.lowerBound m.request.startID))) with
    ⟨_, h⟩ | ⟨itS, _, _, h⟩ | ⟨itS, _, _, _, h⟩ | ⟨itS, itA, _, _, _, h⟩
  · rw [queryHandled, h]
    exact ⟨rfl, Nat.zero_le _, fun _ => rfl⟩
  · rw [queryHandled, h]
    exact ⟨rfl, Nat.zero_le _, fun _ => rfl⟩
  · rw [queryHandled, h]
    exact ⟨rfl, Nat.zero_le _, fun _ => rfl⟩
  · rw [queryHandled, h]
    have bound : 0 ≤ m.request.transactionCount := by bv_omega
    simp only [collectTransactions_eq _ _ 0 bound, List.length_map]
    refine ⟨BitVec.zero_add _, ?_, fun failed => absurd rfl failed⟩
    exact List.length_take_le _ _

/-- Every handler answers a call as the call expects. -/
theorem Call.expects_sent (call : Call) (dwSequence : Dword) (w : Word) (dwStartID : Dword)
    (s : Server) (c : Socket) (now : Qword) (out : Socket × Response)
    (member : out ∈ (dispatch s c now (call.request dwSequence w dwStartID)).sent) :
    call.Expects out.2 := by
  cases call with
  | sendConnect =>
    simp only [Call.request, dispatch, processConnectRequest] at member
    split at member
    · split at member
      · exact ((mem_send_iff _ _ _).mp member).2 ▸ trivial
      · exact ((mem_send_iff _ _ _).mp member).2 ▸ trivial
    · exact ((mem_send_iff _ _ _).mp member).2 ▸ trivial
  | sendCreateAccount strFirstName strLastName strEmailAddress wPIN =>
    simp only [Call.request, dispatch, processCreateAccountRequest] at member
    split at member
    · split at member
      · split at member
        · exact ((mem_send_iff _ _ _).mp member).2 ▸ trivial
        · exact ((mem_send_iff _ _ _).mp member).2 ▸ trivial
      · exact ((mem_send_iff _ _ _).mp member).2 ▸ trivial
    · exact ((mem_send_iff _ _ _).mp member).2 ▸ trivial
  | sendLogIn strFirstName wPIN =>
    simp only [Call.request, dispatch, processLogonRequest] at member
    split at member
    · split at member
      · split at member
        · exact ((mem_send_iff _ _ _).mp member).2 ▸ trivial
        · exact ((mem_send_iff _ _ _).mp member).2 ▸ trivial
      · exact ((mem_send_iff _ _ _).mp member).2 ▸ trivial
    · exact ((mem_send_iff _ _ _).mp member).2 ▸ trivial
  | sendLogOut =>
    simp only [Call.request, dispatch, processLogoffRequest] at member
    split at member
    · split at member
      · exact ((mem_send_iff _ _ _).mp member).2 ▸ trivial
      · exact ((mem_send_iff _ _ _).mp member).2 ▸ trivial
    · exact ((mem_send_iff _ _ _).mp member).2 ▸ trivial
  | sendTransaction =>
    rw [Call.request, dispatch, processTransactionQueryRequest_eq] at member
    obtain ⟨count, short, failed⟩ := queryHandled_data s (.init dwSequence w dwStartID wTransCnt 0)
    rw [((mem_send_iff _ _ _).mp member).2]
    refine ⟨count, short, fun code => failed fun success => code ?_⟩
    exact congrArg CerType.code success
  | _ => exact ((mem_send_iff _ _ _).mp member).2 ▸ trivial

/-- What a call expects fits into its buffer. -/
theorem Call.Expects.length_le {call : Call} {resp : Response} (expects : call.Expects resp) :
    resp.bytes.length ≤ sizeofSzBuffer - 1 := by
  cases resp with
  | transactionQuery m =>
    cases call with
    | sendTransaction =>
      obtain ⟨count, short, _⟩ := expects
      have five : m.response.transactions.length ≤ 5 := short
      have front : Packed.sizeOf Build.win32.width
          (stdHdr ++ MsgType.transactionQueryResponse.body) = 22 := rfl
      have one : Packed.sizeOf Build.win32.width (transaction 0) = 18 := rfl
      rw [Response.bytes, Packed.length_encode, Response.body, ← List.append_assoc,
        Packed.sizeOf_append, front, sizeOf_records, one, count, BitVec.toNat_ofNat,
        Nat.mod_eq_of_lt (by omega), sizeofSzBuffer]
      omega
    | _ => exact expects.elim
  | connect m =>
    rw [Response.bytes, Packed.length_encode]
    exact (by decide : Packed.sizeOf Build.win32.width MsgType.connectResponse.members ≤ 511)
  | result m =>
    rw [Response.bytes, Packed.length_encode]
    exact (by decide : Packed.sizeOf Build.win32.width (stdHdr ++ [.result]) ≤ 511)
  | balanceQuery m =>
    rw [Response.bytes, Packed.length_encode]
    exact (by decide : Packed.sizeOf Build.win32.width MsgType.balanceQueryResponse.members ≤ 511)

/-- The client ID of a connect response. -/
def Response.newClientID? : Response → Option Word
  | .connect m => some m.response.clientID
  | _ => none

section Delivered

variable {call : Call} {resp : Response} (expects : call.Expects resp) (beyond : List Byte)
  (p : ClientProgram)

/-- The program when the response has been received. -/
def ClientProgram.delivered (p : ClientProgram) (resp : Response) : ClientProgram :=
  { p with szBuffer := ReceiveBuffer.receive p.szBuffer resp.bytes }

theorem Call.read_result_delivered (call : Call) (resp : Response) (beyond : List Byte)
    (p : ClientProgram) :
    BitVec.ofNat 32 (call.respType.get ((p.delivered resp).szBuffer.bytes ++ beyond) .result) =
      resp.getResponseResult := by
  rw [Call.get_result]
  exact SzBuffer.read_receive p.szBuffer (.answer ⟨0, resp⟩) beyond

include expects in
/-- The response is in front of the buffer. -/
theorem Call.Expects.memory_eq :
    ∃ rest, (p.delivered resp).szBuffer.bytes ++ beyond = resp.bytes ++ rest := by
  refine ⟨p.szBuffer.bytes.drop resp.bytes.length ++ beyond, ?_⟩
  rw [ClientProgram.delivered, ReceiveBuffer.bytes_receive _ _ expects.length_le,
    List.append_assoc]

include expects in
/-- The records that are printed are those of the response. -/
theorem Call.Expects.printed_eq :
    (call.finish beyond (p.delivered resp)).printed = resp.transactions := by
  have result := call.read_result_delivered resp beyond p
  cases call with
  | sendTransaction =>
    cases resp with
    | transactionQuery m =>
      obtain ⟨count, short, failed⟩ := expects
      simp only [Call.finish, result]
      split
      next success =>
        have page : IsPage m := ⟨success, count, short⟩
        obtain ⟨rest, memory⟩ := page.memory_eq beyond p.szBuffer
        have stored : BitVec.ofNat 16 (MsgType.transactionQueryResponse.get
            ((Response.transactionQuery m).bytes ++ rest) .transactionCount) =
              m.response.transactionCount := by
          rw [Response.read_transactionCount, BitVec.ofNat_toNat, BitVec.setWidth_eq]
        simp only [ClientProgram.delivered, memory, stored, page.map_transactionAt]
        split
        · rfl
        · rfl
      next other => exact (failed other).symm
    | _ => exact expects.elim
  | sendConnect =>
    cases resp with
    | connect m =>
      simp only [Call.finish]
      split
      · rfl
      · rfl
    | _ => exact expects.elim
  | sendBalance =>
    cases resp with
    | balanceQuery m => rfl
    | _ => exact expects.elim
  | _ =>
    cases resp with
    | result m => rfl
    | _ => exact expects.elim

include expects in
/-- Only a connect brings a new client ID. -/
theorem Call.Expects.wClientID_of_none (other : resp.newClientID? = none) :
    (call.finish beyond (p.delivered resp)).program.wClientID = p.wClientID := by
  cases call with
  | sendConnect =>
    cases resp with
    | connect m => cases other
    | _ => exact expects.elim
  | sendTransaction =>
    simp only [Call.finish]
    split
    · split
      · rfl
      · rfl
    · rfl
  | _ => rfl

include expects in
/-- The client remembers the client ID of a successful connect. -/
theorem Call.Expects.wClientID_of_some {w : Word} (new : resp.newClientID? = some w)
    (success : resp.getResponseResult = CerType.success.code) :
    (call.finish beyond (p.delivered resp)).program.wClientID = w := by
  have result := call.read_result_delivered resp beyond p
  obtain ⟨rest, memory⟩ := expects.memory_eq beyond p
  cases resp with
  | connect m =>
    cases new
    cases call with
    | sendConnect =>
      have fits := m.hdr.value_fits _ (Response.connect m).value_fits .newClientID
      have stored : MsgType.connectResponse.get ((Response.connect m).bytes ++ rest)
          .newClientID = m.response.clientID.toNat :=
        Packed.read_encode Build.win32.width MsgType.connectResponse.members _ rest .newClientID
          (by decide) fits
      rw [memory] at result
      simp only [Call.finish, memory, result, success, if_true, stored, BitVec.ofNat_toNat,
        BitVec.setWidth_eq]
    | _ => exact expects.elim
  | _ => cases new

end Delivered

end Cnp
