import CnpProtocol.Client.Calls

/-!
# Answers the client believes

A call reports what the buffer holds, whether or not anything was received. The buffer has
the result of the last response there was; before the first one it is zeroed, which reads
as `CER_SUCCESS`.
-/

namespace Cnp

section

variable (beyond : List Byte) (calls : Nat → Call) (io : Nat → Exchange) (n : Nat)

/-- When the call returns `CER_SUCCESS` after exchange `n`, the response to its request was
received in it and says so. -/
def BelievesAnswer : Prop :=
  (turnAt beyond calls io n).cerResult = some CerType.success.code →
    ∃ a, (io n).receipt = .answer a ∧ a.request = n ∧
      a.response.getResponseResult = CerType.success.code

/-- The result of the last response in the first `n` exchanges. -/
def lastResult (io : Nat → Exchange) : Nat → Dword
  | 0 => 0
  | n + 1 =>
    match (io n).receipt with
    | .answer a => a.response.getResponseResult
    | _ => lastResult io n

/-- The buffer when exchange `n` is evaluated. -/
def szBufferAt : SzBuffer :=
  (runClient beyond calls io n).program.szBuffer.receive (io n).receipt

/-- The request is not answered, the last response there was is a success, and the loop of
`SendTransaction` finds a short page in the buffer. -/
structure Misled : Prop where
  unanswered : ∀ a, (io n).receipt = .answer a → a.request ≠ n
  stale : lastResult io (n + 1) = CerType.success.code
  short : callAt beyond calls io n = .sendTransaction →
    MsgType.transactionQueryResponse.get ((szBufferAt beyond calls io n).bytes ++ beyond)
      .transactionCount < wTransCnt.toNat

end

/-! ### What a call reads -/

/-- All responses are read at the same place. -/
theorem Call.get_result (call : Call) (memory : List Byte) :
    call.respType.get memory .result =
      Packed.read Build.win32.width (stdHdr ++ [.result]) memory .result := by
  cases call with
  | _ => rfl

theorem Call.finish_szBuffer (call : Call) (beyond : List Byte) (p : ClientProgram) :
    (call.finish beyond p).program.szBuffer = p.szBuffer := by
  cases call with
  | sendConnect =>
    simp only [Call.finish]
    split <;> rfl
  | sendTransaction =>
    simp only [Call.finish]
    split
    · split <;> rfl
    · rfl
  | _ => rfl

/-- A call returns success when it reads it, except inside the loop. -/
theorem Call.finish_success_iff (call : Call) (beyond : List Byte) (p : ClientProgram) :
    (call.finish beyond p).cerResult = some CerType.success.code ↔
      BitVec.ofNat 32 (call.respType.get (p.szBuffer.bytes ++ beyond) .result) =
          CerType.success.code ∧
        (call = .sendTransaction →
          MsgType.transactionQueryResponse.get (p.szBuffer.bytes ++ beyond) .transactionCount <
            wTransCnt.toNat) := by
  cases call with
  | sendConnect =>
    simp only [Call.finish]
    split <;> simp_all
  | sendTransaction =>
    have fits : MsgType.transactionQueryResponse.get (p.szBuffer.bytes ++ beyond)
        .transactionCount < 2 ^ 16 := Packed.read_lt Build.win32.width _ _ .transactionCount
    simp only [Call.finish, BitVec.lt_def, BitVec.toNat_ofNat, Nat.mod_eq_of_lt fits]
    split
    next read =>
      split
      next short => simp [read, short]
      next more => simp [more]
    next read => simp [read]
  | _ => simp [Call.finish]

/-! ### The result in the buffer -/

/-- A response brings its result, and nothing else changes it. -/
theorem SzBuffer.read_receive (szBuffer : SzBuffer) (receipt : Receipt) (beyond : List Byte) :
    BitVec.ofNat 32 (Packed.read Build.win32.width (stdHdr ++ [.result])
        ((szBuffer.receive receipt).bytes ++ beyond) .result) =
      match receipt with
      | .answer a => a.response.getResponseResult
      | _ => BitVec.ofNat 32 (Packed.read Build.win32.width (stdHdr ++ [.result])
          (szBuffer.bytes ++ beyond) .result) := by
  cases receipt with
  | answer a =>
    have read := ReceiveBuffer.read_receive Build.win32.width (stdHdr ++ [Field.result]) szBuffer
      a.response.bytes beyond .result a.response.le_length_bytes (by decide)
    have result := a.response.read_result []
    rw [List.append_nil] at result
    simp only [SzBuffer.receive, read, result, BitVec.ofNat_toNat, BitVec.setWidth_eq]
  | closed => rfl
  | error => rfl

/-- The buffer has the result of the last response. -/
theorem result_runClient (beyond : List Byte) (calls : Nat → Call) (io : Nat → Exchange)
    (n : Nat) :
    BitVec.ofNat 32 (Packed.read Build.win32.width (stdHdr ++ [.result])
        ((runClient beyond calls io n).program.szBuffer.bytes ++ beyond) .result) =
      lastResult io n := by
  induction n with
  | zero => rfl
  | succ n ih =>
    simp only [runClient, Call.exchange, Call.finish_szBuffer]
    rw [SzBuffer.read_receive, lastResult, ih]

/-! ### When the client is misled -/

theorem turnAt_success_iff (beyond : List Byte) (calls : Nat → Call) (io : Nat → Exchange)
    (n : Nat) :
    (turnAt beyond calls io n).cerResult = some CerType.success.code ↔
      lastResult io (n + 1) = CerType.success.code ∧
        (callAt beyond calls io n = .sendTransaction →
          MsgType.transactionQueryResponse.get ((szBufferAt beyond calls io n).bytes ++ beyond)
            .transactionCount < wTransCnt.toNat) := by
  have result := result_runClient beyond calls io (n + 1)
  simp only [runClient, Call.exchange, Call.finish_szBuffer] at result
  rw [turnAt, Call.exchange, Call.finish_success_iff, Call.get_result, result]
  rfl

/-- For every sequence of calls and every outcome of the exchanges, an exchange ends with a
success that is no answer exactly when the client is misled. -/
theorem believes_answer_iff (beyond : List Byte) (calls : Nat → Call) (io : Nat → Exchange)
    (n : Nat) : BelievesAnswer beyond calls io n ↔ ¬ Misled beyond calls io n := by
  rw [BelievesAnswer, turnAt_success_iff]
  constructor
  · intro believes misled
    obtain ⟨a, received, own, _⟩ := believes ⟨misled.stale, misled.short⟩
    exact misled.unanswered a received own
  · rintro answered ⟨last, short⟩
    by_contra none
    refine answered ⟨fun a received own => none ⟨a, received, own, ?_⟩, last, short⟩
    -- the last response is the one just received
    rwa [lastResult, received] at last

/-- The answer to a connect, and nothing after it. -/
def thenClosed (n : Nat) : Exchange where
  sendFailed := false
  receipt := if n = 0 then .answer ⟨0, .connect (.init CerType.success.code 1 serverMajorVersion
    serverMinorVersion 0 0)⟩ else .closed

/-- The connection is closed after the connect, and the withdrawal reports success. -/
theorem withdrawal_unanswered :
    let calls := fun n => if n = 0 then Call.sendConnect else .sendWithdrawal 100
    (turnAt [] calls thenClosed 1).cerResult = some CerType.success.code ∧
      ¬ BelievesAnswer [] calls thenClosed 1 := by
  intro calls
  have success : (turnAt [] calls thenClosed 1).cerResult = some CerType.success.code := by
    decide +kernel
  refine ⟨success, fun believes => ?_⟩
  obtain ⟨a, received, _⟩ := believes success
  cases received

end Cnp
