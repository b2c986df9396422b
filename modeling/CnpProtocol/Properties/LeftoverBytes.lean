import CnpProtocol.Server.ClientThread

/-!
# Leftover bytes

A handler is given the number of bytes received and only prints it, so a message that is
shorter than its structure is completed by what earlier messages left in the buffer. A
message that has all the bytes its handler reads is not affected by them.
-/

namespace Cnp

/-! ### What a handler reads -/

/-- The end of a member. -/
def MsgType.endOf (t : MsgType) (f : Field) : Nat :=
  Packed.offset Build.win32.width t.members f + Build.win32.width f

/-- The bytes the handler of a request reads, up to its last member. -/
def Request.needs : Request → Nat
  | .connect _ => MsgType.connectRequest.endOf .validationKey
  | .createAccount _ _ => MsgType.createAccountRequest.endOf .dlNumber
  | .logon _ _ => MsgType.logonRequest.endOf .pin
  | .logoff _ => MsgType.logoffRequest.endOf .context
  -- the type of a deposit is not read
  | .deposit _ => MsgType.depositRequest.endOf .amount
  | .withdrawal _ => MsgType.withdrawalRequest.endOf .amount
  | .balanceQuery _ => MsgType.balanceQueryRequest.endOf .context
  | .transactionQuery _ => MsgType.transactionQueryRequest.endOf .transactionCount
  | .stampPurchase _ => MsgType.purchaseStampsRequest.endOf .amount

def Request.HasName : Request → Prop
  | .createAccount _ _ | .logon _ _ => True
  | _ => False

/-- The first `n` bytes of the buffer hold all that is read of the message: its type, the
members its handler reads, and the end of a name. -/
structure Covers (rgBuffer : List Byte) (n : Nat) : Prop where
  type : 4 ≤ n
  members : ∀ r, requestAt rgBuffer = some r → r.needs ≤ n
  name : ∀ r, requestAt rgBuffer = some r → r.HasName → 0 ∈ (rgBuffer.drop 16).take (n - 16)

/-! ### Requests a handler cannot tell apart -/

/-- Two casts of a buffer that the handlers treat alike. -/
inductive SameRequest : Request → Request → Prop
  | same (r : Request) : SameRequest r r
  | createAccount (m : CreateAccountRequest) (beyond beyond' : List Byte)
      (name : Bytes.cString (m.getFirstName beyond) = Bytes.cString (m.getFirstName beyond')) :
      SameRequest (.createAccount m beyond) (.createAccount m beyond')
  | logon (m : LogonRequest) (beyond beyond' : List Byte)
      (name : Bytes.cString (m.getFirstName beyond) = Bytes.cString (m.getFirstName beyond')) :
      SameRequest (.logon m beyond) (.logon m beyond')
  | deposit (m m' : DepositRequest) (hdr : m.hdr = m'.hdr)
      (amount : m.request.amount = m'.request.amount) : SameRequest (.deposit m) (.deposit m')

theorem isValidName_congr {szName szName' : List Byte}
    (same : Bytes.cString szName = Bytes.cString szName') :
    isValidName szName = isValidName szName' := by
  rw [Bool.eq_iff_iff, isValidName_iff, isValidName_iff, same]

theorem SameRequest.dispatch {r r' : Request} (same : SameRequest r r') (s : Server) (c : Socket)
    (now : Qword) : dispatch s c now r = dispatch s c now r' := by
  cases same with
  | same r => rfl
  | createAccount m beyond beyond' name =>
    have customer : m.customerID beyond = m.customerID beyond' :=
      (generateCustomerID_eq_iff _ _ _ _).mpr ⟨congrArg nameBits name, rfl⟩
    simp only [Cnp.dispatch, processCreateAccountRequest, isValidName_congr name, customer]
  | logon m beyond beyond' name =>
    have customer : m.customerID beyond = m.customerID beyond' :=
      (generateCustomerID_eq_iff _ _ _ _).mpr ⟨congrArg nameBits name, rfl⟩
    simp only [Cnp.dispatch, processLogonRequest, isValidName_congr name, customer]
  | deposit m m' hdr amount =>
    simp only [Cnp.dispatch, processDepositRequest, hdr, amount]

/-! ### Casts of equal prefixes -/

section Casts

variable {memory memory' : List Byte} {n : Nat}

theorem StdHdr.at_congr (same : memory.take n = memory'.take n) (long : 16 ≤ n) :
    StdHdr.at memory = StdHdr.at memory' := by
  have read (f : Field) (inside : Packed.offset Build.win32.width stdHdr f +
      Build.win32.width f ≤ 16) : Packed.read Build.win32.width stdHdr memory f =
        Packed.read Build.win32.width stdHdr memory' f :=
    Packed.read_congr _ _ f (inside.trans long) same
  rw [StdHdr.at, StdHdr.at, read .msgType (by decide), read .dataLen (by decide),
    read .clientID (by decide), read .sequence (by decide), read .context (by decide)]

theorem MsgType.get_congr (t : MsgType) {bound : Nat} (same : memory.take n = memory'.take n)
    (long : bound ≤ n) (f : Field) (inside : t.endOf f ≤ bound) :
    t.get memory f = t.get memory' f :=
  Packed.read_congr _ _ f (inside.trans long) same

theorem NameField.at_congr (same : memory.take maxNameLen = memory'.take maxNameLen) :
    NameField.at memory = NameField.at memory' := by
  have length := congrArg List.length same
  simp only [List.length_take] at length
  have padding : maxNameLen - memory.length = maxNameLen - memory'.length := by omega
  simp only [NameField.at, List.take_append, same, padding]

theorem MsgType.getName_congr (t : MsgType) {bound : Nat} (same : memory.take n = memory'.take n)
    (long : bound ≤ n) (f : Field)
    (inside : Packed.offset Build.win32.width t.members f + maxNameLen ≤ bound) :
    t.getName memory f = t.getName memory' f := by
  apply NameField.at_congr
  have window (bytes : List Byte) :
      (bytes.drop (Packed.offset Build.win32.width t.members f)).take maxNameLen =
        ((bytes.take n).drop (Packed.offset Build.win32.width t.members f)).take maxNameLen := by
    rw [List.drop_take, List.take_take, Nat.min_eq_left (by omega)]
  rw [window memory, window memory', same]

theorem ConnectRequest.at_congr (same : memory.take n = memory'.take n) (long : 24 ≤ n) :
    ConnectRequest.at memory = ConnectRequest.at memory' := by
  have get := MsgType.connectRequest.get_congr same long
  rw [ConnectRequest.at, ConnectRequest.at, StdHdr.at_congr same (by omega),
    get .majorVersion (by decide), get .minorVersion (by decide), get .validationKey (by decide)]

theorem CreateAccountRequest.at_congr (same : memory.take n = memory'.take n) (long : 122 ≤ n) :
    CreateAccountRequest.at memory = CreateAccountRequest.at memory' := by
  have get := MsgType.createAccountRequest.get_congr same long
  have name := MsgType.createAccountRequest.getName_congr same long
  rw [CreateAccountRequest.at, CreateAccountRequest.at, StdHdr.at_congr same (by omega),
    name .firstName (by decide), name .lastName (by decide), name .emailAddress (by decide),
    get .pin (by decide), get .ssNumber (by decide), get .dlNumber (by decide)]

theorem LogonRequest.at_congr (same : memory.take n = memory'.take n) (long : 50 ≤ n) :
    LogonRequest.at memory = LogonRequest.at memory' := by
  rw [LogonRequest.at, LogonRequest.at, StdHdr.at_congr same (by omega),
    MsgType.logonRequest.getName_congr same long .firstName (by decide),
    MsgType.logonRequest.get_congr same long .pin (by decide)]

theorem LogoffRequest.at_congr (same : memory.take n = memory'.take n) (long : 16 ≤ n) :
    LogoffRequest.at memory = LogoffRequest.at memory' := by
  rw [LogoffRequest.at, LogoffRequest.at, StdHdr.at_congr same long]

theorem WithdrawalRequest.at_congr (same : memory.take n = memory'.take n) (long : 20 ≤ n) :
    WithdrawalRequest.at memory = WithdrawalRequest.at memory' := by
  rw [WithdrawalRequest.at, WithdrawalRequest.at, StdHdr.at_congr same (by omega),
    MsgType.withdrawalRequest.get_congr same long .amount (by decide)]

theorem BalanceQueryRequest.at_congr (same : memory.take n = memory'.take n) (long : 16 ≤ n) :
    BalanceQueryRequest.at memory = BalanceQueryRequest.at memory' := by
  rw [BalanceQueryRequest.at, BalanceQueryRequest.at, StdHdr.at_congr same long]

theorem TransactionQueryRequest.at_congr (same : memory.take n = memory'.take n) (long : 22 ≤ n) :
    TransactionQueryRequest.at memory = TransactionQueryRequest.at memory' := by
  have get := MsgType.transactionQueryRequest.get_congr same long
  rw [TransactionQueryRequest.at, TransactionQueryRequest.at, StdHdr.at_congr same (by omega),
    get .startID (by decide), get .transactionCount (by decide)]

theorem StampPurchaseRequest.at_congr (same : memory.take n = memory'.take n) (long : 20 ≤ n) :
    StampPurchaseRequest.at memory = StampPurchaseRequest.at memory' := by
  rw [StampPurchaseRequest.at, StampPurchaseRequest.at, StdHdr.at_congr same (by omega),
    MsgType.purchaseStampsRequest.get_congr same long .amount (by decide)]

/-- A string that ends inside the common part is the same in both. -/
theorem cString_congr (start : Nat) (same : memory.take n = memory'.take n)
    (terminated : 0 ∈ (memory.drop start).take (n - start)) :
    Bytes.cString (memory.drop start) = Bytes.cString (memory'.drop start) := by
  have piece : (memory.drop start).take (n - start) = (memory'.drop start).take (n - start) := by
    rw [← List.drop_take, ← List.drop_take, same]
  rw [← List.take_append_drop (n - start) (memory.drop start),
    Bytes.cString_append _ _ terminated, piece,
    ← Bytes.cString_append _ ((memory'.drop start).drop (n - start)) (piece ▸ terminated),
    List.take_append_drop]

end Casts

/-! ### No effect of leftover bytes -/

/-- Buffers that agree on a message are cast to requests that are treated alike. -/
theorem cast_congr (b b' : RgBuffer) (n : Nat) (same : b.bytes.take n = b'.bytes.take n)
    (t : MsgType) (r : Request) (cast : t.cast b.bytes = some r) (needs : r.needs ≤ n)
    (name : r.HasName → 0 ∈ (b.bytes.drop 16).take (n - 16)) :
    ∃ r', t.cast b'.bytes = some r' ∧ SameRequest r r' := by
  have length : b.bytes.length = 2048 := b.length_eq
  have length' : b'.bytes.length = 2048 := b'.length_eq
  cases t with
  | connectRequest =>
    cases cast
    exact ⟨_, rfl, ConnectRequest.at_congr same needs ▸ .same _⟩
  | createAccountRequest =>
    cases cast
    -- the request is the same, and the name ends inside the message
    have equal := CreateAccountRequest.at_congr same needs
    have first := CreateAccountRequest.getFirstName_at b.bytes (by omega)
    have second := CreateAccountRequest.getFirstName_at b'.bytes (by omega)
    rw [← equal] at second
    refine ⟨.createAccount (.at b.bytes) (b'.bytes.drop 122), by rw [equal]; rfl, ?_⟩
    refine .createAccount (.at b.bytes) (b.bytes.drop 122) (b'.bytes.drop 122) ?_
    rw [first, second]
    exact cString_congr 16 same (name trivial)
  | logonRequest =>
    cases cast
    have equal := LogonRequest.at_congr same needs
    have first := LogonRequest.getFirstName_at b.bytes (by omega)
    have second := LogonRequest.getFirstName_at b'.bytes (by omega)
    rw [← equal] at second
    refine ⟨.logon (.at b.bytes) (b'.bytes.drop 50), by rw [equal]; rfl, ?_⟩
    refine .logon (.at b.bytes) (b.bytes.drop 50) (b'.bytes.drop 50) ?_
    rw [first, second]
    exact cString_congr 16 same (name trivial)
  | logoffRequest =>
    cases cast
    exact ⟨_, rfl, LogoffRequest.at_congr same needs ▸ .same _⟩
  | depositRequest =>
    cases cast
    have long : 20 ≤ n := needs
    refine ⟨_, rfl, .deposit _ _ (StdHdr.at_congr same (by omega)) ?_⟩
    exact congrArg (BitVec.ofNat 32)
      (MsgType.depositRequest.get_congr same needs .amount (Nat.le_refl _))
  | withdrawalRequest =>
    cases cast
    exact ⟨_, rfl, WithdrawalRequest.at_congr same needs ▸ .same _⟩
  | balanceQueryRequest =>
    cases cast
    exact ⟨_, rfl, BalanceQueryRequest.at_congr same needs ▸ .same _⟩
  | transactionQueryRequest =>
    cases cast
    exact ⟨_, rfl, TransactionQueryRequest.at_congr same needs ▸ .same _⟩
  | purchaseStampsRequest =>
    cases cast
    exact ⟨_, rfl, StampPurchaseRequest.at_congr same needs ▸ .same _⟩
  | _ => cases cast

/-- The type is the first member. -/
theorem msgType_congr {memory memory' : List Byte} {n : Nat}
    (same : memory.take n = memory'.take n) (long : 4 ≤ n) :
    (StdHdr.at memory).msgType = (StdHdr.at memory').msgType :=
  congrArg (BitVec.ofNat 32) (Packed.read_congr Build.win32.width stdHdr .msgType
    ((by decide : _ ≤ 4).trans long) same)

theorem SameRequest.clientIDAfter {r r' : Request} (same : SameRequest r r') (s : Server)
    (c : Socket) (w : Word) : clientIDAfter s c w r = clientIDAfter s c w r' := by
  cases same with
  | _ => rfl

/-- For every state and all contents of the buffer that agree on the received bytes: when
these hold all that is read of the message, the switch leaves the same tables, the same
client ID and the same response. -/
theorem leftover_bytes_unused (s : Server) (c : Socket) (now : Qword) (wClientID : Word) (n : Nat)
    (b b' : RgBuffer) (same : b.bytes.take n = b'.bytes.take n) (covers : Covers b.bytes n) :
    dispatchBuffer s c now wClientID b.bytes = dispatchBuffer s c now wClientID b'.bytes := by
  have type := msgType_congr same covers.type
  cases selected : MsgType.ofCode? (StdHdr.at b.bytes).msgType with
  | none =>
    -- no branch of the switch
    have first : requestAt b.bytes = none := by rw [requestAt, selected]; rfl
    have second : requestAt b'.bytes = none := by rw [requestAt, ← type, selected]; rfl
    rw [dispatchBuffer, dispatchBuffer, first, second]
  | some t =>
    have first : requestAt b.bytes = t.cast b.bytes := by rw [requestAt, selected]; rfl
    have second : requestAt b'.bytes = t.cast b'.bytes := by
      rw [requestAt, ← type, selected]
      rfl
    cases cast : t.cast b.bytes with
    | none =>
      have other : t.cast b'.bytes = none := by
        cases t <;> first | rfl | cases cast
      rw [dispatchBuffer, dispatchBuffer, first, second, cast, other]
    | some r =>
      have found : requestAt b.bytes = some r := first.trans cast
      obtain ⟨r', cast', alike⟩ := cast_congr b b' n same t r cast (covers.members r found)
        (covers.name r found)
      rw [dispatchBuffer, dispatchBuffer, found, second, cast', Option.map_some, Option.map_some,
        alike.dispatch, alike.clientIDAfter]

/-! ### A deposit in two pieces -/

/-- A deposit from client 1 as it is sent. -/
def depositBytes (dwAmount : Dword) : List Byte :=
  let m := DepositRequest.init 4 1 dwAmount .cash 0
  MsgType.depositRequest.encode m.hdr m.value

theorem length_depositBytes (dwAmount : Dword) : (depositBytes dwAmount).length = 22 :=
  MsgType.depositRequest.length_encode _ _

/-- The buffer after a deposit was received. -/
def bufferOfDeposit (rgBuffer : RgBuffer) (dwAmount : Dword) : RgBuffer :=
  rgBuffer.receive ⟨depositBytes dwAmount, by simp [length_depositBytes],
    by simp [length_depositBytes, sizeofRgBuffer]⟩

/-- The buffer after the first 16 bytes of a deposit, its header, were received. -/
def bufferOfHeader (rgBuffer : RgBuffer) (dwAmount : Dword) : RgBuffer :=
  rgBuffer.receive ⟨(depositBytes dwAmount).take 16, by simp [length_depositBytes],
    by simp [length_depositBytes, sizeofRgBuffer]⟩

/-- A deposit that arrives whole is the same with any buffer behind it. -/
theorem leftover_bytes_unused_deposit :
    let s := run .empty (Client.firstVisit 7 [65, 110, 110, 97] 4711 100)
    dispatchBuffer s 7 0 1 (bufferOfDeposit .zero 40).bytes =
      dispatchBuffer s 7 0 1 (bufferOfDeposit (bufferOfDeposit .zero 500) 40).bytes := by
  intro s
  have arrived (rgBuffer : RgBuffer) :
      (bufferOfDeposit rgBuffer 40).bytes = depositBytes 40 ++ rgBuffer.bytes.drop 22 := by
    rw [bufferOfDeposit, RgBuffer.bytes_receive, length_depositBytes]
  have cast : requestAt (bufferOfDeposit .zero 40).bytes =
      some (.deposit (.init 4 1 40 .cash 0)) := by
    rw [arrived, depositBytes, requestAt_encode _ _ _ _ rfl, MsgType.cast,
      DepositRequest.at_encode]
  refine leftover_bytes_unused s 7 0 1 22 _ _ ?_ ⟨by decide, fun r found => ?_, fun r found => ?_⟩
  · rw [arrived, arrived, List.take_left' (length_depositBytes 40),
      List.take_left' (length_depositBytes 40)]
  · rw [cast] at found
    cases found
    decide
  · rw [cast] at found
    cases found
    exact False.elim

/-- After a deposit of 500 the header of another one is received alone: the amount of 500 is
paid in once more. -/
theorem short_deposit_takes_amount :
    ¬ ∀ (s : Server) (c : Socket) (now : Qword) (wClientID : Word) (n : Nat) (b b' : RgBuffer),
      1 ≤ n → n ≤ 2047 → b.bytes.take n = b'.bytes.take n →
        dispatchBuffer s c now wClientID b.bytes = dispatchBuffer s c now wClientID b'.bytes := by
  intro unaffected
  have equal := unaffected (run .empty (Client.firstVisit 7 [65, 110, 110, 97] 4711 100)) 7 0 1 16
    (bufferOfHeader .zero 40) (bufferOfHeader (bufferOfDeposit .zero 500) 40) (by decide)
    (by decide) (by decide +kernel)
  have balances := congrArg (Option.map fun r => (r.2.server.accountInfo.find?
    (generateCustomerID [65, 110, 110, 97] 4 4711)).map (·.balance)) equal
  exact absurd balances (by decide +kernel)

end Cnp
