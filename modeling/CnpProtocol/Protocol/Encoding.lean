import CnpProtocol.Protocol.Layout

/-!
# Messages in memory

A received message is the start of a buffer that is cast to the structure its type
selects. The casts below read the members at their offsets in the Win32 build, where
`DWORD` has its documented width; in the other direction every message has the bytes of
its structure.
-/

namespace Cnp

/-! ### Casts -/

/-- A member of the structure at an address. -/
def MsgType.get (t : MsgType) (memory : List Byte) (f : Field) : Nat :=
  Packed.read Build.win32.width t.members memory f

/-- The address of a name. -/
def MsgType.getName (t : MsgType) (memory : List Byte) (f : Field) : NameField :=
  .at (memory.drop (Packed.offset Build.win32.width t.members f))

/-- `reinterpret_cast<cnp::STD_HDR*>`. -/
def StdHdr.at (memory : List Byte) : StdHdr where
  msgType := BitVec.ofNat 32 (Packed.read Build.win32.width stdHdr memory .msgType)
  dataLen := BitVec.ofNat 16 (Packed.read Build.win32.width stdHdr memory .dataLen)
  clientID := BitVec.ofNat 16 (Packed.read Build.win32.width stdHdr memory .clientID)
  sequence := BitVec.ofNat 32 (Packed.read Build.win32.width stdHdr memory .sequence)
  context := BitVec.ofNat 32 (Packed.read Build.win32.width stdHdr memory .context)

section

variable (memory : List Byte)

def ConnectRequest.at : ConnectRequest where
  hdr := .at memory
  request := ⟨BitVec.ofNat 16 (MsgType.connectRequest.get memory .majorVersion),
    BitVec.ofNat 16 (MsgType.connectRequest.get memory .minorVersion),
    BitVec.ofNat 32 (MsgType.connectRequest.get memory .validationKey)⟩

def CreateAccountRequest.at : CreateAccountRequest where
  hdr := .at memory
  request := ⟨MsgType.createAccountRequest.getName memory .firstName,
    MsgType.createAccountRequest.getName memory .lastName,
    MsgType.createAccountRequest.getName memory .emailAddress,
    BitVec.ofNat 16 (MsgType.createAccountRequest.get memory .pin),
    BitVec.ofNat 32 (MsgType.createAccountRequest.get memory .ssNumber),
    BitVec.ofNat 32 (MsgType.createAccountRequest.get memory .dlNumber)⟩

def LogonRequest.at : LogonRequest where
  hdr := .at memory
  request := ⟨MsgType.logonRequest.getName memory .firstName,
    BitVec.ofNat 16 (MsgType.logonRequest.get memory .pin)⟩

def LogoffRequest.at : LogoffRequest := ⟨.at memory, ⟨⟩⟩

def DepositRequest.at : DepositRequest where
  hdr := .at memory
  request := ⟨BitVec.ofNat 32 (MsgType.depositRequest.get memory .amount),
    BitVec.ofNat 16 (MsgType.depositRequest.get memory .depositType)⟩

def WithdrawalRequest.at : WithdrawalRequest where
  hdr := .at memory
  request := ⟨BitVec.ofNat 32 (MsgType.withdrawalRequest.get memory .amount)⟩

def BalanceQueryRequest.at : BalanceQueryRequest := ⟨.at memory, ⟨⟩⟩

def TransactionQueryRequest.at : TransactionQueryRequest where
  hdr := .at memory
  request := ⟨BitVec.ofNat 32 (MsgType.transactionQueryRequest.get memory .startID),
    BitVec.ofNat 16 (MsgType.transactionQueryRequest.get memory .transactionCount)⟩

def StampPurchaseRequest.at : StampPurchaseRequest where
  hdr := .at memory
  request := ⟨BitVec.ofNat 32 (MsgType.purchaseStampsRequest.get memory .amount)⟩

end

/-! ### Bytes -/

/-- The values of the header in front of those of a body. -/
def StdHdr.value (hdr : StdHdr) (body : Field → Nat) : Field → Nat
  | .msgType => hdr.msgType.toNat
  | .dataLen => hdr.dataLen.toNat
  | .clientID => hdr.clientID.toNat
  | .sequence => hdr.sequence.toNat
  | .context => hdr.context.toNat
  | f => body f

theorem StdHdr.value_fits (hdr : StdHdr) (body : Field → Nat)
    (fits : ∀ f, body f < 256 ^ Build.win32.width f) (f : Field) :
    hdr.value body f < 256 ^ Build.win32.width f := by
  cases f with
  | msgType => exact hdr.msgType.isLt
  | dataLen => exact hdr.dataLen.isLt
  | clientID => exact hdr.clientID.isLt
  | sequence => exact hdr.sequence.isLt
  | context => exact hdr.context.isLt
  | _ => exact fits _

/-- A header in front of a body is read back, wherever the body ends. -/
theorem StdHdr.at_encode (hdr : StdHdr) (body : Field → Nat) (members : List Field)
    (beyond : List Byte) :
    StdHdr.at (Packed.encode Build.win32.width (stdHdr ++ members) (hdr.value body) ++ beyond) =
      hdr := by
  have split : Packed.encode Build.win32.width (stdHdr ++ members) (hdr.value body) ++ beyond =
      Packed.encode Build.win32.width stdHdr (hdr.value fun _ => 0) ++
        (Packed.encode Build.win32.width members (hdr.value body) ++ beyond) := by
    rw [Packed.encode, List.flatMap_append, List.append_assoc]
    rfl
  have read (f : Field) (member : f ∈ stdHdr) := Packed.read_encode Build.win32.width stdHdr
    (hdr.value fun _ => 0)
    (Packed.encode Build.win32.width members (hdr.value body) ++ beyond) f member
    (hdr.value_fits _ Build.win32.zero_fits f)
  rw [split, StdHdr.at, read .msgType (by decide), read .dataLen (by decide),
    read .clientID (by decide), read .sequence (by decide), read .context (by decide)]
  simp [StdHdr.value]

/-- The number a name is stored as. -/
def NameField.value (field : NameField) : Nat := Bytes.leNat field.bytes

theorem NameField.value_lt (field : NameField) : field.value < 256 ^ maxNameLen :=
  field.length_eq ▸ Bytes.leNat_lt field.bytes

theorem NameField.leBytes_value (field : NameField) :
    Bytes.leBytes maxNameLen field.value = field.bytes := by
  have spelled := Bytes.leBytes_leNat field.bytes
  rwa [field.length_eq] at spelled

section

variable (t : MsgType) (hdr : StdHdr) (body : Field → Nat) (beyond : List Byte)

/-- A message of a type as it lies in memory. -/
def MsgType.encode : List Byte := Packed.encode Build.win32.width t.members (hdr.value body)

theorem MsgType.length_encode :
    (t.encode hdr body).length = Packed.sizeOf Build.win32.width t.members :=
  Packed.length_encode _ _ _

theorem MsgType.get_encode (fits : ∀ f, body f < 256 ^ Build.win32.width f) (f : Field)
    (member : f ∈ t.members) : t.get (t.encode hdr body ++ beyond) f = hdr.value body f :=
  Packed.read_encode _ _ _ beyond f member (hdr.value_fits body fits f)

theorem MsgType.hdr_encode : StdHdr.at (t.encode hdr body ++ beyond) = hdr :=
  StdHdr.at_encode hdr body t.body beyond

theorem MsgType.getName_encode (f : Field) (member : f ∈ t.members) (name : f.ctype = .name)
    (field : NameField) (stored : hdr.value body f = field.value) :
    t.getName (t.encode hdr body ++ beyond) f = field := by
  obtain ⟨rest, found⟩ := Packed.drop_offset_encode Build.win32.width t.members (hdr.value body)
    beyond f member
  have size : Build.win32.width f = maxNameLen := by rw [Build.width, name]; rfl
  rw [MsgType.getName, MsgType.encode, found, stored, size, field.leBytes_value,
    NameField.at_append]

end

/-! ### Requests -/

def ConnectRequest.value (m : ConnectRequest) : Field → Nat
  | .majorVersion => m.request.majorVersion.toNat
  | .minorVersion => m.request.minorVersion.toNat
  | .validationKey => m.request.validationKey.toNat
  | _ => 0

def CreateAccountRequest.value (m : CreateAccountRequest) : Field → Nat
  | .firstName => m.request.firstName.value
  | .lastName => m.request.lastName.value
  | .emailAddress => m.request.emailAddress.value
  | .pin => m.request.pin.toNat
  | .ssNumber => m.request.ssNumber.toNat
  | .dlNumber => m.request.dlNumber.toNat
  | _ => 0

def LogonRequest.value (m : LogonRequest) : Field → Nat
  | .firstName => m.request.firstName.value
  | .pin => m.request.pin.toNat
  | _ => 0

def DepositRequest.value (m : DepositRequest) : Field → Nat
  | .amount => m.request.amount.toNat
  | .depositType => m.request.type.toNat
  | _ => 0

/-- `_WITHDRAWAL_REQUEST` and `_STAMP_PURCHASE_REQUEST`. -/
def Prim.AmountRequest.value (request : Prim.AmountRequest) : Field → Nat
  | .amount => request.amount.toNat
  | _ => 0

def TransactionQueryRequest.value (m : TransactionQueryRequest) : Field → Nat
  | .startID => m.request.startID.toNat
  | .transactionCount => m.request.transactionCount.toNat
  | _ => 0

theorem ConnectRequest.value_fits (m : ConnectRequest) (f : Field) :
    m.value f < 256 ^ Build.win32.width f := by
  cases f with
  | majorVersion => exact m.request.majorVersion.isLt
  | minorVersion => exact m.request.minorVersion.isLt
  | validationKey => exact m.request.validationKey.isLt
  | _ => exact Build.win32.zero_fits _

theorem CreateAccountRequest.value_fits (m : CreateAccountRequest) (f : Field) :
    m.value f < 256 ^ Build.win32.width f := by
  cases f with
  | firstName => exact m.request.firstName.value_lt
  | lastName => exact m.request.lastName.value_lt
  | emailAddress => exact m.request.emailAddress.value_lt
  | pin => exact m.request.pin.isLt
  | ssNumber => exact m.request.ssNumber.isLt
  | dlNumber => exact m.request.dlNumber.isLt
  | _ => exact Build.win32.zero_fits _

theorem LogonRequest.value_fits (m : LogonRequest) (f : Field) :
    m.value f < 256 ^ Build.win32.width f := by
  cases f with
  | firstName => exact m.request.firstName.value_lt
  | pin => exact m.request.pin.isLt
  | _ => exact Build.win32.zero_fits _

theorem DepositRequest.value_fits (m : DepositRequest) (f : Field) :
    m.value f < 256 ^ Build.win32.width f := by
  cases f with
  | amount => exact m.request.amount.isLt
  | depositType => exact m.request.type.isLt
  | _ => exact Build.win32.zero_fits _

theorem Prim.AmountRequest.value_fits (request : Prim.AmountRequest) (f : Field) :
    request.value f < 256 ^ Build.win32.width f := by
  cases f with
  | amount => exact request.amount.isLt
  | _ => exact Build.win32.zero_fits _

theorem TransactionQueryRequest.value_fits (m : TransactionQueryRequest) (f : Field) :
    m.value f < 256 ^ Build.win32.width f := by
  cases f with
  | startID => exact m.request.startID.isLt
  | transactionCount => exact m.request.transactionCount.isLt
  | _ => exact Build.win32.zero_fits _

def ConnectRequest.message (m : ConnectRequest) : Message where
  type := .connectRequest
  value := m.hdr.value m.value
  fits := m.hdr.value_fits m.value m.value_fits

/-! The casts give back what was sent. -/

theorem ConnectRequest.at_encode (m : ConnectRequest) (beyond : List Byte) :
    ConnectRequest.at (MsgType.connectRequest.encode m.hdr m.value ++ beyond) = m := by
  have get := MsgType.connectRequest.get_encode m.hdr m.value beyond m.value_fits
  rw [ConnectRequest.at, MsgType.hdr_encode, get .majorVersion (by decide),
    get .minorVersion (by decide), get .validationKey (by decide)]
  simp [StdHdr.value, ConnectRequest.value]

theorem CreateAccountRequest.at_encode (m : CreateAccountRequest) (beyond : List Byte) :
    CreateAccountRequest.at (MsgType.createAccountRequest.encode m.hdr m.value ++ beyond) = m := by
  have get := MsgType.createAccountRequest.get_encode m.hdr m.value beyond m.value_fits
  have name := MsgType.createAccountRequest.getName_encode m.hdr m.value beyond
  rw [CreateAccountRequest.at, MsgType.hdr_encode, name .firstName (by decide) rfl _ rfl,
    name .lastName (by decide) rfl _ rfl, name .emailAddress (by decide) rfl _ rfl,
    get .pin (by decide), get .ssNumber (by decide), get .dlNumber (by decide)]
  simp [StdHdr.value, CreateAccountRequest.value]

theorem LogonRequest.at_encode (m : LogonRequest) (beyond : List Byte) :
    LogonRequest.at (MsgType.logonRequest.encode m.hdr m.value ++ beyond) = m := by
  have get := MsgType.logonRequest.get_encode m.hdr m.value beyond m.value_fits
  have name := MsgType.logonRequest.getName_encode m.hdr m.value beyond
  rw [LogonRequest.at, MsgType.hdr_encode, name .firstName (by decide) rfl _ rfl,
    get .pin (by decide)]
  simp [StdHdr.value, LogonRequest.value]

theorem LogoffRequest.at_encode (m : LogoffRequest) (body : Field → Nat) (beyond : List Byte) :
    LogoffRequest.at (MsgType.logoffRequest.encode m.hdr body ++ beyond) = m := by
  rw [LogoffRequest.at, MsgType.hdr_encode]

theorem DepositRequest.at_encode (m : DepositRequest) (beyond : List Byte) :
    DepositRequest.at (MsgType.depositRequest.encode m.hdr m.value ++ beyond) = m := by
  have get := MsgType.depositRequest.get_encode m.hdr m.value beyond m.value_fits
  rw [DepositRequest.at, MsgType.hdr_encode, get .amount (by decide),
    get .depositType (by decide)]
  simp [StdHdr.value, DepositRequest.value]

theorem WithdrawalRequest.at_encode (m : WithdrawalRequest) (beyond : List Byte) :
    WithdrawalRequest.at (MsgType.withdrawalRequest.encode m.hdr m.request.value ++ beyond) =
      m := by
  have get := MsgType.withdrawalRequest.get_encode m.hdr _ beyond m.request.value_fits
  rw [WithdrawalRequest.at, MsgType.hdr_encode, get .amount (by decide)]
  simp [StdHdr.value, Prim.AmountRequest.value]

theorem BalanceQueryRequest.at_encode (m : BalanceQueryRequest) (body : Field → Nat)
    (beyond : List Byte) :
    BalanceQueryRequest.at (MsgType.balanceQueryRequest.encode m.hdr body ++ beyond) = m := by
  rw [BalanceQueryRequest.at, MsgType.hdr_encode]

theorem TransactionQueryRequest.at_encode (m : TransactionQueryRequest) (beyond : List Byte) :
    TransactionQueryRequest.at (MsgType.transactionQueryRequest.encode m.hdr m.value ++ beyond) =
      m := by
  have get := MsgType.transactionQueryRequest.get_encode m.hdr m.value beyond m.value_fits
  rw [TransactionQueryRequest.at, MsgType.hdr_encode, get .startID (by decide),
    get .transactionCount (by decide)]
  simp [StdHdr.value, TransactionQueryRequest.value]

theorem StampPurchaseRequest.at_encode (m : StampPurchaseRequest) (beyond : List Byte) :
    StampPurchaseRequest.at (MsgType.purchaseStampsRequest.encode m.hdr m.request.value ++ beyond) =
      m := by
  have get := MsgType.purchaseStampsRequest.get_encode m.hdr _ beyond m.request.value_fits
  rw [StampPurchaseRequest.at, MsgType.hdr_encode, get .amount (by decide)]
  simp [StdHdr.value, Prim.AmountRequest.value]

/-! ### Responses -/

/-- `m_Response` and the records behind it; the six result responses have one shape. -/
def Response.body : Response → List Field
  | .connect _ => MsgType.connectResponse.body
  | .result _ => [.result]
  | .balanceQuery _ => MsgType.balanceQueryResponse.body
  | .transactionQuery m =>
    MsgType.transactionQueryResponse.body ++ records m.response.transactionCount.toNat

/-- A member of one of the records. -/
def recordValue (transactions : List Transaction) (i : Nat) (get : Transaction → Nat) : Nat :=
  (transactions[i]?.map get).getD 0

theorem recordValue_lt (transactions : List Transaction) (i : Nat) (get : Transaction → Nat)
    (n : Nat) (positive : 0 < n) (below : ∀ t, get t < n) :
    recordValue transactions i get < n := by
  rw [recordValue]
  cases transactions[i]? with
  | none => exact positive
  | some t => exact below t

def Response.value : Response → Field → Nat
  | .connect m => fun
    | .result => m.response.result.toNat
    | .majorVersion => m.response.majorVersion.toNat
    | .minorVersion => m.response.minorVersion.toNat
    | .newClientID => m.response.clientID.toNat
    | _ => 0
  | .result m => fun
    | .result => m.response.result.toNat
    | _ => 0
  | .balanceQuery m => fun
    | .result => m.response.result.toNat
    | .balance => m.response.balance.toNat
    | _ => 0
  | .transactionQuery m => fun
    | .result => m.response.result.toNat
    | .transactionCount => m.response.transactionCount.toNat
    | .id i => recordValue m.response.transactions i (·.id.toNat)
    | .dateTime i => recordValue m.response.transactions i (·.dateTime.toNat)
    | .transactionAmount i => recordValue m.response.transactions i (·.amount.toNat)
    | .transactionType i => recordValue m.response.transactions i (·.type.toNat)
    | _ => 0

theorem Response.value_fits (m : Response) (f : Field) : m.value f < 256 ^ Build.win32.width f := by
  cases m with
  | connect m =>
    cases f with
    | result => exact m.response.result.isLt
    | majorVersion => exact m.response.majorVersion.isLt
    | minorVersion => exact m.response.minorVersion.isLt
    | newClientID => exact m.response.clientID.isLt
    | _ => exact Build.win32.zero_fits _
  | result m =>
    cases f with
    | result => exact m.response.result.isLt
    | _ => exact Build.win32.zero_fits _
  | balanceQuery m =>
    cases f with
    | result => exact m.response.result.isLt
    | balance => exact m.response.balance.isLt
    | _ => exact Build.win32.zero_fits _
  | transactionQuery m =>
    cases f with
    | result => exact m.response.result.isLt
    | transactionCount => exact m.response.transactionCount.isLt
    | id i => exact recordValue_lt _ i _ _ (Build.win32.zero_fits _) fun t => t.id.isLt
    | dateTime i => exact recordValue_lt _ i _ _ (Build.win32.zero_fits _) fun t => t.dateTime.isLt
    | transactionAmount i =>
      exact recordValue_lt _ i _ _ (Build.win32.zero_fits _) fun t => t.amount.isLt
    | transactionType i =>
      exact recordValue_lt _ i _ _ (Build.win32.zero_fits _) fun t => t.type.isLt
    | _ => exact Build.win32.zero_fits _

/-- A response as a handler sends it, `get_Size` bytes. -/
def Response.bytes (m : Response) : List Byte :=
  Packed.encode Build.win32.width (stdHdr ++ m.body) (m.hdr.value m.value)

/-- A member of the last of `i + 1` records. -/
def getRecord (memory : List Byte) (i : Nat) (f : Field) : Nat :=
  Packed.read Build.win32.width (MsgType.transactionQueryResponse.members ++ records (i + 1))
    memory f

/-- `m_rgTransactions[i]`. -/
def Transaction.at (memory : List Byte) (i : Nat) : Transaction where
  id := BitVec.ofNat 32 (getRecord memory i (.id i))
  dateTime := BitVec.ofNat 64 (getRecord memory i (.dateTime i))
  amount := BitVec.ofNat 32 (getRecord memory i (.transactionAmount i))
  type := BitVec.ofNat 16 (getRecord memory i (.transactionType i))

/-- All responses have their result behind the header. -/
theorem Response.members_eq (m : Response) :
    ∃ rest, stdHdr ++ m.body = (stdHdr ++ [.result]) ++ rest := by
  cases m with
  | connect m => exact ⟨[.majorVersion, .minorVersion, .newClientID], rfl⟩
  | result m => exact ⟨[], rfl⟩
  | balanceQuery m => exact ⟨[.balance], rfl⟩
  | transactionQuery m => exact ⟨.transactionCount :: records _, rfl⟩

theorem Response.le_length_bytes (m : Response) : 20 ≤ m.bytes.length := by
  obtain ⟨rest, split⟩ := m.members_eq
  rw [Response.bytes, Packed.length_encode, split, Packed.sizeOf_append]
  exact Nat.le_add_right 20 _

theorem Response.read_result (m : Response) (beyond : List Byte) :
    Packed.read Build.win32.width (stdHdr ++ [.result]) (m.bytes ++ beyond) .result =
      m.getResponseResult.toNat := by
  obtain ⟨rest, split⟩ := m.members_eq
  -- the members behind the result do not matter
  rw [Response.bytes, split, Packed.read_encode_append Build.win32.width _ rest _ beyond .result
    (by decide) (m.hdr.value_fits m.value m.value_fits .result)]
  cases m <;> rfl

theorem Response.read_transactionCount (m : TransactionQueryResponse) (beyond : List Byte) :
    MsgType.transactionQueryResponse.get ((Response.transactionQuery m).bytes ++ beyond)
      .transactionCount = m.response.transactionCount.toNat := by
  have fits := m.hdr.value_fits _ (Response.transactionQuery m).value_fits .transactionCount
  exact Packed.read_encode_append Build.win32.width MsgType.transactionQueryResponse.members
    (records m.response.transactionCount.toNat) _ beyond .transactionCount (by decide) fits

theorem records_eq_append {m n : Nat} (le : m ≤ n) : ∃ rest, records n = records m ++ rest := by
  obtain ⟨k, rfl⟩ := Nat.exists_eq_add_of_le le
  rw [records, List.range_add, List.flatMap_append]
  exact ⟨_, rfl⟩

theorem mem_records {i n : Nat} (below : i < n) (f : Field) (member : f ∈ transaction i) :
    f ∈ records n :=
  List.mem_flatMap.mpr ⟨i, List.mem_range.mpr below, member⟩

/-- The records of a response are read back. -/
theorem Transaction.at_bytes (m : TransactionQueryResponse) (beyond : List Byte) (i : Nat)
    (t : Transaction) (counted : i < m.response.transactionCount.toNat)
    (found : m.response.transactions[i]? = some t) :
    Transaction.at ((Response.transactionQuery m).bytes ++ beyond) i = t := by
  -- the first `i + 1` records do not depend on how many follow
  obtain ⟨rest, split⟩ := records_eq_append (Nat.succ_le_of_lt counted)
  have whole : (Response.transactionQuery m).bytes = Packed.encode Build.win32.width
      ((MsgType.transactionQueryResponse.members ++ records (i + 1)) ++ rest)
        (m.hdr.value (Response.transactionQuery m).value) := by
    rw [Response.bytes, Response.body, split, List.append_assoc]
    rfl
  have read (f : Field) (member : f ∈ transaction i) :
      getRecord ((Response.transactionQuery m).bytes ++ beyond) i f =
        m.hdr.value (Response.transactionQuery m).value f := by
    rw [getRecord, whole]
    apply Packed.read_encode_append
    · exact List.mem_append_right _ (mem_records (Nat.lt_succ_self i) f member)
    · exact m.hdr.value_fits _ (Response.transactionQuery m).value_fits f
  rw [Transaction.at, read (.id i) (by simp [transaction]),
    read (.dateTime i) (by simp [transaction]), read (.transactionAmount i) (by simp [transaction]),
    read (.transactionType i) (by simp [transaction])]
  simp [StdHdr.value, Response.value, recordValue, found]

end Cnp
