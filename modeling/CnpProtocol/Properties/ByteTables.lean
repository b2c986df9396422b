import CnpProtocol.Protocol.Encoding

/-!
# The published byte tables

`CNP_Protocol.h` documents every message by a table of byte ranges. The tables are data
here; a message follows its table when placing its fields at the documented ranges gives
bytes that the accessors decode, and the documented length is the one the code computes.
-/

namespace Cnp

/-! ### The tables -/

/-- The rows of the header, which every table repeats. -/
def docStdHdr : List (Packed.Row Field) :=
  [⟨.msgType, 0, 3⟩, ⟨.dataLen, 4, 5⟩, ⟨.clientID, 6, 7⟩, ⟨.sequence, 8, 11⟩, ⟨.context, 12, 15⟩]

/-- The rows behind the header. -/
def MsgType.docBody : MsgType → List (Packed.Row Field)
  | .connectRequest => [⟨.validationKey, 16, 19⟩, ⟨.majorVersion, 20, 21⟩, ⟨.minorVersion, 22, 23⟩]
  | .connectResponse =>
    [⟨.result, 16, 19⟩, ⟨.majorVersion, 20, 21⟩, ⟨.minorVersion, 22, 23⟩, ⟨.newClientID, 24, 25⟩]
  | .createAccountRequest =>
    [⟨.firstName, 16, 47⟩, ⟨.lastName, 48, 79⟩, ⟨.emailAddress, 80, 111⟩, ⟨.pin, 112, 113⟩,
      ⟨.ssNumber, 114, 117⟩, ⟨.dlNumber, 118, 121⟩]
  | .createAccountResponse => [⟨.result, 16, 19⟩]
  | .logonRequest => [⟨.firstName, 16, 47⟩, ⟨.pin, 48, 49⟩]
  | .logonResponse => [⟨.result, 16, 19⟩]
  | .logoffRequest => []
  | .logoffResponse => [⟨.result, 16, 19⟩]
  | .depositRequest => [⟨.amount, 16, 19⟩, ⟨.depositType, 20, 21⟩]
  | .depositResponse => [⟨.result, 16, 19⟩]
  | .withdrawalRequest => [⟨.amount, 16, 19⟩]
  | .withdrawalResponse => [⟨.result, 16, 19⟩]
  | .balanceQueryRequest => []
  | .balanceQueryResponse => [⟨.result, 16, 19⟩, ⟨.balance, 20, 23⟩]
  | .transactionQueryRequest => [⟨.startID, 16, 19⟩, ⟨.transactionCount, 20, 21⟩]
  | .transactionQueryResponse => [⟨.result, 16, 19⟩, ⟨.transactionCount, 20, 21⟩]
  | .purchaseStampsRequest => [⟨.amount, 16, 19⟩]
  | .purchaseStampsResponse => [⟨.result, 16, 19⟩]

/-- The table of `TRANSACTION` for the record with number `i`, at its place in the array. -/
def docTransaction (start i : Nat) : List (Packed.Row Field) :=
  [⟨.id i, start, start + 3⟩, ⟨.dateTime i, start + 4, start + 11⟩,
    ⟨.transactionAmount i, start + 12, start + 15⟩, ⟨.transactionType i, start + 16, start + 17⟩]

/-- `m_rgTransactions[]` begins at byte 22. -/
def docRecords (n : Nat) : List (Packed.Row Field) :=
  (List.range n).flatMap fun i => docTransaction (22 + 18 * i) i

def Message.docTable (m : Message) : List (Packed.Row Field) :=
  docStdHdr ++ m.type.docBody ++ docRecords m.count

/-- The message as the documentation describes it. -/
def Message.docBytes (m : Message) : List Byte :=
  Packed.place m.value m.docTable (List.replicate (Packed.tableLength m.docTable) 0)

structure FollowsTable (m : Message) : Prop where
  decoded : m.DecodedFrom .win32 m.docBytes
  getSize : Packed.tableLength m.docTable = m.getSize .win32
  dataLen : Packed.tableLength m.docTable = 16 + m.dataLen .win32

/-! ### Tables of structures -/

/-- The rows of the records are those of an array of structures. -/
theorem docRecords_eq (n : Nat) :
    docRecords n = Packed.table Build.win32.width 22 (records n) := by
  induction n with
  | zero => rfl
  | succ n ih =>
    have size : Packed.sizeOf Build.win32.width (records n) = 18 * n := by
      rw [sizeOf_records]
      exact Nat.mul_comm n 18
    have next : records (n + 1) = records n ++ transaction n := by
      rw [records, records, List.range_succ, List.flatMap_append, List.flatMap_singleton]
    rw [docRecords, List.range_succ, List.flatMap_append, List.flatMap_singleton, next,
      Packed.table_append, ← ih, size]
    rfl

/-- A message whose rows are those of its structure, with an order of the body members
that may differ from the declaration. -/
theorem docTable_eq (m : Message) (body : List Field)
    (rows : m.type.docBody = Packed.table Build.win32.width 16 body)
    (start : m.type = .transactionQueryResponse → Packed.sizeOf Build.win32.width body = 6) :
    m.docTable = Packed.table Build.win32.width 0 (stdHdr ++ body ++ records m.count) := by
  have hdr : docStdHdr = Packed.table Build.win32.width 0 stdHdr := rfl
  have size : Packed.sizeOf Build.win32.width stdHdr = 16 := rfl
  rw [Message.docTable, Packed.table_append, Packed.table_append, ← hdr, Packed.sizeOf_append, size,
    Nat.zero_add, ← rows, docRecords_eq]
  by_cases query : m.type = .transactionQueryResponse
  · rw [start query]
  · -- no records
    have none : m.count = 0 := by
      rw [Message.count]
      split
      next type => exact absurd type query
      · rfl
    rw [none]
    rfl

/-- With such rows the documented bytes are the members in the documented order. -/
theorem docBytes_eq (m : Message) (members : List Field) (nonempty : members ≠ [])
    (rows : m.docTable = Packed.table Build.win32.width 0 members) :
    m.docBytes = Packed.encode Build.win32.width members m.value ∧
      Packed.tableLength m.docTable = Packed.sizeOf Build.win32.width members := by
  have positive : ∀ f ∈ members, 0 < Build.win32.width f := fun f _ => Build.win32.width_pos f
  have length : Packed.tableLength m.docTable = Packed.sizeOf Build.win32.width members := by
    rw [rows, Packed.tableLength_table _ _ _ nonempty positive, Nat.zero_add]
  refine ⟨?_, length⟩
  have placed := Packed.place_table Build.win32.width m.value members positive []
    (List.replicate (Packed.sizeOf Build.win32.width members) 0) (List.length_replicate).symm
  rw [Message.docBytes, length, rows]
  exact placed

/-! ### Structures in documented order -/

theorem Message.count_of_ne (m : Message) (other : m.type ≠ .transactionQueryResponse) :
    m.count = 0 := by
  rw [Message.count]
  split
  next type => exact absurd type other
  · rfl

/-- `m_wDataLen` holds the length behind the header up to 65535 bytes. -/
theorem getSize_eq_dataLen_iff (m : Message) :
    m.getSize .win32 = 16 + m.dataLen .win32 ↔
      (m.type = .transactionQueryResponse → m.value .transactionCount ≤ 3640) := by
  have record : Packed.sizeOf Build.win32.width (transaction 0) = 18 := rfl
  have hdr : Packed.sizeOf Build.win32.width stdHdr = 16 := rfl
  rw [Message.getSize, Message.dataLen, MsgType.members, Packed.sizeOf_append, record, hdr]
  by_cases query : m.type = .transactionQueryResponse
  · have count : m.count = m.value .transactionCount := by rw [Message.count, query]
    have body : Packed.sizeOf Build.win32.width m.type.body = 6 := by rw [query]; rfl
    rw [count, body]
    simp only [query, forall_const]
    omega
  · -- the largest other body has 106 bytes
    have small : Packed.sizeOf Build.win32.width m.type.body < 2 ^ 16 := by
      generalize m.type = type
      cases type <;> decide
    simp only [m.count_of_ne query, query, false_implies, iff_true]
    omega

/-- A message documented in the order of its declaration follows its table up to the cut of
`m_wDataLen`. -/
theorem followsTable_of_rows (m : Message)
    (rows : m.type.docBody = Packed.table Build.win32.width 16 m.type.body) :
    FollowsTable m ↔
      (m.type = .transactionQueryResponse → m.value .transactionCount ≤ 3640) := by
  have nonempty : m.members ≠ [] := by simp [Message.members, MsgType.members, stdHdr]
  obtain ⟨bytes, length⟩ := docBytes_eq m m.members nonempty
    (docTable_eq m m.type.body rows fun query => by rw [query]; rfl)
  have size : Packed.tableLength m.docTable = m.getSize .win32 := by
    rw [length, ← Packed.length_encode Build.win32.width m.members m.value]
    exact m.length_bytes .win32
  rw [← getSize_eq_dataLen_iff]
  constructor
  · intro follows
    rw [← size]
    exact follows.dataLen
  · intro dataLen
    refine ⟨?_, size, size.trans dataLen⟩
    rw [bytes]
    exact m.decodedFrom_bytes

/-! ### The connect request -/

/-- What the accessors find in a connect request that was laid out by its table: the key is
documented in front of the versions and declared behind them. -/
def swapped (value : Field → Nat) : Field → Nat
  | .majorVersion => value .validationKey % 2 ^ 16
  | .minorVersion => value .validationKey / 2 ^ 16
  | .validationKey => value .majorVersion + 2 ^ 16 * value .minorVersion
  | f => value f

theorem encode_documented (m : Message) :
    Packed.encode Build.win32.width (stdHdr ++ [.validationKey, .majorVersion, .minorVersion])
        m.value =
      Packed.encode Build.win32.width MsgType.connectRequest.members (swapped m.value) := by
  have major : m.value .majorVersion < 2 ^ 16 := m.fits .majorVersion
  have key : Bytes.leBytes 4 (m.value .validationKey) =
      Bytes.leBytes 2 (m.value .validationKey % 2 ^ 16) ++
        Bytes.leBytes 2 (m.value .validationKey / 2 ^ 16) := by
    rw [Bytes.leBytes_add 2 2, ← Bytes.leBytes_mod 2 (m.value .validationKey)]
    rfl
  have versions : Bytes.leBytes 4 (m.value .majorVersion + 2 ^ 16 * m.value .minorVersion) =
      Bytes.leBytes 2 (m.value .majorVersion) ++ Bytes.leBytes 2 (m.value .minorVersion) := by
    have low : (m.value .majorVersion + 2 ^ 16 * m.value .minorVersion) % 256 ^ 2 =
        m.value .majorVersion := by omega
    have high : (m.value .majorVersion + 2 ^ 16 * m.value .minorVersion) / 256 ^ 2 =
        m.value .minorVersion := by omega
    rw [Bytes.leBytes_add 2 2, high, ← Bytes.leBytes_mod 2, low]
  have hdr : Packed.encode Build.win32.width stdHdr (swapped m.value) =
      Packed.encode Build.win32.width stdHdr m.value := rfl
  rw [MsgType.members, Packed.encode, Packed.encode, List.flatMap_append, List.flatMap_append]
  rw [Packed.encode, Packed.encode] at hdr
  rw [hdr]
  refine congrArg _ ?_
  change Bytes.leBytes 4 _ ++ (Bytes.leBytes 2 _ ++ (Bytes.leBytes 2 _ ++ [])) =
    Bytes.leBytes 2 _ ++ (Bytes.leBytes 2 _ ++ (Bytes.leBytes 4 _ ++ []))
  rw [key, List.append_assoc, ← List.append_assoc (Bytes.leBytes 2 (m.value .majorVersion)),
    ← versions]
  rfl

theorem swapped_fits (m : Message) (f : Field) :
    swapped m.value f < 256 ^ Build.win32.width f := by
  have key : m.value .validationKey < 2 ^ 32 := m.fits .validationKey
  have major : m.value .majorVersion < 2 ^ 16 := m.fits .majorVersion
  have minor : m.value .minorVersion < 2 ^ 16 := m.fits .minorVersion
  cases f with
  | majorVersion => exact Nat.mod_lt _ (by decide)
  | minorVersion =>
    change _ / 2 ^ 16 < 2 ^ 16
    omega
  | validationKey =>
    change _ + 2 ^ 16 * _ < 2 ^ 32
    omega
  | _ => exact m.fits _

theorem followsTable_connect (m : Message) (type : m.type = .connectRequest) :
    FollowsTable m ↔
      m.value .validationKey = m.value .majorVersion + 2 ^ 16 * m.value .minorVersion := by
  have key : m.value .validationKey < 2 ^ 32 := m.fits .validationKey
  have major : m.value .majorVersion < 2 ^ 16 := m.fits .majorVersion
  have none : m.count = 0 := m.count_of_ne (by rw [type]; decide)
  have members : m.members = MsgType.connectRequest.members := by
    rw [Message.members, none, type]
    rfl
  obtain ⟨bytes, length⟩ := docBytes_eq m
    (stdHdr ++ [.validationKey, .majorVersion, .minorVersion] ++ records m.count)
    (by simp [stdHdr]) (docTable_eq m _ (by rw [type]; rfl) fun query => by
      rw [type] at query
      cases query)
  rw [none] at bytes length
  have decoded (beyond : List Byte) (f : Field) (member : f ∈ MsgType.connectRequest.members) :
      Packed.read Build.win32.width m.members (m.docBytes ++ beyond) f = swapped m.value f := by
    rw [members, bytes]
    change Packed.read _ _ (Packed.encode _ (stdHdr ++ [_, _, _]) _ ++ _) _ = _
    rw [encode_documented]
    exact Packed.read_encode _ _ _ beyond f member (swapped_fits m f)
  have size : Packed.tableLength m.docTable = m.getSize .win32 := by
    rw [length, Message.getSize, none, type]
    rfl
  constructor
  · intro follows
    have first := follows.decoded [] .validationKey (by rw [members]; decide) (by decide)
    rw [decoded [] .validationKey (by decide)] at first
    exact first.symm
  · intro same
    refine ⟨fun beyond f member _ => ?_, size, size.trans ?_⟩
    · rw [members] at member
      rw [decoded beyond f member]
      -- the key consists of the two versions
      cases f with
      | majorVersion => change _ % 2 ^ 16 = _; omega
      | minorVersion => change _ / 2 ^ 16 = _; omega
      | validationKey => exact same.symm
      | _ => rfl
    · rw [getSize_eq_dataLen_iff, type]
      simp

/-! ### Following the tables -/

/-- When a message agrees with its published table. -/
structure Documented (m : Message) : Prop where
  key : m.type = .connectRequest →
    m.value .validationKey = m.value .majorVersion + 2 ^ 16 * m.value .minorVersion
  members : m.type ≠ .logoffRequest ∧ m.type ≠ .balanceQueryRequest
  records : m.type = .transactionQueryResponse → m.value .transactionCount ≤ 3640

/-- The member of an empty structure takes a byte that the table does not have. -/
theorem not_followsTable_empty (m : Message)
    (empty : m.type = .logoffRequest ∨ m.type = .balanceQueryRequest) : ¬ FollowsTable m := by
  intro follows
  have size := follows.getSize
  have none : m.count = 0 := m.count_of_ne (by rcases empty with type | type <;> simp [type])
  rw [Message.docTable, Message.getSize, none] at size
  rcases empty with type | type
  · rw [type] at size
    exact absurd size (by decide)
  · rw [type] at size
    exact absurd size (by decide)

/-- A message follows its table exactly when it is no connect request, or its key happens to
consist of its versions, it has a body, and `m_wDataLen` can hold its length. -/
theorem followsTable_iff (m : Message) : FollowsTable m ↔ Documented m := by
  by_cases connect : m.type = .connectRequest
  · rw [followsTable_connect m connect]
    refine ⟨fun key => ⟨fun _ => key, by simp [connect], by simp [connect]⟩, fun h => ?_⟩
    exact h.key connect
  · by_cases empty : m.type = .logoffRequest ∨ m.type = .balanceQueryRequest
    · refine iff_of_false (not_followsTable_empty m empty) fun h => ?_
      rcases empty with type | type
      · exact h.members.1 type
      · exact h.members.2 type
    · obtain ⟨logoff, balanceQuery⟩ := not_or.mp empty
      -- the other fifteen tables list the members as they are declared
      have rows : m.type.docBody = Packed.table Build.win32.width 16 m.type.body := by
        cases type : m.type with
        | connectRequest => exact absurd type connect
        | logoffRequest => exact absurd type logoff
        | balanceQueryRequest => exact absurd type balanceQuery
        | _ => rfl
      rw [followsTable_of_rows m rows]
      exact ⟨fun h => ⟨fun type => absurd type connect, ⟨logoff, balanceQuery⟩, h⟩,
        fun h => h.records⟩

/-- The first message of a client, laid out by the table, has another key for the server. -/
theorem connect_request_undocumented :
    let m := (ConnectRequest.init 0 0 majorVersion minorVersion validationKey 0).message
    ¬ FollowsTable m ∧
      Packed.read Build.win32.width m.members m.docBytes .validationKey = 0x10001 := by
  intro m
  refine ⟨?_, by decide +kernel⟩
  rw [followsTable_connect m rfl]
  decide +kernel

end Cnp
