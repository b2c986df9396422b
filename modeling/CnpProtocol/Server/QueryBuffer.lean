import CnpProtocol.Server.Messaging

/-!
# The buffer of the history response

`ProcessTransactionQueryRequest` builds its response in an array on the stack: the
constructor writes the part of fixed size, and the loop writes one record after another
behind it. Nothing compares the number of records with the extent of the array.
-/

namespace Cnp

/-- `char rgBuffer[512]`. -/
def sizeofRspBuffer : Nat := 512

/-- A write into a buffer. -/
structure BufferWrite where
  offset : Nat
  size : Nat
  deriving DecidableEq

def BufferWrite.Inside (sizeofBuffer : Nat) (write : BufferWrite) : Prop :=
  write.offset + write.size ≤ sizeofBuffer

instance (sizeofBuffer : Nat) (write : BufferWrite) : Decidable (write.Inside sizeofBuffer) :=
  inferInstanceAs (Decidable (write.offset + write.size ≤ sizeofBuffer))

/-! ### The response -/

/-- What the handler has found when it declares the buffer: `cerRR`, the count and
`vecTransactions`. -/
def queryHandled (s : Server) (pReqMsg : TransactionQueryRequest) :
    Handled (Word × List Transaction) :=
  withAccount s pReqMsg.hdr.clientID .clientNotLoggedon (0, []) fun qwCustomerID _ =>
    (.success, s, collectTransactions qwCustomerID pReqMsg.request.transactionCount 0
      (s.transactionInfo.lowerBound pReqMsg.request.startID))

/-- The response in the buffer. -/
def queryResponse (s : Server) (pReqMsg : TransactionQueryRequest) : TransactionQueryResponse :=
  let h := queryHandled s pReqMsg
  let respMsg := TransactionQueryResponse.init h.cerRR.code pReqMsg.hdr.clientID h.data.1
    pReqMsg.hdr.sequence pReqMsg.hdr.context
  { respMsg with response.transactions := h.data.2 }

theorem processTransactionQueryRequest_eq (s : Server) (m : TransactionQueryRequest) :
    processTransactionQueryRequest s m = ⟨(queryHandled s m).server, (queryHandled s m).cerRR,
      send (queryHandled s m).socket (.transactionQuery (queryResponse s m))⟩ := rfl

/-! ### Its extent -/

namespace TransactionQueryResponse

/-- `sizeof(TRANSACTION_QUERY_RESPONSE)`; the array at its end has no size. -/
def sizeofThis : Nat := sizeofStdHdr + Prim.sizeofTransactionQueryResponse

def getSize (m : TransactionQueryResponse) : Nat :=
  sizeofThis + m.response.transactionCount.toNat * sizeofTransaction

/-- `m_rgTransactions[i++] = it`, from the `i`-th record on. -/
def recordWrites (i : Nat) : List Transaction → List BufferWrite
  | [] => []
  | _ :: rest =>
    ⟨sizeofThis + i * sizeofTransaction, sizeofTransaction⟩ :: recordWrites (i + 1) rest

/-- The placement `new` and the loop. -/
def writes (m : TransactionQueryResponse) : List BufferWrite :=
  ⟨0, sizeofThis⟩ :: recordWrites 0 m.response.transactions

theorem recordWrites_inside_iff (sizeofBuffer i : Nat) (records : List Transaction)
    (before : sizeofThis + i * sizeofTransaction ≤ sizeofBuffer) :
    (∀ write ∈ recordWrites i records, write.Inside sizeofBuffer) ↔
      sizeofThis + (i + records.length) * sizeofTransaction ≤ sizeofBuffer := by
  induction records generalizing i with
  | nil => simpa [recordWrites] using before
  | cons record rest ih =>
    have next : sizeofThis + i * sizeofTransaction + sizeofTransaction =
        sizeofThis + (i + 1) * sizeofTransaction := by rw [Nat.succ_mul, Nat.add_assoc]
    have length : i + (record :: rest).length = i + 1 + rest.length := by
      rw [List.length_cons]
      omega
    rw [recordWrites, List.forall_mem_cons, BufferWrite.Inside, next, length]
    constructor
    · rintro ⟨first, others⟩
      exact (ih (i + 1) first).mp others
    · intro all
      -- the first record ends before the last one does
      have first : sizeofThis + (i + 1) * sizeofTransaction ≤ sizeofBuffer :=
        Nat.le_trans (Nat.add_le_add_left (Nat.mul_le_mul_right _ (Nat.le_add_right _ _)) _) all
      exact ⟨first, (ih (i + 1) first).mpr all⟩

/-- All writes are inside the buffer when the last one is. -/
theorem writes_inside_iff (sizeofBuffer : Nat) (m : TransactionQueryResponse)
    (fixed : sizeofThis ≤ sizeofBuffer) :
    (∀ write ∈ m.writes, write.Inside sizeofBuffer) ↔
      sizeofThis + m.response.transactions.length * sizeofTransaction ≤ sizeofBuffer := by
  rw [writes, List.forall_mem_cons, recordWrites_inside_iff sizeofBuffer 0 _ (by simpa using fixed),
    Nat.zero_add]
  exact and_iff_right (by simpa [BufferWrite.Inside] using fixed)

end TransactionQueryResponse

end Cnp
