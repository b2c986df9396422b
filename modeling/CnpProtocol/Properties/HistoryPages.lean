import CnpProtocol.Properties.AccountRequests
import CnpProtocol.Properties.CompleteHistory
import CnpProtocol.Server.QueryBuffer

/-!
# History pages

One answer to a history query: which records it holds, how many it says they are, and
whether the response fits into the buffer in which it is built. The records are always the
right ones; the buffer has room for 27 of them.
-/

namespace Cnp

/-! ### The page -/

section Page

variable {s : Server} {m : TransactionQueryRequest} {itS : SessionInfo} {itA : AccountInfo}

/-- The entries a query of a customer collects. -/
def pageOf (s : Server) (q : Qword) (m : TransactionQueryRequest) :
    List (Dword × TransactionInfo) :=
  Cursor.page Prod.fst m.request.transactionCount.toNat m.request.startID (entriesOf s q)

theorem length_pageOf (s : Server) (q : Qword) (m : TransactionQueryRequest) :
    (pageOf s q m).length = min m.request.transactionCount.toNat
      (Cursor.rest Prod.fst m.request.startID (entriesOf s q)).length :=
  List.length_take

/-- The counter does not wrap: it is bounded by the count of the request. -/
theorem toNat_length_pageOf (s : Server) (q : Qword) (m : TransactionQueryRequest) :
    (BitVec.ofNat 16 (pageOf s q m).length).toNat = (pageOf s q m).length := by
  have bound : (pageOf s q m).length ≤ m.request.transactionCount.toNat :=
    List.length_take_le _ _
  rw [BitVec.toNat_ofNat]
  exact Nat.mod_eq_of_lt (Nat.lt_of_le_of_lt bound m.request.transactionCount.isLt)

theorem queryHandled_found (found : AccountFound s m.hdr.clientID itS itA) :
    queryHandled s m = ⟨itS.socket, .success, s,
      BitVec.ofNat 16 (pageOf s itS.customerID m).length,
      (pageOf s itS.customerID m).map fun e => e.2.toTransaction⟩ := by
  rw [queryHandled, withAccount_found found, collectTransactions_page]
  rfl

theorem queryResponse_found (found : AccountFound s m.hdr.clientID itS itA) :
    let page := pageOf s itS.customerID m
    let respMsg := TransactionQueryResponse.init CerType.success.code m.hdr.clientID
      (BitVec.ofNat 16 page.length) m.hdr.sequence m.hdr.context
    let records := page.map fun e => e.2.toTransaction
    queryResponse s m = { respMsg with response.transactions := records } := by
  intro page respMsg records
  rw [queryResponse, queryHandled_found found]

end Page

/-! ### Records under their own IDs -/

/-- The records of a customer from an ID on. -/
def historyFrom (s : Server) (q : Qword) (start : Dword) : List TransactionInfo :=
  (transactionsOf s q).filter fun t => start ≤ t.id

theorem mem_historyFrom (s : Server) (q : Qword) (start : Dword) (t : TransactionInfo) :
    t ∈ historyFrom s q start ↔
      (∃ k, s.transactionInfo.find? k = some t) ∧ t.customerID = q ∧ start ≤ t.id := by
  simp only [historyFrom, transactionsOf, List.mem_filter, OrderedMap.values, List.mem_map,
    decide_eq_true_eq, OrderedMap.find?_eq_some_iff, and_assoc]
  refine and_congr_left fun _ => ⟨?_, ?_⟩
  · rintro ⟨e, member, rfl⟩
    exact ⟨e.1, member⟩
  · rintro ⟨k, member⟩
    exact ⟨(k, t), member, rfl⟩

section Own

variable {s : Server} (own : ∀ k t, s.transactionInfo.find? k = some t → t.id = k)
include own

theorem id_of_mem_entriesOf (q : Qword) (e : Dword × TransactionInfo)
    (member : e ∈ entriesOf s q) : e.2.id = e.1 := by
  -- the key of an entry is the ID of its record
  have entry := List.mem_of_mem_filter member
  exact own e.1 e.2 ((s.transactionInfo.find?_eq_some_iff e.1 e.2).mpr entry)

/-- The records from an ID on are the entries from the key on. -/
theorem historyFrom_eq (q : Qword) (start : Dword) :
    historyFrom s q start = (Cursor.rest Prod.fst start (entriesOf s q)).map Prod.snd := by
  rw [historyFrom, transactionsOf_eq, List.filter_map, Cursor.rest]
  congr 1
  apply List.filter_congr
  intro e member
  simp only [Function.comp_apply, id_of_mem_entriesOf own q e member]

theorem historyFrom_sorted (q : Qword) (start : Dword) :
    (historyFrom s q start).Pairwise fun a b => a.id < b.id := by
  rw [historyFrom_eq own, List.pairwise_map]
  have sorted : (Cursor.rest Prod.fst start (entriesOf s q)).Pairwise fun a b => a.1 < b.1 :=
    (entriesOf_sorted s q).filter _
  refine sorted.imp_of_mem fun {a b} first second lower => ?_
  rw [id_of_mem_entriesOf own q a (List.mem_of_mem_filter first),
    id_of_mem_entriesOf own q b (List.mem_of_mem_filter second)]
  exact lower

/-- What a page carries are the first records from the start ID on. -/
theorem map_pageOf (q : Qword) (m : TransactionQueryRequest) :
    (pageOf s q m).map (fun e => e.2.toTransaction) =
      ((historyFrom s q m.request.startID).take m.request.transactionCount.toNat).map
        fun t => t.toTransaction := by
  rw [historyFrom_eq own, ← List.map_take, List.map_map]
  rfl

end Own

/-- The answer to a query of a session: the first records of its customer from the start ID
on, in the order of their IDs, as many as it asks for or as there are. -/
structure ExactPage (s : Server) (m : TransactionQueryRequest) (itS : SessionInfo) : Prop where
  code : (processTransactionQueryRequest s m).cerRR = .success
  server : (processTransactionQueryRequest s m).server = s
  sent : (processTransactionQueryRequest s m).sent =
    send itS.socket (.transactionQuery (queryResponse s m))
  result : (queryResponse s m).response.result = CerType.success.code
  all : ∀ t, t ∈ historyFrom s itS.customerID m.request.startID ↔
    (∃ k, s.transactionInfo.find? k = some t) ∧ t.customerID = itS.customerID ∧
      m.request.startID ≤ t.id
  sorted : (historyFrom s itS.customerID m.request.startID).Pairwise fun a b => a.id < b.id
  records : (queryResponse s m).response.transactions =
    ((historyFrom s itS.customerID m.request.startID).take
      (min m.request.transactionCount.toNat
        (historyFrom s itS.customerID m.request.startID).length)).map fun t => t.toTransaction
  count : (queryResponse s m).response.transactionCount.toNat =
    (queryResponse s m).response.transactions.length

/-- On every transaction table whose records are under their own IDs. -/
theorem exact_page (s : Server)
    (own : ∀ k t, s.transactionInfo.find? k = some t → t.id = k)
    (m : TransactionQueryRequest) (itS : SessionInfo) (itA : AccountInfo)
    (found : AccountFound s m.hdr.clientID itS itA) : ExactPage s m itS where
  code := congrArg Handled.cerRR (queryHandled_found found)
  server := congrArg Handled.server (queryHandled_found found)
  sent := by
    have socket : (queryHandled s m).socket = itS.socket :=
      congrArg Handled.socket (queryHandled_found found)
    rw [processTransactionQueryRequest_eq, socket]
  result := by
    rw [queryResponse_found found]
    rfl
  all := mem_historyFrom s itS.customerID m.request.startID
  sorted := historyFrom_sorted own itS.customerID m.request.startID
  records := by
    rw [queryResponse_found found, ← List.take_eq_take_min]
    exact map_pageOf own itS.customerID m
  count := by
    rw [queryResponse_found found, List.length_map]
    exact toNat_length_pageOf s itS.customerID m

/-- Anna and Bob take turns, and Anna asks for two records from ID 2 on: she has three, between
two of Bob. -/
theorem exact_page_anna :
    let s := run (.boot .empty .empty) (Client.firstVisit 7 [65, 110, 110, 97] 4711 500 ++
      [Client.sendConnect 8 0, Client.sendCreateAccount 8 1 2 [66, 111, 98] [] [] 815,
        Client.sendLogIn 8 2 2 [66, 111, 98] 815, Client.sendDeposit 8 3 2 300,
        Client.sendDeposit 7 4 1 10, Client.sendWithdrawal 8 4 2 20,
        Client.sendWithdrawal 7 5 1 30, Client.sendDeposit 7 6 1 40])
    let m : TransactionQueryRequest := .init 7 1 2 2 0
    (∃ itS, ExactPage s m itS) ∧
      s.transactionInfo.values.map (·.amount) = [500, 300, 10, 20, 30, 40] ∧
      (queryResponse s m).response.transactions.map (fun t => (t.id, t.amount)) =
        [(3, 10), (5, 30)] := by
  intro s m
  have keys : ∀ e ∈ s.transactionInfo.entries, e.2.id = e.1 := by decide +kernel
  have found : AccountFound s 1
      ⟨1, .loggedOn, some 7, generateCustomerID [65, 110, 110, 97] 4 4711⟩
      ⟨.init [65, 110, 110, 97] [] [] 4711 0 0, generateCustomerID [65, 110, 110, 97] 4 4711,
        520⟩ := by
    decide +kernel
  refine ⟨⟨_, exact_page s (fun k t stored => ?_) m _ _ found⟩, by decide +kernel,
    by decide +kernel⟩
  exact keys (k, t) ((s.transactionInfo.find?_eq_some_iff k t).mp stored)

/-! ### The buffer -/

/-- Every write is inside the buffer, and the header has the length of what follows it. -/
structure ResponseFits (m : TransactionQueryResponse) : Prop where
  buffer : ∀ write ∈ m.writes, write.Inside sizeofRspBuffer
  dataLen : m.hdr.dataLen.toNat + sizeofStdHdr = m.getSize

theorem responseFits_iff {s : Server} {m : TransactionQueryRequest} {itS : SessionInfo}
    {itA : AccountInfo} (found : AccountFound s m.hdr.clientID itS itA) :
    ResponseFits (queryResponse s m) ↔ (pageOf s itS.customerID m).length ≤ 27 := by
  -- with 27 records the response ends at byte 508, with 28 at byte 526
  have inside : (∀ write ∈ (queryResponse s m).writes, write.Inside sizeofRspBuffer) ↔
      22 + (pageOf s itS.customerID m).length * 18 ≤ 512 := by
    rw [TransactionQueryResponse.writes_inside_iff _ _ (by decide), queryResponse_found found,
      List.length_map]
    rfl
  constructor
  · intro fits
    have := inside.mp fits.buffer
    omega
  · intro few
    refine ⟨inside.mpr (by omega), ?_⟩
    rw [queryResponse_found found]
    -- six bytes of result and count, and 18 for each record
    change (BitVec.ofNat 16 (6 + (BitVec.ofNat 16 (pageOf s itS.customerID m).length).toNat * 18)
      ).toNat + 16 = 22 + (BitVec.ofNat 16 (pageOf s itS.customerID m).length).toNat * 18
    rw [toNat_length_pageOf, BitVec.toNat_ofNat]
    omega

/-- In every reachable state the response to a logged-on session fits if and only if the
session asks for at most 27 records, or there are no more from its start ID on. -/
theorem response_fits_iff (accounts : AccountMap) (transactions : TransactionMap)
    (ops : List Op) (m : TransactionQueryRequest) (q : Qword)
    (loggedOn : LoggedOnAs (run (.boot accounts transactions) ops) m.hdr.clientID q) :
    ResponseFits (queryResponse (run (.boot accounts transactions) ops) m) ↔
      m.request.transactionCount.toNat ≤ 27 ∨
        (Cursor.rest Prod.fst m.request.startID
          (entriesOf (run (.boot accounts transactions) ops) q)).length ≤ 27 := by
  obtain ⟨itS, itA, found, rfl⟩ := accountFound_run accounts transactions ops _ q loggedOn
  rw [responseFits_iff found, length_pageOf, min_le_iff]

/-- Anna asks for five records, as the client does. -/
theorem response_fits_iff_anna :
    let s := run (.boot .empty .empty) (Client.firstVisit 7 [65, 110, 110, 97] 4711 500)
    ResponseFits (queryResponse s (.init 4 1 0 5 0)) := by
  intro s
  exact (response_fits_iff .empty .empty _ (.init 4 1 0 5 0) _
    accountFound_anna.loggedOnAs).mpr (Or.inl (by decide))

/-- Anna pays in 28 times and asks for 28 records: the last one is written behind the
buffer. -/
theorem response_overflows :
    let s := run (.boot .empty .empty) (Client.firstVisit 7 [65, 110, 110, 97] 4711 500 ++
      List.replicate 27 (Client.sendDeposit 7 4 1 10))
    LoggedOnAs s 1 (generateCustomerID [65, 110, 110, 97] 4 4711) ∧
      (⟨22 + 27 * 18, 18⟩ : BufferWrite) ∈ (queryResponse s (.init 5 1 0 28 0)).writes ∧
      ¬ ResponseFits (queryResponse s (.init 5 1 0 28 0)) := by
  intro s
  have session : s.sessionInfo.find? 1 = some ⟨1, .loggedOn, some 7,
      generateCustomerID [65, 110, 110, 97] 4 4711⟩ := by decide +kernel
  have write : (⟨22 + 27 * 18, 18⟩ : BufferWrite) ∈
      (queryResponse s (.init 5 1 0 28 0)).writes := by decide +kernel
  refine ⟨⟨_, session, by decide +kernel, rfl⟩, write, fun fits => ?_⟩
  exact absurd (fits.buffer _ write) (by decide)

end Cnp
