import CnpProtocol.Server.Tables

/-!
# Persistence

`SaveServerDB` and `LoadServerDB`: the templates over record type and container, and the
pair of calls that stores and restores the server's tables. A file is the list of the
bytes written to it. The record images are parameters, since padding bytes of a record
are up to the compiler.
-/

namespace Cnp

/-! ### The templates -/

section Templates

variable {κ ρ : Type} [LinearOrder κ] (image : RecordImage ρ) (getPrimaryKey : ρ → κ)

/-- The loop of `SaveServerDB`: record count and file contents. -/
def saveContainer (container : OrderedMap κ ρ) : Nat × List Byte :=
  container.values.foldl (fun out it => (out.1 + 1, out.2 ++ image.write it)) (0, [])

/-- `std::ifstream`: the bytes left and whether no read has failed. -/
structure IfStream where
  rest : List Byte
  good : Bool

/-- A read that finds too few bytes takes what there is and fails the stream. -/
def IfStream.read (ifs : IfStream) (n : Nat) : List Byte × IfStream :=
  if n ≤ ifs.rest.length then (ifs.rest.take n, { ifs with rest := ifs.rest.drop n })
  else (ifs.rest, ⟨[], false⟩)

/-- The loop of `LoadServerDB`; the stream is tested before and after every read. -/
def loadRecords (ifs : IfStream) (container : OrderedMap κ ρ) (nResult : Nat) :
    Nat × OrderedMap κ ρ :=
  if open_ : ifs.good = true then
    let record := image.read (ifs.read image.size).1
    let key := getPrimaryKey record
    -- a record that was read only in part is not inserted
    if (ifs.read image.size).2.good = true then
      loadRecords (ifs.read image.size).2 (container.insert key record)
        (if (container.find? key).isNone then nResult + 1 else nResult)
    else loadRecords (ifs.read image.size).2 container nResult
  else (nResult, container)
termination_by ifs.rest.length + ifs.good.toNat
decreasing_by
  all_goals
    have positive := image.size_pos
    simp only [IfStream.read] at *
    split <;> simp_all
    try omega

def loadContainer (file : List Byte) (container : OrderedMap κ ρ) : Nat × OrderedMap κ ρ :=
  loadRecords image getPrimaryKey ⟨file, true⟩ container 0

/-! ### Loading what was saved -/

theorem saveContainer_eq (container : OrderedMap κ ρ) :
    saveContainer image container =
      (container.size, container.values.flatMap image.write) := by
  have loop (records : List ρ) (n : Nat) (file : List Byte) :
      records.foldl (fun out it => (out.1 + 1, out.2 ++ image.write it)) (n, file) =
        (n + records.length, file ++ records.flatMap image.write) := by
    induction records generalizing n file with
    | nil => simp
    | cons r records ih =>
      rw [List.foldl_cons, ih, List.length_cons, List.flatMap_cons, List.append_assoc]
      congr 1
      omega
  simp [saveContainer, loop, OrderedMap.size, OrderedMap.values]

theorem loadRecords_end (container : OrderedMap κ ρ) (nResult : Nat) :
    loadRecords image getPrimaryKey ⟨[], true⟩ container nResult = (nResult, container) := by
  have short : ¬ image.size ≤ 0 := Nat.not_le.mpr image.size_pos
  -- the failed read ends the loop at its next test
  rw [loadRecords, dif_pos rfl, if_neg (by simp [IfStream.read, short]), loadRecords,
    dif_neg (by simp [IfStream.read, short])]

/-- One turn of the loop over a whole record. -/
theorem loadRecords_record (r : ρ) (rest : List Byte) (container : OrderedMap κ ρ)
    (nResult : Nat) :
    loadRecords image getPrimaryKey ⟨image.write r ++ rest, true⟩ container nResult =
      loadRecords image getPrimaryKey ⟨rest, true⟩ (container.insert (getPrimaryKey r) r)
        (if (container.find? (getPrimaryKey r)).isNone then nResult + 1 else nResult) := by
  have length := image.length_write r
  have read : IfStream.read ⟨image.write r ++ rest, true⟩ image.size =
      (image.write r, ⟨rest, true⟩) := by
    have enough : image.size ≤ (image.write r ++ rest).length := by
      rw [List.length_append]
      omega
    simp only [IfStream.read, if_pos enough, List.take_left' length, List.drop_left' length]
  rw [loadRecords, dif_pos rfl, read, if_pos rfl, image.read_write]

/-- Records in increasing key order go behind the entries that are already there. -/
theorem loadRecords_images (records : List ρ) (container : OrderedMap κ ρ) (nResult : Nat)
    (sorted : (container.entries ++ records.map (fun r => (getPrimaryKey r, r))).Pairwise
      (fun a b => a.1 < b.1)) :
    let loaded := loadRecords image getPrimaryKey ⟨records.flatMap image.write, true⟩
      container nResult
    loaded.1 = nResult + records.length ∧
      loaded.2.entries = container.entries ++ records.map (fun r => (getPrimaryKey r, r)) := by
  induction records generalizing container nResult with
  | nil => simp [loadRecords_end]
  | cons r records ih =>
    -- the next record has a key above all that were loaded, so it is counted and appended
    have above : ∀ e ∈ container.entries, e.1 < getPrimaryKey r := by
      intro e member
      exact (List.pairwise_append.mp sorted).2.2 e member (getPrimaryKey r, r) (by simp)
    have fresh : (container.find? (getPrimaryKey r)).isNone = true := by
      rw [Option.isNone_iff_eq_none, OrderedMap.find?_eq_none_iff]
      exact fun e member => ne_of_lt (above e member)
    have inserted := container.entries_insert_last (getPrimaryKey r) r above
    simp only [List.flatMap_cons, loadRecords_record, if_pos fresh]
    have next := ih (container.insert (getPrimaryKey r) r) (nResult + 1)
      (by simpa [inserted] using sorted)
    refine ⟨?_, ?_⟩
    · rw [next.1, List.length_cons]
      omega
    · rw [next.2, inserted]
      simp

/-- Whatever is in the file, a record goes in under its own key. -/
theorem loadRecords_own (ifs : IfStream) (container : OrderedMap κ ρ) (nResult : Nat)
    (own : ∀ k r, container.find? k = some r → getPrimaryKey r = k) (k : κ) (r : ρ)
    (found : (loadRecords image getPrimaryKey ifs container nResult).2.find? k = some r) :
    getPrimaryKey r = k := by
  induction ifs, container, nResult using loadRecords.induct image getPrimaryKey with
  | case1 ifs container nResult good record key whole ih =>
    rw [loadRecords, dif_pos good, if_pos whole] at found
    refine ih (fun k' r' found' => ?_) found
    rcases container.find?_insert_cases found' with old | ⟨rfl, rfl, _⟩
    · exact own k' r' old
    · rfl
  | case2 ifs container nResult good short ih =>
    rw [loadRecords, dif_pos good, if_neg short] at found
    exact ih own found
  | case3 ifs container nResult ended =>
    rw [loadRecords, dif_neg ended] at found
    exact own k r found

/-- A container whose records carry their own keys survives the round trip. -/
theorem loadContainer_saveContainer (container : OrderedMap κ ρ)
    (own : ∀ e ∈ container.entries, getPrimaryKey e.2 = e.1) :
    loadContainer image getPrimaryKey (saveContainer image container).2 .empty =
      (container.size, container) := by
  -- the keys that are rebuilt from the records are the keys of the container
  have entries : container.values.map (fun r => (getPrimaryKey r, r)) = container.entries := by
    rw [OrderedMap.values, List.map_map]
    conv_rhs => rw [← List.map_id container.entries]
    exact List.map_congr_left fun e member => by simp [own e member]
  have loaded := loadRecords_images image getPrimaryKey container.values .empty 0
    (by simpa [entries] using container.sorted)
  rw [saveContainer_eq, loadContainer]
  refine Prod.ext ?_ (OrderedMap.ext_entries ?_)
  · rw [loaded.1, OrderedMap.values, List.length_map, Nat.zero_add, OrderedMap.size]
  · rw [loaded.2, OrderedMap.entries_empty, List.nil_append, entries]

end Templates

/-! ### Record layouts -/

/-- Compiler padding: `n` bytes of any content. -/
abbrev Padding (n : Nat) := { bytes : List Byte // bytes.length = n }

private theorem drop_padding {n : Nat} (pad : Padding n) (memory : List Byte) :
    (pad.1 ++ memory).drop n = memory :=
  List.drop_left' pad.2

/-- `ACCOUNT_INFO`: the packed base of 106 bytes, then two members at their natural
alignment. -/
def accountInfoImage (gap : Padding 6) (tail : Padding 4) : RecordImage AccountInfo where
  size := 128
  size_pos := by decide
  write a :=
    a.firstName.bytes ++ (a.lastName.bytes ++ (a.emailAddress.bytes ++
      (Bytes.leBytes 2 a.pin.toNat ++ (Bytes.leBytes 4 a.ssNumber.toNat ++
        (Bytes.leBytes 4 a.dlNumber.toNat ++ (gap.1 ++ (Bytes.leBytes 8 a.customerID.toNat ++
          (Bytes.leBytes 4 a.balance.toNat ++ tail.1))))))))
  read bytes :=
    let lastName := bytes.drop maxNameLen
    let emailAddress := lastName.drop maxNameLen
    let pin := emailAddress.drop maxNameLen
    let ssNumber := pin.drop 2
    let dlNumber := ssNumber.drop 4
    let customerID := (dlNumber.drop 4).drop 6
    let balance := customerID.drop 8
    ⟨⟨.at bytes, .at lastName, .at emailAddress, Bytes.load 2 pin, Bytes.load 4 ssNumber,
      Bytes.load 4 dlNumber⟩, Bytes.load 8 customerID, Bytes.load 4 balance⟩
  length_write a := by
    simp [a.firstName.length_eq, a.lastName.length_eq, a.emailAddress.length_eq, gap.2, tail.2,
      maxNameLen]
  read_write a := by
    simp only [NameField.at_append, NameField.drop_append, Bytes.drop_leBytes_append,
      Bytes.load_leBytes_append, drop_padding]

/-- `TRANSACTION_INFO`: the packed base of 18 bytes, then the customer ID. -/
def transactionInfoImage (gap : Padding 6) : RecordImage TransactionInfo where
  size := 32
  size_pos := by decide
  write t :=
    Bytes.leBytes 4 t.id.toNat ++ (Bytes.leBytes 8 t.dateTime.toNat ++
      (Bytes.leBytes 4 t.amount.toNat ++ (Bytes.leBytes 2 t.type.toNat ++
        (gap.1 ++ (Bytes.leBytes 8 t.customerID.toNat ++ [])))))
  read bytes :=
    let dateTime := bytes.drop 4
    let amount := dateTime.drop 8
    let type := amount.drop 4
    let customerID := (type.drop 2).drop 6
    ⟨⟨Bytes.load 4 bytes, Bytes.load 8 dateTime, Bytes.load 4 amount, Bytes.load 2 type⟩,
      Bytes.load 8 customerID⟩
  length_write t := by simp [gap.2]
  read_write t := by
    simp only [Bytes.drop_leBytes_append, Bytes.load_leBytes_append, drop_padding]

/-! ### The server's store -/

/-- The two files of the store. -/
structure Store where
  accountDB : List Byte
  transactDB : List Byte

section Store

variable (accounts : RecordImage AccountInfo) (transactions : RecordImage TransactionInfo)

/-- `SaveServerDB`: number of records and files. -/
def saveServerDB (s : Server) : Nat × Store :=
  ((saveContainer accounts s.accountInfo).1 + (saveContainer transactions s.transactionInfo).1,
    ⟨(saveContainer accounts s.accountInfo).2, (saveContainer transactions s.transactionInfo).2⟩)

/-- `LoadServerDB`: number of records and the server with the records inserted. -/
def loadServerDB (store : Store) (s : Server) : Nat × Server :=
  let a := loadContainer accounts AccountInfo.getPrimaryKey store.accountDB s.accountInfo
  let t := loadContainer transactions TransactionInfo.getPrimaryKey store.transactDB
    s.transactionInfo
  (a.1 + t.1, { s with accountInfo := a.2, transactionInfo := t.2 })

/-- The server is stopped and started again: save, empty tables, load. -/
def restart (s : Server) : Server :=
  (loadServerDB accounts transactions (saveServerDB accounts transactions s).2 .empty).2

/-- Every account and every transaction is stored under its own primary key. -/
structure OwnKeys (s : Server) : Prop where
  accounts : ∀ k a, s.accountInfo.find? k = some a → a.customerID = k
  transactions : ∀ k t, s.transactionInfo.find? k = some t → t.id = k

/-- What was saved is loaded again into empty tables, whatever the sessions are. -/
theorem loadServerDB_saved (s : Server) (own : OwnKeys s) (sessions : SessionMap) :
    loadServerDB accounts transactions (saveServerDB accounts transactions s).2
        ⟨sessions, .empty, .empty⟩ =
      (s.accountInfo.size + s.transactionInfo.size,
        ⟨sessions, s.accountInfo, s.transactionInfo⟩) := by
  have a := loadContainer_saveContainer accounts AccountInfo.getPrimaryKey s.accountInfo
    (fun e member => own.accounts e.1 e.2 ((s.accountInfo.find?_eq_some_iff _ _).mpr member))
  have t := loadContainer_saveContainer transactions TransactionInfo.getPrimaryKey
    s.transactionInfo
    (fun e member => own.transactions e.1 e.2
      ((s.transactionInfo.find?_eq_some_iff _ _).mpr member))
  simp only [loadServerDB, saveServerDB, a, t]

/-- A restart ends the sessions and keeps everything else. -/
theorem restart_eq (s : Server) (own : OwnKeys s) :
    restart accounts transactions s = .boot s.accountInfo s.transactionInfo :=
  congrArg Prod.snd (loadServerDB_saved accounts transactions s own .empty)

/-- The server as it starts on a store has every record under its own key. -/
theorem ownKeys_loadServerDB (store : Store) :
    OwnKeys (loadServerDB accounts transactions store .empty).2 where
  accounts k a found := loadRecords_own accounts AccountInfo.getPrimaryKey _ .empty 0
    (fun _ _ none => by cases none) k a found
  transactions k t found := loadRecords_own transactions TransactionInfo.getPrimaryKey _ .empty 0
    (fun _ _ none => by cases none) k t found

end Store

end Cnp
