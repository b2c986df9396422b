import CnpProtocol.Server.Persistence

/-!
# Loading

`LoadServerDB` takes any file. It ends after one turn more than there are whole records,
and what it leaves in the container is the old entries and, under every other key, the
first whole record of the file with that key.
-/

namespace Cnp

section Templates

variable {κ ρ : Type} [LinearOrder κ] (image : RecordImage ρ) (getPrimaryKey : ρ → κ)

/-! ### The records of a file -/

/-- The whole records of a file, in order; the bytes of a last partial one are left out. -/
def wholeRecords (file : List Byte) : List ρ :=
  (List.range (file.length / image.size)).map fun i =>
    image.read ((file.drop (i * image.size)).take image.size)

theorem wholeRecords_short (file : List Byte) (short : file.length < image.size) :
    wholeRecords image file = [] := by
  rw [wholeRecords, Nat.div_eq_of_lt short, List.range_zero, List.map_nil]

theorem wholeRecords_long (file : List Byte) (long : image.size ≤ file.length) :
    wholeRecords image file =
      image.read (file.take image.size) :: wholeRecords image (file.drop image.size) := by
  have count : file.length / image.size = (file.drop image.size).length / image.size + 1 := by
    rw [List.length_drop]
    exact Nat.div_eq_sub_div image.size_pos long
  rw [wholeRecords, count, List.range_succ_eq_map, List.map_cons, List.map_map, Nat.zero_mul,
    List.drop_zero, wholeRecords]
  refine congrArg _ (List.map_congr_left fun i _ => ?_)
  -- the chunks behind the first one
  rw [Function.comp_apply, List.drop_drop, Nat.succ_mul, Nat.add_comm image.size]

/-- The whole records with the keys they are inserted under. -/
def fileEntries (file : List Byte) : List (κ × ρ) :=
  (wholeRecords image file).map fun r => (getPrimaryKey r, r)

theorem find?_fileEntries (file : List Byte) (k : κ) :
    ((fileEntries image getPrimaryKey file).find? (fun e => decide (e.1 = k))).map Prod.snd =
      (wholeRecords image file).find? fun r => decide (getPrimaryKey r = k) := by
  rw [fileEntries, List.find?_map, Option.map_map]
  exact Option.map_id'

/-! ### The loop -/

/-- The variables of `LoadServerDB` between two turns of its loop. -/
structure Loading (κ ρ : Type) [LinearOrder κ] where
  ifs : IfStream
  nResult : Nat
  container : OrderedMap κ ρ

/-- The body of the loop. -/
def Loading.turn (l : Loading κ ρ) : Loading κ ρ :=
  let record := image.read (l.ifs.read image.size).1
  let key := getPrimaryKey record
  if (l.ifs.read image.size).2.good = true then
    { ifs := (l.ifs.read image.size).2
      nResult := if (l.container.find? key).isNone then l.nResult + 1 else l.nResult
      container := l.container.insert key record }
  else { l with ifs := (l.ifs.read image.size).2 }

/-- What the loop returns from here on. -/
def Loading.finish (l : Loading κ ρ) : Nat × OrderedMap κ ρ :=
  loadRecords image getPrimaryKey l.ifs l.container l.nResult

theorem Loading.finish_turn (l : Loading κ ρ) (good : l.ifs.good = true) :
    l.finish image getPrimaryKey = (l.turn image getPrimaryKey).finish image getPrimaryKey := by
  rw [finish, loadRecords, dif_pos good]
  simp only [turn]
  split
  · rfl
  · rfl

theorem Loading.finish_ended (l : Loading κ ρ) (ended : l.ifs.good = false) :
    l.finish image getPrimaryKey = (l.nResult, l.container) := by
  rw [finish, loadRecords, dif_neg (by simp [ended])]

/-- A turn over a whole record inserts it. -/
theorem Loading.turn_long (l : Loading κ ρ) (good : l.ifs.good = true)
    (long : image.size ≤ l.ifs.rest.length) :
    l.turn image getPrimaryKey =
      let record := image.read (l.ifs.rest.take image.size)
      { ifs := ⟨l.ifs.rest.drop image.size, true⟩
        nResult := if (l.container.find? (getPrimaryKey record)).isNone then l.nResult + 1
          else l.nResult
        container := l.container.insert (getPrimaryKey record) record } := by
  simp only [turn, IfStream.read, if_pos long, if_pos good]
  rw [good]

/-- A turn that finds too few bytes fails the stream and changes nothing else. -/
theorem Loading.turn_short (l : Loading κ ρ) (short : l.ifs.rest.length < image.size) :
    l.turn image getPrimaryKey = { l with ifs := ⟨[], false⟩ } := by
  simp only [turn, IfStream.read, if_neg (Nat.not_le.mpr short)]
  rfl

/-- Induction along the turns of the loop. -/
theorem Loading.turns (P : Loading κ ρ → Prop)
    (last : ∀ l, l.ifs.good = true → l.ifs.rest.length < image.size → P l)
    (next : ∀ l, l.ifs.good = true → image.size ≤ l.ifs.rest.length →
      P (l.turn image getPrimaryKey) → P l)
    (l : Loading κ ρ) (good : l.ifs.good = true) : P l := by
  have positive := image.size_pos
  induction bytes : l.ifs.rest.length using Nat.strongRecOn generalizing l with
  | ind n ih =>
    by_cases long : image.size ≤ l.ifs.rest.length
    · have turn := l.turn_long image getPrimaryKey good long
      refine next l good long (ih _ ?_ _ (by rw [turn]) rfl)
      rw [turn, ← bytes]
      simp only [List.length_drop]
      omega
    · exact last l good (Nat.not_le.mp long)

/-- The loop ends at its `n`-th test: the stream is good before and not any more then, and
the variables are what the template returns. -/
structure Loading.EndsAfter (l : Loading κ ρ) (n : Nat) : Prop where
  before : ∀ i < n, ((Loading.turn image getPrimaryKey)^[i] l).ifs.good = true
  ended : ((Loading.turn image getPrimaryKey)^[n] l).ifs.good = false
  returned : l.finish image getPrimaryKey =
    (((Loading.turn image getPrimaryKey)^[n] l).nResult,
      ((Loading.turn image getPrimaryKey)^[n] l).container)

/-- One turn for each whole record and one for what is left. -/
theorem Loading.endsAfter (l : Loading κ ρ) (good : l.ifs.good = true) :
    l.EndsAfter image getPrimaryKey (l.ifs.rest.length / image.size + 1) := by
  refine Loading.turns image getPrimaryKey
    (fun l => l.EndsAfter image getPrimaryKey (l.ifs.rest.length / image.size + 1)) ?_ ?_ l good
  · intro l good short
    have turn := l.turn_short image getPrimaryKey short
    rw [Nat.div_eq_of_lt short]
    refine ⟨fun i early => ?_, ?_, ?_⟩
    · obtain rfl := Nat.lt_one_iff.mp early
      exact good
    · rw [Function.iterate_one, turn]
    · rw [l.finish_turn image getPrimaryKey good, Function.iterate_one, turn]
      exact Loading.finish_ended image getPrimaryKey _ rfl
  · intro l good long later
    have turn := l.turn_long image getPrimaryKey good long
    have count : l.ifs.rest.length / image.size =
        (l.turn image getPrimaryKey).ifs.rest.length / image.size + 1 := by
      rw [turn, List.length_drop]
      exact Nat.div_eq_sub_div image.size_pos long
    rw [count]
    refine ⟨fun i early => ?_, later.ended, ?_⟩
    · cases i with
      | zero => exact good
      | succ i => exact later.before i (Nat.lt_of_succ_lt_succ early)
    · rw [l.finish_turn image getPrimaryKey good]
      exact later.returned

/-! ### What is loaded -/

/-- The loop inserts the whole records that are left, one after the other. -/
theorem Loading.finish_container (l : Loading κ ρ) (good : l.ifs.good = true) :
    (l.finish image getPrimaryKey).2 =
      l.container.insertAll (fileEntries image getPrimaryKey l.ifs.rest) := by
  refine Loading.turns image getPrimaryKey (fun l => (l.finish image getPrimaryKey).2 =
    l.container.insertAll (fileEntries image getPrimaryKey l.ifs.rest)) ?_ ?_ l good
  · intro l good short
    rw [l.finish_turn image getPrimaryKey good, l.turn_short image getPrimaryKey short,
      Loading.finish_ended image getPrimaryKey _ rfl, fileEntries, wholeRecords_short image _ short]
    rfl
  · intro l good long later
    rw [l.finish_turn image getPrimaryKey good, later, l.turn_long image getPrimaryKey good long,
      fileEntries, fileEntries, wholeRecords_long image l.ifs.rest long]
    rfl

/-- The counter grows with the container. -/
theorem Loading.finish_count (l : Loading κ ρ) (good : l.ifs.good = true) :
    (l.finish image getPrimaryKey).1 + l.container.size =
      l.nResult + (l.finish image getPrimaryKey).2.size := by
  refine Loading.turns image getPrimaryKey (fun l =>
    (l.finish image getPrimaryKey).1 + l.container.size =
      l.nResult + (l.finish image getPrimaryKey).2.size) ?_ ?_ l good
  · intro l good short
    rw [l.finish_turn image getPrimaryKey good, l.turn_short image getPrimaryKey short,
      Loading.finish_ended image getPrimaryKey _ rfl]
  · intro l good long later
    rw [l.finish_turn image getPrimaryKey good]
    rw [l.turn_long image getPrimaryKey good long] at later ⊢
    simp only [OrderedMap.size_insert] at later ⊢
    -- the counter goes up when the key is new, and so does the size
    split at later
    next fresh =>
      rw [if_pos fresh]
      omega
    next used =>
      rw [if_neg used]
      exact later

/-- `LoadServerDB` before its first turn. -/
def Loading.start (file : List Byte) (container : OrderedMap κ ρ) : Loading κ ρ :=
  ⟨⟨file, true⟩, 0, container⟩

theorem loadContainer_container (file : List Byte) (container : OrderedMap κ ρ) :
    (loadContainer image getPrimaryKey file container).2 =
      container.insertAll (fileEntries image getPrimaryKey file) :=
  (Loading.start file container).finish_container image getPrimaryKey rfl

theorem size_loadContainer (file : List Byte) (container : OrderedMap κ ρ) :
    (loadContainer image getPrimaryKey file container).2.size =
      container.size + (loadContainer image getPrimaryKey file container).1 := by
  have counted := (Loading.start file container).finish_count image getPrimaryKey rfl
  simp only [Loading.start, Nat.zero_add] at counted
  rw [Nat.add_comm]
  exact counted.symm

/-- Every key of the file is in use after it was loaded. -/
theorem loadContainer_twice (file : List Byte) (container : OrderedMap κ ρ) :
    let loaded := (loadContainer image getPrimaryKey file container).2
    loadContainer image getPrimaryKey file loaded = (0, loaded) := by
  intro loaded
  have same : (loadContainer image getPrimaryKey file loaded).2 = loaded := by
    simp only [loaded, loadContainer_container, OrderedMap.insertAll_insertAll]
  have counted := size_loadContainer image getPrimaryKey file loaded
  rw [same] at counted
  exact Prod.ext (by omega) same

/-- What the template does with a file and a container: it ends, keeps the entries that are
there, gives every other key its first whole record, counts what it adds, and does nothing
the second time. -/
structure LoadsWell (file : List Byte) (before : OrderedMap κ ρ) : Prop where
  ends : (Loading.start file before).EndsAfter image getPrimaryKey (file.length / image.size + 1)
  kept : ∀ k r, before.find? k = some r →
    (loadContainer image getPrimaryKey file before).2.find? k = some r
  first : ∀ k, before.find? k = none →
    (loadContainer image getPrimaryKey file before).2.find? k =
      (wholeRecords image file).find? fun r => decide (getPrimaryKey r = k)
  count : (loadContainer image getPrimaryKey file before).2.size =
    before.size + (loadContainer image getPrimaryKey file before).1
  again : loadContainer image getPrimaryKey file (loadContainer image getPrimaryKey file before).2 =
    (0, (loadContainer image getPrimaryKey file before).2)

/-- Any file loads well into any container, for records of any size and with any key. -/
theorem loads_well (file : List Byte) (before : OrderedMap κ ρ) :
    LoadsWell image getPrimaryKey file before where
  ends := (Loading.start file before).endsAfter image getPrimaryKey rfl
  kept k r found := by
    rw [loadContainer_container, OrderedMap.find?_insertAll, found, Option.some_or]
  first k absent := by
    rw [loadContainer_container, OrderedMap.find?_insertAll, absent, Option.none_or,
      find?_fileEntries]
  count := size_loadContainer image getPrimaryKey file before
  again := loadContainer_twice image getPrimaryKey file before

end Templates

/-- Three records of a key byte and a value byte, the second one under the key of the first,
and half a record behind them. -/
example : (loadContainer (.raw 2 (by decide)) (fun r => r.1.headD 0) [1, 10, 1, 20, 2, 30, 9]
    .empty).2.entries.map (fun e => e.2.1) = [[1, 10], [2, 30]] := by
  rw [loadContainer_container]
  decide

/-! ### The server's store -/

/-- Both calls of `LoadServerDB`: the number returned is what the two tables grew by, and
loading the store again does nothing. -/
theorem loadServerDB_twice (accounts : RecordImage AccountInfo)
    (transactions : RecordImage TransactionInfo) (store : Store) (s : Server) :
    let loaded := loadServerDB accounts transactions store s
    loaded.2.accountInfo.size + loaded.2.transactionInfo.size =
        s.accountInfo.size + s.transactionInfo.size + loaded.1 ∧
      loadServerDB accounts transactions store loaded.2 = (0, loaded.2) := by
  intro loaded
  have a := size_loadContainer accounts AccountInfo.getPrimaryKey store.accountDB s.accountInfo
  have t := size_loadContainer transactions TransactionInfo.getPrimaryKey store.transactDB
    s.transactionInfo
  constructor
  · simp only [loaded, loadServerDB]
    omega
  · simp only [loaded, loadServerDB, loadContainer_twice]

end Cnp
