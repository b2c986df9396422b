import CnpProtocol.Properties.Loading
import CnpProtocol.Properties.ProcessRuns
import CnpProtocol.Server.Lifetimes

/-!
# Saves that are cut short

Records have a fixed size, and the loader leaves out a record that is there in part. So a file
that was cut anywhere is loaded as the table with its first entries. The accounts are written
before the transactions: while they are, the other file is the old one.
-/

namespace Cnp

/-! ### One file -/

section Templates

variable {κ ρ : Type} [LinearOrder κ] (image : RecordImage ρ) (getPrimaryKey : ρ → κ)

/-- Bytes that are too few for a record do not count. -/
theorem wholeRecords_images (records : List ρ) (rest : List Byte)
    (short : rest.length < image.size) :
    wholeRecords image (records.flatMap image.write ++ rest) = records := by
  induction records with
  | nil => exact wholeRecords_short image rest short
  | cons r records ih =>
    have length := image.length_write r
    have long : image.size ≤ (image.write r ++ (records.flatMap image.write ++ rest)).length := by
      rw [List.length_append, length]
      exact Nat.le_add_right _ _
    rw [List.flatMap_cons, List.append_assoc, wholeRecords_long image _ long,
      List.take_left' length, List.drop_left' length, image.read_write, ih]

/-- The first bytes are the first records and less than one more. -/
theorem exists_take_images (records : List ρ) (n : Nat) :
    ∃ rest : List Byte, rest.length < image.size ∧ (records.flatMap image.write).take n =
      (records.take (n / image.size)).flatMap image.write ++ rest := by
  have positive := image.size_pos
  induction records generalizing n with
  | nil => exact ⟨[], positive, by simp⟩
  | cons r records ih =>
    have length := image.length_write r
    by_cases short : n < image.size
    · refine ⟨(image.write r).take n, ?_, ?_⟩
      · rw [List.length_take, length]
        exact (Nat.min_le_left _ _).trans_lt short
      · rw [Nat.div_eq_of_lt short, List.flatMap_cons, List.take_append_of_le_length (by omega)]
        rfl
    · have long : image.size ≤ n := Nat.le_of_not_lt short
      obtain ⟨rest, less, split⟩ := ih (n - image.size)
      refine ⟨rest, less, ?_⟩
      have count : n / image.size = (n - image.size) / image.size + 1 :=
        Nat.div_eq_sub_div positive long
      rw [count, List.take_succ_cons, List.flatMap_cons, List.flatMap_cons, List.take_append,
        length, List.take_of_length_le (by omega), split, List.append_assoc]

/-- A file that was cut is loaded as the table with the records that are whole. -/
theorem loadContainer_take (container : OrderedMap κ ρ)
    (own : ∀ e ∈ container.entries, getPrimaryKey e.2 = e.1) (n : Nat) :
    (loadContainer image getPrimaryKey ((saveContainer image container).2.take n) .empty).2 =
      container.first (n / image.size) := by
  let saved := container.first (n / image.size)
  obtain ⟨rest, short, split⟩ := exists_take_images image container.values n
  have file : (saveContainer image container).2.take n = (saveContainer image saved).2 ++ rest := by
    simp only [saveContainer_eq, saved, OrderedMap.values_first]
    exact split
  -- the bytes behind the last whole record make no difference
  have records (more : List Byte) (few : more.length < image.size) :
      wholeRecords image ((saveContainer image saved).2 ++ more) = saved.values := by
    simp only [saveContainer_eq]
    exact wholeRecords_images image saved.values more few
  have same : fileEntries image getPrimaryKey ((saveContainer image saved).2 ++ rest) =
      fileEntries image getPrimaryKey (saveContainer image saved).2 := by
    have whole := records [] image.size_pos
    rw [List.append_nil] at whole
    rw [fileEntries, fileEntries, records rest short, whole]
  rw [file, loadContainer_container, same, ← loadContainer_container,
    loadContainer_saveContainer image getPrimaryKey saved
      fun e member => own e (List.mem_of_mem_take member)]

end Templates

/-! ### Both files -/

section Files

variable (accounts : RecordImage AccountInfo) (transactions : RecordImage TransactionInfo)
  (store : Store) (s : Server)

theorem length_saveContainer {κ ρ : Type} [LinearOrder κ] (image : RecordImage ρ)
    (container : OrderedMap κ ρ) :
    (saveContainer image container).2.length = image.size * container.size := by
  have each (records : List ρ) :
      (records.flatMap image.write).length = image.size * records.length := by
    induction records with
    | nil => rfl
    | cons r records ih =>
      rw [List.flatMap_cons, List.length_append, image.length_write, ih, List.length_cons,
        Nat.mul_succ, Nat.add_comm]
  rw [saveContainer_eq, each, OrderedMap.values, List.length_map, OrderedMap.size]

/-- The accounts are cut, or they are all there and the transactions are cut. -/
theorem savedInPart_eq (effects : Nat) :
    savedInPart accounts transactions store s effects =
      ⟨if effects = 0 then store.accountDB
        else (saveContainer accounts s.accountInfo).2.take (effects - 1),
        if effects ≤ accounts.size * s.accountInfo.size + 1 then store.transactDB
        else (saveContainer transactions s.transactionInfo).2.take
          (effects - (accounts.size * s.accountInfo.size + 2))⟩ := by
  have length := length_saveContainer accounts s.accountInfo
  rw [savedInPart, saveEffects, FileWrites.run_rewrite_append_take, length,
    FileWrites.run_rewrite_take, FileWrites.run_rewrite_take]
  by_cases early : effects ≤ accounts.size * s.accountInfo.size
  · rw [if_pos early, if_pos (Nat.le_succ_of_le early)]
    split
    · rfl
    · simp [Store.ofFiles, Store.file]
  · have started : effects ≠ 0 := by
      rintro rfl
      exact early (Nat.zero_le _)
    have whole : (saveContainer accounts s.accountInfo).2.take (effects - 1) =
        (saveContainer accounts s.accountInfo).2 := List.take_of_length_le (by omega)
    rw [if_neg early, if_neg started, whole]
    by_cases last : effects ≤ accounts.size * s.accountInfo.size + 1
    · rw [if_pos (by omega), if_pos last]
      simp [Store.ofFiles, Store.file]
    · have rest : effects - (accounts.size * s.accountInfo.size + 1) - 1 =
          effects - (accounts.size * s.accountInfo.size + 2) := by omega
      rw [if_neg (by omega), if_neg last, rest]
      simp [Store.ofFiles]

/-- No effect has taken place. -/
theorem savedInPart_zero : savedInPart accounts transactions store s 0 = store := rfl

/-- The effects are what `SaveServerDB` does. -/
theorem savedInPart_of_length_le {effects : Nat}
    (all : (saveEffects accounts transactions s).length ≤ effects) :
    savedInPart accounts transactions store s effects =
      (saveServerDB accounts transactions s).2 := by
  have a := length_saveContainer accounts s.accountInfo
  have t := length_saveContainer transactions s.transactionInfo
  rw [saveEffects, List.length_append, FileWrites.length_rewrite, FileWrites.length_rewrite] at all
  rw [savedInPart_eq, if_neg (by omega), if_neg (by omega), List.take_of_length_le (by omega),
    List.take_of_length_le (by omega)]
  rfl

variable {s} (own : OwnKeys s)
include own

/-- What is loaded after a save that was cut. -/
theorem tables_savedInPart (effects : Nat) :
    (savedInPart accounts transactions store s effects).tables accounts transactions =
      .boot (if effects = 0 then (store.tables accounts transactions).accountInfo
        else s.accountInfo.first ((effects - 1) / accounts.size))
        (if effects ≤ accounts.size * s.accountInfo.size + 1 then
          (store.tables accounts transactions).transactionInfo
        else s.transactionInfo.first
          ((effects - (accounts.size * s.accountInfo.size + 2)) / transactions.size)) := by
  have a := loadContainer_take accounts AccountInfo.getPrimaryKey s.accountInfo
    fun e member => own.accounts e.1 e.2 ((s.accountInfo.find?_eq_some_iff _ _).mpr member)
  have t := loadContainer_take transactions TransactionInfo.getPrimaryKey s.transactionInfo
    fun e member => own.transactions e.1 e.2 ((s.transactionInfo.find?_eq_some_iff _ _).mpr member)
  rw [savedInPart_eq, Store.tables, loadServerDB, ← a, ← t]
  refine congrArg₂ Server.boot ?_ ?_
  · exact apply_ite (fun file => (loadContainer accounts _ file .empty).2) _ _ _
  · exact apply_ite (fun file => (loadContainer transactions _ file .empty).2) _ _ _

end Files

end Cnp
