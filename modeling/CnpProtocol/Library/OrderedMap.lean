import Mathlib.Order.Lattice
import Mathlib.Data.List.Basic
import Mathlib.Data.List.Nodup

/-!
# Ordered maps

Finite maps with unique keys, represented by the list of their entries in strictly
increasing key order. The order is a field of the structure, so iteration, the largest
key and `lowerBound` need no well-formedness hypothesis. `insert` keeps an entry that is
already there; `modify` is an update through an iterator.
-/

universe u v

/-- A finite map whose entries are listed in strictly increasing key order. -/
structure OrderedMap (κ : Type u) (ν : Type v) [LinearOrder κ] where
  entries : List (κ × ν)
  sorted : entries.Pairwise (fun a b => a.1 < b.1)

namespace OrderedMap

variable {κ : Type u} {ν : Type v} [LinearOrder κ]

/-! ### Operations -/

def empty : OrderedMap κ ν := ⟨[], List.Pairwise.nil⟩

instance : Inhabited (OrderedMap κ ν) := ⟨empty⟩

def size (m : OrderedMap κ ν) : Nat := m.entries.length

def keys (m : OrderedMap κ ν) : List κ := m.entries.map Prod.fst

def values (m : OrderedMap κ ν) : List ν := m.entries.map Prod.snd

def find? (m : OrderedMap κ ν) (k : κ) : Option ν :=
  (m.entries.find? (fun e => decide (e.1 = k))).map Prod.snd

/-- The largest key, which a reverse iterator meets first. -/
def lastKey? (m : OrderedMap κ ν) : Option κ := m.entries.getLast?.map Prod.fst

/-- The entries from the first key that is not below `k` on. -/
def lowerBound (m : OrderedMap κ ν) (k : κ) : List (κ × ν) :=
  m.entries.dropWhile (fun e => decide (e.1 < k))

/-- Insertion into a sorted list of entries; an entry under `k` stays as it is. -/
def insertEntry (k : κ) (v : ν) : List (κ × ν) → List (κ × ν)
  | [] => [(k, v)]
  | e :: es =>
    if k < e.1 then (k, v) :: e :: es
    else if k = e.1 then e :: es
    else e :: insertEntry k v es

theorem mem_of_mem_insertEntry (k : κ) (v : ν) (l : List (κ × ν)) (e : κ × ν)
    (member : e ∈ insertEntry k v l) : e = (k, v) ∨ e ∈ l := by
  induction l with
  | nil => exact Or.inl (by simpa [insertEntry] using member)
  | cons first rest ih =>
    simp only [insertEntry] at member
    split at member
    · simpa using member
    · split at member
      · exact Or.inr member
      · rcases List.mem_cons.mp member with rfl | tail
        · exact Or.inr (by simp)
        · rcases ih tail with equal | old
          · exact Or.inl equal
          · exact Or.inr (List.mem_cons_of_mem _ old)

theorem mem_insertEntry_of_mem (k : κ) (v : ν) (l : List (κ × ν)) (e : κ × ν)
    (member : e ∈ l) : e ∈ insertEntry k v l := by
  induction l with
  | nil => simp at member
  | cons first rest ih =>
    simp only [insertEntry]
    split
    · exact List.mem_cons_of_mem _ member
    · split
      · exact member
      · rcases List.mem_cons.mp member with rfl | tail
        · simp
        · exact List.mem_cons_of_mem _ (ih tail)

theorem insertEntry_sorted (k : κ) (v : ν) (l : List (κ × ν))
    (sorted : l.Pairwise (fun a b => a.1 < b.1)) :
    (insertEntry k v l).Pairwise (fun a b => a.1 < b.1) := by
  induction l with
  | nil => simp [insertEntry]
  | cons first rest ih =>
    obtain ⟨above, tail⟩ := List.pairwise_cons.mp sorted
    simp only [insertEntry]
    split
    next below =>
      -- the new entry goes in front
      refine List.pairwise_cons.mpr ⟨fun e member => ?_, sorted⟩
      rcases List.mem_cons.mp member with rfl | old
      · exact below
      · exact lt_trans below (above e old)
    next notBelow =>
      split
      · exact sorted
      next different =>
        -- the new entry goes behind the first one
        refine List.pairwise_cons.mpr ⟨fun e member => ?_, ih tail⟩
        rcases mem_of_mem_insertEntry k v rest e member with rfl | old
        · exact lt_of_le_of_ne (not_lt.mp notBelow) (Ne.symm different)
        · exact above e old

/-- `std::map::insert`: nothing happens when the key is in use. -/
def insert (m : OrderedMap κ ν) (k : κ) (v : ν) : OrderedMap κ ν :=
  ⟨insertEntry k v m.entries, insertEntry_sorted k v m.entries m.sorted⟩

def erase (m : OrderedMap κ ν) (k : κ) : OrderedMap κ ν :=
  ⟨m.entries.filter (fun e => decide (e.1 ≠ k)), m.sorted.filter _⟩

/-- Update the value under `k` in place. -/
def modify (m : OrderedMap κ ν) (k : κ) (f : ν → ν) : OrderedMap κ ν :=
  ⟨m.entries.map (fun e => (e.1, if e.1 = k then f e.2 else e.2)),
    List.pairwise_map.mpr m.sorted⟩

/-! ### Lookup and membership -/

theorem ext_entries {m n : OrderedMap κ ν} (equal : m.entries = n.entries) : m = n := by
  cases m
  cases n
  cases equal
  rfl

theorem keys_nodup (m : OrderedMap κ ν) : m.keys.Nodup :=
  List.pairwise_map.mpr (m.sorted.imp fun below => ne_of_lt below)

theorem value_unique (m : OrderedMap κ ν) {k : κ} {v w : ν}
    (hv : (k, v) ∈ m.entries) (hw : (k, w) ∈ m.entries) : v = w :=
  congrArg Prod.snd (List.inj_on_of_nodup_map m.keys_nodup hv hw rfl)

theorem find?_eq_some_iff (m : OrderedMap κ ν) (k : κ) (v : ν) :
    m.find? k = some v ↔ (k, v) ∈ m.entries := by
  constructor
  · intro found
    obtain ⟨e, he, rfl⟩ := Option.map_eq_some_iff.mp found
    have key : e.1 = k := by simpa using List.find?_some he
    subst key
    exact List.mem_of_find?_eq_some he
  · intro member
    cases h : m.entries.find? (fun e => decide (e.1 = k)) with
    | none => exact absurd (List.find?_eq_none.mp h (k, v) member) (by simp)
    | some e =>
      have key : e.1 = k := by simpa using List.find?_some h
      subst key
      have found := List.mem_of_find?_eq_some h
      simp [find?, h, m.value_unique found member]

theorem find?_eq_none_iff (m : OrderedMap κ ν) (k : κ) :
    m.find? k = none ↔ ∀ e ∈ m.entries, e.1 ≠ k := by
  simp [find?, List.find?_eq_none]

theorem find?_isSome_iff (m : OrderedMap κ ν) (k : κ) :
    (m.find? k).isSome = true ↔ k ∈ m.keys := by
  simp only [Option.isSome_iff_exists, find?_eq_some_iff, keys, List.mem_map]
  constructor
  · rintro ⟨v, member⟩
    exact ⟨(k, v), member, rfl⟩
  · rintro ⟨e, member, rfl⟩
    exact ⟨e.2, member⟩

/-! ### The empty map -/

@[simp] theorem find?_empty (k : κ) : (empty : OrderedMap κ ν).find? k = none := rfl

@[simp] theorem entries_empty : (empty : OrderedMap κ ν).entries = [] := rfl

/-! ### Insertion -/

theorem mem_entries_insert (m : OrderedMap κ ν) (k : κ) (v : ν) (e : κ × ν) :
    e ∈ (m.insert k v).entries ↔ e ∈ m.entries ∨ (e = (k, v) ∧ m.find? k = none) := by
  constructor
  · intro member
    rcases mem_of_mem_insertEntry k v m.entries e member with rfl | old
    · by_cases found : m.find? k = none
      · exact Or.inr ⟨rfl, found⟩
      · obtain ⟨w, hw⟩ := Option.ne_none_iff_exists'.mp found
        have old := mem_insertEntry_of_mem k v m.entries _ ((m.find?_eq_some_iff k w).mp hw)
        have equal : v = w := (m.insert k v).value_unique member old
        subst equal
        exact Or.inl ((m.find?_eq_some_iff k v).mp hw)
    · exact Or.inl old
  · rintro (old | ⟨rfl, fresh⟩)
    · exact mem_insertEntry_of_mem k v m.entries e old
    · have present (l : List (κ × ν)) (absent : ∀ e ∈ l, e.1 ≠ k) :
          (k, v) ∈ insertEntry k v l := by
        induction l with
        | nil => simp [insertEntry]
        | cons first rest ih =>
          have different := absent first (by simp)
          simp only [insertEntry]
          split
          · simp
          · rw [if_neg (Ne.symm different)]
            exact List.mem_cons_of_mem _ (ih fun e he => absent e (List.mem_cons_of_mem _ he))
      exact present m.entries ((m.find?_eq_none_iff k).mp fresh)

theorem find?_insert (m : OrderedMap κ ν) (k : κ) (v : ν) (k' : κ) :
    (m.insert k v).find? k' = if k' = k then some ((m.find? k).getD v) else m.find? k' := by
  apply Option.ext
  intro w
  rw [find?_eq_some_iff, mem_entries_insert, ← find?_eq_some_iff]
  by_cases same : k' = k
  · subst same
    cases found : m.find? k' <;> simp [eq_comm]
  · simp [same]

/-- An entry of the map after an insertion is old, or it is the new one. -/
theorem find?_insert_cases (m : OrderedMap κ ν) {k k' : κ} {v w : ν}
    (found : (m.insert k v).find? k' = some w) :
    m.find? k' = some w ∨ (k' = k ∧ w = v ∧ m.find? k = none) := by
  rw [find?_insert] at found
  by_cases same : k' = k
  · subst same
    rw [if_pos rfl, Option.some.injEq] at found
    cases old : m.find? k' with
    | none => exact Or.inr ⟨rfl, by simpa [old] using found.symm, rfl⟩
    | some u => exact Or.inl (by simpa [old] using found)
  · rw [if_neg same] at found
    exact Or.inl found

theorem find?_insert_of_find? (m : OrderedMap κ ν) (k : κ) (v : ν) {k' : κ} {w : ν}
    (found : m.find? k' = some w) : (m.insert k v).find? k' = some w := by
  rw [find?_insert]
  split
  next same => rw [← same, found, Option.getD_some]
  · exact found

theorem isSome_find?_insert (m : OrderedMap κ ν) (k : κ) (v : ν) {k' : κ}
    (found : (m.find? k').isSome = true) : ((m.insert k v).find? k').isSome = true := by
  obtain ⟨w, hw⟩ := Option.isSome_iff_exists.mp found
  rw [m.find?_insert_of_find? k v hw, Option.isSome_some]

/-- A key above all others goes to the end. -/
theorem entries_insert_last (m : OrderedMap κ ν) (k : κ) (v : ν)
    (above : ∀ e ∈ m.entries, e.1 < k) : (m.insert k v).entries = m.entries ++ [(k, v)] := by
  have last (l : List (κ × ν)) (below : ∀ e ∈ l, e.1 < k) :
      insertEntry k v l = l ++ [(k, v)] := by
    induction l with
    | nil => rfl
    | cons first rest ih =>
      have small := below first (by simp)
      rw [insertEntry, if_neg (lt_asymm small), if_neg (ne_of_gt small),
        ih fun e he => below e (List.mem_cons_of_mem _ he), List.cons_append]
  exact last m.entries above

theorem insertEntry_of_mem (k : κ) (v : ν) (l : List (κ × ν))
    (sorted : l.Pairwise (fun a b => a.1 < b.1)) (present : ∃ e ∈ l, e.1 = k) :
    insertEntry k v l = l := by
  induction l with
  | nil => simp at present
  | cons first rest ih =>
    obtain ⟨above, tail⟩ := List.pairwise_cons.mp sorted
    obtain ⟨e, member, rfl⟩ := present
    rcases List.mem_cons.mp member with rfl | later
    · rw [insertEntry, if_neg (lt_irrefl _), if_pos rfl]
    · -- the entry under the key is further behind
      have below := above e later
      rw [insertEntry, if_neg (lt_asymm below), if_neg (ne_of_gt below),
        ih tail ⟨e, later, rfl⟩]

theorem length_insertEntry (k : κ) (v : ν) (l : List (κ × ν)) (absent : ∀ e ∈ l, e.1 ≠ k) :
    (insertEntry k v l).length = l.length + 1 := by
  induction l with
  | nil => rfl
  | cons first rest ih =>
    have different := absent first (by simp)
    simp only [insertEntry]
    split
    · rfl
    · rw [if_neg (Ne.symm different), List.length_cons,
        ih fun e member => absent e (List.mem_cons_of_mem _ member), List.length_cons]

/-- A key in use makes the insertion a no-op. -/
theorem insert_of_find? (m : OrderedMap κ ν) (k : κ) (v : ν) {w : ν}
    (found : m.find? k = some w) : m.insert k v = m :=
  ext_entries (insertEntry_of_mem k v m.entries m.sorted
    ⟨(k, w), (m.find?_eq_some_iff k w).mp found, rfl⟩)

theorem size_insert (m : OrderedMap κ ν) (k : κ) (v : ν) :
    (m.insert k v).size = if (m.find? k).isNone then m.size + 1 else m.size := by
  cases found : m.find? k with
  | none => exact length_insertEntry k v m.entries ((m.find?_eq_none_iff k).mp found)
  | some w => rw [m.insert_of_find? k v found]; rfl

theorem size_le_size_insert (m : OrderedMap κ ν) (k : κ) (v : ν) :
    m.size ≤ (m.insert k v).size := by
  rw [size_insert]
  split
  · exact Nat.le_succ _
  · exact Nat.le_refl _

/-! ### Insertion of many entries -/

/-- Entries inserted one after the other; the first one under a key stays. -/
def insertAll (m : OrderedMap κ ν) (l : List (κ × ν)) : OrderedMap κ ν :=
  l.foldl (fun m e => m.insert e.1 e.2) m

@[simp] theorem insertAll_nil (m : OrderedMap κ ν) : m.insertAll [] = m := rfl

@[simp] theorem insertAll_cons (m : OrderedMap κ ν) (e : κ × ν) (l : List (κ × ν)) :
    m.insertAll (e :: l) = (m.insert e.1 e.2).insertAll l := rfl

/-- What the map has under a key comes before what the list has. -/
theorem find?_insertAll (m : OrderedMap κ ν) (l : List (κ × ν)) (k : κ) :
    (m.insertAll l).find? k =
      (m.find? k).or ((l.find? (fun e => decide (e.1 = k))).map Prod.snd) := by
  induction l generalizing m with
  | nil => simp
  | cons e rest ih =>
    rw [insertAll_cons, ih, find?_insert]
    by_cases same : k = e.1
    · -- the first entry under the key
      subst same
      cases found : m.find? e.1 <;> simp
    · rw [if_neg same, List.find?_cons_of_neg (by simpa using Ne.symm same)]

theorem isSome_find?_insertAll (m : OrderedMap κ ν) (l : List (κ × ν)) (e : κ × ν)
    (member : e ∈ l) : ((m.insertAll l).find? e.1).isSome = true := by
  rw [find?_insertAll, Option.isSome_or, Bool.or_eq_true]
  right
  rw [Option.isSome_map, List.find?_isSome]
  exact ⟨e, member, by simp⟩

/-- Entries whose keys are all in use change nothing. -/
theorem insertAll_of_isSome (m : OrderedMap κ ν) (l : List (κ × ν))
    (used : ∀ e ∈ l, (m.find? e.1).isSome = true) : m.insertAll l = m := by
  induction l with
  | nil => rfl
  | cons e rest ih =>
    obtain ⟨w, found⟩ := Option.isSome_iff_exists.mp (used e (by simp))
    rw [insertAll_cons, m.insert_of_find? e.1 e.2 found]
    exact ih fun e' member => used e' (List.mem_cons_of_mem _ member)

theorem insertAll_insertAll (m : OrderedMap κ ν) (l : List (κ × ν)) :
    (m.insertAll l).insertAll l = m.insertAll l :=
  (m.insertAll l).insertAll_of_isSome l (m.isSome_find?_insertAll l)

/-! ### Removal and update -/

theorem find?_erase (m : OrderedMap κ ν) (k k' : κ) :
    (m.erase k).find? k' = if k' = k then none else m.find? k' := by
  apply Option.ext
  intro w
  rw [find?_eq_some_iff]
  by_cases same : k' = k
  · simp [erase, same]
  · simp [erase, same, find?_eq_some_iff]

theorem find?_of_find?_erase (m : OrderedMap κ ν) {k k' : κ} {w : ν}
    (found : (m.erase k).find? k' = some w) : k' ≠ k ∧ m.find? k' = some w := by
  rw [find?_erase] at found
  split at found
  · cases found
  next other => exact ⟨other, found⟩

theorem find?_modify (m : OrderedMap κ ν) (k : κ) (f : ν → ν) (k' : κ) :
    (m.modify k f).find? k' = if k' = k then (m.find? k).map f else m.find? k' := by
  apply Option.ext
  intro w
  rw [find?_eq_some_iff]
  by_cases same : k' = k
  · -- the updated entry
    subst same
    simp only [if_true, Option.map_eq_some_iff, find?_eq_some_iff, modify, List.mem_map,
      Prod.mk.injEq]
    constructor
    · rintro ⟨e, member, rfl, rfl⟩
      exact ⟨e.2, member, by simp⟩
    · rintro ⟨v, member, rfl⟩
      exact ⟨(k', v), member, by simp⟩
  · simp only [if_neg same, find?_eq_some_iff, modify, List.mem_map, Prod.mk.injEq]
    constructor
    · rintro ⟨e, member, rfl, rfl⟩
      simpa [same] using member
    · intro member
      exact ⟨(k', w), member, by simp [same]⟩

theorem find?_modify_eq_some (m : OrderedMap κ ν) {k k' : κ} {f : ν → ν} {w : ν}
    (found : (m.modify k f).find? k' = some w) :
    ∃ v, m.find? k' = some v ∧ w = if k' = k then f v else v := by
  rw [find?_modify] at found
  by_cases same : k' = k
  · subst same
    rw [if_pos rfl] at found
    obtain ⟨v, old, rfl⟩ := Option.map_eq_some_iff.mp found
    exact ⟨v, old, (if_pos rfl).symm⟩
  · rw [if_neg same] at found
    exact ⟨w, found, (if_neg same).symm⟩

@[simp] theorem isSome_find?_modify (m : OrderedMap κ ν) (k k' : κ) (f : ν → ν) :
    ((m.modify k f).find? k').isSome = (m.find? k').isSome := by
  rw [find?_modify]
  split
  next same => rw [same, Option.isSome_map]
  · rfl

/-- Updates under different keys commute. -/
theorem modify_comm (m : OrderedMap κ ν) {k k' : κ} (other : k ≠ k') (f g : ν → ν) :
    (m.modify k f).modify k' g = (m.modify k' g).modify k f := by
  apply ext_entries
  simp only [modify, List.map_map]
  apply List.map_congr_left
  intro e _
  by_cases first : e.1 = k
  · have second : e.1 ≠ k' := fun same => other (first.symm.trans same)
    simp [first, other]
  · simp [first]

/-! ### Iteration -/

theorem mem_entries_of_mem_lowerBound (m : OrderedMap κ ν) (k : κ) (e : κ × ν)
    (member : e ∈ m.lowerBound k) : e ∈ m.entries :=
  (List.dropWhile_sublist _).subset member

/-- In increasing key order nothing small comes after the first large key. -/
theorem lowerBound_eq_filter (m : OrderedMap κ ν) (k : κ) :
    m.lowerBound k = m.entries.filter (fun e => decide (k ≤ e.1)) := by
  have split (l : List (κ × ν)) (sorted : l.Pairwise (fun a b => a.1 < b.1)) :
      l.dropWhile (fun e => decide (e.1 < k)) = l.filter (fun e => decide (k ≤ e.1)) := by
    induction l with
    | nil => rfl
    | cons first rest ih =>
      obtain ⟨above, tail⟩ := List.pairwise_cons.mp sorted
      by_cases low : first.1 < k
      · rw [List.dropWhile_cons_of_pos (by simpa using low),
          List.filter_cons_of_neg (by simpa using low), ih tail]
      · rw [List.dropWhile_cons_of_neg (by simpa using low), eq_comm, List.filter_eq_self]
        intro e member
        rcases List.mem_cons.mp member with rfl | later
        · simpa using low
        · simpa using le_trans (not_lt.mp low) (le_of_lt (above e later))
  exact split m.entries m.sorted

/-! ### The largest key -/

theorem lastKey?_eq_none_iff (m : OrderedMap κ ν) : m.lastKey? = none ↔ m.entries = [] := by
  simp [lastKey?]

theorem le_lastKey (m : OrderedMap κ ν) {k : κ} (last : m.lastKey? = some k) :
    ∀ e ∈ m.entries, e.1 ≤ k := by
  obtain ⟨e, he, rfl⟩ := Option.map_eq_some_iff.mp last
  obtain ⟨front, split⟩ := List.getLast?_eq_some_iff.mp he
  have sorted := m.sorted
  rw [split] at sorted ⊢
  intro e' member
  rcases List.mem_append.mp member with old | new
  · exact le_of_lt ((List.pairwise_append.mp sorted).2.2 e' old e (by simp))
  · simp only [List.mem_singleton] at new
    rw [new]

theorem lastKey_mem (m : OrderedMap κ ν) {k : κ} (last : m.lastKey? = some k) :
    (m.find? k).isSome = true := by
  obtain ⟨e, he, rfl⟩ := Option.map_eq_some_iff.mp last
  rw [find?_isSome_iff]
  exact List.mem_map_of_mem (List.mem_of_getLast? he)

/-! ### The first entries -/

/-- The entries with the smallest keys. -/
def first (m : OrderedMap κ ν) (n : Nat) : OrderedMap κ ν :=
  ⟨m.entries.take n, m.sorted.sublist (List.take_sublist n m.entries)⟩

theorem values_first (m : OrderedMap κ ν) (n : Nat) : (m.first n).values = m.values.take n := by
  rw [values, values, first, List.map_take]

theorem first_of_size_le (m : OrderedMap κ ν) {n : Nat} (all : m.size ≤ n) : m.first n = m :=
  ext_entries (List.take_of_length_le all)

end OrderedMap
