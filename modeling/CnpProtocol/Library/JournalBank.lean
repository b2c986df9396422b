import CnpProtocol.Library.Ledger

/-!
# Banks with a journal

All accounts of a bank post to one journal, and the journal is all there is to money: the
ledger of an account is what was posted for it, its funds are what the ledger leaves, and
the number of a posting is its place in the journal. A debit is posted when the funds cover
it.
-/

/-- A movement of money on the account of `owner`, and what else is noted about it. -/
structure Posting (κ μ : Type*) where
  owner : κ
  memo : μ
  entry : Entry

/-- The holders of the open accounts and the journal. -/
structure JournalBank (κ δ μ : Type*) where
  holder : κ → Option δ
  journal : List (Posting κ μ)

namespace JournalBank

variable {κ δ μ : Type*} [DecidableEq κ]

def empty : JournalBank κ δ μ := ⟨fun _ => none, []⟩

/-! ### Accounts -/

def ledger (b : JournalBank κ δ μ) (k : κ) : List Entry :=
  (b.journal.filter fun p => p.owner = k).map Posting.entry

def funds (b : JournalBank κ δ μ) (k : κ) : Nat :=
  Ledger.credits (b.ledger k) - Ledger.debits (b.ledger k)

/-- A posting extends the ledger of its owner and no other. -/
theorem ledger_post (b : JournalBank κ δ μ) (p : Posting κ μ) (k : κ) :
    ledger { b with journal := b.journal ++ [p] } k =
      if k = p.owner then b.ledger k ++ [p.entry] else b.ledger k := by
  simp only [ledger, List.filter_append, List.map_append]
  split
  next own => simp [own]
  next other => simp [Ne.symm other]

/-- What an account holder is shown of a posting: its number, its note and its entry. -/
abbrev Line (μ : Type*) := Nat × μ × Entry

/-- The postings of an account from number `start` on, at most `count` of them. -/
def statement (b : JournalBank κ δ μ) (k : κ) (start count : Nat) : List (Line μ) :=
  (((b.journal.zipIdx 1).filter fun p => p.1.owner = k ∧ start ≤ p.2).take count).map
    fun p => (p.2, p.1.memo, p.1.entry)

/-! ### Commands -/

inductive Command (κ δ μ : Type*)
  | opening (k : κ) (d : δ)
  | visit (k : κ)
  | post (k : κ) (memo : μ) (entry : Entry)
  | fundsOf (k : κ)
  | statementOf (k : κ) (start count : Nat)

inductive Reply (μ : Type*)
  | done
  | taken
  | unknown
  | short
  | funds (n : Nat)
  | statement (lines : List (Line μ))
  deriving DecidableEq

/-- Credits are always covered. -/
def Covered (b : JournalBank κ δ μ) (k : κ) : Entry → Prop
  | .credit _ => True
  | .debit amount => amount ≤ b.funds k

instance (b : JournalBank κ δ μ) (k : κ) (entry : Entry) : Decidable (b.Covered k entry) :=
  match entry with
  | .credit _ => .isTrue trivial
  | .debit amount => inferInstanceAs (Decidable (amount ≤ b.funds k))

def exec (b : JournalBank κ δ μ) : Command κ δ μ → JournalBank κ δ μ
  | .opening k d =>
    if (b.holder k).isNone then { b with holder := Function.update b.holder k (some d) } else b
  | .post k memo entry =>
    if (b.holder k).isSome ∧ b.Covered k entry then
      { b with journal := b.journal ++ [⟨k, memo, entry⟩] }
    else b
  | _ => b

def reply (b : JournalBank κ δ μ) : Command κ δ μ → Reply μ
  | .opening k _ => if (b.holder k).isNone then .done else .taken
  | .visit k => if (b.holder k).isSome then .done else .unknown
  | .post k _ entry =>
    if (b.holder k).isSome then if b.Covered k entry then .done else .short else .unknown
  | .fundsOf k => if (b.holder k).isSome then .funds (b.funds k) else .unknown
  | .statementOf k start count =>
    if (b.holder k).isSome then .statement (b.statement k start count) else .unknown

end JournalBank
