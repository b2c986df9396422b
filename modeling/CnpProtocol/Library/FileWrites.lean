import CnpProtocol.Library.Run

/-!
# Files that are written anew

A program saves its state by opening files, which empties them, and writing their contents.
When the program is killed in between, the effects so far are what is left: a file that it has
finished is the new one, the file it was writing is cut somewhere, and a file that it has not
opened is the old one.
-/

namespace FileWrites

variable {φ β : Type*} [DecidableEq φ]

inductive Effect (φ β : Type*)
  | opened (file : φ)
  | wrote (file : φ) (byte : β)

def apply (files : φ → List β) : Effect φ β → φ → List β
  | .opened file => Function.update files file []
  | .wrote file byte => Function.update files file (files file ++ [byte])

/-- A file is opened and gets its contents. -/
def rewrite (file : φ) (content : List β) : List (Effect φ β) :=
  .opened file :: content.map (.wrote file)

omit [DecidableEq φ] in
theorem length_rewrite (file : φ) (content : List β) :
    (rewrite file content).length = content.length + 1 := by
  rw [rewrite, List.length_cons, List.length_map]

theorem run_wrote (files : φ → List β) (file : φ) (bytes : List β) :
    Run.run apply files (bytes.map (.wrote file)) =
      Function.update files file (files file ++ bytes) := by
  induction bytes generalizing files with
  | nil => simp
  | cons byte rest ih =>
    rw [List.map_cons, Run.run_cons, ih]
    simp [apply]

/-- The first effects of a rewrite: none, or the file has the first bytes only. -/
theorem run_rewrite_take (files : φ → List β) (file : φ) (content : List β) (n : Nat) :
    Run.run apply files ((rewrite file content).take n) =
      if n = 0 then files else Function.update files file (content.take (n - 1)) := by
  cases n with
  | zero => rfl
  | succ n =>
    rw [rewrite, List.take_succ_cons, Run.run_cons, ← List.map_take, run_wrote]
    simp [apply]

theorem run_rewrite (files : φ → List β) (file : φ) (content : List β) :
    Run.run apply files (rewrite file content) = Function.update files file content := by
  have all := run_rewrite_take files file content (content.length + 1)
  rwa [List.take_of_length_le (length_rewrite file content).le, if_neg (Nat.succ_ne_zero _),
    Nat.add_sub_cancel, List.take_length] at all

/-- The effects behind a rewrite start when it is done. -/
theorem run_rewrite_append_take (files : φ → List β) (file : φ) (content : List β)
    (later : List (Effect φ β)) (n : Nat) :
    Run.run apply files ((rewrite file content ++ later).take n) =
      if n ≤ content.length then Run.run apply files ((rewrite file content).take n)
      else Run.run apply (Function.update files file content)
        (later.take (n - (content.length + 1))) := by
  rw [List.take_append, Run.run_append, length_rewrite]
  split
  next early =>
    rw [Nat.sub_eq_zero_of_le (Nat.le_succ_of_le early)]
    rfl
  next late =>
    have whole : (rewrite file content).length ≤ n := by
      rw [length_rewrite]
      omega
    rw [List.take_of_length_le whole, run_rewrite]

end FileWrites
