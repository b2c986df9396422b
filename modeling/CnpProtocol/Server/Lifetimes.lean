import CnpProtocol.Library.FileWrites
import CnpProtocol.Server.Process

/-!
# Lifetimes

The server process is started, runs, and is gone again, because it has returned or because it
was killed. Two files stay. While the process saves, it can be killed between any two writes of
`SaveServerDB`.
-/

namespace Cnp

/-- `g_szAccountDBFileName` and `g_szTransactDBFileName`. -/
inductive StoreFile
  | account
  | transact
  deriving DecidableEq

def Store.file (store : Store) : StoreFile → List Byte
  | .account => store.accountDB
  | .transact => store.transactDB

def Store.ofFiles (files : StoreFile → List Byte) : Store :=
  ⟨files .account, files .transact⟩

section Lifetimes

variable (accounts : RecordImage AccountInfo) (transactions : RecordImage TransactionInfo)
  (newHandle : Finset Handle → Handle)

/-- What `SaveServerDB` does to the files, one after the other: an `ofstream` empties its file
when it is opened. -/
def saveEffects (s : Server) : List (FileWrites.Effect StoreFile Byte) :=
  FileWrites.rewrite .account (saveContainer accounts s.accountInfo).2 ++
    FileWrites.rewrite .transact (saveContainer transactions s.transactionInfo).2

/-- The files after the first effects. -/
def savedInPart (store : Store) (s : Server) (effects : Nat) : Store :=
  .ofFiles
    (Run.run FileWrites.apply store.file ((saveEffects accounts transactions s).take effects))

/-- A process that is killed while it saves has come to one of the effects. -/
def Process.files (p : Process) (effects : Nat) : Store :=
  if p.control = .save then savedInPart accounts transactions p.store p.server effects else p.store

/-- Both files are the new ones. -/
def Process.HasSaved (p : Process) (effects : Nat) : Prop :=
  p.control = .returned ∨
    p.control = .save ∧ (saveEffects accounts transactions p.server).length ≤ effects

instance (p : Process) (effects : Nat) : Decidable (p.HasSaved accounts transactions effects) :=
  inferInstanceAs (Decidable (_ ∨ _))

/-- The files, and the process if there is one. Of the processes before, `past` has what those
did that have saved; each of them ends with a restart. -/
inductive Machine
  | off (store : Store) (past : List Op)
  | on (p : Process) (past : List Op)

inductive MachineTurn
  | start (listens : Bool)
  | process (turn : ProcessTurn)
  | gone (effects : Nat)

def machineStep : Machine → MachineTurn → Machine
  | .off store past, .start listens =>
    .on (processStart accounts transactions newHandle store listens) past
  | .on p past, .process turn => .on (processStep accounts transactions newHandle p turn) past
  | .on p past, .gone effects =>
    .off (p.files accounts transactions effects)
      (if p.HasSaved accounts transactions effects then
        past ++ p.ops ++ [.restart accounts transactions] else past)
  | .off store past, .process _ => .off store past
  | .off store past, .gone _ => .off store past
  | .on p past, .start _ => .on p past

def runMachine (store : Store) (turns : List MachineTurn) : Machine :=
  Run.run (machineStep accounts transactions newHandle) (.off store []) turns

end Lifetimes

end Cnp
