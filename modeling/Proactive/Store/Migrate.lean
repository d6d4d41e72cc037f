import Proactive.Library.Crowd

/-! Schema migrations by any number of processes on one database file. -/
namespace Proactive.Store
open Proactive.Library

inductive OpeningError
  | sqlite
  | receiptErasurePending
deriving DecidableEq, Repr

/-- A statement of a migration script, by what the bookkeeping of the migrations depends on. -/
inductive SchemaStatement (τ : Type)
  -- CREATE TABLE IF NOT EXISTS schema_migrations
  | createVersions
  -- CREATE TABLE migration_maintenance, with its one row
  | markErasure
  | other (apply : τ → Option τ)

abbrev Script (τ : Type) := List (SchemaStatement τ)

/-- The rows of schema_migrations, whether migration_maintenance exists, and all other tables. -/
structure Schema (τ : Type) where
  versions : Option (List Nat)
  maintenance : Bool
  tables : τ
deriving DecidableEq, Repr

namespace Schema
variable {τ : Type}

def recorded (schema : Schema τ) : List Nat := schema.versions.getD []

/-- SELECT COALESCE(MAX(version), 0) -/
def version (schema : Schema τ) : Nat := schema.recorded.foldr max 0

def execute (schema : Schema τ) : SchemaStatement τ → Option (Schema τ)
  | .createVersions => some {schema with versions := some schema.recorded}
  | .markErasure => if schema.maintenance then none else some {schema with maintenance := true}
  | .other apply => (apply schema.tables).map (fun tables => {schema with tables})

/-- The version is the table's primary key. -/
def insertVersion (schema : Schema τ) (version : Nat) : Option (Schema τ) :=
  schema.versions.bind (fun rows => if version ∈ rows then none else some {schema with versions := some (rows ++ [version])})

end Schema

/-- One database file as its connections share it: the open write transaction with its owner,
whether migration_maintenance has its row, and whether pages that the migration deleted are still in the files. -/
structure Medium (ι τ : Type) where
  committed : Schema τ
  writer : Option (ι × Schema τ)
  marked : Bool
  residue : Bool

inductive MigrationCall (ι τ : Type) : Type → Type
  | beginImmediate (who : ι) : MigrationCall ι τ (Except OpeningError Unit)
  | versionTables (who : ι) : MigrationCall ι τ (Except OpeningError Nat)
  | maxVersion (who : ι) : MigrationCall ι τ (Except OpeningError Nat)
  | execute (who : ι) (statement : SchemaStatement τ) : MigrationCall ι τ (Except OpeningError Unit)
  | insertVersion (who : ι) (version : Nat) : MigrationCall ι τ (Except OpeningError Unit)
  | commit (who : ι) : MigrationCall ι τ (Except OpeningError Unit)
  | inTransaction (who : ι) : MigrationCall ι τ (Except OpeningError Bool)
  | rollback (who : ι) : MigrationCall ι τ (Except OpeningError Unit)
  | close (who : ι) : MigrationCall ι τ (Except OpeningError Unit)
  | countPending (who : ι) : MigrationCall ι τ (Except OpeningError Nat)
  | checkpoint (who : ι) : MigrationCall ι τ (Except OpeningError (Option (Nat × Nat × Nat)))
  | deletePending (who : ι) : MigrationCall ι τ (Except OpeningError Unit)
  | write (who : ι) (change : τ → Option τ) : MigrationCall ι τ (Except OpeningError Unit)

/-- How a call goes: whether the statement raises, whether SQLite then ends the transaction, whether the
process that has one open has died, and what a checkpoint reports. -/
structure MigrationTurn where
  fails : Bool
  aborts : Bool
  orphaned : Bool
  report : Option (Nat × Nat × Nat)
deriving DecidableEq, Repr

namespace Medium
variable {ι τ : Type} [DecidableEq ι]

def owns (medium : Medium ι τ) (who : ι) : Bool := medium.writer.any (fun entry => entry.1 = who)

def draft? (medium : Medium ι τ) (who : ι) : Option (Schema τ) :=
  medium.writer.bind (fun entry => if entry.1 = who then some entry.2 else none)

/-- SQLite takes back the transaction of a process that died. -/
def reaped (medium : Medium ι τ) (who : ι) (orphaned : Bool) : Medium ι τ :=
  if orphaned && !medium.owns who then {medium with writer := none} else medium

def rewrite (medium : Medium ι τ) (who : ι) (change : Schema τ → Option (Schema τ)) :
    Except OpeningError Unit × Medium ι τ :=
  match (medium.draft? who).bind change with
  | some draft => (.ok (),{medium with writer := some (who,draft)})
  | none => (.error .sqlite,medium)

/-- A statement outside of a transaction that writes, and has to wait while one is open. -/
def autocommit (medium : Medium ι τ) (change : Medium ι τ → Option (Medium ι τ)) :
    Except OpeningError Unit × Medium ι τ :=
  if medium.writer.isSome then (.error .sqlite,medium)
  else
    match change medium with
    | some left => (.ok (),left)
    | none => (.error .sqlite,medium)

def released (medium : Medium ι τ) (who : ι) : Medium ι τ :=
  if medium.owns who then {medium with writer := none} else medium

/-- The rows that a transaction deletes stay in the files until a checkpoint that empties the log. -/
def published (medium : Medium ι τ) (draft : Schema τ) : Medium ι τ :=
  let erases := draft.maintenance && !medium.committed.maintenance
  ⟨draft,none,medium.marked || erases,medium.residue || erases⟩

end Medium

namespace MigrationCall
variable {ι τ : Type} [DecidableEq ι]

def served (turn : MigrationTurn) : {β : Type} → MigrationCall ι τ β → Medium ι τ → β × Medium ι τ
  | _,beginImmediate who,medium =>
    (medium.reaped who turn.orphaned).autocommit (fun medium => some {medium with writer := some (who,medium.committed)})
  | _,versionTables who,medium =>
    (.ok (if ((medium.draft? who).getD medium.committed).versions.isSome then 1 else 0),medium)
  | _,maxVersion who,medium => (.ok ((medium.draft? who).getD medium.committed).version,medium)
  | _,execute who statement,medium => medium.rewrite who (fun draft => draft.execute statement)
  | _,insertVersion who version,medium => medium.rewrite who (fun draft => draft.insertVersion version)
  | _,commit who,medium =>
    match medium.draft? who with
    | some draft => (.ok (),medium.published draft)
    | none => (.error .sqlite,medium)
  | _,inTransaction who,medium => (.ok (medium.owns who),medium)
  | _,rollback who,medium =>
    (if medium.owns who then .ok () else .error .sqlite,medium.released who)
  | _,close who,medium => (.ok (),medium.released who)
  | _,countPending _,medium =>
    (if medium.committed.maintenance then .ok (if medium.marked then 1 else 0) else .error .sqlite,medium)
  | _,checkpoint _,medium =>
    (.ok turn.report,if turn.report = some (0,0,0) then {medium with residue := false} else medium)
  | _,deletePending who,medium =>
    (medium.reaped who turn.orphaned).autocommit
      (fun medium => if medium.committed.maintenance then some {medium with marked := false} else none)
  | _,write who change,medium =>
    (medium.reaped who turn.orphaned).autocommit
      (fun medium => (change medium.committed.tables).map (fun tables => {medium with committed := {medium.committed with tables}}))

def mayFail {β : Type} : MigrationCall ι τ β → Bool
  | inTransaction _ | close _ => false
  | _ => true

def failure : {β : Type} → MigrationCall ι τ β → β
  | _,beginImmediate _ => .error .sqlite
  | _,versionTables _ => .error .sqlite
  | _,maxVersion _ => .error .sqlite
  | _,execute _ _ => .error .sqlite
  | _,insertVersion _ _ => .error .sqlite
  | _,commit _ => .error .sqlite
  | _,inTransaction _ => .error .sqlite
  | _,rollback _ => .error .sqlite
  | _,close _ => .error .sqlite
  | _,countPending _ => .error .sqlite
  | _,checkpoint _ => .error .sqlite
  | _,deletePending _ => .error .sqlite
  | _,write _ _ => .error .sqlite

def caller {β : Type} : MigrationCall ι τ β → ι
  | beginImmediate who | versionTables who | maxVersion who | execute who _ | insertVersion who _ | commit who
  | inTransaction who | rollback who | close who | countPending who | checkpoint who | deletePending who | write who _ => who

def machine : Machine (MigrationCall ι τ) MigrationTurn (Medium ι τ) where
  perform turn call medium :=
    if turn.fails && call.mayFail then (call.failure,if turn.aborts then medium.released call.caller else medium)
    else served turn call medium

end MigrationCall

abbrev Migrating (ι τ α : Type) := Fallible (MigrationCall ι τ) OpeningError α

section programs
variable {ι τ : Type}

def ask {α : Type} (call : MigrationCall ι τ (Except OpeningError α)) : Migrating ι τ α := Fallible.perform call

def currentVersion (who : ι) : Migrating ι τ Nat := do
  let tableCount ← ask (.versionTables who)
  if tableCount = 0 then pure 0 else ask (.maxVersion who)

def executeAll (who : ι) : Script τ → Migrating ι τ Unit
  | [] => pure ()
  | statement::rest => do
    ask (.execute who statement)
    executeAll who rest

def applyPending (who : ι) : List (Nat × Script τ) → Nat → Migrating ι τ Unit
  | [],_ => pure ()
  | (version,script)::rest,current =>
    if version ≤ current then applyPending who rest current
    else do
      executeAll who script
      ask (.insertVersion who version)
      applyPending who rest version

def rollbackOpen (who : ι) (active : Bool) : Migrating ι τ Unit := if active then ask (.rollback who) else pure ()

def applyMigrations (who : ι) (scripts : List (Nat × Script τ)) : Migrating ι τ Unit := do
  ask (.beginImmediate who)
  Fallible.handle (do
    let current ← currentVersion who
    applyPending who scripts current
    ask (.commit who)) (fun error => do
      rollbackOpen who (← ask (.inTransaction who))
      Fallible.raise error)

/-- busy, log_frames, checkpointed_frames -/
def checkpointed : Option (Nat × Nat × Nat) → Migrating ι τ Unit
  | none => Fallible.raise .receiptErasurePending
  | some (busy,logFrames,checkpointedFrames) =>
    if busy ≠ 0 ∨ logFrames ≠ 0 ∨ checkpointedFrames ≠ 0 then Fallible.raise .receiptErasurePending else pure ()

def _completePendingReceiptErasure (who : ι) : Migrating ι τ Unit := do
  let pending ← ask (.countPending who)
  if pending = 0 then pure ()
  else do
    checkpointed (← ask (.checkpoint who))
    ask (.deletePending who)

def initializeConnection (who : ι) (scripts : List (Nat × Script τ)) : Migrating ι τ Unit := do
  applyMigrations who scripts
  _completePendingReceiptErasure who

def openCollaborators (who : ι) (scripts : List (Nat × Script τ)) : Migrating ι τ Unit :=
  Fallible.handle (initializeConnection who scripts) (fun error => do
    ask (.close who)
    Fallible.raise error)

/-- The scripts of a package, under the numbers of their files. -/
def numbered (first : Nat) : List (Script τ) → List (Nat × Script τ)
  | [] => []
  | script::rest => (first,script)::numbered (first + 1) rest

end programs
end Proactive.Store
