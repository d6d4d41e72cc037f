import Proactive.Library.Ledger
import Proactive.Library.Run
import Proactive.Library.Triple
import Proactive.Store.Sync

/-! The synchronization state as a ledger: every row is the summary of the operations before it. -/
namespace Proactive.Store
open Proactive.Library Database Ledger

/-- The writes that `SyncStore` offers. -/
inductive SyncOperation
  | setSourceAuth (source : SourceName) (authState : SourceAuthState)
  | setGoogleAuthState (authState : SourceAuthState)
  | disconnectGoogleAuth (observedAt : Int)
  | recordCredentialState (state : SourceCredentialState)
  | recordSyncSuccess (source : SourceName) (syncCursor : Option String)
  | recordSyncFailure (source : SourceName) (errorCode : SourceErrorCode)
  | recordGmailSync (diagnostics : SourceReadDiagnostics) (syncCursor : Option String) (errorCode : Option SourceErrorCode)
  | recordGoogleInvalidGrant (diagnostics : Option SourceReadDiagnostics)
deriving DecidableEq, Repr

/-- The two writes read the clock one after the other. -/
def disconnectGoogleAuth (now observedAt : Int) : Sql Unit :=
  Statement.immediate (do
    writeGoogleAuth .notConfigured none now
    recordCredentialState .unknown observedAt)

def recordGmailAttempt (syncCursor : Option String) (now : Int) : Option SourceErrorCode → Sql Unit
  | none => recordSyncSuccess .gmail syncCursor now
  | some .invalidGrant => writeGoogleAuth .needsReauth (some .invalidGrant) now
  | some errorCode => recordSyncFailure .gmail errorCode now

def recordGmailSync (diagnostics : SourceReadDiagnostics) (syncCursor : Option String)
    (errorCode : Option SourceErrorCode) (now : Int) : Sql Unit := do
  validateDiagnostics diagnostics
  Statement.immediate (do
    recordGmailAttempt syncCursor now errorCode
    writeDiagnostics diagnostics)

def validateOptional : Option SourceReadDiagnostics → Sql Unit
  | none => pure ()
  | some diagnostics => validateDiagnostics diagnostics

def recordGoogleInvalidGrant (diagnostics : Option SourceReadDiagnostics) (now : Int) : Sql Unit := do
  validateOptional diagnostics
  Statement.immediate (do
    writeGoogleAuth .needsReauth (some .invalidGrant) now
    recordDiagnostics diagnostics)

namespace SyncOperation

def statement (now : Int) : SyncOperation → Sql Unit
  | setSourceAuth source authState => Store.setSourceAuth source authState now
  | setGoogleAuthState authState => Store.setGoogleAuthState authState now
  | disconnectGoogleAuth observedAt => Store.disconnectGoogleAuth now observedAt
  | recordCredentialState state => Store.recordCredentialState state now
  | recordSyncSuccess source syncCursor => Store.recordSyncSuccess source syncCursor now
  | recordSyncFailure source errorCode => Store.recordSyncFailure source errorCode now
  | recordGmailSync diagnostics syncCursor errorCode => Store.recordGmailSync diagnostics syncCursor errorCode now
  | recordGoogleInvalidGrant diagnostics => Store.recordGoogleInvalidGrant diagnostics now

end SyncOperation

/-- One operation at a time, with its first reading of the clock; its error goes to its caller. -/
def syncStep (db : Database) (entry : SyncOperation × Int) : Database := ((entry.1.statement entry.2).run db).2

/-- What an operation tells of one source. -/
inductive SyncEvent
  | succeeded (syncCursor : Option String)
  | failed (errorCode : SourceErrorCode)
  | authorized (authState : SourceAuthState) (errorCode : Option SourceErrorCode)
deriving DecidableEq, Repr

namespace SyncOperation

/-- Operations with diagnostics outside their bounds are refused. -/
def event (source : SourceName) : SyncOperation → Option SyncEvent
  | setSourceAuth other authState => if source = other then some (.authorized authState none) else none
  | setGoogleAuthState authState => some (.authorized authState none)
  | disconnectGoogleAuth _ => some (.authorized .notConfigured none)
  | recordCredentialState _ => none
  | recordSyncSuccess other syncCursor => if source = other then some (.succeeded syncCursor) else none
  | recordSyncFailure other errorCode => if source = other then some (.failed errorCode) else none
  | recordGmailSync diagnostics syncCursor errorCode =>
    if diagnostics.bounded then
      match errorCode with
      | none => if source = .gmail then some (.succeeded syncCursor) else none
      | some .invalidGrant => some (.authorized .needsReauth (some .invalidGrant))
      | some errorCode => if source = .gmail then some (.failed errorCode) else none
    else none
  | recordGoogleInvalidGrant diagnostics =>
    if diagnostics.all SourceReadDiagnostics.bounded then some (.authorized .needsReauth (some .invalidGrant)) else none

def diagnosed : SyncOperation → Option SourceReadDiagnostics
  | recordGmailSync diagnostics _ _ => if diagnostics.bounded then some diagnostics else none
  | recordGoogleInvalidGrant diagnostics => diagnostics.filter SourceReadDiagnostics.bounded
  | _ => none

/-- The credential state that an operation writes, with the time of the observation. -/
def observed (now : Int) : SyncOperation → Option (SourceCredentialState × Int)
  | disconnectGoogleAuth observedAt => some (.unknown,observedAt)
  | recordCredentialState state => some (state,now)
  | _ => none

end SyncOperation

namespace SyncEvent

def change (now : Int) : SyncEvent → Option SyncRow → SyncRow
  | succeeded syncCursor => .succeeded now syncCursor
  | failed errorCode => .failed now errorCode
  | authorized authState errorCode => .authorized now authState errorCode

def success : SyncEvent → Option (Option String)
  | succeeded syncCursor => some syncCursor
  | _ => none

/-- An attempt to read the source, with the code of its failure. -/
def attempt : SyncEvent → Option (Option SourceErrorCode)
  | succeeded _ => some none
  | failed errorCode => some (some errorCode)
  | authorized _ none => none
  | authorized _ (some errorCode) => some (some errorCode)

def authorization : SyncEvent → Option SourceAuthState
  | authorized authState _ => some authState
  | _ => none

end SyncEvent

/-- The events of one source, with their times. -/
def sourceEvents (source : SourceName) (log : List (SyncOperation × Int)) : List (SyncEvent × Int) :=
  log.filterMap (fun entry => (entry.1.event source).map (fun event => (event,entry.2)))

def timed {α : Type} (tells : SyncEvent → Option α) (entry : SyncEvent × Int) : Option (α × Int) :=
  (tells entry.1).map (fun value => (value,entry.2))

/-- A source without a row that is not one of the reads counts as configured when it is written. -/
def blankRow : SyncRow := ⟨.configured,none,none,none,none,none⟩

/-- The row that the events make of a source's row, each column by the last event that writes it. -/
def summary (row : SyncRow) (events : List (SyncEvent × Int)) : SyncRow where
  authState := (last (fun entry => entry.1.authorization) events).getD row.authState
  lastSuccessAt := (last (timed SyncEvent.success) events).elim row.lastSuccessAt (fun found => some found.2)
  lastAttemptAt := (last (timed SyncEvent.attempt) events).elim row.lastAttemptAt (fun found => some found.2)
  lastErrorCode := (last (timed SyncEvent.attempt) events).elim row.lastErrorCode Prod.fst
  syncCursor := (last (timed SyncEvent.success) events).elim row.syncCursor Prod.fst
  updatedAt := (events.getLast?).elim row.updatedAt (fun entry => some entry.2)

def ledgerRow (row : Option SyncRow) (events : List (SyncEvent × Int)) : Option SyncRow :=
  if events = [] then row else some (summary (row.getD blankRow) events)

theorem elim_last_append {α β : Type} (writes : SyncEvent × Int → Option α) (read : α → β) (value : β)
    (first second : List (SyncEvent × Int)) :
    (last writes (first ++ second)).elim value read =
      (last writes second).elim ((last writes first).elim value read) read := by
  rw [last_append]
  cases last writes second <;> rfl

theorem summary_append (row : SyncRow) (first second : List (SyncEvent × Int)) :
    summary (summary row first) second = summary row (first ++ second) := by
  unfold summary
  simp only [elim_last_append,SyncRow.mk.injEq,true_and]
  refine ⟨?_,?_⟩
  · rw [last_append]
    cases last (fun entry => entry.1.authorization) second <;> rfl
  · rw [List.getLast?_append]
    cases second.getLast? <;> rfl

theorem ledgerRow_append (row : Option SyncRow) (first second : List (SyncEvent × Int)) :
    ledgerRow (ledgerRow row first) second = ledgerRow row (first ++ second) := by
  unfold ledgerRow
  by_cases late : second = []
  · simp [late]
  · by_cases early : first = []
    · simp [early,late]
    · simp [early,late,summary_append]

/-- One event writes the row that it would write over the defaults of a missing row. -/
theorem change_eq (event : SyncEvent) (now : Int) (row : Option SyncRow) :
    some (event.change now row) = ledgerRow row [(event,now)] := by
  cases event with
  | authorized authState errorCode => cases errorCode <;> cases row <;> rfl
  | _ => cases row <;> rfl

theorem ledgerRow_nil (row : Option SyncRow) : ledgerRow row [] = row := rfl

theorem sourceEvents_cons (source : SourceName) (entry : SyncOperation × Int) (rest : List (SyncOperation × Int)) :
    sourceEvents source (entry::rest) = sourceEvents source [entry] ++ sourceEvents source rest :=
  List.filterMap_append (l := [entry])

/-- What the operations of a log leave of a database. -/
def recorded (db : Database) (log : List (SyncOperation × Int)) : Database :=
  {db with
    syncStates := ⟨ledgerRow db.syncStates.gmail (sourceEvents .gmail log),
      ledgerRow db.syncStates.calendar (sourceEvents .calendar log)⟩
    gmailDiagnostics := (last (fun entry => entry.1.diagnosed) log).or db.gmailDiagnostics
    credential := (last (fun entry => entry.1.observed entry.2) log).or db.credential}

theorem ledgerRow_single (source : SourceName) (row : Option SyncRow) (operation : SyncOperation) (now : Int) :
    ledgerRow row (sourceEvents source [(operation,now)]) =
      ((operation.event source).map (fun event => event.change now row)).or row := by
  unfold sourceEvents
  cases told : operation.event source with
  | none => simp [told,ledgerRow_nil]
  | some event =>
    have single : [(operation,now)].filterMap (fun entry => (entry.1.event source).map (fun event => (event,entry.2))) =
        [(event,now)] := by simp [told]
    rw [single,← change_eq]
    rfl

theorem last_single {α : Type} (writes : SyncOperation × Int → Option α) (entry : SyncOperation × Int) :
    last writes [entry] = writes entry := by
  rw [last_cons,last_nil,Option.none_or]

theorem recorded_single (db : Database) (operation : SyncOperation) (now : Int) :
    recorded db [(operation,now)] = {db with
      syncStates :=
        ⟨((operation.event .gmail).map (fun event => event.change now db.syncStates.gmail)).or db.syncStates.gmail,
          ((operation.event .calendar).map (fun event => event.change now db.syncStates.calendar)).or
            db.syncStates.calendar⟩
      gmailDiagnostics := operation.diagnosed.or db.gmailDiagnostics
      credential := (operation.observed now).or db.credential} := by
  unfold recorded
  rw [ledgerRow_single,ledgerRow_single,last_single,last_single]

theorem validate_refused {diagnostics : SourceReadDiagnostics} (refused : diagnostics.bounded = false) {body : Sql Unit}
    (db : Database) : ((validateDiagnostics diagnostics >>= fun _ => body).run db).2 = db := by
  unfold validateDiagnostics
  rw [if_neg (by simp [refused])]
  rfl

theorem validate_passed {diagnostics : SourceReadDiagnostics} (bounded : diagnostics.bounded = true) {body : Sql Unit}
    (db : Database) : ((validateDiagnostics diagnostics >>= fun _ => body).run db).2 = (body.run db).2 := by
  unfold validateDiagnostics
  rw [if_pos bounded]
  rfl

theorem syncStep_recorded (db : Database) (entry : SyncOperation × Int) : syncStep db entry = recorded db [entry] := by
  obtain ⟨operation,now⟩ := entry
  rw [recorded_single]
  cases operation with
  | setSourceAuth source authState => cases source <;> rfl
  | setGoogleAuthState authState => rfl
  | disconnectGoogleAuth observedAt => rfl
  | recordCredentialState state => rfl
  | recordSyncSuccess source syncCursor => cases source <;> rfl
  | recordSyncFailure source errorCode => cases source <;> rfl
  | recordGmailSync diagnostics syncCursor errorCode =>
    cases bounds : diagnostics.bounded with
    | false =>
      refine (validate_refused bounds db).trans ?_
      simp [SyncOperation.event,SyncOperation.diagnosed,SyncOperation.observed,bounds]
    | true =>
      refine (validate_passed bounds db).trans ?_
      simp only [SyncOperation.event,SyncOperation.diagnosed,SyncOperation.observed,bounds,if_pos]
      cases errorCode with
      | none => rfl
      | some errorCode => cases errorCode <;> rfl
  | recordGoogleInvalidGrant diagnostics =>
    cases diagnostics with
    | none => rfl
    | some diagnostics =>
      cases bounds : diagnostics.bounded with
      | false =>
        refine (validate_refused bounds db).trans ?_
        simp [SyncOperation.event,SyncOperation.diagnosed,SyncOperation.observed,bounds,Option.filter]
      | true =>
        refine (validate_passed bounds db).trans ?_
        simp only [SyncOperation.event,SyncOperation.diagnosed,SyncOperation.observed,bounds,Option.filter,Option.all_some,
          if_pos]
        rfl

/-- The state after any operations is the summary of what each of them told. -/
theorem sync_ledger (db : Database) (log : List (SyncOperation × Int)) : Run.run syncStep db log = recorded db log := by
  induction log generalizing db with
  | nil => rfl
  | cons entry rest ih =>
    rw [Run.run_cons,ih,syncStep_recorded]
    unfold recorded
    simp only [ledgerRow_append,← sourceEvents_cons,last_cons _ entry rest,last_single]
    simp [Option.or_assoc]

end Proactive.Store
