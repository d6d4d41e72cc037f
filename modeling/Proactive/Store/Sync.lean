import Proactive.Store.Database

/-! Source generations, synchronization rows and Gmail read diagnostics. -/
namespace Proactive.Store
open Proactive.Library Database

def generationState (source : SourceName) (db : Database) : GenerationRow :=
  (db.generations.get source).getD ⟨0,0,none,none,none⟩

namespace GenerationRow

/-- The row that one more issue inserts or updates. -/
def reissued (now : Int) : Option GenerationRow → GenerationRow
  | none => ⟨1,0,none,some now,none⟩
  | some row => {row with issued := row.issued + 1,issuedAt := some now}

/-- `issued_generation >= ? AND applied_generation < ?`. -/
def admits (number : Nat) (row : GenerationRow) : Bool := number ≤ row.issued && row.applied < number

def accepted (number : Nat) (status : SourceGenerationStatus) (now : Int) (row : GenerationRow) :
    GenerationRow :=
  {row with applied := number,status := some status,appliedAt := some now}

end GenerationRow

namespace Database

def issue (source : SourceName) (now : Int) (db : Database) : Database :=
  {db with
    generations := db.generations.set source (some (.reissued now (db.generations.get source)))}

def admits (generation : SourceGeneration) (db : Database) : Bool :=
  (db.generations.get generation.source).any (GenerationRow.admits generation.number)

def acceptedAs (generation : SourceGeneration) (status : SourceGenerationStatus) (now : Int)
    (db : Database) : Database :=
  {db with
    generations := db.generations.set generation.source
      ((db.generations.get generation.source).map (.accepted generation.number status now))}

end Database

def reserveSourceGeneration (source : SourceName) (now : Int) : Sql SourceGeneration :=
  Statement.immediate (do
    Statement.update (issue source now)
    let state ← Statement.select (generationState source)
    return ⟨source,state.issued⟩)

def accept (generation : SourceGeneration) (status : SourceGenerationStatus) (now : Int) : Sql Unit := do
  let updated ← Statement.select (admits generation)
  if updated then
    Statement.update (acceptedAs generation status now)
  else
    let state ← Statement.select (generationState generation.source)
    if generation.number ≤ state.applied then
      Statement.raise (.delayedSourceGeneration generation state.applied)
    else
      Statement.raise (.unreservedSourceGeneration generation)

namespace SourceReadDiagnostics

def countMaxima : List Int := [221,20,200,2000,8000000]

def maxReasonCount : Int := 200

def counts (diagnostics : SourceReadDiagnostics) : List Int :=
  [diagnostics.requestCount,diagnostics.pageCount,diagnostics.projectedCount,
    diagnostics.excludedCount,diagnostics.byteBudget]

/-- The bounds of the closed contract. The vocabularies are closed by their types. -/
def bounded (diagnostics : SourceReadDiagnostics) : Bool :=
  (diagnostics.counts.zip countMaxima).all (fun entry => 0 ≤ entry.1 && entry.1 ≤ entry.2) &&
    decide (diagnostics.reasonCounts.map SourceReadReasonCount.reason).Nodup &&
    diagnostics.reasonCounts.all (fun item => 0 ≤ item.count && item.count ≤ maxReasonCount)

end SourceReadDiagnostics

def validateDiagnostics (diagnostics : SourceReadDiagnostics) : Sql Unit :=
  if diagnostics.bounded then return () else Statement.raise .invalidSourceReadDiagnostics

def writeDiagnostics (diagnostics : SourceReadDiagnostics) : Sql Unit :=
  Statement.update (fun db => {db with gmailDiagnostics := some diagnostics})

/-- The checks made before a generation that carries diagnostics is accepted. -/
def checkDiagnostics (source : SourceName) : Option SourceReadDiagnostics → Sql Unit
  | none => return ()
  | some diagnostics =>
    if source ≠ .gmail then Statement.raise .invalidSourceReadDiagnostics
    else validateDiagnostics diagnostics

def recordDiagnostics : Option SourceReadDiagnostics → Sql Unit
  | none => return ()
  | some diagnostics => writeDiagnostics diagnostics

def acceptSourceGeneration (generation : SourceGeneration) (status : SourceGenerationStatus)
    (diagnostics : Option SourceReadDiagnostics) (now : Int) : Sql Unit := do
  checkDiagnostics generation.source diagnostics
  accept generation status now
  recordDiagnostics diagnostics

namespace SyncRow

def unconfigured : SyncRow := ⟨.notConfigured,none,none,none,none,none⟩

def succeeded (now : Int) (syncCursor : Option String) : Option SyncRow → SyncRow
  | none => ⟨.configured,some now,some now,none,syncCursor,some now⟩
  | some row => {row with
      lastSuccessAt := some now
      lastAttemptAt := some now
      lastErrorCode := none
      syncCursor := syncCursor
      updatedAt := some now}

def failed (now : Int) (errorCode : SourceErrorCode) : Option SyncRow → SyncRow
  | none => ⟨.configured,none,some now,some errorCode,none,some now⟩
  | some row => {row with
      lastAttemptAt := some now
      lastErrorCode := some errorCode
      updatedAt := some now}

def authorized (now : Int) (authState : SourceAuthState) (errorCode : Option SourceErrorCode) :
    Option SyncRow → SyncRow
  | none => ⟨authState,none,errorCode.map (fun _ => now),errorCode,none,some now⟩
  | some row => {row with
      authState := authState
      lastAttemptAt := if errorCode = none then row.lastAttemptAt else some now
      lastErrorCode := if errorCode = none then row.lastErrorCode else errorCode
      updatedAt := some now}

end SyncRow

def writeSync (source : SourceName) (change : Option SyncRow → SyncRow) : Sql Unit :=
  Statement.update (fun db => {db with
    syncStates := db.syncStates.set source (some (change (db.syncStates.get source)))})

def recordSyncSuccess (source : SourceName) (syncCursor : Option String) (now : Int) : Sql Unit :=
  writeSync source (.succeeded now syncCursor)

def recordSyncFailure (source : SourceName) (errorCode : SourceErrorCode) (now : Int) : Sql Unit :=
  writeSync source (.failed now errorCode)

/-- Both Google rows take one authorization state inside the caller's transaction. -/
def writeGoogleAuth (authState : SourceAuthState) (errorCode : Option SourceErrorCode)
    (now : Int) : Sql Unit := do
  writeSync .gmail (.authorized now authState errorCode)
  writeSync .calendar (.authorized now authState errorCode)

def setSourceAuth (source : SourceName) (authState : SourceAuthState) (now : Int) : Sql Unit :=
  writeSync source (.authorized now authState none)

def setGoogleAuthState (authState : SourceAuthState) (now : Int) : Sql Unit :=
  Statement.immediate (writeGoogleAuth authState none now)

def recordCredentialState (state : SourceCredentialState) (now : Int) : Sql Unit :=
  Statement.update (fun db => {db with credential := some (state,now)})

def listSourceSync (db : Database) : BySource SyncRow :=
  ⟨(db.syncStates.get .gmail).getD .unconfigured,(db.syncStates.get .calendar).getD .unconfigured⟩

def allowsDiagnostics (source : SourceName) (diagnostics : Option SourceReadDiagnostics) : Bool :=
  diagnostics.all (fun read => source == .gmail && read.bounded)

/-- What an accepted generation leaves behind, its diagnostics included. -/
def Database.sourceAccepted (generation : SourceGeneration) (status : SourceGenerationStatus)
    (diagnostics : Option SourceReadDiagnostics) (now : Int) (db : Database) : Database :=
  {db.acceptedAs generation status now with gmailDiagnostics := diagnostics.or db.gmailDiagnostics}

@[simp] theorem run_reserveSourceGeneration (source : SourceName) (now : Int) (db : Database) :
    (reserveSourceGeneration source now).run db =
      (.ok ⟨source,(generationState source db).issued + 1⟩,db.issue source now) := by
  rw [reserveSourceGeneration,Statement.immediate_success]
  simp only [Statement.run_update_bind,Statement.run_select_bind,Statement.run_pure,
    generationState,issue,BySource.get_set,if_pos,Option.getD_some]
  cases db.generations.get source <;> rfl

theorem run_accept (generation : SourceGeneration) (status : SourceGenerationStatus) (now : Int)
    (db : Database) (admitted : db.admits generation) :
    (accept generation status now).run db = (.ok (),db.acceptedAs generation status now) := by
  simp [accept,admitted]

/-- A generation that is not admitted is refused: as delayed when its number was
already applied or passed, as unreserved otherwise. -/
theorem accept_refused (generation : SourceGeneration) (status : SourceGenerationStatus) (now : Int)
    (db : Database) (refused : db.admits generation = false) :
    (accept generation status now).run db =
      (.error (if generation.number ≤ (generationState generation.source db).applied
        then .delayedSourceGeneration generation (generationState generation.source db).applied
        else .unreservedSourceGeneration generation),db) := by
  simp only [accept,Statement.run_select_bind,refused,Bool.false_eq_true,if_false]
  split <;> rfl

theorem checkDiagnostics_run (source : SourceName) (diagnostics : Option SourceReadDiagnostics)
    (db : Database) :
    (checkDiagnostics source diagnostics).run db =
      (if allowsDiagnostics source diagnostics then .ok () else .error .invalidSourceReadDiagnostics,db) := by
  cases diagnostics with
  | none => rfl
  | some read =>
    cases source <;> cases bounded : read.bounded <;>
      simp [checkDiagnostics,validateDiagnostics,allowsDiagnostics,bounded]

theorem recordDiagnostics_run (diagnostics : Option SourceReadDiagnostics) (db : Database) :
    (recordDiagnostics diagnostics).run db =
      (.ok (),{db with gmailDiagnostics := diagnostics.or db.gmailDiagnostics}) := by
  cases diagnostics <;> rfl

theorem acceptSourceGeneration_success (generation : SourceGeneration)
    (status : SourceGenerationStatus) (diagnostics : Option SourceReadDiagnostics) (now : Int)
    (db left : Database) (outcome : Unit) :
    (acceptSourceGeneration generation status diagnostics now).run db = (.ok outcome,left) ↔
      allowsDiagnostics generation.source diagnostics = true ∧ db.admits generation = true ∧
        left = db.sourceAccepted generation status diagnostics now := by
  unfold acceptSourceGeneration
  rw [Statement.run_bind,checkDiagnostics_run]
  cases allowed : allowsDiagnostics generation.source diagnostics with
  | false => simp
  | true =>
    rw [if_pos rfl]
    cases admitted : db.admits generation with
    | false => simp [Statement.run_bind,accept_refused _ _ _ _ admitted]
    | true =>
      simp [Statement.run_bind,run_accept _ _ _ _ admitted,recordDiagnostics_run,sourceAccepted,
        acceptedAs,eq_comm]

section issue
variable (source : SourceName) (now : Int)

theorem admits_issue (generation : SourceGeneration) (db : Database)
    (admitted : db.admits generation = true) : (db.issue source now).admits generation = true := by
  unfold admits at admitted ⊢
  simp only [issue,BySource.get_set]
  by_cases same : generation.source = source
  · subst same
    rw [if_pos rfl]
    cases found : db.generations.get generation.source with
    | none => simp [found] at admitted
    | some row =>
      simp only [found,Option.any_some,GenerationRow.admits,GenerationRow.reissued,
        Bool.and_eq_true,decide_eq_true_eq] at admitted ⊢
      omega
  · simpa [same] using admitted

theorem acceptedAs_issue (generation : SourceGeneration) (status : SourceGenerationStatus)
    (acceptedAt : Int) (db : Database) (admitted : db.admits generation = true) :
    (db.issue source now).acceptedAs generation status acceptedAt =
      (db.acceptedAs generation status acceptedAt).issue source now := by
  unfold admits at admitted
  unfold acceptedAs issue
  simp only [BySource.get_set,Database.mk.injEq,and_self,and_true,true_and]
  by_cases same : generation.source = source
  · subst same
    cases found : db.generations.get generation.source with
    | none => simp [found] at admitted
    | some row => simp [GenerationRow.reissued,GenerationRow.accepted]
  · rw [if_neg same,if_neg (Ne.symm same),BySource.set_comm _ _ _ _ _ (Ne.symm same)]

theorem acceptSourceGeneration_survives (generation : SourceGeneration)
    (status : SourceGenerationStatus) (diagnostics : Option SourceReadDiagnostics) (acceptedAt : Int) :
    Statement.Survives (issue source now)
      (acceptSourceGeneration generation status diagnostics acceptedAt) := by
  intro db outcome left ok
  obtain ⟨allowed,admitted,rfl⟩ := (acceptSourceGeneration_success _ _ _ _ _ _ _).mp ok
  refine (acceptSourceGeneration_success _ _ _ _ _ _ _).mpr
    ⟨allowed,admits_issue source now generation db admitted,?_⟩
  simp only [sourceAccepted,acceptedAs_issue source now generation status acceptedAt db admitted]
  rfl

theorem writeSync_survives (target : SourceName) (change : Option SyncRow → SyncRow) :
    Statement.Survives (issue source now) (writeSync target change) :=
  Statement.survives_update _ _ (fun _ => rfl)

end issue

end Proactive.Store
