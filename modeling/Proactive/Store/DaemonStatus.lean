import Proactive.Library.Run
import Proactive.Library.Transaction

/-! The daemon liveness row: who owns it, until when, and the outcome of the last run. -/
namespace Proactive.Store
open Proactive.Library

inductive DaemonState | running | stopped
deriving DecidableEq, Repr

inductive DaemonRunMode | once | continuous
deriving DecidableEq, Repr

inductive DaemonLastRunState | neverRun | unknown | succeeded | degraded | failed
deriving DecidableEq, Repr

inductive DaemonFailurePhase
  | config | database | credential | sourceSync | evaluation | notification | heartbeat
  | runtimeOwnership | service
deriving DecidableEq, Repr

inductive DaemonFailureCode
  | invalid | unsafePath | openFailed | unavailable | failed | ownershipConflict | notifyFailed
deriving DecidableEq, Repr

/-- The `uuid4().hex` of one store instance, distinct for distinct instances. -/
abbrev OwnerToken := Nat

/-- The row with `id = 1`. A poll interval is the microseconds that its stored seconds name. -/
structure DaemonRow where
  state : DaemonState
  pid : Int
  startedAt : Int
  heartbeatAt : Int
  cycleCount : Nat
  ownerToken : Option OwnerToken
  pollInterval : Option Int
  mode : Option DaemonRunMode
  lastRunState : DaemonLastRunState
  lastFailurePhase : Option DaemonFailurePhase
  lastFailureCode : Option DaemonFailureCode
  lastFailureAt : Option Int
  lastCompletedAt : Option Int
deriving DecidableEq, Repr

inductive DaemonError
  | invalidPollInterval
  | invalidRunOutcome
  | notStarted
  | checkFailed
  /-- `invalid daemon failure state`, from either trigger. -/
  | invalidFailureState
deriving DecidableEq, Repr

abbrev DaemonSql (α : Type) := Statement (Option DaemonRow) DaemonError α

namespace DaemonRow

/-- The condition of both triggers, on the row about to be written. -/
def misshapen (row : DaemonRow) : Bool :=
  row.lastRunState == .failed &&
      (row.lastFailurePhase.isNone || row.lastFailureCode.isNone || row.lastFailureAt.isNone) ||
    row.lastRunState != .failed &&
      (row.lastFailurePhase.isSome || row.lastFailureCode.isSome || row.lastFailureAt.isSome)

/-- The column checks that a value of its type can still break. -/
def checked (row : DaemonRow) : Bool :=
  decide (0 < row.pid) && row.pollInterval.all (fun interval => decide (0 < interval)) &&
    row.lastRunState != .neverRun

def ownedBy (token : OwnerToken) (row : DaemonRow) : Bool :=
  row.state == .running && row.ownerToken == some token

def stalePollCount : Int := 3

/-- `_poll_interval(heartbeat) or fallback_interval`, where an interval of zero is falsy. -/
def effectiveInterval (row : DaemonRow) (fallbackInterval : Option Int) : Option Int :=
  (row.pollInterval.filter (fun interval => interval != 0)).or fallbackInterval

def expired (row : DaemonRow) (now : Int) (fallbackInterval : Option Int) : Bool :=
  (row.effectiveInterval fallbackInterval).any
    (fun interval => decide (stalePollCount * interval < now - row.heartbeatAt))

/-- `_INSERT_START`. -/
def started (token : OwnerToken) (pid : Int) (pollInterval : Option Int) (now : Int) : DaemonRow where
  state := .running
  pid := pid
  startedAt := now
  heartbeatAt := now
  cycleCount := 0
  ownerToken := some token
  pollInterval := pollInterval
  mode := none
  lastRunState := .unknown
  lastFailurePhase := none
  lastFailureCode := none
  lastFailureAt := none
  lastCompletedAt := none

/-- `_REPLACE_START`. -/
def restarted (token : OwnerToken) (pid : Int) (pollInterval : Option Int) (now : Int)
    (row : DaemonRow) : DaemonRow :=
  {row with
    state := .running
    pid := pid
    startedAt := now
    heartbeatAt := now
    cycleCount := 0
    ownerToken := some token
    pollInterval := pollInterval}

/-- `_RECORD_HEARTBEAT`. -/
def beaten (now : Int) (row : DaemonRow) : DaemonRow :=
  {row with state := .running,heartbeatAt := now,cycleCount := row.cycleCount + 1}

/-- `_RECORD_STOP`. -/
def halted (now : Int) (row : DaemonRow) : DaemonRow := {row with state := .stopped,heartbeatAt := now}

def running (mode : DaemonRunMode) (row : DaemonRow) : DaemonRow := {row with mode := some mode}

def concluded (state : DaemonLastRunState) (phase : Option DaemonFailurePhase)
    (code : Option DaemonFailureCode) (failureAt : Option Int) (completedAt : Int)
    (row : DaemonRow) : DaemonRow :=
  {row with
    lastRunState := state
    lastFailurePhase := phase
    lastFailureCode := code
    lastFailureAt := failureAt
    lastCompletedAt := some completedAt}

end DaemonRow

open DaemonRow

namespace DaemonStatusStore

def insertStart (row : DaemonRow) : DaemonSql Unit :=
  if row.misshapen then Statement.raise .invalidFailureState
  else if row.checked then Statement.update (fun _ => some row)
  else Statement.raise .checkFailed

/-- `UPDATE daemon_status SET change WHERE id = 1 AND selects`, and the row count it
reports. The trigger looks at updates that set the outcome columns. -/
def updateRow (outcome : Bool) (selects : DaemonRow → Bool) (change : DaemonRow → DaemonRow) :
    DaemonSql Nat := do
  match ← Statement.select id with
  | none => return 0
  | some row =>
    if !selects row then return 0
    else if outcome && (change row).misshapen then Statement.raise .invalidFailureState
    else if (change row).checked then
      Statement.update (fun _ => some (change row))
      return 1
    else Statement.raise .checkFailed

def tryRecordStart (token : OwnerToken) (pid : Int) (pollInterval : Option Int)
    (incumbentIsAlive : Option (Int → Bool)) (now : Int) : DaemonSql Bool :=
  if pollInterval.any (fun interval => decide (interval ≤ 0)) then
    Statement.raise .invalidPollInterval
  else Statement.immediate (do
    match ← Statement.select id with
    | none =>
      insertStart (started token pid pollInterval now)
      return true
    | some incumbent =>
      if incumbent.ownedBy token then return true
      else if incumbent.state == .running && !incumbent.expired now pollInterval &&
          incumbentIsAlive.all (fun alive => alive incumbent.pid) then return false
      else
        let _ ← updateRow false (fun _ => true) (restarted token pid pollInterval now)
        return true)

/-- One update of the row that its owner makes; it raises only where no row exists. -/
def recordOwned (token : OwnerToken) (outcome : Bool) (change : DaemonRow → DaemonRow) : DaemonSql Unit :=
  Statement.immediate (do
    let updated ← updateRow outcome (ownedBy token) change
    if 0 < updated then return ()
    else
      let heartbeat ← Statement.select id
      if heartbeat.isNone then Statement.raise .notStarted else return ())

def recordHeartbeat (token : OwnerToken) (now : Int) : DaemonSql Unit :=
  recordOwned token false (beaten now)

def recordStop (token : OwnerToken) (now : Int) : DaemonSql Unit := recordOwned token false (halted now)

def recordRunStarted (token : OwnerToken) (mode : DaemonRunMode) : DaemonSql Unit :=
  recordOwned token false (DaemonRow.running mode)

/-- The clock is read once more for a failed run, before the time of completion. -/
def recordRunOutcome (token : OwnerToken) (state : DaemonLastRunState)
    (failurePhase : Option DaemonFailurePhase) (failureCode : Option DaemonFailureCode)
    (failureAt completedAt : Int) : DaemonSql Unit :=
  if state = .failed then
    if failurePhase.isNone || failureCode.isNone then Statement.raise .invalidRunOutcome
    else recordOwned token true (concluded state failurePhase failureCode (some failureAt) completedAt)
  else recordOwned token true (concluded state none none none completedAt)

/-- A running row that a start with this interval and this probe leaves to its owner. -/
def holdsOff (pollInterval : Option Int) (incumbentIsAlive : Option (Int → Bool)) (now : Int)
    (incumbent : DaemonRow) : Bool :=
  incumbent.state == .running && !incumbent.expired now pollInterval &&
    incumbentIsAlive.all (fun alive => alive incumbent.pid)

theorem updateRow_run (outcome : Bool) (selects : DaemonRow → Bool) (change : DaemonRow → DaemonRow)
    (row : DaemonRow) :
    (updateRow outcome selects change).run (some row) =
      if selects row = false then (.ok 0,some row)
      else if (outcome && (change row).misshapen) = true then (.error .invalidFailureState,some row)
      else if (change row).checked = true then (.ok 1,some (change row))
      else (.error .checkFailed,some row) := by
  unfold updateRow
  rw [Statement.run_select_bind]
  dsimp only [id]
  cases selects row with
  | false => rfl
  | true =>
    cases (outcome && (change row).misshapen) with
    | true => rfl
    | false => cases (change row).checked <;> rfl

theorem recordOwned_run (token : OwnerToken) (outcome : Bool) (change : DaemonRow → DaemonRow)
    (status : Option DaemonRow) :
    (recordOwned token outcome change).run status =
      match status with
      | none => (.error .notStarted,none)
      | some row =>
        if row.ownedBy token = false then (.ok (),some row)
        else if (outcome && (change row).misshapen) = true then (.error .invalidFailureState,some row)
        else if (change row).checked = true then (.ok (),some (change row))
        else (.error .checkFailed,some row) := by
  cases status with
  | none => rfl
  | some row =>
    unfold recordOwned
    rw [Statement.run_immediate,Statement.run_bind,updateRow_run]
    dsimp only
    cases row.ownedBy token with
    | false => rfl
    | true =>
      cases (outcome && (change row).misshapen) with
      | true => rfl
      | false => cases (change row).checked <;> rfl

theorem tryRecordStart_run (token : OwnerToken) (pid : Int) (pollInterval : Option Int)
    (incumbentIsAlive : Option (Int → Bool)) (now : Int) (status : Option DaemonRow) :
    (tryRecordStart token pid pollInterval incumbentIsAlive now).run status =
      if pollInterval.any (fun interval => decide (interval ≤ 0)) = true then
        (.error .invalidPollInterval,status)
      else match status with
      | none =>
        if (started token pid pollInterval now).checked = true then
          (.ok true,some (started token pid pollInterval now))
        else (.error .checkFailed,none)
      | some row =>
        if row.ownedBy token = true then (.ok true,some row)
        else if holdsOff pollInterval incumbentIsAlive now row = true then (.ok false,some row)
        else if (restarted token pid pollInterval now row).checked = true then
          (.ok true,some (restarted token pid pollInterval now row))
        else (.error .checkFailed,some row) := by
  unfold tryRecordStart
  cases pollInterval.any (fun interval => decide (interval ≤ 0)) with
  | true => rfl
  | false =>
    rw [if_neg Bool.false_ne_true,if_neg Bool.false_ne_true,Statement.run_immediate,
      Statement.run_select_bind]
    cases status with
    | none =>
      have shaped : (started token pid pollInterval now).misshapen = false := rfl
      dsimp only [id]
      unfold insertStart
      rw [shaped,Statement.run_bind]
      cases (started token pid pollInterval now).checked <;> rfl
    | some row =>
      dsimp only [id]
      rw [← holdsOff]
      cases row.ownedBy token with
      | true => rfl
      | false =>
        cases holdsOff pollInterval incumbentIsAlive now row with
        | true => rfl
        | false =>
          rw [if_neg Bool.false_ne_true,if_neg Bool.false_ne_true,Statement.run_bind,updateRow_run]
          cases (restarted token pid pollInterval now row).checked <;> rfl

end DaemonStatusStore

open DaemonStatusStore

inductive DaemonCall
  | recordStart (pid : Int) (pollInterval : Option Int) (incumbentIsAlive : Option (Int → Bool)) (now : Int)
  | recordHeartbeat (now : Int)
  | recordStop (now : Int)
  | recordRunStarted (mode : DaemonRunMode)
  | recordRunOutcome (state : DaemonLastRunState) (failurePhase : Option DaemonFailurePhase)
    (failureCode : Option DaemonFailureCode) (failureAt completedAt : Int)

namespace DaemonCall

def body (token : OwnerToken) : DaemonCall → DaemonSql Unit
  | recordStart pid pollInterval incumbentIsAlive now => do
    let _ ← tryRecordStart token pid pollInterval incumbentIsAlive now
    return ()
  | recordHeartbeat now => DaemonStatusStore.recordHeartbeat token now
  | recordStop now => DaemonStatusStore.recordStop token now
  | recordRunStarted mode => DaemonStatusStore.recordRunStarted token mode
  | recordRunOutcome state failurePhase failureCode failureAt completedAt =>
    DaemonStatusStore.recordRunOutcome token state failurePhase failureCode failureAt completedAt

def starts : DaemonCall → Bool
  | recordStart .. => true
  | _ => false

def step (status : Option DaemonRow) (call : OwnerToken × DaemonCall) : Option DaemonRow :=
  ((call.2.body call.1).run status).2

end DaemonCall

/-- A row from before runs recorded an outcome, as the migration leaves it. -/
structure LegacyDaemonRow where
  state : DaemonState
  pid : Int
  startedAt : Int
  heartbeatAt : Int
  cycleCount : Nat
  ownerToken : Option OwnerToken
  pollInterval : Option Int
  pidPositive : 0 < pid
  intervalPositive : ∀ interval, pollInterval = some interval → 0 < interval

def LegacyDaemonRow.migrated (row : LegacyDaemonRow) : DaemonRow where
  state := row.state
  pid := row.pid
  startedAt := row.startedAt
  heartbeatAt := row.heartbeatAt
  cycleCount := row.cycleCount
  ownerToken := row.ownerToken
  pollInterval := row.pollInterval
  mode := none
  lastRunState := .unknown
  lastFailurePhase := none
  lastFailureCode := none
  lastFailureAt := none
  lastCompletedAt := none

/-- The failure columns agree with the outcome, and the columns pass their checks. -/
def WellShaped (status : Option DaemonRow) : Prop :=
  ∀ row, status = some row → row.misshapen = false ∧ row.checked = true

namespace DaemonStatusStore

inductive Left (token : OwnerToken) (status : Option DaemonRow) (call : DaemonCall) :
    Option DaemonRow → Prop
  | unchanged : Left token status call status
  | started (pid : Int) (pollInterval : Option Int) (now : Int) (absent : status = none)
    (starts : call.starts = true) :
    Left token status call (some (started token pid pollInterval now))
  | restarted (pid : Int) (pollInterval : Option Int) (alive : Option (Int → Bool)) (now : Int)
    (row : DaemonRow) (present : status = some row) (same : call = .recordStart pid pollInterval alive now)
    (free : holdsOff pollInterval alive now row = false) :
    Left token status call (some (restarted token pid pollInterval now row))
  | owned (change : DaemonRow → DaemonRow) (row : DaemonRow) (present : status = some row)
    (owner : row.ownedBy token = true) (kept : (change row).ownerToken = row.ownerToken)
    (recorded : call.starts = false) : Left token status call (some (change row))

/-- A change that its owner makes: never of the owner, and never of the shape unless
the trigger looks at it. -/
structure OwnedChange (outcome : Bool) (change : DaemonRow → DaemonRow) : Prop where
  owner : ∀ row, (change row).ownerToken = row.ownerToken
  shape : ∀ row, outcome = true ∨ row.misshapen = false → (change row).misshapen = false

theorem body_recorded (token : OwnerToken) (call : DaemonCall) (recorded : call.starts = false) :
    (∃ outcome change, call.body token = recordOwned token outcome change ∧
      OwnedChange outcome change) ∨ call.body token = Statement.raise .invalidRunOutcome := by
  cases call with
  | recordStart => cases recorded
  | recordHeartbeat now => exact Or.inl ⟨_,_,rfl,fun _ => rfl,fun _ shaped => shaped.resolve_left (nomatch ·)⟩
  | recordStop now => exact Or.inl ⟨_,_,rfl,fun _ => rfl,fun _ shaped => shaped.resolve_left (nomatch ·)⟩
  | recordRunStarted mode =>
    exact Or.inl ⟨_,_,rfl,fun _ => rfl,fun _ shaped => shaped.resolve_left (nomatch ·)⟩
  | recordRunOutcome state phase code failureAt completedAt =>
    unfold DaemonCall.body recordRunOutcome
    dsimp only
    split
    · rename_i failed
      split
      · exact Or.inr rfl
      · rename_i named
        refine Or.inl ⟨_,_,rfl,fun _ => rfl,fun row _ => ?_⟩
        rw [Bool.not_eq_true,Bool.or_eq_false_iff] at named
        subst failed
        simp [misshapen,concluded,named.1,named.2]
    · rename_i other
      refine Or.inl ⟨_,_,rfl,fun _ => rfl,fun row _ => ?_⟩
      simp [misshapen,concluded,other]

theorem recordOwned_left (token : OwnerToken) {outcome : Bool} {change : DaemonRow → DaemonRow}
    (owned : OwnedChange outcome change) (status : Option DaemonRow) (call : DaemonCall)
    (recorded : call.starts = false) :
    Left token status call ((recordOwned token outcome change).run status).2 := by
  rw [recordOwned_run]
  cases status with
  | none => exact .unchanged
  | some row =>
    dsimp only
    cases owner : row.ownedBy token with
    | false => exact .unchanged
    | true =>
      rw [if_neg (Bool.noConfusion ·)]
      split
      · exact .unchanged
      split
      · exact .owned change row rfl owner (owned.owner row) recorded
      · exact .unchanged

theorem recordOwned_shaped (token : OwnerToken) {outcome : Bool} {change : DaemonRow → DaemonRow}
    (owned : OwnedChange outcome change) {status : Option DaemonRow} (shaped : WellShaped status) :
    WellShaped ((recordOwned token outcome change).run status).2 ∧
      ((recordOwned token outcome change).run status).1 ≠ .error .invalidFailureState := by
  rw [recordOwned_run]
  cases status with
  | none => exact ⟨shaped,fun raised => (nomatch raised)⟩
  | some row =>
    have kept := owned.shape row (Or.inr (shaped row rfl).1)
    dsimp only
    rw [kept,Bool.and_false]
    split
    · exact ⟨shaped,fun raised => (nomatch raised)⟩
    rw [if_neg Bool.false_ne_true]
    split
    · rename_i checked
      refine ⟨fun next same => ?_,fun raised => (nomatch raised)⟩
      cases same
      exact ⟨kept,checked⟩
    · exact ⟨shaped,fun raised => (nomatch raised)⟩

theorem body_start (token : OwnerToken) (pid : Int) (pollInterval : Option Int)
    (alive : Option (Int → Bool)) (now : Int) (status : Option DaemonRow) :
    (((DaemonCall.recordStart pid pollInterval alive now).body token).run status).2 =
        ((tryRecordStart token pid pollInterval alive now).run status).2 ∧
      ∀ error, (((DaemonCall.recordStart pid pollInterval alive now).body token).run status).1 = .error error →
        ((tryRecordStart token pid pollInterval alive now).run status).1 = .error error := by
  unfold DaemonCall.body
  dsimp only
  rw [Statement.run_bind]
  cases (tryRecordStart token pid pollInterval alive now).run status with
  | mk result left =>
    cases result with
    | ok value => exact ⟨rfl,fun _ raised => (nomatch raised)⟩
    | error error =>
      refine ⟨rfl,fun _ raised => ?_⟩
      cases raised
      rfl

theorem step_left (token : OwnerToken) (call : DaemonCall) (status : Option DaemonRow) :
    Left token status call (DaemonCall.step status (token,call)) := by
  unfold DaemonCall.step
  cases starts : call.starts with
  | false =>
    rcases body_recorded token call starts with ⟨outcome,change,same,owned⟩ | same
    · rw [same]
      exact recordOwned_left token owned status call starts
    · rw [same]
      exact .unchanged
  | true =>
    cases call with
    | recordStart pid pollInterval alive now =>
      rw [(body_start token pid pollInterval alive now status).1,tryRecordStart_run]
      split
      · exact .unchanged
      cases status with
      | none =>
        dsimp only
        split
        · exact .started pid pollInterval now rfl rfl
        · exact .unchanged
      | some row =>
        dsimp only
        split
        · exact .unchanged
        cases free : holdsOff pollInterval alive now row with
        | true => exact .unchanged
        | false =>
          rw [if_neg Bool.false_ne_true]
          split
          · exact .restarted pid pollInterval alive now row rfl rfl free
          · exact .unchanged
    | _ => cases starts

theorem step_shaped (token : OwnerToken) (call : DaemonCall) {status : Option DaemonRow}
    (shaped : WellShaped status) :
    WellShaped (DaemonCall.step status (token,call)) ∧
      ((call.body token).run status).1 ≠ .error .invalidFailureState := by
  unfold DaemonCall.step
  cases starts : call.starts with
  | false =>
    rcases body_recorded token call starts with ⟨outcome,change,same,owned⟩ | same
    · rw [same]
      exact recordOwned_shaped token owned shaped
    · rw [same]
      exact ⟨shaped,fun raised => (nomatch raised)⟩
  | true =>
    cases call with
    | recordStart pid pollInterval alive now =>
      obtain ⟨left,errors⟩ := body_start token pid pollInterval alive now status
      have ran := tryRecordStart_run token pid pollInterval alive now status
      have goal : WellShaped ((tryRecordStart token pid pollInterval alive now).run status).2 ∧
          ((tryRecordStart token pid pollInterval alive now).run status).1 ≠
            .error .invalidFailureState := by
        rw [ran]
        split
        · exact ⟨shaped,fun raised => (nomatch raised)⟩
        cases status with
        | none =>
          dsimp only
          split
          · rename_i checked
            refine ⟨fun next same => ?_,fun raised => (nomatch raised)⟩
            cases same
            exact ⟨rfl,checked⟩
          · exact ⟨shaped,fun raised => (nomatch raised)⟩
        | some row =>
          dsimp only
          split
          · exact ⟨shaped,fun raised => (nomatch raised)⟩
          split
          · exact ⟨shaped,fun raised => (nomatch raised)⟩
          split
          · rename_i checked
            refine ⟨fun next same => ?_,fun raised => (nomatch raised)⟩
            cases same
            exact ⟨(shaped row rfl).1,checked⟩
          · exact ⟨shaped,fun raised => (nomatch raised)⟩
      rw [left]
      exact ⟨goal.1,fun raised => goal.2 (errors _ raised)⟩
    | _ => cases starts

theorem migrated_shaped (legacy : Option LegacyDaemonRow) :
    WellShaped (legacy.map LegacyDaemonRow.migrated) := by
  intro row same
  cases legacy with
  | none => cases same
  | some legacy =>
    cases same
    refine ⟨rfl,?_⟩
    have intervals : legacy.pollInterval.all (fun interval => decide (0 < interval)) = true := by
      cases found : legacy.pollInterval with
      | none => rfl
      | some interval => exact decide_eq_true (legacy.intervalPositive interval found)
    simp [checked,LegacyDaemonRow.migrated,legacy.pidPositive,intervals]

def rowAfter (legacy : Option LegacyDaemonRow) (calls : List (OwnerToken × DaemonCall)) : Option DaemonRow :=
  Run.run DaemonCall.step (legacy.map LegacyDaemonRow.migrated) calls

theorem rowAfter_append (legacy : Option LegacyDaemonRow) (calls : List (OwnerToken × DaemonCall))
    (call : OwnerToken × DaemonCall) :
    rowAfter legacy (calls ++ [call]) = DaemonCall.step (rowAfter legacy calls) call :=
  Run.run_append DaemonCall.step _ calls [call]

theorem rowAfter_shaped (legacy : Option LegacyDaemonRow) (calls : List (OwnerToken × DaemonCall)) :
    WellShaped (rowAfter legacy calls) :=
  Run.run_invariant DaemonCall.step WellShaped
    (fun _ call shaped => (step_shaped call.1 call.2 shaped).1) _ calls (migrated_shaped legacy)

theorem failure_columns {row : DaemonRow} (shaped : row.misshapen = false) :
    (row.lastRunState = .failed → row.lastFailurePhase.isSome ∧ row.lastFailureCode.isSome ∧
      row.lastFailureAt.isSome) ∧
    (row.lastRunState ≠ .failed → row.lastFailurePhase = none ∧ row.lastFailureCode = none ∧
      row.lastFailureAt = none) := by
  unfold misshapen at shaped
  rw [Bool.or_eq_false_iff] at shaped
  constructor
  · intro failed
    simpa [failed,Option.isSome_iff_ne_none,and_assoc] using shaped.1
  · intro other
    simpa [other,and_assoc] using shaped.2

theorem takeover_reasons {row : DaemonRow} {pollInterval : Option Int} {alive : Option (Int → Bool)}
    {now : Int} (checked : row.checked = true) (free : holdsOff pollInterval alive now row = false) :
    row.state = .stopped ∨
      (∃ interval, row.pollInterval.or pollInterval = some interval ∧
        3 * interval < now - row.heartbeatAt) ∨
      ∃ probe, alive = some probe ∧ probe row.pid = false := by
  cases state : row.state with
  | stopped => exact Or.inl rfl
  | running =>
    right
    rw [holdsOff,state,beq_self_eq_true,Bool.true_and,Bool.and_eq_false_iff,Bool.not_eq_false'] at free
    rcases free with expired | dead
    · left
      have positive : row.pollInterval.filter (fun interval => interval != 0) = row.pollInterval := by
        rw [DaemonRow.checked,Bool.and_eq_true,Bool.and_eq_true] at checked
        cases found : row.pollInterval with
        | none => rfl
        | some interval =>
          rw [found] at checked
          have nonzero : interval ≠ 0 := Int.ne_of_gt (of_decide_eq_true checked.1.2)
          simp [nonzero]
      rw [DaemonRow.expired,effectiveInterval,positive,Option.any_eq_true] at expired
      obtain ⟨interval,found,less⟩ := expired
      exact ⟨interval,found,of_decide_eq_true less⟩
    · right
      cases alive with
      | none => cases dead
      | some probe => exact ⟨probe,rfl,dead⟩

/-- After every run of calls on any store instances: the failure columns are set exactly
for a failed run, and no call meets the trigger; a call other than a start leaves the row
of another owner as it is; and a start takes over only a row that is stopped, expired or
held by a dead process. -/
theorem daemon_row_fenced (legacy : Option LegacyDaemonRow) (calls : List (OwnerToken × DaemonCall))
    (token : OwnerToken) (call : DaemonCall) :
    (∀ row, rowAfter legacy calls = some row →
      (row.lastRunState = .failed → row.lastFailurePhase.isSome ∧ row.lastFailureCode.isSome ∧
        row.lastFailureAt.isSome) ∧
      (row.lastRunState ≠ .failed → row.lastFailurePhase = none ∧ row.lastFailureCode = none ∧
        row.lastFailureAt = none)) ∧
    ((call.body token).run (rowAfter legacy calls)).1 ≠ .error .invalidFailureState ∧
    ((∀ row, rowAfter legacy calls = some row → row.ownerToken ≠ some token) → call.starts = false →
      rowAfter legacy (calls ++ [(token,call)]) = rowAfter legacy calls) ∧
    ∀ row next, rowAfter legacy calls = some row →
      rowAfter legacy (calls ++ [(token,call)]) = some next → next.ownerToken ≠ row.ownerToken →
        ∃ pid pollInterval alive now, call = .recordStart pid pollInterval alive now ∧
          (row.state = .stopped ∨
            (∃ interval, row.pollInterval.or pollInterval = some interval ∧
              3 * interval < now - row.heartbeatAt) ∨
            ∃ probe, alive = some probe ∧ probe row.pid = false) := by
  have shaped := rowAfter_shaped legacy calls
  have left := step_left token call (rowAfter legacy calls)
  rw [rowAfter_append]
  refine ⟨fun row found => failure_columns (shaped row found).1,(step_shaped token call shaped).2,
    fun other recorded => ?_,fun row next found stepped changed => ?_⟩
  · generalize DaemonCall.step (rowAfter legacy calls) (token,call) = after at left ⊢
    cases left with
    | unchanged => rfl
    | started _ _ _ _ starts => cases starts.symm.trans recorded
    | restarted _ _ _ _ _ _ same => cases (congrArg DaemonCall.starts same).symm.trans recorded
    | owned change row present owner =>
      rw [ownedBy,Bool.and_eq_true,beq_iff_eq,beq_iff_eq] at owner
      exact absurd owner.2 (other row present)
  · generalize DaemonCall.step (rowAfter legacy calls) (token,call) = after at left stepped
    cases left with
    | unchanged => exact absurd (congrArg DaemonRow.ownerToken (Option.some.inj (stepped.symm.trans found))) changed
    | started pid pollInterval now absent => cases absent.symm.trans found
    | restarted pid pollInterval alive now held present same free =>
      obtain rfl := Option.some.inj (present.symm.trans found)
      exact ⟨pid,pollInterval,alive,now,same,takeover_reasons (shaped held found).2 free⟩
    | owned change held present _ kept =>
      obtain rfl := Option.some.inj (present.symm.trans found)
      cases stepped
      exact absurd kept changed

/-- A takeover keeps the outcome of the run before it. -/
example : (rowAfter none [(1,.recordStart 10 (some 60) none 0),
    (1,.recordRunOutcome .failed (some .evaluation) (some .failed) 5 6),(2,.recordStart 11 none none 181)]).map
      (fun row => (row.ownerToken,row.lastRunState)) = some (some 2,.failed) := by decide

end DaemonStatusStore
end Proactive.Store
