import Proactive.Cli.ServiceUnit
import Proactive.Library.Triple

/-! The systemd user-service lifecycle of the watcher: what install, status and remove do to the host. -/
namespace Proactive.Cli
open Proactive.Library Statement

inductive ServiceAction | install | status | remove
deriving DecidableEq, Repr

inductive ServiceState | installed | active | inactive | removed | absent | failed | unmanaged
deriving DecidableEq, Repr

inductive ServiceCode | binaryNotFound | unmanagedUnit | commandFailed | heartbeatUnavailable | invalidValue | ioFailed
deriving DecidableEq, Repr

inductive LingerState | enabled | disabled | unknown | notApplicable
deriving DecidableEq, Repr

inductive HeartbeatState | running | stopped | stale | neverStarted
deriving DecidableEq, Repr

inductive Guidance | none | enableLinger
deriving DecidableEq, Repr

structure ServiceResponse where
  action : ServiceAction
  state : ServiceState
  unit : String
  managed : Bool
  enabled : Bool
  active : Bool
  mainPid : Option Nat
  heartbeat : Option HeartbeatState
  linger : LingerState
  guidance : Guidance
  code : Option ServiceCode
deriving DecidableEq, Repr

structure ServiceCommandResult where
  response : ServiceResponse
  success : Bool
deriving DecidableEq, Repr

/-- What the unit file holds. -/
inductive UnitContent
  | text (raw : String)
  | undecodable (raw : List UInt8)
deriving DecidableEq, Repr

/-- The part of the host that a service change is about. -/
structure ServiceHost where
  unit : Option UnitContent
  enabled : Bool
  active : Bool
deriving DecidableEq, Repr

/-- The exceptions that `execute_service` catches. -/
inductive ServiceRaised | osError | valueError
deriving DecidableEq, Repr

/-- The calls of an action that can fail. An action makes each at most once; those of a rollback are not among them. -/
inductive ServicePoint
  | unitExists | readUnit | wasEnabled | wasActive | makeParent | writeUnit | reload | enable | start
  | stop | disable | unlink | snapshotExists | snapshotRead | snapshotEnabled | snapshotActive
deriving DecidableEq, Repr

/-- What an action finds around the unit: the paths, the daemon's status and what is shown to the user. -/
structure ServiceReadings where
  executable : Option String
  /-- The database of `_layout()`. -/
  database : Except ServiceRaised String
  isFormat : Char → Bool
  mainPid : Option Nat
  /-- `build_status().daemon`, unless it raises one of the errors that are caught. -/
  daemon : Option (HeartbeatState × Option Nat)
  snapshotLinger : LingerState
  resultLinger : LingerState

/-- One run of an action: the calls that fail, and the readings. -/
structure ServiceRun where
  fails : ServicePoint → Bool
  readings : ServiceReadings

abbrev Service (α : Type) : Type := Statement ServiceHost ServiceRaised α

def unitName : String := "proactive-mcp.service"

section manager
variable (fails : Bool)

def reload : Service Bool := pure (!fails)

def enable : Service Bool :=
  if fails then pure false else do
    update (fun host => {host with enabled := true})
    return true

def start : Service Bool :=
  if fails then pure false else do
    update (fun host => {host with active := true})
    return true

def stop : Service Bool :=
  if fails then pure false else do
    update (fun host => {host with active := false})
    return true

def disable : Service Bool :=
  if fails then pure false else do
    update (fun host => {host with enabled := false})
    return true

/-- A query that fails reads as a no. -/
def isEnabled : Service Bool := select (fun host => host.enabled && !fails)

def isActive : Service Bool := select (fun host => host.active && !fails)

end manager

section files
variable (fails : Bool)

/-- The newlines of a text that is read. -/
def universalNewlines : List Char → List Char
  | [] => []
  | '\r' :: '\n' :: rest => '\n'::universalNewlines rest
  | c::rest => (if c = '\r' then '\n' else c)::universalNewlines rest

def unitExists : Service Bool := if fails then raise .osError else select (fun host => host.unit.isSome)

def decodeUnit : Option UnitContent → Except ServiceRaised String
  | none => .error .osError
  | some (.undecodable _) => .error .valueError
  | some (.text raw) => .ok (String.ofList (universalNewlines raw.toList))

/-- `unit.read_text(encoding="utf-8")`. -/
def readUnit : Service String :=
  if fails then raise .osError else do
    let content ← select ServiceHost.unit
    ofExcept (decodeUnit content)

def writeUnit (text : String) : Service Unit :=
  if fails then raise .osError else update (fun host => {host with unit := some (.text text)})

def makeParent : Service Unit := if fails then raise .osError else pure ()

def unlinkUnit (missingOk : Bool) : Service Unit :=
  if fails then raise .osError else do
    let present ← select (fun host => host.unit.isSome)
    if present || missingOk then update (fun host => {host with unit := none}) else raise .osError

end files

structure Snapshot where
  managed : Bool
  enabled : Bool
  active : Bool
  mainPid : Option Nat
  heartbeat : Option HeartbeatState
  heartbeatPid : Option Nat
  linger : LingerState
deriving DecidableEq, Repr

structure ManagerState where
  enabled : Bool
  active : Bool
deriving DecidableEq, Repr

def response (action : ServiceAction) (state : ServiceState) (code : Option ServiceCode) (snapshot : Snapshot) :
    ServiceResponse :=
  ⟨action,state,unitName,snapshot.managed,snapshot.enabled,snapshot.active,snapshot.mainPid,snapshot.heartbeat,
    snapshot.linger,if snapshot.linger = .disabled then .enableLinger else .none,code⟩

def emptySnapshot (linger : LingerState) : Snapshot := ⟨false,false,false,none,none,none,linger⟩

variable (run : ServiceRun)

/-- `_result`. -/
def serviceResult (action : ServiceAction) (state : ServiceState) (code : Option ServiceCode) : ServiceResponse :=
  response action state code (emptySnapshot run.readings.resultLinger)

/-- `unit.read_text(encoding="utf-8") if unit.exists() else None`. -/
def unitText (fails : Bool × Bool) : Service (Option String) := do
  if ← unitExists fails.1 then
    let text ← readUnit fails.2
    return some text
  else return none

/-- The snapshot, once the manager has answered. -/
def snapshotOf (managed enabled active : Bool) : Snapshot :=
  let daemon := if active then run.readings.daemon else none
  ⟨managed,enabled,active,if active then run.readings.mainPid else none,daemon.map Prod.fst,daemon.bind Prod.snd,
    run.readings.snapshotLinger⟩

/-- `_snapshot`. -/
def takeSnapshot : Service Snapshot := do
  let content ← unitText (run.fails .snapshotExists,run.fails .snapshotRead)
  let managed := content.any isManagedUnit
  let enabled ← if managed then isEnabled (run.fails .snapshotEnabled) else pure false
  let active ← if managed then isActive (run.fails .snapshotActive) else pure false
  return snapshotOf run managed enabled active

def restoreServiceState (previousState : ManagerState) : Service Unit := do
  if previousState.enabled then let _ ← enable false
  if previousState.active then let _ ← start false

def rollbackInstall (previous : Option String) (previousState : ManagerState) : Service Unit := do
  let _ ← stop false
  let _ ← disable false
  match previous with
  | none => unlinkUnit false true
  | some text => writeUnit false text
  let _ ← reload false
  if previous.isSome then restoreServiceState previousState

/-- `_MANAGER.reload() and _MANAGER.enable() and _MANAGER.start()`. -/
def startService : Service Bool := do
  if ← reload (run.fails .reload) then
    if ← enable (run.fails .enable) then start (run.fails .start) else return false
  else return false

/-- `_MANAGER.stop() and _MANAGER.disable()`. -/
def stopService : Service Bool := do
  if ← stop (run.fails .stop) then disable (run.fails .disable) else return false

def writeRendered (previous : Option String) (rendered : String) : Service Unit :=
  if previous = some rendered then pure () else writeUnit (run.fails .writeUnit) rendered

def ready (snapshot : Snapshot) : Bool :=
  snapshot.enabled && snapshot.active && snapshot.heartbeat = some .running &&
    snapshot.mainPid = snapshot.heartbeatPid

def render (executable database : String) : Except ServiceRaised String :=
  (renderUserUnit run.readings.isFormat executable database).mapError (fun _ => .valueError)

/-- `_install`. -/
def install (database : String) : Service (ServiceResponse × Bool) := do
  let some executable := run.readings.executable | return (serviceResult run .install .failed (some .binaryNotFound),false)
  let previous ← unitText (run.fails .unitExists,run.fails .readUnit)
  if previous.any (fun text => !isManagedUnit text) then
    return (serviceResult run .install .unmanaged (some .unmanagedUnit),false)
  let wasEnabled ← isEnabled (run.fails .wasEnabled)
  let wasActive ← isActive (run.fails .wasActive)
  makeParent (run.fails .makeParent)
  let rendered ← ofExcept (render run executable database)
  writeRendered run previous rendered
  if !(← startService run) then
    rollbackInstall previous ⟨wasEnabled,wasActive⟩
    return (serviceResult run .install .failed (some .commandFailed),false)
  let snapshot ← takeSnapshot run
  if !ready snapshot then
    rollbackInstall previous ⟨wasEnabled,wasActive⟩
    return (serviceResult run .install .failed (some .heartbeatUnavailable),false)
  return (response .install .installed none snapshot,true)

/-- `_status`. -/
def status : Service (ServiceResponse × Bool) := do
  if !(← unitExists (run.fails .unitExists)) then return (serviceResult run .status .absent none,true)
  if !(isManagedUnit (← readUnit (run.fails .readUnit))) then
    return (serviceResult run .status .unmanaged (some .unmanagedUnit),false)
  let snapshot ← takeSnapshot run
  let healthy := !snapshot.active ||
    (snapshot.heartbeat = some .running && snapshot.mainPid = snapshot.heartbeatPid)
  let code := if healthy then none else some ServiceCode.heartbeatUnavailable
  return (response .status (if snapshot.active then .active else .inactive) code snapshot,healthy)

/-- `_remove`. -/
def remove : Service (ServiceResponse × Bool) := do
  if !(← unitExists (run.fails .unitExists)) then return (serviceResult run .remove .absent none,true)
  let previous ← readUnit (run.fails .readUnit)
  if !isManagedUnit previous then return (serviceResult run .remove .unmanaged (some .unmanagedUnit),false)
  let wasEnabled ← isEnabled (run.fails .wasEnabled)
  let wasActive ← isActive (run.fails .wasActive)
  if !(← stopService run) then
    restoreServiceState ⟨wasEnabled,wasActive⟩
    return (serviceResult run .remove .failed (some .commandFailed),false)
  unlinkUnit (run.fails .unlink) false
  if !(← reload (run.fails .reload)) then
    writeUnit false previous
    restoreServiceState ⟨wasEnabled,wasActive⟩
    return (serviceResult run .remove .failed (some .commandFailed),false)
  return (serviceResult run .remove .removed none,true)

/-- The action, once the layout is known. -/
def performService (action : ServiceAction) : Service (ServiceResponse × Bool) := do
  let database ← ofExcept run.readings.database
  match action with
  | .install => install run database
  | .status => status run
  | .remove => remove run

/-- `execute_service` on Linux. -/
def executeService (action : ServiceAction) : Service ServiceCommandResult := do
  match ← attempt (performService run action) with
  | .ok (reply,success) => return ⟨reply,success⟩
  | .error .osError => return ⟨serviceResult run action .failed (some .ioFailed),false⟩
  | .error .valueError => return ⟨serviceResult run action .failed (some .invalidValue),false⟩

section calls
variable (fails : Bool) (host : ServiceHost)

theorem run_stop : (stop fails).run host = (.ok (!fails),{host with active := host.active && fails}) := by
  cases fails with
  | false => rw [Bool.and_false]; rfl
  | true => rw [Bool.and_true]; rfl

theorem run_disable : (disable fails).run host = (.ok (!fails),{host with enabled := host.enabled && fails}) := by
  cases fails with
  | false => rw [Bool.and_false]; rfl
  | true => rw [Bool.and_true]; rfl

/-- The state is restored to what the queries had read. -/
theorem run_restoreServiceState (previousState : ManagerState) : (restoreServiceState previousState).run host =
    (.ok (),⟨host.unit,host.enabled || previousState.enabled,host.active || previousState.active⟩) := by
  obtain ⟨enabled,active⟩ := previousState
  cases enabled with
  | false =>
    cases active with
    | false => rw [Bool.or_false,Bool.or_false]; rfl
    | true => rw [Bool.or_false,Bool.or_true]; rfl
  | true =>
    cases active with
    | false => rw [Bool.or_false,Bool.or_true]; rfl
    | true => rw [Bool.or_true,Bool.or_true]; rfl

/-- A rollback leaves nothing of the host that it starts from. -/
theorem run_rollbackInstall (previous : Option String) (previousState : ManagerState) :
    (rollbackInstall previous previousState).run host =
      (.ok (),⟨previous.map .text,previous.isSome && previousState.enabled,
        previous.isSome && previousState.active⟩) := by
  obtain ⟨enabled,active⟩ := previousState
  cases previous with
  | none =>
    obtain ⟨unit,wasEnabled,wasActive⟩ := host
    cases unit with
    | none => rfl
    | some content => rfl
  | some text =>
    cases enabled with
    | false =>
      cases active with
      | false => rfl
      | true => rfl
    | true =>
      cases active with
      | false => rfl
      | true => rfl

theorem run_startService (run : ServiceRun) :
    ((startService run).run host).1 = .ok (!run.fails .reload && !run.fails .enable && !run.fails .start) ∧
      ((run.fails .reload || run.fails .enable || run.fails .start) = false →
        ((startService run).run host).2 = ⟨host.unit,true,true⟩) := by
  unfold startService reload
  cases run.fails .reload with
  | true => exact ⟨rfl,fun failed => nomatch failed⟩
  | false =>
    cases run.fails .enable with
    | true => exact ⟨rfl,fun failed => nomatch failed⟩
    | false =>
      cases run.fails .start with
      | true => exact ⟨rfl,fun failed => nomatch failed⟩
      | false => exact ⟨rfl,fun _ => rfl⟩

end calls
end Proactive.Cli
