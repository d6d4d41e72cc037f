import Proactive.Cli.LaunchAgent

/-! The macOS LaunchAgent lifecycle of the watcher, with the rollback of a change that fails. -/
namespace Proactive.Cli.Darwin
open Proactive.Library Statement

/-- The calls of an action that can fail, apart from those of its rollback. -/
inductive DarwinPoint
  | readPlist | inspect | bootout | inspectUnloaded | makeParent | writePlist | enable | bootstrap
  | inspectStarted | kickstart | disable | deletePlist
deriving DecidableEq, Repr

/-- The calls of a rollback. It makes each at most once. -/
inductive RecoveryPoint
  | bootout | inspectUnloaded | putBack | reread | switch | bootstrap | inspectStarted | kickstart
deriving DecidableEq, Repr

/-- One look at the service: the calls that fail, whether launchd has it running, and the daemon's status. -/
structure Poll where
  readFails : Bool
  inspectFails : Bool
  running : Bool
  pid : Nat
  /-- `build_status().daemon`, unless it raises one of the errors that are caught. -/
  daemon : Option (HeartbeatState × Option Nat)

structure DarwinReadings where
  executable : Option String
  database : Except DarwinRaised String
  isFormat : Char → Bool
  held : Poll
  /-- What runs once the plist is loaded: at install, and at a rollback. -/
  runsAtLoad : Bool
  runsAgain : Bool
  first : Poll
  later : List Poll

structure DarwinRun where
  fails : DarwinPoint → Bool
  recovery : RecoveryPoint → Bool
  readings : DarwinReadings

structure LaunchdState where
  loaded : Bool
  enabled : Bool
  active : Bool
  pid : Option Nat
deriving DecidableEq, Repr

section manager
-- A command of `launchctl` that fails, its timeout included, is taken to have changed nothing.
variable {β : Type} (fails : Bool)

def enable : Darwin β Bool :=
  if fails then pure false else do
    update (fun host => {host with enabled := true})
    return true

def disable : Darwin β Bool :=
  if fails then pure false else do
    update (fun host => {host with enabled := false})
    return true

/-- A disabled service cannot be loaded, nor one that is loaded already. -/
def bootstrap (running : Bool) : Darwin β Bool :=
  if fails then pure false else do
    let loadable ← select (fun host => host.plist.isSome && host.enabled && !host.job.loaded)
    if loadable then
      update (fun host => {host with job := .started running})
      return true
    else return false

/-- Absent counts as unloaded, when a second look says so. -/
def bootout (fails : Bool × Bool) : Darwin β Bool := do
  if ← select (fun host => host.job.loaded) then
    if fails.1 then return false
    update (fun host => {host with job := .absent})
    return true
  else return !fails.2

def unload (fails : Bool × Bool) (loaded : Bool) : Darwin β Bool := if loaded then bootout fails else pure true

def kickstart : Darwin β Bool :=
  if fails then pure false else do
    if ← select (fun host => host.job.loaded) then
      update (fun host => {host with job := .running})
      return true
    else return false

def setEnabled (enabled : Bool) : Darwin β Bool := if enabled then enable fails else disable fails

def ensureStarted (active : Bool) : Darwin β Bool := if active then pure true else kickstart fails

/-- `state()`, which raises where it cannot tell. -/
def inspect (pid : Nat) : Darwin β LaunchdState :=
  if fails then raise .osError else
    select (fun host => ⟨host.job.loaded,host.enabled,host.job.active,if host.job.active then some pid else none⟩)

end manager

structure DarwinServiceSnapshot where
  managed : Bool
  enabled : Bool
  loaded : Bool
  active : Bool
  mainPid : Option Nat
  heartbeat : Option HeartbeatState
  heartbeatPid : Option Nat
deriving DecidableEq, Repr

structure InstallPlan (β : Type) where
  previous : Option (ArtifactSnapshot β)
  previousState : LaunchdState
  rendered : β

structure RestorationPlan (β : Type) where
  previous : Option (ArtifactSnapshot β)
  previousState : LaunchdState
  unloadCandidate : Bool

def heartbeatReady (snapshot : DarwinServiceSnapshot) : Bool :=
  snapshot.heartbeat = some .running && snapshot.mainPid.isSome && snapshot.mainPid = snapshot.heartbeatPid

def installReady (snapshot : DarwinServiceSnapshot) : Bool :=
  snapshot.managed && snapshot.enabled && snapshot.loaded && snapshot.active && heartbeatReady snapshot

def readinessFailure (snapshot : DarwinServiceSnapshot) : Option ServiceCode :=
  if !(snapshot.enabled && snapshot.loaded && snapshot.active) then some .commandFailed
  else if heartbeatReady snapshot then none else some .heartbeatUnavailable

def serviceResponse (action : ServiceAction) (state : ServiceState) (code : Option ServiceCode)
    (snapshot : DarwinServiceSnapshot) : ServiceResponse :=
  ⟨action,state,launchAgentLabel,snapshot.managed,snapshot.enabled,snapshot.active,snapshot.mainPid,
    snapshot.heartbeat,.notApplicable,.none,code⟩

def emptyResponse (action : ServiceAction) (state : ServiceState) (code : Option ServiceCode) : ServiceResponse :=
  serviceResponse action state code ⟨false,false,false,false,none,none,none⟩

def failure (action : ServiceAction) (code : ServiceCode) : ServiceResponse × Bool :=
  (emptyResponse action .failed (some code),false)

section lifecycle
variable {β : Type} [DecidableEq β] [Plistlib β] (run : DarwinRun)

def restoreManager (previous : LaunchdState) : Darwin β Bool := do
  let enabled ← setEnabled (run.recovery .switch) previous.enabled
  if !enabled || !previous.loaded then return enabled
  if !(← bootstrap (run.recovery .bootstrap) run.readings.runsAgain) then return false
  if !previous.active then return true
  let state ← inspect (run.recovery .inspectStarted) 0
  ensureStarted (run.recovery .kickstart) state.active

/-- The manager is restored only over the exact prior artifact. -/
def restorePrevious (plan : RestorationPlan β) : Darwin β Bool := do
  let read ← attempt (artifactSnapshot (run.recovery .reread))
  let current := read.toOption.join
  if current = plan.previous then restoreManager run plan.previousState
  else
    let _ ← setEnabled (run.recovery .switch) plan.previousState.enabled
    return false

def putBack : Option (ArtifactSnapshot β) → Darwin β Unit
  | none => deleteLaunchAgentArtifact (run.recovery .putBack)
  | some artifact => writeLaunchAgentArtifact (run.recovery .putBack) artifact.content artifact.mode

def rollbackInstall (plan : RestorationPlan β) : Darwin β Bool := do
  let unloaded ← unload (run.recovery .bootout,run.recovery .inspectUnloaded) plan.unloadCandidate
  let wrote ← attempt (putBack run plan.previous)
  if wrote = .error .expatError then raise .expatError
  let managerRestored ← restorePrevious run plan
  return unloaded && managerRestored && wrote.toOption.isSome

def managedContent : Option (ArtifactSnapshot β) → Except DarwinRaised Bool
  | none => .ok false
  | some artifact => isManagedLaunchAgent artifact.content

def ownedContent : Option (ArtifactSnapshot β) → Except DarwinRaised Bool
  | none => .ok true
  | some artifact => isManagedLaunchAgent artifact.content

/-- `_snapshot`. -/
def takeSnapshot (poll : Poll) : Darwin β DarwinServiceSnapshot := do
  let content ← artifactSnapshot poll.readFails
  let managed ← ofExcept (managedContent content)
  let state ← inspect poll.inspectFails poll.pid
  let daemon := if managed && state.active then poll.daemon else none
  return ⟨managed,state.enabled,state.loaded,state.active,state.pid,daemon.map Prod.fst,daemon.bind Prod.snd⟩

/-- What has become of the loaded service since the last look. -/
def settle (running : Bool) (host : DarwinHost β) : DarwinHost β :=
  if host.job.loaded then {host with job := .started running} else host

def waitForReady (poll : Poll) : List Poll → Darwin β DarwinServiceSnapshot
  | [] => do
    update (settle poll.running)
    takeSnapshot poll
  | next::later => do
    update (settle poll.running)
    let snapshot ← takeSnapshot poll
    if installReady snapshot then return snapshot else waitForReady next later

/-- The `except` clauses of `_replace_and_wait`. -/
def orFailure (bootstrapped : Bool) (body : Darwin β (Except ServiceCode DarwinServiceSnapshot × Bool)) :
    Darwin β (Except ServiceCode DarwinServiceSnapshot × Bool) := do
  match ← attempt body with
  | .ok result => return result
  | .error .osError => return (.error .ioFailed,bootstrapped)
  | .error .valueError => return (.error .invalidValue,bootstrapped)
  | .error .expatError => raise .expatError

/-- `_replace_and_wait`, once the candidate is loaded. -/
def startAndWait : Darwin β (Except ServiceCode DarwinServiceSnapshot × Bool) := do
  let state ← inspect (run.fails .inspectStarted) 0
  let started ← ensureStarted (run.fails .kickstart) state.active
  if !started then return (.error .commandFailed,true)
  let snapshot ← waitForReady run.readings.first run.readings.later
  return (.ok snapshot,true)

def replaceAndWait (rendered : β) : Darwin β (Except ServiceCode DarwinServiceSnapshot × Bool) :=
  orFailure false (do
    if run.fails .makeParent then raise .osError
    writeLaunchAgentArtifact (run.fails .writePlist) rendered privateMode
    if !(← enable (run.fails .enable)) then return (.error .commandFailed,false)
    if !(← bootstrap (run.fails .bootstrap) run.readings.runsAtLoad) then return (.error .commandFailed,false)
    orFailure true (startAndWait run))

def prepareInstall (database : String) : Darwin β (Except ServiceResponse (InstallPlan β)) := do
  let some executable := run.readings.executable
    | return .error (emptyResponse .install .failed (some .binaryNotFound))
  let previous ← artifactSnapshot (run.fails .readPlist)
  if !(← ofExcept (ownedContent previous)) then
    return .error (emptyResponse .install .unmanaged (some .unmanagedUnit))
  let previousState ← inspect (run.fails .inspect) 0
  if previous.isNone && previousState.loaded then
    return .error (emptyResponse .install .unmanaged (some .unmanagedUnit))
  let rendered ← ofExcept (renderLaunchAgent run.readings.isFormat executable database)
  return .ok ⟨previous,previousState,rendered⟩

/-- `_install` from the replacement of the artifact on. -/
def replaceInstalled (plan : InstallPlan β) : Darwin β (ServiceResponse × Bool) := do
  if !(← unload (run.fails .bootout,run.fails .inspectUnloaded) plan.previousState.loaded) then
    return failure .install .commandFailed
  let (candidate,bootstrapped) ← replaceAndWait run plan.rendered
  let restoration : RestorationPlan β := ⟨plan.previous,plan.previousState,bootstrapped⟩
  match candidate with
  | .error code =>
    let _ ← rollbackInstall run restoration
    return failure .install code
  | .ok snapshot =>
    match readinessFailure snapshot with
    | some code =>
      let _ ← rollbackInstall run restoration
      return failure .install code
    | none => return (serviceResponse .install .installed none snapshot,true)

def install (database : String) : Darwin β (ServiceResponse × Bool) := do
  match ← prepareInstall run database with
  | .error response => return (response,false)
  | .ok plan =>
    if plan.previous.map ArtifactSnapshot.content = some plan.rendered then
      let snapshot ← takeSnapshot run.readings.held
      if installReady snapshot then return (serviceResponse .install .installed none snapshot,true)
      replaceInstalled run plan
    else replaceInstalled run plan

def status : Darwin β (ServiceResponse × Bool) := do
  let artifact ← artifactSnapshot (run.fails .readPlist)
  let managerState ← inspect (run.fails .inspect) 0
  if artifact.isNone then
    if managerState.loaded then return (emptyResponse .status .unmanaged (some .unmanagedUnit),false)
    return (emptyResponse .status .absent none,true)
  if !(← ofExcept (managedContent artifact)) then
    return (emptyResponse .status .unmanaged (some .unmanagedUnit),false)
  let snapshot ← takeSnapshot run.readings.held
  let healthy := !snapshot.active || heartbeatReady snapshot
  let code := if healthy then none else some ServiceCode.heartbeatUnavailable
  return (serviceResponse .status (if snapshot.active then .active else .inactive) code snapshot,healthy)

def removeManaged (previous : ArtifactSnapshot β) (previousState : LaunchdState) : Darwin β (ServiceResponse × Bool) := do
  if !(← unload (run.fails .bootout,run.fails .inspectUnloaded) previousState.loaded) then
    return failure .remove .commandFailed
  let restoration : RestorationPlan β := ⟨some previous,previousState,false⟩
  if !(← disable (run.fails .disable)) then
    let _ ← restorePrevious run restoration
    return failure .remove .commandFailed
  match ← attempt (deleteLaunchAgentArtifact (run.fails .deletePlist)) with
  | .ok _ => return (emptyResponse .remove .removed none,true)
  | .error .osError =>
    let _ ← restorePrevious run restoration
    return failure .remove .ioFailed
  | .error .valueError =>
    let _ ← restorePrevious run restoration
    return failure .remove .invalidValue
  | .error .expatError => raise .expatError

def remove : Darwin β (ServiceResponse × Bool) := do
  let previous ← artifactSnapshot (run.fails .readPlist)
  let previousState ← inspect (run.fails .inspect) 0
  match previous with
  | none =>
    if previousState.loaded then return (emptyResponse .remove .unmanaged (some .unmanagedUnit),false)
    return (emptyResponse .remove .absent none,true)
  | some artifact =>
    if !(← ofExcept (isManagedLaunchAgent artifact.content)) then
      return (emptyResponse .remove .unmanaged (some .unmanagedUnit),false)
    removeManaged run artifact previousState

def perform (action : ServiceAction) : Darwin β (ServiceResponse × Bool) := do
  let database ← ofExcept run.readings.database
  match action with
  | .install => install run database
  | .status => status run
  | .remove => remove run

def execute (action : ServiceAction) : Darwin β ServiceCommandResult := do
  match ← attempt (perform run action) with
  | .ok (reply,success) => return ⟨reply,success⟩
  | .error .osError => return ⟨emptyResponse action .failed (some .ioFailed),false⟩
  | .error .valueError => return ⟨emptyResponse action .failed (some .invalidValue),false⟩
  | .error .expatError => raise .expatError

end lifecycle
end Proactive.Cli.Darwin
