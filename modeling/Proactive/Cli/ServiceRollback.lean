import Proactive.Cli.Service

/-! When a service change that fails leaves the host as it was. -/
namespace Proactive.Cli
open Proactive.Library Statement

variable {host : ServiceHost} {run : ServiceRun} {previous : Option String} {previousState : ManagerState}
  {rendered : String} {α : Type}

/-- An action that does not succeed leaves the host as it was. -/
def Restored (host : ServiceHost) : Except ServiceRaised (ServiceResponse × Bool) × ServiceHost → Prop
  | (.ok (_,true),_) => True
  | (_,left) => left = host

section calls

/-- A call that changes nothing may fail. -/
theorem restored_read {body : Service α} {next : α → Service (ServiceResponse × Bool)} (keeps : (body.run host).2 = host) :
    Restored host ((body >>= next).run host) ↔
      ∀ value, (body.run host).1 = .ok value → Restored host ((next value).run host) := by
  rw [run_bind]
  cases ran : body.run host with
  | mk outcome left =>
    obtain rfl : left = host := (congrArg Prod.snd ran).symm.trans keeps
    cases outcome with
    | error failure => exact iff_of_true rfl (fun _ same => nomatch same)
    | ok value =>
      constructor
      · intro restored other same
        exact Except.ok.inj same ▸ restored
      · exact fun each => each value rfl

theorem unitExists_host {fails : Bool} : ((unitExists fails).run host).2 = host := by
  cases fails with
  | false => rfl
  | true => rfl

theorem readUnit_run (fails : Bool) :
    (readUnit fails).run host = (if fails then .error .osError else decodeUnit host.unit,host) := by
  unfold readUnit
  split
  · rfl
  · rw [run_select_bind]
    cases decodeUnit host.unit with
    | ok text => rfl
    | error failure => rfl

theorem readUnit_host (fails : Bool) : ((readUnit fails).run host).2 = host := by
  rw [readUnit_run]

theorem readUnit_ok_iff (fails : Bool) {text : String} : ((readUnit fails).run host).1 = .ok text ↔
    fails = false ∧ decodeUnit host.unit = .ok text := by
  rw [readUnit_run]
  cases fails with
  | true => exact iff_of_false (fun same => nomatch same) (fun fine => nomatch fine.1)
  | false => exact (and_iff_right rfl).symm

theorem decoded_present {text : String} (decoded : decodeUnit host.unit = .ok text) : host.unit.isSome = true := by
  cases unit : host.unit with
  | none =>
    rw [unit] at decoded
    cases decoded
  | some content => rfl

theorem unitText_run (fails : Bool × Bool) : (unitText fails).run host =
    (if fails.1 then .error .osError
      else if host.unit.isSome then ((readUnit fails.2).run host).1.map some else .ok none,host) := by
  obtain ⟨missing,unreadable⟩ := fails
  unfold unitText unitExists
  cases missing with
  | true => rfl
  | false =>
    rw [if_neg Bool.false_ne_true,if_neg Bool.false_ne_true,run_select_bind]
    split
    · have kept := @readUnit_host host unreadable
      rw [run_bind]
      cases ran : (readUnit unreadable).run host with
      | mk outcome left =>
        rw [ran] at kept
        cases outcome with
        | ok text => exact Prod.ext rfl kept
        | error failure => exact Prod.ext rfl kept
    · rfl

theorem unitText_host (fails : Bool × Bool) : ((unitText fails).run host).2 = host := by
  rw [unitText_run]

/-- What the action finds at the place of the unit. -/
structure Finds (fails : Bool × Bool) (host : ServiceHost) (content : Option String) : Prop where
  looked : fails.1 = false
  found : host.unit = none ∧ content = none ∨
    fails.2 = false ∧ ∃ text, decodeUnit host.unit = .ok text ∧ content = some text

theorem unitText_ok_iff (fails : Bool × Bool) {content : Option String} :
    ((unitText fails).run host).1 = .ok content ↔ Finds fails host content := by
  rw [unitText_run]
  dsimp only
  constructor
  · intro ran
    split at ran
    · cases ran
    · rename_i looked
      refine ⟨Bool.eq_false_iff.mpr looked,?_⟩
      split at ran
      · obtain ⟨text,read,rfl⟩ := (Outcome.map_ok_iff _ _ _).mp ran
        obtain ⟨readable,decoded⟩ := (readUnit_ok_iff _).mp read
        exact Or.inr ⟨readable,text,decoded,rfl⟩
      · rename_i absent
        exact Or.inl ⟨Option.not_isSome_iff_eq_none.mp absent,(Except.ok.inj ran).symm⟩
  · rintro ⟨looked,⟨absent,rfl⟩ | ⟨readable,text,decoded,rfl⟩⟩
    · rw [looked,absent]
      rfl
    · rw [looked,if_neg Bool.false_ne_true,if_pos (decoded_present decoded)]
      exact (Outcome.map_ok_iff _ _ _).mpr ⟨text,(readUnit_ok_iff _).mpr ⟨readable,decoded⟩,rfl⟩

end calls

section reverted

/-- A query read a no where the answer is yes. -/
def Misread (run : ServiceRun) (host : ServiceHost) : Prop :=
  host.enabled = true ∧ run.fails .wasEnabled = true ∨ host.active = true ∧ run.fails .wasActive = true

/-- The unit has carriage returns, which a text that is read and written back does not keep. -/
def Rewritten (host : ServiceHost) : Prop := ∃ raw, host.unit = some (.text raw) ∧ '\r' ∈ raw.toList

theorem return_not_mem_newlines (text : List Char) : '\r' ∉ universalNewlines text := by
  induction text using universalNewlines.induct with
  | case1 => exact List.not_mem_nil
  | case2 rest ih =>
    rw [universalNewlines]
    exact List.not_mem_cons_of_ne_of_not_mem (by decide) ih
  | case3 c rest apart ih =>
    rw [universalNewlines]
    · refine List.not_mem_cons_of_ne_of_not_mem ?_ ih
      split
      · decide
      · rename_i other
        exact fun same => other same.symm
    · exact apart

theorem newlines_free {text : List Char} (free : '\r' ∉ text) : universalNewlines text = text := by
  induction text using universalNewlines.induct with
  | case1 => rfl
  | case2 rest ih => exact absurd List.mem_cons_self free
  | case3 c rest apart ih =>
    rw [List.mem_cons,not_or] at free
    rw [universalNewlines,if_neg (Ne.symm free.1),ih free.2]
    exact apart

theorem newlines_same_iff {raw : String} : String.ofList (universalNewlines raw.toList) = raw ↔ '\r' ∉ raw.toList := by
  constructor
  · intro same
    rw [← same,String.toList_ofList]
    exact return_not_mem_newlines _
  · intro free
    rw [newlines_free free,String.ofList_toList]

theorem decodeUnit_ok_iff {content : Option UnitContent} {text : String} : decodeUnit content = .ok text ↔
    ∃ raw, content = some (.text raw) ∧ text = String.ofList (universalNewlines raw.toList) := by
  unfold decodeUnit
  constructor
  · intro decoded
    split at decoded
    · cases decoded
    · cases decoded
    · exact ⟨_,rfl,(Except.ok.inj decoded).symm⟩
  · rintro ⟨raw,rfl,rfl⟩
    rfl

theorem query_same_iff {state fails : Bool} : (state && !fails) = state ↔ ¬(state = true ∧ fails = true) := by
  cases state with
  | false => exact iff_of_true rfl (fun both => nomatch both.1)
  | true =>
    cases fails with
    | false => exact iff_of_true rfl (fun both => nomatch both.2)
    | true => exact iff_of_false (fun same => nomatch same) (fun apart => apart ⟨rfl,rfl⟩)

/-- The unit written back and the state restored are those of before. -/
theorem reverted_iff {text : String} (decoded : decodeUnit host.unit = .ok text) :
    (⟨some (.text text),host.enabled && !run.fails .wasEnabled,host.active && !run.fails .wasActive⟩ : ServiceHost) =
      host ↔ ¬(Misread run host ∨ Rewritten host) := by
  obtain ⟨raw,unit,rfl⟩ := decodeUnit_ok_iff.mp decoded
  obtain ⟨_,enabled,active⟩ := host
  dsimp only at unit
  subst unit
  have rewritten : Rewritten ⟨some (.text raw),enabled,active⟩ ↔ '\r' ∈ raw.toList := by
    constructor
    · rintro ⟨other,same,mark⟩
      cases same
      exact mark
    · exact fun mark => ⟨raw,rfl,mark⟩
  unfold Misread
  rw [ServiceHost.mk.injEq,Option.some.injEq,UnitContent.text.injEq,newlines_same_iff,query_same_iff,query_same_iff,
    rewritten,not_or,not_or]
  exact and_comm

end reverted

section remove

/-- `_remove` from the commands of the manager on. -/
def removeManaged (run : ServiceRun) (previous : String) (previousState : ManagerState) :
    Service (ServiceResponse × Bool) := do
  if !(← stopService run) then
    restoreServiceState previousState
    return (serviceResult run .remove .failed (some .commandFailed),false)
  unlinkUnit (run.fails .unlink) false
  if !(← reload (run.fails .reload)) then
    writeUnit false previous
    restoreServiceState previousState
    return (serviceResult run .remove .failed (some .commandFailed),false)
  return (serviceResult run .remove .removed none,true)

/-- The calls after the queries fail where the state is not put back. -/
def RemoveUnrestored (run : ServiceRun) (host : ServiceHost) : Prop :=
  run.fails .stop = false ∧
    (run.fails .disable = true ∧ host.active = true ∧ run.fails .wasActive = true ∨
      run.fails .disable = false ∧ run.fails .unlink = true ∧ (host.enabled = true ∨ host.active = true) ∨
      run.fails .disable = false ∧ run.fails .unlink = false ∧ run.fails .reload = true ∧
        (Misread run host ∨ Rewritten host))

theorem removeManaged_restored_iff {text : String} (decoded : decodeUnit host.unit = .ok text) :
    Restored host ((removeManaged run text
      ⟨host.enabled && !run.fails .wasEnabled,host.active && !run.fails .wasActive⟩).run host) ↔
      ¬RemoveUnrestored run host := by
  have reverted := @reverted_iff host run text decoded
  have absorbed (state other : Bool) : (state || (state && other)) = state := by
    cases state with
    | false => rfl
    | true => rfl
  have present := decoded_present decoded
  unfold removeManaged RemoveUnrestored stopService unlinkUnit reload
  cases run.fails .stop with
  | true =>
    refine iff_of_true ?_ (fun unrestored => nomatch unrestored.1)
    simp only [run_bind,run_stop,run_restoreServiceState,run_pure,Bool.not_true,Bool.not_false,Bool.and_true,
      Bool.false_eq_true,if_false,if_true,absorbed]
    rfl
  | false =>
    cases run.fails .disable with
    | true =>
      have same : (⟨host.unit,host.enabled,host.active && !run.fails .wasActive⟩ : ServiceHost) = host ↔
          ¬(host.active = true ∧ run.fails .wasActive = true) := by
        rw [← query_same_iff]
        exact ⟨fun same => congrArg ServiceHost.active same,fun same => by rw [same]⟩
      simp only [run_bind,run_stop,run_disable,run_restoreServiceState,run_pure,Bool.not_true,Bool.not_false,
        Bool.and_true,Bool.and_false,Bool.false_or,if_true,absorbed]
      change (⟨host.unit,host.enabled,host.active && !run.fails .wasActive⟩ : ServiceHost) = host ↔ _
      rw [same]
      simp
    | false =>
      cases run.fails .unlink with
      | true =>
        have same : (⟨host.unit,false,false⟩ : ServiceHost) = host ↔ ¬(host.enabled = true ∨ host.active = true) := by
          obtain ⟨unit,enabled,active⟩ := host
          rw [ServiceHost.mk.injEq,eq_self,true_and,not_or,Bool.not_eq_true,Bool.not_eq_true]
          exact and_congr eq_comm eq_comm
        simp only [run_bind,run_stop,run_disable,Bool.not_true,Bool.not_false,Bool.and_false,Bool.false_eq_true,
          if_false,if_true]
        change (⟨host.unit,false,false⟩ : ServiceHost) = host ↔ _
        rw [same]
        simp
      | false =>
        cases run.fails .reload with
        | true =>
          simp only [run_bind,run_stop,run_disable,run_select,run_update,present,writeUnit,run_restoreServiceState,
            run_pure,Bool.not_true,Bool.not_false,Bool.and_false,Bool.false_or,Bool.true_or,Bool.false_eq_true,
            if_false,if_true]
          refine Iff.trans reverted ?_
          simp
        | false =>
          simp only [run_bind,run_stop,run_disable,run_select,run_update,present,run_pure,Bool.not_true,
            Bool.not_false,Bool.and_false,Bool.true_or,Bool.false_eq_true,if_false,if_true]
          refine iff_of_true trivial ?_
          simp

theorem remove_restored_iff : Restored host ((remove run).run host) ↔
    ¬∃ text, Finds (run.fails .unitExists,run.fails .readUnit) host (some text) ∧ isManagedUnit text = true ∧
      RemoveUnrestored run host := by
  unfold remove
  rw [restored_read unitExists_host]
  constructor
  · rintro each ⟨text,⟨seen,absent | ⟨readable,_,decoded,same⟩⟩,managed,unrestored⟩
    · cases absent.2
    · obtain rfl := Option.some.inj same
      dsimp only at seen
      have restored := each true (by rw [seen,unitExists,if_neg Bool.false_ne_true,run_select,decoded_present decoded])
      rw [Bool.not_true,if_neg Bool.false_ne_true,restored_read (readUnit_host _)] at restored
      have restored := restored text ((readUnit_ok_iff _).mpr ⟨readable,decoded⟩)
      rw [managed,Bool.not_true,if_neg Bool.false_ne_true] at restored
      exact (removeManaged_restored_iff decoded).mp restored unrestored
  · intro kept present ran
    cases present with
    | false => exact trivial
    | true =>
      rw [Bool.not_true,if_neg Bool.false_ne_true,restored_read (readUnit_host _)]
      intro text read
      obtain ⟨readable,decoded⟩ := (readUnit_ok_iff _).mp read
      cases managed : isManagedUnit text with
      | false => exact rfl
      | true =>
        refine (removeManaged_restored_iff decoded).mpr (fun unrestored => kept ⟨text,⟨?_,?_⟩,managed,unrestored⟩)
        · cases missing : run.fails .unitExists with
          | false => rfl
          | true =>
            rw [missing] at ran
            cases ran
        · exact Or.inr ⟨readable,text,decoded,rfl⟩

end remove

section install

/-- `_install` from the commands of the manager on. -/
def installRendered (run : ServiceRun) (previous : Option String) (previousState : ManagerState) :
    Service (ServiceResponse × Bool) := do
  if !(← startService run) then
    rollbackInstall previous previousState
    return (serviceResult run .install .failed (some .commandFailed),false)
  let snapshot ← takeSnapshot run
  if !ready snapshot then
    rollbackInstall previous previousState
    return (serviceResult run .install .failed (some .heartbeatUnavailable),false)
  return (response .install .installed none snapshot,true)

def Starts (run : ServiceRun) : Prop :=
  run.fails .reload = false ∧ run.fails .enable = false ∧ run.fails .start = false

def SnapshotRaises (run : ServiceRun) : Prop := run.fails .snapshotExists = true ∨ run.fails .snapshotRead = true

/-- The started service answers as enabled and active, and its heartbeat is that of the manager's process. -/
def Healthy (run : ServiceRun) : Prop :=
  run.fails .snapshotEnabled = false ∧ run.fails .snapshotActive = false ∧
    ∃ pid, run.readings.daemon = some (.running,pid) ∧ run.readings.mainPid = pid

def RollsBack (run : ServiceRun) : Prop := ¬Starts run ∨ ¬SnapshotRaises run ∧ ¬Healthy run

theorem ready_snapshotOf_iff {managed enabled active : Bool} : ready (snapshotOf run managed enabled active) = true ↔
    enabled = true ∧ active = true ∧ ∃ pid, run.readings.daemon = some (.running,pid) ∧ run.readings.mainPid = pid := by
  unfold ready snapshotOf
  cases enabled with
  | false => exact iff_of_false (fun same => nomatch same) (fun fine => nomatch fine.1)
  | true =>
    cases active with
    | false => exact iff_of_false (fun same => nomatch same) (fun fine => nomatch fine.2.1)
    | true =>
      dsimp only
      rw [if_pos rfl,if_pos rfl,Bool.true_and,Bool.true_and,Bool.and_eq_true,decide_eq_true_eq,decide_eq_true_eq]
      cases run.readings.daemon with
      | none => exact iff_of_false (fun fine => nomatch fine.1) (fun ⟨_,_,_,same,_⟩ => nomatch same)
      | some daemon =>
        obtain ⟨heartbeat,pid⟩ := daemon
        constructor
        · rintro ⟨same,pids⟩
          obtain rfl : heartbeat = .running := Option.some.inj same
          exact ⟨rfl,rfl,pid,rfl,pids⟩
        · rintro ⟨_,_,_,same,pids⟩
          cases same
          exact ⟨rfl,pids⟩

theorem takeSnapshot_run {content : String} (decoded : decodeUnit host.unit = .ok content)
    (managed : isManagedUnit content = true) : (takeSnapshot run).run host =
      (if run.fails .snapshotExists || run.fails .snapshotRead then .error .osError
        else .ok (snapshotOf run true (host.enabled && !run.fails .snapshotEnabled)
          (host.active && !run.fails .snapshotActive)),host) := by
  have found : (some content).any isManagedUnit = true := managed
  unfold takeSnapshot
  rw [run_bind,unitText_run,readUnit_run,decoded,if_pos (decoded_present decoded)]
  cases run.fails .snapshotExists with
  | true => rfl
  | false =>
    cases run.fails .snapshotRead with
    | true => rfl
    | false =>
      change ((do
        let enabled ← if (some content).any isManagedUnit then isEnabled (run.fails .snapshotEnabled) else pure false
        let active ← if (some content).any isManagedUnit then isActive (run.fails .snapshotActive) else pure false
        return snapshotOf run ((some content).any isManagedUnit) enabled active : Service Snapshot).run host) = _
      rw [found]
      rfl

theorem startService_starts (starts : Starts run) :
    (startService run).run host = (.ok true,⟨host.unit,true,true⟩) := by
  obtain ⟨reloaded,enabled,started⟩ := starts
  have ran := run_startService host run
  rw [reloaded,enabled,started] at ran
  exact Prod.ext ran.1 (ran.2 rfl)

theorem startService_fails (fails : ¬Starts run) : ∃ left, (startService run).run host = (.ok false,left) := by
  refine ⟨_,Prod.ext ((run_startService host run).1.trans (congrArg Except.ok ?_)) rfl⟩
  rw [Bool.eq_false_iff]
  intro fine
  rw [Bool.and_eq_true,Bool.and_eq_true,Bool.not_eq_true',Bool.not_eq_true',Bool.not_eq_true'] at fine
  exact fails ⟨fine.1.1,fine.1.2,fine.2⟩

/-- A start that fails is rolled back; one that succeeds is kept or rolled back, unless the snapshot raises. -/
theorem installRendered_restored_iff {before : ServiceHost} {content : String} (decoded : decodeUnit host.unit = .ok content)
    (managed : isManagedUnit content = true) :
    Restored before ((installRendered run previous previousState).run host) ↔
      (Starts run → SnapshotRaises run → (⟨host.unit,true,true⟩ : ServiceHost) = before) ∧
        (RollsBack run → (⟨previous.map .text,previous.isSome && previousState.enabled,
          previous.isSome && previousState.active⟩ : ServiceHost) = before) := by
  unfold installRendered RollsBack
  by_cases starts : Starts run
  · rw [run_bind,startService_starts starts]
    change Restored before ((takeSnapshot run >>= _).run ⟨host.unit,true,true⟩) ↔ _
    rw [run_bind,@takeSnapshot_run ⟨host.unit,true,true⟩ run content decoded managed]
    by_cases raises : SnapshotRaises run
    · rw [if_pos (Bool.or_eq_true_iff.mpr raises)]
      constructor
      · exact fun kept => ⟨fun _ _ => kept,fun rolls => absurd raises (rolls.resolve_left (not_not_intro starts)).1⟩
      · exact fun kept => kept.1 starts raises
    · rw [if_neg (fun failed => raises (Bool.or_eq_true_iff.mp failed))]
      have healthy : ready (snapshotOf run true (true && !run.fails .snapshotEnabled)
          (true && !run.fails .snapshotActive)) = true ↔ Healthy run := by
        rw [ready_snapshotOf_iff,Bool.true_and,Bool.true_and,Bool.not_eq_true',Bool.not_eq_true']
        rfl
      dsimp only
      cases answers : ready (snapshotOf run true (true && !run.fails .snapshotEnabled)
          (true && !run.fails .snapshotActive)) with
      | true =>
        refine iff_of_true trivial ⟨fun _ raised => absurd raised raises,fun rolls => ?_⟩
        exact absurd (healthy.mp answers) (rolls.resolve_left (not_not_intro starts)).2
      | false =>
        have sick : ¬Healthy run := fun fine => Bool.false_ne_true (answers.symm.trans (healthy.mpr fine))
        rw [Bool.not_false,if_pos rfl,run_bind,run_rollbackInstall]
        constructor
        · exact fun kept => ⟨fun _ raised => absurd raised raises,fun _ => kept⟩
        · exact fun kept => kept.2 (Or.inr ⟨raises,sick⟩)
  · obtain ⟨left,ran⟩ := @startService_fails host run starts
    rw [run_bind,ran]
    dsimp only
    rw [Bool.not_false,if_pos rfl,run_bind,run_rollbackInstall]
    constructor
    · exact fun kept => ⟨fun started => absurd started starts,fun _ => kept⟩
    · exact fun kept => kept.2 (Or.inl starts)

/-- The install comes to the commands of the manager, with the text that it found and the text to write. -/
structure Installs (run : ServiceRun) (host : ServiceHost) (database : String) (previous : Option String)
    (rendered : String) : Prop where
  finds : Finds (run.fails .unitExists,run.fails .readUnit) host previous
  managed : ∀ text, previous = some text → isManagedUnit text = true
  parent : run.fails .makeParent = false
  renders : ∃ executable, run.readings.executable = some executable ∧ render run executable database = .ok rendered
  writes : previous = some rendered ∨ run.fails .writeUnit = false

def written (previous : Option String) (rendered : String) (host : ServiceHost) : ServiceHost :=
  if previous = some rendered then host else {host with unit := some (.text rendered)}

theorem unmanaged_iff : previous.any (fun text => !isManagedUnit text) = true ↔
    ¬∀ text, previous = some text → isManagedUnit text = true := by
  cases previous with
  | none => exact iff_of_false (fun same => nomatch same) (fun fails => fails (fun _ same => nomatch same))
  | some text =>
    rw [Option.any_some,Bool.not_eq_true',← Bool.not_eq_true]
    refine not_congr ⟨fun managed other same => ?_,fun each => each text rfl⟩
    exact Option.some.inj same ▸ managed

theorem restored_write {next : Unit → Service (ServiceResponse × Bool)} :
    Restored host ((writeRendered run previous rendered >>= next).run host) ↔
      (previous = some rendered ∨ run.fails .writeUnit = false →
        Restored host ((next ()).run (written previous rendered host))) := by
  unfold writeRendered written writeUnit
  by_cases same : previous = some rendered
  · rw [if_pos same,if_pos same,run_pure_bind]
    exact ⟨fun kept _ => kept,fun kept => kept (Or.inl same)⟩
  · rw [if_neg same,if_neg same]
    cases run.fails .writeUnit with
    | true => exact iff_of_true rfl (fun fine => fine.elim (fun equal => absurd equal same) (fun fails => nomatch fails))
    | false => exact ⟨fun kept _ => kept,fun kept => kept (Or.inr rfl)⟩

/-- The calls after the text of the unit is known, up to the write. -/
theorem install_writes_iff {database path : String} (previous : Option String) : Restored host ((do
    let wasEnabled ← isEnabled (run.fails .wasEnabled)
    let wasActive ← isActive (run.fails .wasActive)
    makeParent (run.fails .makeParent)
    let rendered ← ofExcept (render run path database)
    writeRendered run previous rendered
    installRendered run previous ⟨wasEnabled,wasActive⟩ : Service (ServiceResponse × Bool)).run host) ↔
      (run.fails .makeParent = false → ∀ rendered, render run path database = .ok rendered →
        (previous = some rendered ∨ run.fails .writeUnit = false → Restored host ((installRendered run previous
          ⟨host.enabled && !run.fails .wasEnabled,host.active && !run.fails .wasActive⟩).run
            (written previous rendered host)))) := by
  have parentKept : ((makeParent (run.fails .makeParent)).run host).2 = host := by
    unfold makeParent
    split
    · rfl
    · rfl
  have parent : ((makeParent (run.fails .makeParent)).run host).1 = .ok () ↔ run.fails .makeParent = false := by
    cases run.fails .makeParent with
    | true => exact iff_of_false (fun same => nomatch same) (fun same => nomatch same)
    | false => exact iff_of_true rfl rfl
  have renders (outcome : Except ServiceRaised String) : (ofExcept outcome : Service String).run host = (outcome,host) := by
    cases outcome with
    | ok value => rfl
    | error failure => rfl
  have renderKept (outcome : Except ServiceRaised String) : ((ofExcept outcome : Service String).run host).2 = host :=
    congrArg Prod.snd (renders outcome)
  change Restored host ((makeParent (run.fails .makeParent) >>= fun _ => _).run host) ↔ _
  rw [restored_read parentKept]
  simp only [restored_read (renderKept _),restored_write,renders]
  exact ⟨fun each fine => each () (parent.mpr fine),fun each _ fine => each (parent.mp fine)⟩

theorem install_reaches_iff {database : String} : Restored host ((install run database).run host) ↔
    ∀ previous rendered, Installs run host database previous rendered → Restored host ((installRendered run previous
      ⟨host.enabled && !run.fails .wasEnabled,host.active && !run.fails .wasActive⟩).run
        (written previous rendered host)) := by
  unfold install
  cases executable : run.readings.executable with
  | none =>
    refine iff_of_true rfl (fun previous rendered installs => ?_)
    obtain ⟨_,found,_⟩ := installs.renders
    rw [executable] at found
    cases found
  | some path =>
    dsimp only
    rw [restored_read (unitText_host _)]
    constructor
    · intro each previous rendered installs
      obtain ⟨finds,managed,parent,⟨_,found,renders⟩,writes⟩ := installs
      obtain rfl := Option.some.inj (executable.symm.trans found)
      have kept := each previous ((unitText_ok_iff _).mpr finds)
      rw [if_neg (fun unmanaged => unmanaged_iff.mp unmanaged managed)] at kept
      exact (install_writes_iff previous).mp kept parent rendered renders writes
    · intro each previous read
      have finds := (unitText_ok_iff _).mp read
      by_cases managed : ∀ text, previous = some text → isManagedUnit text = true
      · rw [if_neg (fun unmanaged => unmanaged_iff.mp unmanaged managed)]
        refine (install_writes_iff previous).mpr (fun parent rendered renders writes => ?_)
        exact each previous rendered ⟨finds,managed,parent,⟨path,executable,renders⟩,writes⟩
      · rw [if_pos (unmanaged_iff.mpr managed)]
        exact rfl

theorem written_decoded {database : String} (installs : Installs run host database previous rendered) :
    decodeUnit (written previous rendered host).unit = .ok rendered ∧ isManagedUnit rendered = true := by
  obtain ⟨executable,_,renders⟩ := installs.renders
  have unit := (Outcome.mapError_ok_iff _ _ _).mp renders
  refine ⟨?_,rendered_managed unit⟩
  unfold written
  split
  · rename_i same
    rcases installs.finds.found with ⟨_,absent⟩ | ⟨_,text,decoded,found⟩
    · rw [same] at absent
      cases absent
    · obtain rfl := Option.some.inj (same.symm.trans found)
      exact decoded
  · exact decodeUnit_ok_iff.mpr ⟨rendered,rfl,(newlines_same_iff.mpr (rendered_control unit rfl (by decide))).symm⟩

/-- A start leaves the host as it was only where the same unit was enabled and active already. -/
theorem started_iff {database : String} (installs : Installs run host database previous rendered) :
    (⟨(written previous rendered host).unit,true,true⟩ : ServiceHost) = host ↔
      previous = some rendered ∧ host.enabled = true ∧ host.active = true := by
  have decoded := (written_decoded installs).1
  constructor
  · intro same
    have unit := congrArg ServiceHost.unit same
    refine ⟨?_,(congrArg ServiceHost.enabled same).symm,(congrArg ServiceHost.active same).symm⟩
    dsimp only at unit
    rw [unit] at decoded
    rcases installs.finds.found with ⟨absent,_⟩ | ⟨_,text,found,rfl⟩
    · rw [absent] at decoded
      cases decoded
    · exact congrArg some (Except.ok.inj (found.symm.trans decoded))
  · rintro ⟨same,enabled,active⟩
    obtain ⟨unit,_,_⟩ := host
    dsimp only at enabled active
    subst enabled active
    rw [written,if_pos same]

theorem rolledBack_iff {database : String} (absent : host.unit = none → host.enabled = false ∧ host.active = false)
    (installs : Installs run host database previous rendered) :
    (⟨previous.map .text,previous.isSome && (host.enabled && !run.fails .wasEnabled),
      previous.isSome && (host.active && !run.fails .wasActive)⟩ : ServiceHost) = host ↔
      ¬(previous ≠ none ∧ (Misread run host ∨ Rewritten host)) := by
  rcases installs.finds.found with ⟨unit,rfl⟩ | ⟨_,text,decoded,rfl⟩
  · refine iff_of_true ?_ (fun kept => kept.1 rfl)
    obtain ⟨_,_,_⟩ := host
    obtain ⟨enabled,active⟩ := absent unit
    dsimp only at unit enabled active
    subst unit enabled active
    rfl
  · exact (reverted_iff decoded).trans (not_congr (and_iff_right (Option.some_ne_none text)).symm)

def InstallUnrestored (run : ServiceRun) (host : ServiceHost) (database : String) : Prop :=
  ∃ previous rendered, Installs run host database previous rendered ∧
    (Starts run ∧ SnapshotRaises run ∧ ¬(previous = some rendered ∧ host.enabled = true ∧ host.active = true) ∨
      RollsBack run ∧ previous ≠ none ∧ (Misread run host ∨ Rewritten host))

theorem install_restored_iff {database : String} (absent : host.unit = none → host.enabled = false ∧ host.active = false) :
    Restored host ((install run database).run host) ↔ ¬InstallUnrestored run host database := by
  rw [install_reaches_iff]
  have each {previous : Option String} {rendered : String} (installs : Installs run host database previous rendered) :
      Restored host ((installRendered run previous
        ⟨host.enabled && !run.fails .wasEnabled,host.active && !run.fails .wasActive⟩).run
          (written previous rendered host)) ↔
        ¬(Starts run ∧ SnapshotRaises run ∧ ¬(previous = some rendered ∧ host.enabled = true ∧ host.active = true) ∨
          RollsBack run ∧ previous ≠ none ∧ (Misread run host ∨ Rewritten host)) := by
    obtain ⟨decoded,managed⟩ := written_decoded installs
    rw [installRendered_restored_iff decoded managed,started_iff installs,rolledBack_iff absent installs,not_or]
    refine and_congr ?_ not_and.symm
    rw [not_and,not_and,not_not]
  constructor
  · rintro kept ⟨previous,rendered,installs,unrestored⟩
    exact (each installs).mp (kept previous rendered installs) unrestored
  · exact fun kept previous rendered installs =>
      (each installs).mpr (fun unrestored => kept ⟨previous,rendered,installs,unrestored⟩)

end install

/-- The runs of an action that report failure and leave the host changed. -/
def Unrestored (run : ServiceRun) (host : ServiceHost) : ServiceAction → Prop
  | .install => ∃ database, run.readings.database = .ok database ∧ InstallUnrestored run host database
  | .status => False
  | .remove => ∃ database text, run.readings.database = .ok database ∧
      Finds (run.fails .unitExists,run.fails .readUnit) host (some text) ∧ isManagedUnit text = true ∧
        RemoveUnrestored run host

theorem keeps_bind {β : Type} {body : Service α} {next : α → Service β} (first : (body.run host).2 = host)
    (rest : ∀ value, ((next value).run host).2 = host) : ((body >>= next).run host).2 = host := by
  rw [run_bind]
  cases ran : body.run host with
  | mk outcome left =>
    obtain rfl : left = host := (congrArg Prod.snd ran).symm.trans first
    cases outcome with
    | ok value => exact rest value
    | error failure => rfl

theorem takeSnapshot_host : ((takeSnapshot run).run host).2 = host := by
  unfold takeSnapshot
  refine keeps_bind (unitText_host _) (fun content => ?_)
  dsimp only
  cases content.any isManagedUnit with
  | true => rfl
  | false => rfl

theorem status_host : ((status run).run host).2 = host := by
  unfold status
  refine keeps_bind unitExists_host (fun present => ?_)
  cases present with
  | false => rfl
  | true =>
    refine keeps_bind (readUnit_host _) (fun text => ?_)
    cases isManagedUnit text with
    | false => rfl
    | true => exact keeps_bind takeSnapshot_host (fun _ => rfl)

theorem restored_of_host {outcome : Except ServiceRaised (ServiceResponse × Bool)} : Restored host (outcome,host) := by
  cases outcome with
  | error failure => rfl
  | ok reply =>
    obtain ⟨response,success⟩ := reply
    cases success with
    | false => rfl
    | true => exact trivial

theorem performService_restored_iff (action : ServiceAction)
    (absent : host.unit = none → host.enabled = false ∧ host.active = false) :
    Restored host ((performService run action).run host) ↔ ¬Unrestored run host action := by
  unfold performService
  cases located : run.readings.database with
  | error failure =>
    refine iff_of_true rfl ?_
    cases action with
    | install =>
      rintro ⟨database,found,_⟩
      cases located.symm.trans found
    | status => exact id
    | remove =>
      rintro ⟨database,_,found,_⟩
      cases located.symm.trans found
  | ok database =>
    change Restored host ((match action with
      | .install => install run database
      | .status => status run
      | .remove => remove run : Service (ServiceResponse × Bool)).run host) ↔ _
    cases action with
    | install =>
      refine (install_restored_iff absent).trans (not_congr ⟨fun unrestored => ⟨database,located,unrestored⟩,?_⟩)
      rintro ⟨other,found,unrestored⟩
      obtain rfl := Except.ok.inj (located.symm.trans found)
      exact unrestored
    | status =>
      refine iff_of_true ?_ id
      have kept := @status_host host run
      cases ran : (status run).run host with
      | mk outcome left =>
        rw [ran] at kept
        subst kept
        exact restored_of_host
    | remove =>
      refine remove_restored_iff.trans (not_congr ⟨?_,?_⟩)
      · exact fun ⟨text,finds,managed,unrestored⟩ => ⟨database,text,located,finds,managed,unrestored⟩
      · exact fun ⟨_,text,_,finds,managed,unrestored⟩ => ⟨text,finds,managed,unrestored⟩

theorem executeService_run (action : ServiceAction) : ∃ result left, (executeService run action).run host = (.ok result,left) ∧
    (Restored host ((performService run action).run host) ↔ (result.success = false → left = host)) := by
  unfold executeService
  rw [run_attempt_bind]
  cases ran : (performService run action).run host with
  | mk outcome left =>
    cases outcome with
    | ok reply =>
      obtain ⟨response,success⟩ := reply
      refine ⟨⟨response,success⟩,left,rfl,?_⟩
      cases success with
      | true => exact iff_of_true trivial (fun failed => nomatch failed)
      | false => exact ⟨fun kept _ => kept,fun kept => kept rfl⟩
    | error failure =>
      cases failure with
      | osError => exact ⟨_,left,rfl,fun kept _ => kept,fun kept => kept rfl⟩
      | valueError => exact ⟨_,left,rfl,fun kept _ => kept,fun kept => kept rfl⟩

/-- A service change that fails leaves the host as it was, but for the runs that are named. -/
theorem executeService_restored_iff (run : ServiceRun) (host : ServiceHost) (action : ServiceAction)
    (absent : host.unit = none → host.enabled = false ∧ host.active = false) :
    (∀ result left, (executeService run action).run host = (.ok result,left) → result.success = false → left = host) ↔
      ¬Unrestored run host action := by
  obtain ⟨result,left,ran,restored⟩ := @executeService_run host run action
  rw [← performService_restored_iff action absent,restored]
  constructor
  · exact fun each => each result left ran
  · intro kept other after same failed
    obtain ⟨one,two⟩ := Prod.mk.inj (ran.symm.trans same)
    obtain rfl := Except.ok.inj one
    exact two ▸ kept failed

/-- An install on a host without a unit, where the unit cannot be enabled. -/
theorem executeService_restored_fresh :
    let run : ServiceRun := ⟨fun point => point == .enable,⟨some "/usr/bin/proactive-mcp",.ok "/home/user/proactive.db",
      fun _ => false,none,none,.enabled,.enabled⟩⟩
    let host : ServiceHost := ⟨none,false,false⟩
    ∀ result left, (executeService run .install).run host = (.ok result,left) → result.success = false → left = host := by
  refine (executeService_restored_iff _ _ _ (fun _ => ⟨rfl,rfl⟩)).mpr ?_
  rintro ⟨_,_,previous,rendered,installs,⟨starts,_⟩ | ⟨_,present,_⟩⟩
  · cases starts.2.1
  · rcases installs.finds.found with ⟨_,absent⟩ | ⟨_,_,decoded,_⟩
    · exact present absent
    · cases decoded

/-- The unit is stopped and disabled, and then cannot be removed. -/
theorem remove_unlink_unrestored : ¬∀ result left,
    (executeService ⟨fun point => point == .unlink,⟨some "/usr/bin/proactive-mcp",.ok "/home/user/proactive.db",
      fun _ => false,none,none,.enabled,.enabled⟩⟩ .remove).run
        ⟨some (.text "X-Proactive-MCP-Managed=true"),true,true⟩ = (.ok result,left) →
      result.success = false → left = ⟨some (.text "X-Proactive-MCP-Managed=true"),true,true⟩ := by
  intro kept
  have ran : (executeService ⟨fun point => point == .unlink,⟨some "/usr/bin/proactive-mcp",.ok "/home/user/proactive.db",
      fun _ => false,none,none,.enabled,.enabled⟩⟩ .remove).run
        ⟨some (.text "X-Proactive-MCP-Managed=true"),true,true⟩ =
      (.ok ⟨⟨.remove,.failed,unitName,false,false,false,none,none,.enabled,.none,some .ioFailed⟩,false⟩,
        ⟨some (.text "X-Proactive-MCP-Managed=true"),false,false⟩) := by
    rfl
  cases kept _ _ ran rfl

end Proactive.Cli
