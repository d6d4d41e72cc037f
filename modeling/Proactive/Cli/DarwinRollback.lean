import Proactive.Cli.Darwin

/-! The rollback of a macOS service change: what a yes of it means, and when it answers yes. -/
namespace Proactive.Cli.Darwin
open Proactive.Library Statement

variable {β : Type} {host before left : DarwinHost β} {run : DarwinRun}

section manager

theorem run_enable (fails : Bool) : (enable fails).run host =
    (.ok (!fails),if fails then host else {host with enabled := true}) := by
  cases fails with
  | false => rfl
  | true => rfl

theorem run_disable (fails : Bool) : (disable fails).run host =
    (.ok (!fails),if fails then host else {host with enabled := false}) := by
  cases fails with
  | false => rfl
  | true => rfl

/-- The enablement is set to what it was. -/
theorem run_setEnabled (fails enabled : Bool) : (setEnabled fails enabled).run host =
    (.ok (!fails),if fails then host else {host with enabled := enabled}) := by
  unfold setEnabled
  cases enabled with
  | false => exact run_disable fails
  | true => exact run_enable fails

theorem run_bootstrap (fails running : Bool) : (bootstrap fails running).run host =
    if !fails && (host.plist.isSome && host.enabled && !host.job.loaded) then (.ok true,{host with job := .started running})
      else (.ok false,host) := by
  unfold bootstrap
  cases fails with
  | true => rfl
  | false =>
    rw [if_neg Bool.false_ne_true,run_select_bind,Bool.not_false,Bool.true_and]
    split
    · rfl
    · rfl

theorem bootstrap_true {fails running : Bool} (ran : (bootstrap fails running).run host = (.ok true,left)) :
    left = {host with job := .started running} := by
  rw [run_bootstrap] at ran
  split at ran
  · exact (Prod.mk.inj ran).2.symm
  · cases ran

theorem run_bootout (fails : Bool × Bool) : (bootout fails).run host =
    if host.job.loaded then if fails.1 then (.ok false,host) else (.ok true,{host with job := .absent})
      else (.ok (!fails.2),host) := by
  unfold bootout
  rw [run_select_bind]
  split
  · split
    · rfl
    · rfl
  · rfl

theorem run_kickstart (fails : Bool) : (kickstart fails).run host =
    if !fails && host.job.loaded then (.ok true,{host with job := .running}) else (.ok false,host) := by
  unfold kickstart
  cases fails with
  | true => rfl
  | false =>
    rw [if_neg Bool.false_ne_true,run_select_bind,Bool.not_false,Bool.true_and]
    split
    · rfl
    · rfl

/-- The job that is reported as started has a process. -/
theorem ensureStarted_true {fails : Bool} (ran : (ensureStarted fails host.job.active).run host = (.ok true,left)) :
    left = {host with job := .running} := by
  unfold ensureStarted at ran
  cases active : host.job.active with
  | true =>
    rw [active] at ran
    obtain ⟨plist,enabled,job⟩ := host
    obtain rfl : job = .running := by
      cases job with
      | absent => cases active
      | waiting => cases active
      | running => rfl
    exact (Prod.mk.inj ran).2.symm
  | false =>
    rw [active,if_neg Bool.false_ne_true,run_kickstart] at ran
    split at ran
    · exact (Prod.mk.inj ran).2.symm
    · cases ran

theorem run_inspect (fails : Bool) (pid : Nat) : (inspect fails pid).run host =
    (if fails then .error .osError else
      .ok ⟨host.job.loaded,host.enabled,host.job.active,if host.job.active then some pid else none⟩,host) := by
  cases fails with
  | false => rfl
  | true => rfl

/-- A service that was unloaded, or found unloaded, is not loaded. -/
theorem bootout_true {fails : Bool × Bool} (ran : (bootout fails).run host = (.ok true,left)) :
    left = {host with job := .absent} := by
  rw [run_bootout] at ran
  split at ran
  · split at ran
    · cases ran
    · exact (Prod.mk.inj ran).2.symm
  · rename_i unloaded
    obtain ⟨plist,enabled,job⟩ := host
    obtain rfl : job = .absent := Job.loaded_eq_false.mp (Bool.eq_false_iff.mpr unloaded)
    exact (Prod.mk.inj ran).2.symm

theorem bootout_false {fails : Bool × Bool} (ran : (bootout fails).run host = (.ok false,left)) : left = host := by
  rw [run_bootout] at ran
  split at ran
  · split at ran
    · exact (Prod.mk.inj ran).2.symm
    · cases ran
  · exact (Prod.mk.inj ran).2.symm

theorem bootout_quiet : (bootout (false,false)).run host = (.ok true,{host with job := .absent}) := by
  have kept : ((bootout (false,false)).run host).1 = .ok true := by
    rw [run_bootout]
    split
    · rfl
    · rfl
  exact Prod.ext kept (bootout_true (Prod.ext kept rfl))

end manager

/-- `plistlib` as far as one rendered plist goes. -/
abbrev sampleLibrary : Plistlib String where
  parse content :=
    if content = "rendered" then .ok (launchAgentPayload "/usr/local/bin/proactive-mcp" "/Users/user/proactive.db"
      "/Users/user/proactive.db.daemon.out.log" "/Users/user/proactive.db.daemon.err.log")
    else .error .invalidFile
  dumps _ := "rendered"

/-- A run on a machine where the daemon comes up as process 7. -/
def sampleRun (fails : DarwinPoint → Bool) (recovery : RecoveryPoint → Bool) : DarwinRun :=
  let poll : Poll := ⟨false,false,true,7,some (.running,some 7)⟩
  ⟨fails,recovery,some "/usr/local/bin/proactive-mcp",.ok "/Users/user/proactive.db",fun _ => false,poll,true,true,poll,[]⟩

section rollback

/-- What became of a job that was put back: launchd may start one that waited. -/
def Job.Revived (was now : Job) : Prop := now = was ∨ was = .waiting ∧ now = .running

/-- The service of before. -/
structure Recovered (before left : DarwinHost β) : Prop where
  plist : left.plist = before.plist
  enabled : left.enabled = before.enabled
  job : Job.Revived before.job left.job

theorem Recovered.refl (host : DarwinHost β) : Recovered host host := ⟨rfl,rfl,Or.inl rfl⟩

/-- What was read of the service before the change. -/
structure Describes (previous : Option (ArtifactSnapshot β)) (state : LaunchdState) (before : DarwinHost β) : Prop where
  plist : before.plist = previous.map ArtifactSnapshot.file
  enabled : state.enabled = before.enabled
  loaded : state.loaded = before.job.loaded
  active : state.active = before.job.active

/-- The manager, once it answers that it is restored. -/
theorem restoreManager_true {previous : Option (ArtifactSnapshot β)} {state : LaunchdState}
    (described : Describes previous state before) (absent : host.job = .absent)
    (ran : (restoreManager run state).run host = (.ok true,left)) :
    left.plist = host.plist ∧ left.enabled = before.enabled ∧ Job.Revived before.job left.job := by
  unfold restoreManager at ran
  rw [run_bind,run_setEnabled] at ran
  cases switched : run.recovery .switch with
  | true =>
    rw [switched] at ran
    cases ran
  | false =>
    rw [switched,described.loaded,described.active,described.enabled] at ran
    have loaded (more : before.job.loaded = true) : ∃ answer middle,
        (bootstrap (run.recovery .bootstrap) run.readings.runsAgain).run {host with enabled := before.enabled} =
          (.ok answer,middle) ∧ (if !answer then pure false else if !before.job.active then pure true else
            inspect (run.recovery .inspectStarted) 0 >>= fun state =>
              ensureStarted (run.recovery .kickstart) state.active : Darwin β Bool).run middle = (.ok true,left) := by
      rw [more] at ran
      exact bind_success _ _ _ _ _ ran
    cases was : before.job with
    | absent =>
      rw [was] at ran
      obtain rfl := (Prod.mk.inj ran).2
      exact ⟨rfl,rfl,Or.inl absent⟩
    | waiting =>
      obtain ⟨answer,middle,booted,ran⟩ := loaded (by rw [was]; rfl)
      cases answer with
      | false => cases ran
      | true =>
        obtain rfl := bootstrap_true booted
        rw [was] at ran
        obtain rfl := (Prod.mk.inj ran).2
        refine ⟨rfl,rfl,?_⟩
        cases run.readings.runsAgain with
        | false => exact Or.inl rfl
        | true => exact Or.inr ⟨rfl,rfl⟩
    | running =>
      obtain ⟨answer,middle,booted,ran⟩ := loaded (by rw [was]; rfl)
      cases answer with
      | false => cases ran
      | true =>
        obtain rfl := bootstrap_true booted
        rw [was] at ran
        obtain ⟨state,middle,inspected,ran⟩ := bind_success _ _ _ _ _ ran
        rw [run_inspect] at inspected
        cases lost : run.recovery .inspectStarted with
        | true =>
          rw [lost] at inspected
          cases inspected
        | false =>
          rw [lost] at inspected
          cases inspected
          obtain rfl := ensureStarted_true ran
          exact ⟨rfl,rfl,Or.inl rfl⟩

/-- Nothing fails when the manager restores a service that may be loaded again. -/
theorem restoreManager_quiet {previous : Option (ArtifactSnapshot β)} {state : LaunchdState}
    (quiet : ∀ point, run.recovery point = false) (described : Describes previous state before)
    (absent : host.job = .absent) (loadable : before.job.loaded = true → before.enabled = true ∧ host.plist.isSome = true) :
    ((restoreManager run state).run host).1 = .ok true := by
  unfold restoreManager
  simp only [quiet]
  rw [run_bind,run_setEnabled,described.enabled,described.loaded,described.active]
  cases was : before.job with
  | absent => rfl
  | waiting =>
    obtain ⟨enabled,present⟩ := loadable (by rw [was]; rfl)
    change ((bootstrap _ _ >>= _).run {host with enabled := before.enabled}).1 = _
    rw [run_bind,run_bootstrap,enabled,present,absent]
    rfl
  | running =>
    obtain ⟨enabled,present⟩ := loadable (by rw [was]; rfl)
    change ((bootstrap _ _ >>= _).run {host with enabled := before.enabled}).1 = _
    rw [run_bind,run_bootstrap,enabled,present,absent]
    cases run.readings.runsAgain with
    | false => rfl
    | true => rfl

/-- The manager is restored over the artifact of before, and over no other. -/
theorem restorePrevious_true [DecidableEq β] {plan : RestorationPlan β}
    (described : Describes plan.previous plan.previousState before) (absent : host.job = .absent)
    (gone : plan.previous = none → host.plist = none)
    (ran : (restorePrevious run plan).run host = (.ok true,left)) : Recovered before left := by
  have kept : ((artifactSnapshot (run.recovery .reread)).run host).2 = host := by rw [run_artifactSnapshot]
  unfold restorePrevious at ran
  rw [run_attempt_bind,kept] at ran
  dsimp only at ran
  by_cases same : ((artifactSnapshot (run.recovery .reread)).run host).1.toOption.join = plan.previous
  · rw [if_pos same] at ran
    obtain ⟨plist,enabled,job⟩ := restoreManager_true described absent ran
    refine ⟨plist.trans ?_,enabled,job⟩
    rw [described.plist]
    cases previous : plan.previous with
    | none => exact gone previous
    | some artifact =>
      rw [previous] at same
      cases read : (artifactSnapshot (run.recovery .reread)).run host with
      | mk outcome after =>
        rw [read] at same
        cases outcome with
        | error raised => cases same
        | ok found =>
          obtain rfl : found = some artifact := same
          exact (artifactSnapshot_ok_iff.mp read).2.2
  · rw [if_neg same] at ran
    obtain ⟨_,middle,_,ran⟩ := bind_success _ _ _ _ _ ran
    cases ran

variable [Plistlib β]

/-- No content but what this package manages, in a file that may be read. -/
def Ours (file : Option (PlistFile β)) : Prop :=
  ∀ one, file = some one → one.safe = true ∧ isManagedLaunchAgent one.content = .ok true

theorem requireManaged_ok_iff {artifact : ArtifactSnapshot β} :
    requireManaged (some artifact) = .ok () ↔ isManagedLaunchAgent artifact.content = .ok true := by
  dsimp only [requireManaged]
  rw [Outcome.bind_ok_iff]
  constructor
  · rintro ⟨managed,read,kept⟩
    cases managed with
    | true => exact read
    | false => cases kept
  · exact fun managed => ⟨true,managed,rfl⟩

theorem ours_iff {found : Option (ArtifactSnapshot β)} :
    Ours (found.map ArtifactSnapshot.file) ↔ requireManaged found = .ok () := by
  cases found with
  | none => exact iff_of_true (fun _ absent => nomatch absent) rfl
  | some artifact =>
    rw [requireManaged_ok_iff]
    constructor
    · exact fun ours => (ours _ rfl).2
    · rintro managed one same
      obtain rfl := Option.some.inj same
      exact ⟨rfl,managed⟩

/-- A file of ours is read as it is, when the call does not fail. -/
theorem artifactSnapshot_ours (ours : Ours host.plist) : ∃ found, host.plist = found.map ArtifactSnapshot.file ∧
    requireManaged found = .ok () ∧ ∀ fails, (artifactSnapshot fails).run host =
      (if fails then .error .osError else .ok found,host) := by
  have read : readable host.plist = .ok host.plist :=
    readable_ok_iff.mpr ⟨rfl,fun one same => (ours one same).1⟩
  have ran (fails : Bool) : (artifactSnapshot fails).run host =
      (if fails then .error .osError else .ok (host.plist.map (fun file => ⟨file.content,file.mode⟩)),host) := by
    rw [run_artifactSnapshot,read]
    rfl
  have whole := (artifactSnapshot_ok_iff.mp (ran false)).2.2
  exact ⟨_,whole,ours_iff.mp (whole ▸ ours),ran⟩

/-- A write over a file of ours: of managed content, and unless it fails. -/
theorem run_writeLaunchAgentArtifact {fails : Bool} {content : β} {mode : Nat} (ours : Ours host.plist)
    (managed : isManagedLaunchAgent content = .ok true) : (writeLaunchAgentArtifact fails content mode).run host =
      if fails then (.error .osError,host) else (.ok (),{host with plist := some ⟨content,mode,true⟩}) := by
  obtain ⟨found,_,required,ran⟩ := artifactSnapshot_ours ours
  unfold writeLaunchAgentArtifact
  rw [requireManaged_ok_iff.mpr managed]
  change ((artifactSnapshot fails >>= _).run host) = _
  rw [run_bind,ran]
  cases fails with
  | true => rfl
  | false =>
    change ((ofExcept (requireManaged found) >>= _).run host) = _
    rw [required]
    rfl

theorem run_deleteLaunchAgentArtifact {fails : Bool} (ours : Ours host.plist) :
    (deleteLaunchAgentArtifact fails).run host =
      if fails then (.error .osError,host) else (.ok (),{host with plist := none}) := by
  obtain ⟨found,whole,required,ran⟩ := artifactSnapshot_ours ours
  unfold deleteLaunchAgentArtifact
  rw [run_bind,ran]
  cases fails with
  | true => rfl
  | false =>
    cases found with
    | none =>
      obtain ⟨plist,enabled,job⟩ := host
      obtain rfl : plist = none := whole
      rfl
    | some artifact =>
      change ((ofExcept (requireManaged (some artifact)) >>= _).run host) = _
      rw [required]
      rfl

/-- The artifact of before is put back, if it is ours and nothing fails. -/
theorem run_putBack {previous : Option (ArtifactSnapshot β)} (ours : Ours host.plist) (managed : requireManaged previous = .ok ()) :
    (putBack run previous).run host =
      if run.recovery .putBack then (.error .osError,host)
        else (.ok (),{host with plist := previous.map ArtifactSnapshot.file}) := by
  cases previous with
  | none => exact run_deleteLaunchAgentArtifact ours
  | some artifact => exact run_writeLaunchAgentArtifact ours (requireManaged_ok_iff.mp managed)

theorem deleteLaunchAgentArtifact_ok {fails : Bool} (ran : (deleteLaunchAgentArtifact fails).run host = (.ok (),left)) :
    left = {host with plist := none} := by
  unfold deleteLaunchAgentArtifact at ran
  obtain ⟨found,middle,read,rest⟩ := bind_success _ _ _ _ _ ran
  obtain ⟨_,rfl,whole⟩ := artifactSnapshot_ok_iff.mp read
  cases found with
  | none =>
    obtain ⟨plist,enabled,job⟩ := middle
    obtain rfl : plist = none := whole
    exact (Prod.mk.inj rest).2.symm
  | some artifact =>
    obtain ⟨_,after,required,last⟩ := bind_success _ _ _ _ _ rest
    obtain ⟨_,rfl⟩ := ofExcept_success required
    exact (Prod.mk.inj last).2.symm

theorem writeLaunchAgentArtifact_ok {fails : Bool} {content : β} {mode : Nat}
    (ran : (writeLaunchAgentArtifact fails content mode).run host = (.ok (),left)) :
    left = {host with plist := some ⟨content,mode,true⟩} ∧ isManagedLaunchAgent content = .ok true := by
  unfold writeLaunchAgentArtifact at ran
  obtain ⟨_,_,checked,rest⟩ := bind_success _ _ _ _ _ ran
  obtain ⟨managed,rfl⟩ := ofExcept_success checked
  obtain ⟨found,_,read,more⟩ := bind_success _ _ _ _ _ rest
  obtain ⟨_,rfl,_⟩ := artifactSnapshot_ok_iff.mp read
  obtain ⟨_,_,required,last⟩ := bind_success _ _ _ _ _ more
  obtain ⟨_,rfl⟩ := ofExcept_success required
  exact ⟨(Prod.mk.inj last).2.symm,requireManaged_ok_iff.mp managed⟩

theorem putBack_ok {previous : Option (ArtifactSnapshot β)} (ran : (putBack run previous).run host = (.ok (),left)) :
    left = {host with plist := previous.map ArtifactSnapshot.file} := by
  cases previous with
  | none => exact deleteLaunchAgentArtifact_ok ran
  | some artifact => exact (writeLaunchAgentArtifact_ok ran).1

omit [Plistlib β] in
theorem unload_true {fails : Bool × Bool} {loaded : Bool} (known : host.job.loaded = true → loaded = true)
    (ran : (unload fails loaded).run host = (.ok true,left)) : left = {host with job := .absent} := by
  cases loaded with
  | true => exact bootout_true ran
  | false =>
    obtain ⟨plist,enabled,job⟩ := host
    obtain rfl : job = .absent := Job.loaded_eq_false.mp (Bool.eq_false_iff.mpr (fun more => nomatch known more))
    exact (Prod.mk.inj ran).2.symm

/-- A rollback that answers yes has put the service of before back, whatever failed on the way. -/
theorem rollbackInstall_true [DecidableEq β] {plan : RestorationPlan β}
    (described : Describes plan.previous plan.previousState before)
    (candidate : host.job.loaded = true → plan.unloadCandidate = true)
    (ran : (rollbackInstall run plan).run host = (.ok true,left)) : Recovered before left := by
  unfold rollbackInstall at ran
  obtain ⟨unloaded,middle,booted,ran⟩ := bind_success _ _ _ _ _ ran
  rw [run_attempt_bind] at ran
  cases wrote : (putBack run plan.previous).run middle with
  | mk outcome after =>
    rw [wrote] at ran
    dsimp only at ran
    split at ran
    · cases ran
    · obtain ⟨restored,last,restoring,ran⟩ := bind_success _ _ _ _ _ ran
      obtain ⟨answered,rfl⟩ := pure_success _ _ _ _ ran
      rw [Bool.and_eq_true,Bool.and_eq_true] at answered
      obtain ⟨⟨rfl,rfl⟩,kept⟩ := answered
      cases outcome with
      | error raised => cases kept
      | ok value =>
        obtain rfl := unload_true candidate booted
        obtain rfl := putBack_ok wrote
        exact restorePrevious_true described rfl (fun none => congrArg (Option.map _) none) restoring

/-- The candidate is loaded; its file is replaced and its job unloaded, though the look that is not needed fails. -/
theorem rollbackInstall_true_loaded :
    let run := sampleRun (fun _ => false) (fun point => point == .inspectUnloaded)
    let before : DarwinHost String := ⟨some ⟨"rendered",0o644,true⟩,false,.absent⟩
    let plan : RestorationPlan String := ⟨some ⟨"rendered",0o644⟩,⟨false,false,false,none⟩,true⟩
    ∃ left, (@rollbackInstall String _ sampleLibrary run plan).run ⟨some ⟨"rendered",0o600,true⟩,true,.running⟩ =
      (.ok true,left) ∧ Recovered before left := by
  intro run before plan
  let library := sampleLibrary
  have described : Describes plan.previous plan.previousState before := ⟨rfl,rfl,rfl,rfl⟩
  have ran : (rollbackInstall run plan).run ⟨some ⟨"rendered",0o600,true⟩,true,.running⟩ = (.ok true,before) := by rfl
  exact ⟨before,ran,rollbackInstall_true described (fun _ => rfl) ran⟩

omit [Plistlib β] in
theorem unload_quiet {loaded : Bool} (known : host.job.loaded = true → loaded = true) :
    (unload (false,false) loaded).run host = (.ok true,{host with job := .absent}) := by
  have answers : ((unload (false,false) loaded).run host).1 = .ok true := by
    unfold unload
    cases loaded with
    | true => rw [if_pos rfl,bootout_quiet]
    | false => rfl
  exact Prod.ext answers (unload_true known (Prod.ext answers rfl))

omit [Plistlib β] in
theorem unload_ends {fails : Bool × Bool} {loaded : Bool} (known : host.job.loaded = true → loaded = true) :
    Ends (unload fails loaded) host (fun outcome left =>
      outcome = .ok true ∧ left = {host with job := .absent} ∨ outcome = .ok false ∧ left = host) := by
  refine ends_iff.mpr (fun outcome left ran => ?_)
  have answers : ∃ answer, outcome = .ok answer := by
    cases loaded with
    | false => exact ⟨true,(Prod.mk.inj ran).1.symm⟩
    | true =>
      change (bootout fails).run host = _ at ran
      rw [run_bootout] at ran
      split at ran
      · split at ran
        · exact ⟨false,(Prod.mk.inj ran).1.symm⟩
        · exact ⟨true,(Prod.mk.inj ran).1.symm⟩
      · exact ⟨!fails.2,(Prod.mk.inj ran).1.symm⟩
  obtain ⟨answer,rfl⟩ := answers
  cases answer with
  | true => exact Or.inl ⟨rfl,unload_true known ran⟩
  | false =>
    cases loaded with
    | true => exact Or.inr ⟨rfl,bootout_false ran⟩
    | false => cases ran

/-- A service that launchd can load again: it is enabled if it is loaded. -/
def Loadable (before : DarwinHost β) : Prop := before.job.loaded = true → before.enabled = true

variable [DecidableEq β]

theorem restorePrevious_quiet (quiet : ∀ point, run.recovery point = false) {plan : RestorationPlan β}
    (described : Describes plan.previous plan.previousState before) (loadable : Loadable before)
    (present : before.job.loaded = true → before.plist.isSome = true) (absent : host.job = .absent)
    (ours : Ours host.plist) (whole : host.plist = before.plist) :
    ∃ left, (restorePrevious run plan).run host = (.ok true,left) ∧ Recovered before left := by
  obtain ⟨found,same,_,ran⟩ := artifactSnapshot_ours ours
  have answers : ((restorePrevious run plan).run host).1 = .ok true := by
    unfold restorePrevious
    rw [run_attempt_bind,ran,quiet,if_neg Bool.false_ne_true]
    dsimp only
    have read : found = plan.previous := by
      have files : found.map ArtifactSnapshot.file = plan.previous.map ArtifactSnapshot.file :=
        same.symm.trans (whole.trans described.plist)
      refine Option.map_injective (fun one other equal => ?_) files
      obtain ⟨content,mode⟩ := one
      cases equal
      rfl
    rw [if_pos (show (Except.ok found : Except DarwinRaised _).toOption.join = plan.previous from read)]
    exact restoreManager_quiet quiet described absent (fun more => ⟨loadable more,whole ▸ present more⟩)
  have ended : (restorePrevious run plan).run host = (.ok true,_) := Prod.ext answers rfl
  exact ⟨_,ended,restorePrevious_true described absent (fun none => whole.trans (by rw [described.plist,none]; rfl)) ended⟩

theorem rollbackInstall_quiet (quiet : ∀ point, run.recovery point = false) {plan : RestorationPlan β}
    (described : Describes plan.previous plan.previousState before) (managed : requireManaged plan.previous = .ok ())
    (loadable : Loadable before) (present : before.job.loaded = true → before.plist.isSome = true)
    (candidate : host.job.loaded = true → plan.unloadCandidate = true) (ours : Ours host.plist) :
    ∃ left, (rollbackInstall run plan).run host = (.ok true,left) ∧ Recovered before left := by
  have put : Ours (plan.previous.map ArtifactSnapshot.file) := ours_iff.mpr managed
  obtain ⟨left,ran,recovered⟩ := @restorePrevious_quiet β
    {host with job := .absent, plist := plan.previous.map ArtifactSnapshot.file} before run _ _ quiet plan described loadable
    present rfl put described.plist.symm
  refine ⟨left,?_,recovered⟩
  unfold rollbackInstall
  rw [run_bind,quiet,quiet,unload_quiet candidate]
  dsimp only
  have wrote : (putBack run plan.previous).run {host with job := .absent} =
      (.ok (),{host with job := .absent, plist := plan.previous.map ArtifactSnapshot.file}) := by
    rw [run_putBack (show Ours (DarwinHost.mk host.plist host.enabled .absent).plist from ours) managed,quiet]
    rfl
  rw [run_attempt_bind,wrote]
  dsimp only
  rw [if_neg (fun same => nomatch same),run_bind,ran]
  rfl

end rollback

end Proactive.Cli.Darwin
