import Proactive.Cli.DarwinRollback

/-! What the macOS actions leave behind: the service of before when a change fails, what was asked for
when it succeeds, and a service of someone else in either case. -/
namespace Proactive.Cli.Darwin
open Proactive.Library Statement

variable {β : Type} {host before left : DarwinHost β} {run : DarwinRun}

section candidate
variable [Plistlib β]

/-- A snapshot reports launchd's state. -/
structure Shows (snapshot : DarwinServiceSnapshot) (host : DarwinHost β) : Prop where
  enabled : snapshot.enabled = host.enabled
  loaded : snapshot.loaded = host.job.loaded
  active : snapshot.active = host.job.active

omit [Plistlib β] in
theorem artifactSnapshot_host (fails : Bool) : ((artifactSnapshot fails).run host).2 = host := by rw [run_artifactSnapshot]

omit [Plistlib β] in
theorem artifactSnapshot_ends (fails : Bool) : Ends (artifactSnapshot fails) host (fun outcome left =>
    left = host ∧ ∀ found, outcome = .ok found → host.plist = found.map ArtifactSnapshot.file) := by
  refine ends_iff.mpr (fun outcome left ran => ⟨(congrArg Prod.snd ran).symm.trans (artifactSnapshot_host _),?_⟩)
  exact fun found same => (artifactSnapshot_ok_iff.mp (same ▸ ran)).2.2

omit [Plistlib β] in
theorem inspect_host (fails : Bool) (pid : Nat) : ((inspect fails pid).run host).2 = host := by rw [run_inspect]

omit [Plistlib β] in
theorem inspect_ends (fails : Bool) (pid : Nat) : Ends (inspect fails pid) host (fun outcome left =>
    left = host ∧ (inspect fails pid).run host = (outcome,left)) :=
  ends_iff.mpr (fun _ _ ran => ⟨(congrArg Prod.snd ran).symm.trans (inspect_host _ _),ran⟩)

omit [Plistlib β] in
theorem ofExcept_host {α : Type} (outcome : Except DarwinRaised α) :
    ((ofExcept outcome : Darwin β α).run host).2 = host := by
  cases outcome with
  | error raised => rfl
  | ok value => rfl

theorem takeSnapshot_host (poll : Poll) : ((takeSnapshot poll).run host).2 = host := by
  unfold takeSnapshot
  refine run_bind_unchanged (artifactSnapshot_host _) (fun content => ?_)
  refine run_bind_unchanged (ofExcept_host _) (fun managed => ?_)
  exact run_bind_unchanged (inspect_host _ _) (fun _ => rfl)

theorem takeSnapshot_shows {poll : Poll} {snapshot : DarwinServiceSnapshot}
    (ran : (takeSnapshot poll).run host = (.ok snapshot,left)) : left = host ∧ Shows snapshot host := by
  unfold takeSnapshot at ran
  obtain ⟨content,one,read,rest⟩ := bind_success _ _ _ _ _ ran
  obtain ⟨_,rfl,_⟩ := artifactSnapshot_ok_iff.mp read
  obtain ⟨managed,two,known,more⟩ := bind_success _ _ _ _ _ rest
  obtain ⟨_,rfl⟩ := ofExcept_success known
  obtain ⟨state,three,inspected,last⟩ := bind_success _ _ _ _ _ more
  rw [run_inspect] at inspected
  cases lost : poll.inspectFails with
  | true =>
    rw [lost] at inspected
    cases inspected
  | false =>
    rw [lost] at inspected
    cases inspected
    cases last
    exact ⟨rfl,rfl,rfl,rfl⟩

/-- While the candidate is watched, only its process comes and goes. -/
structure Watched (host left : DarwinHost β) : Prop where
  plist : left.plist = host.plist
  enabled : left.enabled = host.enabled
  loaded : left.job.loaded = host.job.loaded

omit [Plistlib β] in
theorem Watched.settle (running : Bool) : Watched host (settle running host) := by
  unfold Darwin.settle
  cases loaded : host.job.loaded with
  | false => exact ⟨rfl,rfl,rfl⟩
  | true =>
    refine ⟨rfl,rfl,?_⟩
    rw [loaded]
    cases running with
    | false => rfl
    | true => rfl

omit [Plistlib β] in
theorem Watched.trans {middle : DarwinHost β} (first : Watched host middle) (second : Watched middle left) :
    Watched host left :=
  ⟨second.plist.trans first.plist,second.enabled.trans first.enabled,second.loaded.trans first.loaded⟩

/-- The wait returns the last look at the candidate, whichever ends it. -/
theorem waitForReady_ends (poll : Poll) (later : List Poll) : Ends (waitForReady poll later) host (fun outcome left =>
    Watched host left ∧ ∀ snapshot, outcome = .ok snapshot → Shows snapshot left) := by
  have looks (poll : Poll) (host : DarwinHost β) : Ends (takeSnapshot poll) host (fun outcome left =>
      left = host ∧ ∀ snapshot, outcome = .ok snapshot → Shows snapshot left) := by
    refine ends_iff.mpr (fun outcome left ran => ?_)
    have kept : left = host := (congrArg Prod.snd ran).symm.trans (takeSnapshot_host poll)
    refine ⟨kept,fun snapshot same => ?_⟩
    rw [kept]
    exact (takeSnapshot_shows (same ▸ ran)).2
  induction later generalizing poll host with
  | nil =>
    rw [waitForReady,ends_bind,ends_update,before_ok]
    refine (looks poll (settle poll.running host)).mono (fun outcome left shown => ?_)
    obtain ⟨rfl,shown⟩ := shown
    exact ⟨Watched.settle _,shown⟩
  | cons next later ih =>
    rw [waitForReady,ends_bind,ends_update,before_ok]
    refine (looks poll (settle poll.running host)).bind (fun snapshot left shown => ?_) (fun raised left shown => ?_)
    · obtain ⟨rfl,shown⟩ := shown
      split
      · exact ⟨Watched.settle _,fun other same => Except.ok.inj same ▸ shown snapshot rfl⟩
      · exact (ih next).mono (fun outcome left watched => ⟨(Watched.settle _).trans watched.1,watched.2⟩)
    · obtain ⟨rfl,_⟩ := shown
      exact ⟨Watched.settle _,fun _ same => nomatch same⟩

/-- Where a replacement of the artifact stands: what is in place is ours, a loaded candidate is known
as such, and a candidate that was waited for is the rendered one. -/
def Midway (rendered : β) (candidate : Except ServiceCode DarwinServiceSnapshot) (bootstrapped : Bool)
    (left : DarwinHost β) : Prop :=
  Ours left.plist ∧ (left.job.loaded = true → bootstrapped = true) ∧
    ∀ snapshot, candidate = .ok snapshot → Shows snapshot left ∧ left.plist = some ⟨rendered,privateMode,true⟩

/-- What the `except` clauses are left with. -/
def Halfway (rendered : β) (bootstrapped : Bool) :
    Except DarwinRaised (Except ServiceCode DarwinServiceSnapshot × Bool) → DarwinHost β → Prop
  | .ok (candidate,known),left => Midway rendered candidate known left
  | .error raised,left =>
    raised ≠ .expatError → Ours left.plist ∧ (left.job.loaded = true → bootstrapped = true)

/-- What they leave: only markup that is broken off goes on. -/
def Reached (rendered : β) :
    Except DarwinRaised (Except ServiceCode DarwinServiceSnapshot × Bool) → DarwinHost β → Prop
  | .ok (candidate,known),left => Midway rendered candidate known left
  | .error raised,_ => raised = .expatError

theorem orFailure_ends {rendered : β} {bootstrapped : Bool}
    {body : Darwin β (Except ServiceCode DarwinServiceSnapshot × Bool)}
    (ends : Ends body host (Halfway rendered bootstrapped)) :
    Ends (orFailure bootstrapped body) host (Reached rendered) := by
  unfold orFailure
  refine (ends_attempt_bind _ _).mpr (ends.mono (fun outcome left held => ?_))
  cases outcome with
  | ok result => exact held
  | error raised =>
    cases raised with
    | osError => exact ⟨(held (fun same => nomatch same)).1,(held (fun same => nomatch same)).2,fun _ same => nomatch same⟩
    | valueError => exact ⟨(held (fun same => nomatch same)).1,(held (fun same => nomatch same)).2,fun _ same => nomatch same⟩
    | expatError => rfl

theorem startAndWait_ends {rendered : β} (managed : isManagedLaunchAgent rendered = .ok true)
    (whole : host.plist = some ⟨rendered,privateMode,true⟩) :
    Ends (startAndWait run) host (Halfway rendered true) := by
  have ours {left : DarwinHost β} (same : left.plist = host.plist) : Ours left.plist := by
    rw [same,whole]
    rintro one present
    obtain rfl := Option.some.inj present
    exact ⟨rfl,managed⟩
  have inspected : Ends (inspect (run.fails .inspectStarted) 0) host (fun _ left => left = host) := inspect_host _ _
  unfold startAndWait
  refine inspected.bind (fun state left same => ?_) (fun raised left same _ => ?_)
  · subst same
    have started : Ends (ensureStarted (run.fails .kickstart) state.active) left (fun outcome after =>
        after.plist = left.plist ∧ ∃ answer, outcome = .ok answer) := by
      unfold ensureStarted
      split
      · exact ⟨rfl,true,rfl⟩
      · refine ends_iff.mpr (fun outcome after ran => ?_)
        rw [run_kickstart] at ran
        split at ran
        · cases ran
          exact ⟨rfl,true,rfl⟩
        · cases ran
          exact ⟨rfl,false,rfl⟩
    refine started.bind (fun answer middle kept => ?_) (fun raised middle kept => ?_)
    · cases answer with
      | false => exact ⟨ours kept.1,fun _ => rfl,fun _ same => nomatch same⟩
      | true =>
        refine (waitForReady_ends run.readings.first run.readings.later).bind (fun snapshot last watched => ?_)
          (fun raised last watched _ => ⟨ours (watched.1.plist.trans kept.1),fun _ => rfl⟩)
        refine ⟨ours (watched.1.plist.trans kept.1),fun _ => rfl,fun other same => ?_⟩
        obtain rfl := Except.ok.inj same
        exact ⟨watched.2 _ rfl,(watched.1.plist.trans kept.1).trans whole⟩
    · obtain ⟨_,answer,same⟩ := kept
      cases same
  · subst same
    exact ⟨ours rfl,fun _ => rfl⟩

theorem writeLaunchAgentArtifact_error {fails : Bool} {content : β} {mode : Nat} {raised : DarwinRaised}
    (ran : (writeLaunchAgentArtifact fails content mode).run host = (.error raised,left)) : left = host := by
  have kept : Ends (writeLaunchAgentArtifact fails content mode) host (fun outcome left =>
      ∀ raised, outcome = .error raised → left = host) := by
    unfold writeLaunchAgentArtifact
    have checked (artifact : Option (ArtifactSnapshot β)) : Ends (ofExcept (requireManaged artifact) : Darwin β Unit) host
        (fun _ left => left = host) := ofExcept_host _
    have read : Ends (artifactSnapshot fails) host (fun _ left => left = host) := artifactSnapshot_host _
    refine (checked _).bind (fun _ left same => ?_) (fun _ left same _ _ => same)
    subst same
    refine read.bind (fun found left same => ?_) (fun _ left same _ _ => same)
    subst same
    refine (checked _).bind (fun _ left same => ?_) (fun _ left same _ _ => same)
    exact fun _ same => nomatch same
  exact kept.result ran raised rfl

theorem replaceAndWait_ends {rendered : β} (ours : Ours host.plist) (absent : host.job = .absent) :
    Ends (replaceAndWait run rendered) host (Reached rendered) := by
  have unloaded {left : DarwinHost β} (same : left.job = host.job) : left.job.loaded = true → false = true := by
    rw [same,absent]
    exact id
  unfold replaceAndWait
  refine @orFailure_ends β host _ rendered false _ ?_
  cases run.fails .makeParent with
  | true => exact fun _ => ⟨ours,unloaded rfl⟩
  | false =>
    have wrote : Ends (writeLaunchAgentArtifact (run.fails .writePlist) rendered privateMode) host (fun outcome left =>
        (outcome = .ok () → left = {host with plist := some ⟨rendered,privateMode,true⟩} ∧
          isManagedLaunchAgent rendered = .ok true) ∧ ∀ raised, outcome = .error raised → left = host) :=
      ends_iff.mpr (fun outcome left ran => ⟨fun same => writeLaunchAgentArtifact_ok (same ▸ ran),
        fun raised same => writeLaunchAgentArtifact_error (same ▸ ran)⟩)
    refine wrote.bind (fun _ left kept => ?_) (fun raised left kept _ => ?_)
    · obtain ⟨rfl,managed⟩ := kept.1 rfl
      have ours : Ours (some ⟨rendered,privateMode,true⟩ : Option (PlistFile β)) := by
        rintro one present
        obtain rfl := Option.some.inj present
        exact ⟨rfl,managed⟩
      rw [ends_bind,ends_of_run (run_enable _),before_ok]
      cases run.fails .enable with
      | true => exact ⟨ours,unloaded rfl,fun _ same => nomatch same⟩
      | false =>
        rw [Bool.not_false,Bool.not_true,if_neg Bool.false_ne_true,if_neg Bool.false_ne_true,ends_bind]
        unfold Ends
        rw [run_bootstrap]
        split
        · have waits := orFailure_ends (@startAndWait_ends β ⟨some ⟨rendered,privateMode,true⟩,true,
            .started run.readings.runsAtLoad⟩ run _ rendered managed rfl)
          have falls : Ends (orFailure true (startAndWait run)) _ (Halfway rendered false) :=
            waits.mono (fun outcome left reached => by
              cases outcome with
              | ok result => exact reached
              | error raised => exact fun other => absurd reached other)
          exact falls
        · exact ⟨ours,unloaded rfl,fun _ same => nomatch same⟩
    · obtain rfl := kept.2 raised rfl
      exact ⟨ours,unloaded rfl⟩

end candidate

section served
variable {done : DarwinHost β → Prop}

/-- What an action does for the service of before: a success is what it reports, and a failure takes
itself back, where no call of the rollback fails and launchd can load the service again. -/
structure Served (run : DarwinRun) (before : DarwinHost β) (done : DarwinHost β → Prop)
    (outcome : Except DarwinRaised (ServiceResponse × Bool)) (left : DarwinHost β) : Prop where
  done : ∀ reply, outcome = .ok (reply,true) → done left
  recovered : outcome ≠ .error .expatError → (∀ reply, outcome ≠ .ok (reply,true)) →
    (∀ point, run.recovery point = false) → Loadable before → Recovered before left

theorem Served.refused (reply : ServiceResponse) : Served run before done (.ok (reply,false)) before :=
  ⟨fun _ same => (nomatch (Prod.mk.inj (Except.ok.inj same)).2),fun _ _ _ _ => .refl before⟩

theorem Served.raised (raised : DarwinRaised) : Served run before done (.error raised) before :=
  ⟨fun _ same => (nomatch same),fun _ _ _ _ => .refl before⟩

theorem Served.succeeded {reply : ServiceResponse} (holds : done left) : Served run before done (.ok (reply,true)) left :=
  ⟨fun _ _ => holds,fun _ fails => absurd rfl (fails reply)⟩

/-- An action that restores and then reports a failure. -/
theorem served_failure {restore : Darwin β Bool} {action : ServiceAction} {code : ServiceCode}
    (restores : (∀ point, run.recovery point = false) → Loadable before →
      ∃ left, restore.run host = (.ok true,left) ∧ Recovered before left) :
    Ends (restore >>= fun _ => pure (failure action code)) host (Served run before done) := by
  refine ends_iff.mpr (fun outcome left ran => ?_)
  rw [run_bind] at ran
  cases restored : restore.run host with
  | mk answer after =>
    rw [restored] at ran
    have same (quiet : ∀ point, run.recovery point = false) (loadable : Loadable before) :
        answer = .ok true ∧ Recovered before after := by
      obtain ⟨other,again,recovered⟩ := restores quiet loadable
      cases restored.symm.trans again
      exact ⟨rfl,recovered⟩
    cases answer with
    | error raised =>
      cases ran
      exact ⟨fun _ same => (nomatch same),fun _ _ quiet loadable => (nomatch (same quiet loadable).1)⟩
    | ok value =>
      cases ran
      exact ⟨fun _ same => (nomatch (Prod.mk.inj (Except.ok.inj same)).2),fun _ _ quiet loadable => (same quiet loadable).2⟩

/-- The rendered plist is in place, and its service runs. A plist that has this content already, of a service
that is ready, stays as it is; any other is written anew. -/
def Installed (rendered : β) (before left : DarwinHost β) : Prop :=
  (left.plist = some ⟨rendered,privateMode,true⟩ ∨
    left.plist = before.plist ∧ before.plist.map PlistFile.content = some rendered) ∧
  left.enabled = true ∧ left.job = .running

theorem Shows.installed {snapshot : DarwinServiceSnapshot} {rendered : β} (shown : Shows snapshot left)
    (whole : left.plist = some ⟨rendered,privateMode,true⟩ ∨
      left.plist = before.plist ∧ before.plist.map PlistFile.content = some rendered)
    (ready : (snapshot.enabled && snapshot.loaded && snapshot.active) = true) : Installed rendered before left := by
  rw [Bool.and_eq_true,Bool.and_eq_true] at ready
  obtain ⟨⟨enabled,_⟩,active⟩ := ready
  refine ⟨whole,shown.enabled.symm.trans enabled,?_⟩
  rw [shown.active] at active
  cases job : left.job with
  | absent =>
    rw [job] at active
    cases active
  | waiting =>
    rw [job] at active
    cases active
  | running => rfl

variable [DecidableEq β] [Plistlib β]

theorem replaceInstalled_ends {plan : InstallPlan β} (described : Describes plan.previous plan.previousState before)
    (managed : requireManaged plan.previous = .ok ()) (present : before.job.loaded = true → before.plist.isSome = true) :
    Ends (replaceInstalled run plan) before (Served run before (Installed plan.rendered before)) := by
  have known (more : before.job.loaded = true) : plan.previousState.loaded = true := described.loaded.trans more
  unfold replaceInstalled
  refine (unload_ends known).bind (fun answer middle kept => ?_) (fun raised middle kept => ?_)
  · rcases kept with ⟨same,rfl⟩ | ⟨same,rfl⟩
    · obtain rfl := Except.ok.inj same
      have ours : Ours before.plist := described.plist ▸ ours_iff.mpr managed
      have waits := @replaceAndWait_ends β {before with job := .absent} run _ plan.rendered ours rfl
      refine waits.bind (fun reached left halfway => ?_) (fun raised left halfway => ?_)
      · obtain ⟨candidate,bootstrapped⟩ := reached
        obtain ⟨placed,loaded,shown⟩ := halfway
        have rolls {code : ServiceCode} : Ends (rollbackInstall run ⟨plan.previous,plan.previousState,bootstrapped⟩ >>=
            fun _ => pure (failure .install code)) left (Served run before (Installed plan.rendered before)) := by
          refine served_failure (fun quiet loadable => ?_)
          exact rollbackInstall_quiet quiet described managed loadable present loaded placed
        cases candidate with
        | error code => exact rolls
        | ok snapshot =>
          obtain ⟨shows,whole⟩ := shown snapshot rfl
          dsimp only
          cases unready : readinessFailure snapshot with
          | some code => exact rolls
          | none =>
            refine Served.succeeded (shows.installed (Or.inl whole) ?_)
            unfold readinessFailure at unready
            split at unready
            · cases unready
            · rename_i ready
              rwa [Bool.not_eq_true,Bool.not_eq_false'] at ready
      · exact ⟨fun _ same => (nomatch same),fun other _ _ _ => absurd (congrArg Except.error halfway) other⟩
    · obtain rfl := Except.ok.inj same
      exact Served.refused _
  · rcases kept with ⟨same,_⟩ | ⟨same,_⟩
    · cases same
    · cases same

/-- What `_prepare_install` has found out when it goes on. -/
structure Prepared (run : DarwinRun) (database : String) (before : DarwinHost β) (plan : InstallPlan β) : Prop where
  described : Describes plan.previous plan.previousState before
  managed : requireManaged plan.previous = .ok ()
  present : before.job.loaded = true → before.plist.isSome = true
  rendered : ∃ executable, run.readings.executable = some executable ∧
    renderLaunchAgent run.readings.isFormat executable database = .ok plan.rendered

omit [DecidableEq β] in
theorem ownedContent_true {previous : Option (ArtifactSnapshot β)} (owned : ownedContent previous = .ok true) :
    requireManaged previous = .ok () := by
  cases previous with
  | none => rfl
  | some artifact => exact requireManaged_ok_iff.mpr owned

omit [DecidableEq β] [Plistlib β] in
theorem Describes.of_read {fails : Bool} {previous : Option (ArtifactSnapshot β)} {state : LaunchdState}
    (whole : before.plist = previous.map ArtifactSnapshot.file)
    (inspected : (inspect fails 0).run before = (.ok state,left)) : Describes previous state before := by
  rw [run_inspect] at inspected
  cases fails with
  | true => cases inspected
  | false =>
    cases inspected
    exact ⟨whole,rfl,rfl,rfl⟩

omit [DecidableEq β] in
theorem prepareInstall_ends {database : String} : Ends (prepareInstall run database) before (fun outcome left =>
    left = before ∧ ∀ plan, outcome = .ok (.ok plan) → Prepared run database before plan) := by
  unfold prepareInstall
  cases executable : run.readings.executable with
  | none => exact ⟨rfl,fun _ same => nomatch same⟩
  | some path =>
    refine (artifactSnapshot_ends _).bind (fun previous left kept => ?_) (fun _ _ kept => ⟨kept.1,fun _ same => nomatch same⟩)
    obtain ⟨rfl,whole⟩ := kept
    have whole := whole previous rfl
    refine (ends_bind _ _).mpr ((ends_ofExcept _).mpr ?_)
    cases owned : ownedContent previous with
    | error raised => exact ⟨rfl,fun _ same => nomatch same⟩
    | ok managed =>
      cases managed with
      | false => exact ⟨rfl,fun _ same => nomatch same⟩
      | true =>
        rw [before_ok,Bool.not_true,if_neg Bool.false_ne_true]
        refine (inspect_ends _ _).bind (fun state left inspected => ?_)
          (fun _ _ inspected => ⟨inspected.1,fun _ same => nomatch same⟩)
        obtain ⟨rfl,ran⟩ := inspected
        have described := Describes.of_read whole ran
        split
        · exact ⟨rfl,fun _ same => nomatch same⟩
        · rename_i loadless
          refine (ends_bind _ _).mpr ((ends_ofExcept _).mpr ?_)
          cases rendered : (renderLaunchAgent run.readings.isFormat path database : Except DarwinRaised β) with
          | error raised => exact ⟨rfl,fun _ same => nomatch same⟩
          | ok content =>
            refine ⟨rfl,fun plan same => ?_⟩
            have planned : InstallPlan.mk previous state content = plan := Except.ok.inj (Except.ok.inj same)
            subst planned
            refine ⟨described,ownedContent_true owned,fun loaded => ?_,path,executable,rendered⟩
            rw [whole,Option.isSome_map]
            cases previous with
            | some artifact => rfl
            | none => exact absurd (described.loaded.trans loaded) loadless

/-- What a success of an action is. -/
def Done (run : DarwinRun) (before : DarwinHost β) : ServiceAction → DarwinHost β → Prop
  | .install,left => ∃ executable database rendered, run.readings.executable = some executable ∧
      run.readings.database = .ok database ∧
      renderLaunchAgent run.readings.isFormat executable database = .ok rendered ∧ Installed rendered before left
  | .status,left => left = before
  | .remove,left => left.plist = none ∧ left.job = .absent

omit [Plistlib β] [DecidableEq β] in
theorem Served.weaken {other : DarwinHost β → Prop} {outcome : Except DarwinRaised (ServiceResponse × Bool)}
    (served : Served run before done outcome left) (implies : ∀ left, done left → other left) :
    Served run before other outcome left :=
  ⟨fun reply same => implies left (served.done reply same),served.recovered⟩

theorem install_ends {database : String} (located : run.readings.database = .ok database) :
    Ends (install run database) before (Served run before (Done run before .install)) := by
  unfold install
  refine prepareInstall_ends.bind (fun prepared left kept => ?_) (fun raised left kept => ?_)
  · obtain ⟨rfl,prepares⟩ := kept
    cases prepared with
    | error response => exact Served.refused response
    | ok plan =>
      obtain ⟨described,managed,present,executable,found,rendered⟩ := prepares plan rfl
      have replaces : Ends (replaceInstalled run plan) left (Served run left (Done run left .install)) :=
        (replaceInstalled_ends described managed present).mono (fun _ _ served => served.weaken
          (fun _ installed => ⟨executable,database,plan.rendered,found,located,rendered,installed⟩))
      dsimp only
      split
      · rename_i same
        refine Ends.bind (ends_iff.mpr (fun _ _ ran => ran)) (fun snapshot middle ran => ?_) (fun raised middle ran => ?_)
        · obtain ⟨rfl,shows⟩ := takeSnapshot_shows ran
          split
          · rename_i ready
            refine Served.succeeded ⟨executable,database,plan.rendered,found,located,rendered,shows.installed (Or.inr ⟨rfl,?_⟩) ?_⟩
            · rw [described.plist,Option.map_map]
              exact same
            · unfold installReady at ready
              rw [Bool.and_eq_true,Bool.and_eq_true,Bool.and_eq_true,Bool.and_eq_true] at ready
              rw [ready.1.1.1.2,ready.1.1.2,ready.1.2]
              rfl
          · exact replaces
        · obtain rfl : middle = left := (congrArg Prod.snd ran).symm.trans (takeSnapshot_host _)
          exact Served.raised raised
      · exact replaces
  · obtain ⟨rfl,_⟩ := kept
    exact Served.raised raised

theorem removeManaged_ends {previous : ArtifactSnapshot β} {state : LaunchdState}
    (described : Describes (some previous) state before) (managed : requireManaged (some previous) = .ok ()) :
    Ends (removeManaged run previous state) before (Served run before (Done run before .remove)) := by
  have ours : Ours before.plist := described.plist ▸ ours_iff.mpr managed
  have restores {host : DarwinHost β} {code : ServiceCode} (absent : host.job = .absent) (whole : host.plist = before.plist) :
      Ends (restorePrevious run ⟨some previous,state,false⟩ >>= fun _ => pure (failure .remove code)) host
        (Served run before (Done run before .remove)) :=
    served_failure (fun quiet loadable =>
      @restorePrevious_quiet β host before run _ _ quiet ⟨some previous,state,false⟩ described loadable
        (fun _ => described.plist ▸ rfl) absent (whole.symm ▸ ours) whole)
  unfold removeManaged
  refine (unload_ends described.loaded.trans).bind (fun answer middle kept => ?_) (fun raised middle kept => ?_)
  · rcases kept with ⟨same,rfl⟩ | ⟨same,rfl⟩
    · obtain rfl := Except.ok.inj same
      rw [Bool.not_true,if_neg Bool.false_ne_true,ends_bind,ends_of_run (run_disable _),before_ok]
      cases run.fails .disable with
      | true => exact restores rfl rfl
      | false =>
        have deletes := @run_deleteLaunchAgentArtifact β ⟨before.plist,false,.absent⟩ _ (run.fails .deletePlist) ours
        rw [Bool.not_false,Bool.not_true,if_neg Bool.false_ne_true,if_neg Bool.false_ne_true,ends_attempt_bind,Ends,
          deletes]
        cases run.fails .deletePlist with
        | true => exact restores rfl rfl
        | false => exact Served.succeeded ⟨rfl,rfl⟩
    · obtain rfl := Except.ok.inj same
      exact Served.refused _
  · rcases kept with ⟨same,_⟩ | ⟨same,_⟩
    · cases same
    · cases same

theorem remove_ends : Ends (remove run) before (Served run before (Done run before .remove)) := by
  unfold remove
  refine (artifactSnapshot_ends _).bind (fun previous left read => ?_) (fun raised left read => read.1 ▸ Served.raised raised)
  obtain ⟨rfl,whole⟩ := read
  have whole := whole previous rfl
  refine (inspect_ends _ _).bind (fun state left inspected => ?_)
    (fun raised left inspected => inspected.1 ▸ Served.raised raised)
  obtain ⟨rfl,ran⟩ := inspected
  have described := Describes.of_read whole ran
  cases previous with
  | none =>
    dsimp only
    split
    · exact Served.refused _
    · rename_i unloaded
      refine Served.succeeded ⟨whole,Job.loaded_eq_false.mp ?_⟩
      rwa [described.loaded,Bool.not_eq_true] at unloaded
  | some artifact =>
    refine (ends_bind _ _).mpr ((ends_ofExcept _).mpr ?_)
    cases managed : isManagedLaunchAgent artifact.content with
    | error raised => exact Served.raised raised
    | ok owned =>
      cases owned with
      | false => exact Served.refused _
      | true => exact removeManaged_ends described (requireManaged_ok_iff.mpr managed)

omit [DecidableEq β] in
theorem status_host : ((status run).run host).2 = host := by
  unfold status
  refine run_bind_unchanged (artifactSnapshot_host _) (fun artifact => run_bind_unchanged (inspect_host _ _) (fun state => ?_))
  split
  · split
    · rfl
    · rfl
  · refine run_bind_unchanged (ofExcept_host _) (fun managed => ?_)
    split
    · rfl
    · exact run_bind_unchanged (takeSnapshot_host _) (fun _ => rfl)

theorem perform_ends (action : ServiceAction) : Ends (perform run action) before (Served run before (Done run before action)) := by
  unfold perform
  refine (ends_bind _ _).mpr ((ends_ofExcept _).mpr ?_)
  cases located : run.readings.database with
  | error raised => exact Served.raised raised
  | ok database =>
    cases action with
    | install => exact install_ends located
    | status =>
      refine ends_iff.mpr (fun outcome left ran => ?_)
      obtain rfl : left = before := (congrArg Prod.snd ran).symm.trans status_host
      exact ⟨fun _ _ => rfl,fun _ _ _ _ => .refl _⟩
    | remove => exact remove_ends

/-- What `execute_service` returns, and the outcome of the action that it is made of. -/
theorem execute_ends (action : ServiceAction) : Ends (execute run action) before (fun outcome left =>
    ∀ result, outcome = .ok result → ∃ performed, Served run before (Done run before action) performed left ∧
      performed ≠ .error .expatError ∧ (result.success = true → ∃ reply, performed = .ok (reply,true)) ∧
        (result.success = false → ∀ reply, performed ≠ .ok (reply,true))) := by
  unfold execute
  refine (ends_attempt_bind _ _).mpr ((perform_ends action).mono (fun performed left served => ?_))
  cases performed with
  | ok reply =>
    obtain ⟨response,success⟩ := reply
    intro result same
    obtain rfl := Except.ok.inj same
    refine ⟨_,served,fun same => (nomatch same),fun good => ⟨response,?_⟩,fun bad reply same => ?_⟩
    · dsimp only at good
      rw [good]
    · obtain ⟨_,rfl⟩ := Prod.mk.inj (Except.ok.inj same)
      cases bad
  | error raised =>
    cases raised with
    | osError =>
      intro result same
      obtain rfl := Except.ok.inj same
      exact ⟨_,served,fun same => (nomatch same),fun good => (nomatch good),fun _ _ same => (nomatch same)⟩
    | valueError =>
      intro result same
      obtain rfl := Except.ok.inj same
      exact ⟨_,served,fun same => (nomatch same),fun good => (nomatch good),fun _ _ same => (nomatch same)⟩
    | expatError => exact fun _ same => nomatch same

/-- A change that fails leaves the service of before, when no call of its rollback fails; launchd must
be able to load it again, which it is not for a service that was loaded and disabled. -/
theorem execute_recovers (run : DarwinRun) (action : ServiceAction) (before left : DarwinHost β)
    (result : ServiceCommandResult) (quiet : ∀ point, run.recovery point = false) (loadable : Loadable before)
    (ran : (execute run action).run before = (.ok result,left)) (failed : result.success = false) :
    Recovered before left := by
  obtain ⟨performed,served,caught,_,fails⟩ := (execute_ends action).result ran result rfl
  exact served.recovered caught (fails failed) quiet loadable

/-- A loaded service is unloaded for an install that cannot be seen to start, and is loaded again. -/
theorem execute_recovers_loaded :
    let run := sampleRun (fun point => point == .inspectStarted) (fun _ => false)
    let before : DarwinHost String := ⟨some ⟨"rendered",0o600,true⟩,true,.waiting⟩
    ∃ result left, (@execute String _ sampleLibrary run .install).run before = (.ok result,left) ∧
      result.success = false ∧ Recovered before left := by
  intro run before
  have ran : (@execute String _ sampleLibrary run .install).run before =
      (.ok ⟨emptyResponse .install .failed (some .ioFailed),false⟩,⟨some ⟨"rendered",0o600,true⟩,true,.running⟩) := by
    rfl
  exact ⟨_,_,ran,rfl,@execute_recovers String _ sampleLibrary run .install before _ _ (fun _ => rfl) (fun _ => rfl) ran rfl⟩

/-- A success is what it reports, whatever failed on the way. -/
theorem execute_done (run : DarwinRun) (action : ServiceAction) (before left : DarwinHost β)
    (result : ServiceCommandResult) (ran : (execute run action).run before = (.ok result,left))
    (succeeded : result.success = true) : Done run before action left := by
  obtain ⟨performed,served,_,succeeds,_⟩ := (execute_ends action).result ran result rfl
  obtain ⟨reply,same⟩ := succeeds succeeded
  exact served.done reply same

theorem execute_done_fresh :
    let run := sampleRun (fun _ => false) (fun _ => true)
    ∃ result left, (@execute String _ sampleLibrary run .install).run ⟨none,false,.absent⟩ = (.ok result,left) ∧
      @Done String sampleLibrary run ⟨none,false,.absent⟩ .install left := by
  intro run
  have ran : ((@execute String _ sampleLibrary run .install).run ⟨none,false,.absent⟩).1.toOption.any
      ServiceCommandResult.success = true := by
    rfl
  obtain ⟨result,left,ended,succeeded⟩ := run_ok_of_any ran
  exact ⟨result,left,ended,@execute_done String _ sampleLibrary run .install _ left result ended succeeded⟩

end served

section foreign
variable [DecidableEq β] [Plistlib β]

/-- A file that is unsafe or lacks this service's label and marker, or a job that was loaded without a file. -/
def Foreign (host : DarwinHost β) : Prop :=
  (∃ file, host.plist = some file ∧ (file.safe = false ∨ isManagedLaunchAgent file.content ≠ .ok true)) ∨
    host.plist = none ∧ host.job.loaded = true

/-- The host is left alone, and no success is claimed. -/
def Untouched (host : DarwinHost β) (outcome : Except DarwinRaised (ServiceResponse × Bool)) (left : DarwinHost β) : Prop :=
  left = host ∧ ∀ reply, outcome ≠ .ok (reply,true)

omit [DecidableEq β] [Plistlib β] in
theorem Untouched.refused (reply : ServiceResponse) : Untouched host (.ok (reply,false)) host :=
  ⟨rfl,fun _ same => nomatch (Prod.mk.inj (Except.ok.inj same)).2⟩

omit [DecidableEq β] [Plistlib β] in
theorem Untouched.raised (raised : DarwinRaised) : Untouched host (.error raised) host := ⟨rfl,fun _ same => nomatch same⟩

omit [DecidableEq β] in
theorem artifactSnapshot_foreign (foreign : Foreign host) (fails : Bool) :
    Ends (artifactSnapshot fails) host (fun outcome left => left = host ∧ ∀ found, outcome = .ok found →
      (∃ artifact, found = some artifact ∧ isManagedLaunchAgent artifact.content ≠ .ok true) ∨
        found = none ∧ host.job.loaded = true) := by
  refine (artifactSnapshot_ends fails).mono (fun outcome left kept => ⟨kept.1,fun found same => ?_⟩)
  have whole := kept.2 found same
  rcases foreign with ⟨file,present,apart⟩ | ⟨absent,loaded⟩
  · rw [present] at whole
    obtain ⟨artifact,rfl,rfl⟩ := Option.map_eq_some_iff.mp whole.symm
    exact Or.inl ⟨artifact,rfl,apart.resolve_left (fun same => nomatch same)⟩
  · rw [absent] at whole
    exact Or.inr ⟨Option.map_eq_none_iff.mp whole.symm,loaded⟩

omit [DecidableEq β] [Plistlib β] in
theorem inspect_loaded {fails : Bool} {pid : Nat} {state : LaunchdState} (loaded : host.job.loaded = true)
    (ran : (inspect fails pid).run host = (.ok state,left)) : state.loaded = true := by
  rw [run_inspect] at ran
  cases fails with
  | true => cases ran
  | false =>
    cases ran
    exact loaded

omit [DecidableEq β] in
/-- A content that is not managed is refused, where it is looked at. -/
theorem foreign_refused {α : Type} {content : β} {next : Bool → Darwin β α} {post : Except DarwinRaised α → DarwinHost β → Prop}
    (foreign : isManagedLaunchAgent content ≠ .ok true) (raises : ∀ raised, post (.error raised) host)
    (refuses : Ends (next false) host post) : Ends (ofExcept (isManagedLaunchAgent content) >>= next) host post := by
  refine (ends_bind _ _).mpr ((ends_ofExcept _).mpr ?_)
  cases managed : isManagedLaunchAgent content with
  | error raised => exact raises raised
  | ok owned =>
    cases owned with
    | false => exact refuses
    | true => exact absurd managed foreign

omit [DecidableEq β] in
theorem prepareInstall_foreign {database : String} (foreign : Foreign host) :
    Ends (prepareInstall run database) host (fun outcome left => left = host ∧ ∀ plan, outcome ≠ .ok (.ok plan)) := by
  unfold prepareInstall
  cases run.readings.executable with
  | none => exact ⟨rfl,fun _ same => nomatch same⟩
  | some path =>
    refine (artifactSnapshot_foreign foreign _).bind (fun previous left kept => ?_)
      (fun _ _ kept => ⟨kept.1,fun _ same => nomatch same⟩)
    obtain ⟨rfl,found⟩ := kept
    rcases found previous rfl with ⟨artifact,rfl,apart⟩ | ⟨rfl,loaded⟩
    · exact foreign_refused apart (fun _ => ⟨rfl,fun _ same => nomatch same⟩) ⟨rfl,fun _ same => nomatch same⟩
    · rw [ends_bind,ends_ofExcept,ownedContent,before_ok]
      refine (inspect_ends _ _).bind (fun state left inspected => ?_) (fun _ _ kept => ⟨kept.1,fun _ same => nomatch same⟩)
      obtain ⟨rfl,ran⟩ := inspected
      rw [inspect_loaded loaded ran]
      exact ⟨rfl,fun _ same => nomatch same⟩

theorem install_foreign {database : String} (foreign : Foreign host) :
    Ends (install run database) host (Untouched host) := by
  refine (prepareInstall_foreign foreign).bind (fun prepared left kept => ?_) (fun raised left kept => ?_)
  · obtain ⟨rfl,unplanned⟩ := kept
    cases prepared with
    | error response => exact Untouched.refused response
    | ok plan => exact absurd rfl (unplanned plan)
  · obtain ⟨rfl,_⟩ := kept
    exact Untouched.raised raised

omit [DecidableEq β] in
theorem status_foreign (foreign : Foreign host) : Ends (status run) host (Untouched host) := by
  refine (artifactSnapshot_foreign foreign _).bind (fun artifact left kept => ?_) (fun raised left kept => ?_)
  · obtain ⟨rfl,found⟩ := kept
    refine (inspect_ends _ _).bind (fun state left inspected => ?_) (fun raised left inspected => ?_)
    · obtain ⟨rfl,ran⟩ := inspected
      rcases found artifact rfl with ⟨artifact,rfl,apart⟩ | ⟨rfl,loaded⟩
      · exact foreign_refused apart Untouched.raised (Untouched.refused _)
      · rw [inspect_loaded loaded ran]
        exact Untouched.refused _
    · obtain ⟨rfl,_⟩ := inspected
      exact Untouched.raised raised
  · obtain ⟨rfl,_⟩ := kept
    exact Untouched.raised raised

theorem remove_foreign (foreign : Foreign host) : Ends (remove run) host (Untouched host) := by
  refine (artifactSnapshot_foreign foreign _).bind (fun artifact left kept => ?_) (fun raised left kept => ?_)
  · obtain ⟨rfl,found⟩ := kept
    refine (inspect_ends _ _).bind (fun state left inspected => ?_) (fun raised left inspected => ?_)
    · obtain ⟨rfl,ran⟩ := inspected
      rcases found artifact rfl with ⟨artifact,rfl,apart⟩ | ⟨rfl,loaded⟩
      · exact foreign_refused apart Untouched.raised (Untouched.refused _)
      · dsimp only
        rw [inspect_loaded loaded ran]
        exact Untouched.refused _
    · obtain ⟨rfl,_⟩ := inspected
      exact Untouched.raised raised
  · obtain ⟨rfl,_⟩ := kept
    exact Untouched.raised raised

theorem perform_foreign (action : ServiceAction) (foreign : Foreign host) :
    Ends (perform run action) host (Untouched host) := by
  unfold perform
  refine (ends_bind _ _).mpr ((ends_ofExcept _).mpr ?_)
  cases run.readings.database with
  | error raised => exact Untouched.raised raised
  | ok database =>
    cases action with
    | install => exact install_foreign foreign
    | status => exact status_foreign foreign
    | remove => exact remove_foreign foreign

/-- No action changes such a service, whatever fails. -/
theorem execute_foreign (run : DarwinRun) (action : ServiceAction) (before left : DarwinHost β)
    (outcome : Except DarwinRaised ServiceCommandResult) (foreign : Foreign before)
    (ran : (execute run action).run before = (outcome,left)) :
    left = before ∧ ∀ result, outcome = .ok result → result.success = false := by
  have ends : Ends (execute run action) before (fun outcome left =>
      left = before ∧ ∀ result, outcome = .ok result → result.success = false) := by
    unfold execute
    refine (ends_attempt_bind _ _).mpr ((perform_foreign action foreign).mono (fun performed left untouched => ?_))
    obtain ⟨rfl,unclaimed⟩ := untouched
    cases performed with
    | ok reply =>
      obtain ⟨response,success⟩ := reply
      refine ⟨rfl,fun result same => ?_⟩
      obtain rfl := Except.ok.inj same
      exact Bool.eq_false_iff.mpr (fun claimed => unclaimed response (by rw [← claimed]))
    | error raised =>
      cases raised with
      | osError => exact ⟨rfl,fun _ same => Except.ok.inj same ▸ rfl⟩
      | valueError => exact ⟨rfl,fun _ same => Except.ok.inj same ▸ rfl⟩
      | expatError => exact ⟨rfl,fun _ same => nomatch same⟩
  exact ends.result ran

theorem execute_foreign_removal :
    let before : DarwinHost String := ⟨some ⟨"foreign",0o644,true⟩,true,.running⟩
    ∀ outcome left, (@execute String _ sampleLibrary (sampleRun (fun _ => false) (fun _ => false)) .remove).run before =
      (outcome,left) → left = before ∧ ∀ result, outcome = .ok result → result.success = false := by
  intro before outcome left ran
  refine @execute_foreign String _ sampleLibrary _ .remove before left outcome (Or.inl ⟨_,rfl,Or.inr ?_⟩) ran
  exact fun same => nomatch (show (Except.ok false : Except DarwinRaised Bool) = .ok true from same)

end foreign
end Proactive.Cli.Darwin
