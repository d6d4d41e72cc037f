import Mathlib.Logic.Function.Basic
import Proactive.Store.DaemonStatus

/-! Watcher daemons on one liveness row: the claim, the passes and the release of
each, with the steps of all of them in any order. -/
namespace Proactive.Delivery
open Proactive.Library Proactive.Store DaemonRow DaemonStatusStore

inductive DaemonFailureKind
  | configInvalid | databaseUnsafePath | databaseOpenFailed | credentialUnavailable
  | sourceSyncFailed | evaluationFailed | notificationFailed | heartbeatFailed
  | ownershipConflict | serviceNotifyFailed
deriving DecidableEq, Repr

namespace DaemonFailureKind

def phase : DaemonFailureKind → DaemonFailurePhase
  | configInvalid => .config
  | databaseUnsafePath | databaseOpenFailed => .database
  | credentialUnavailable => .credential
  | sourceSyncFailed => .sourceSync
  | evaluationFailed => .evaluation
  | notificationFailed => .notification
  | heartbeatFailed => .heartbeat
  | ownershipConflict => .runtimeOwnership
  | serviceNotifyFailed => .service

def code : DaemonFailureKind → DaemonFailureCode
  | configInvalid => .invalid
  | databaseUnsafePath => .unsafePath
  | databaseOpenFailed => .openFailed
  | credentialUnavailable => .unavailable
  | sourceSyncFailed | evaluationFailed | notificationFailed | heartbeatFailed => .failed
  | ownershipConflict => .ownershipConflict
  | serviceNotifyFailed => .notifyFailed

end DaemonFailureKind

/-- How a run ends: with its totals, with a bounded failure, or with another exception. -/
inductive WatcherResult
  | returned
  | failed (kind : DaemonFailureKind)
  | raised
deriving DecidableEq, Repr

inductive WatcherPhase
  | idle
  | starting
  | evaluating
  | dispatching (degraded : Bool)
  | beating (degraded : Bool) (notifications : Nat)
  | succeeding (degraded : Bool) (notifications : Nat)
  | waiting
  | failing (kind : DaemonFailureKind)
  | releasing (result : WatcherResult)
  | ended (result : WatcherResult)
deriving DecidableEq, Repr

structure Watcher where
  mode : DaemonRunMode
  passCount : Nat
  notificationCount : Nat
  phase : WatcherPhase
deriving DecidableEq, Repr

/-- What the collaborator of the current phase does. A store call that raises writes nothing. -/
inductive WatcherAnswer
  | returned
  | warned
  | credentialStorageUnavailable
  | notified (count : Nat) (anyFailed : Bool)
  | stopRequested
  | failed (kind : DaemonFailureKind)
  | raised
deriving DecidableEq, Repr

/-- The liveness row and the watchers, each named by the token of its store instance. -/
structure WatcherWorld where
  status : Option DaemonRow
  watchers : OwnerToken → Watcher

inductive WatcherInput
  | prepare (token : OwnerToken) (pid : Int) (pollInterval : Int) (incumbentIsAlive : Int → Bool) (now : Int)
  | runOnce (token : OwnerToken) (pid : Int) (now : Int)
  | runForever (token : OwnerToken) (pid : Int) (pollInterval : Int) (now : Int)
  | advance (token : OwnerToken) (answer : WatcherAnswer) (now : Int)
  | interrupt (token : OwnerToken)
  | crash (token : OwnerToken)

namespace Watcher

def idle : Watcher := ⟨.once,0,0,.idle⟩

def turn (phase : WatcherPhase) (watcher : Watcher) : Watcher := {watcher with phase := phase}

def succeed (notifications : Nat) (watcher : Watcher) : Watcher :=
  match watcher.mode with
  | .once => watcher.turn (.releasing .returned)
  | .continuous => {watcher with
      passCount := watcher.passCount + 1
      notificationCount := watcher.notificationCount + notifications
      phase := .waiting}

def dispatchAhead (watcher : Watcher) : Bool :=
  match watcher.phase with
  | .starting | .evaluating | .dispatching _ | .waiting => true
  | .beating .. | .succeeding .. => watcher.mode == .continuous
  | .idle | .failing _ | .releasing _ | .ended _ => false

end Watcher

namespace WatcherWorld

def moveTo (world : WatcherWorld) (token : OwnerToken) (watcher : Watcher) (status : Option DaemonRow) :
    WatcherWorld :=
  ⟨status,Function.update world.watchers token watcher⟩

def turn (world : WatcherWorld) (token : OwnerToken) (change : Watcher → Watcher) : WatcherWorld :=
  world.moveTo token (change (world.watchers token)) world.status

/-- A start of the row for one watcher, who ends when it is refused. -/
def start (world : WatcherWorld) (token : OwnerToken) (pid : Int) (pollInterval : Option Int)
    (incumbentIsAlive : Option (Int → Bool)) (now : Int) (claimed : Watcher → Watcher) : WatcherWorld :=
  match (tryRecordStart token pid pollInterval incumbentIsAlive now).run world.status with
  | (.ok true,left) => world.moveTo token (claimed (world.watchers token)) left
  | (.ok false,left) =>
    world.moveTo token ((world.watchers token).turn (.ended (.failed .ownershipConflict))) left
  | (.error _,left) =>
    world.moveTo token ((world.watchers token).turn (.ended (.failed .heartbeatFailed))) left

/-- One other store call of a run, and where its outcome leads. -/
def record (world : WatcherWorld) (token : OwnerToken) (answer : WatcherAnswer) (body : DaemonSql Unit)
    (done failed : Watcher → Watcher) : WatcherWorld :=
  if answer = .raised then world.turn token failed
  else match body.run world.status with
    | (.ok (),left) => world.moveTo token (done (world.watchers token)) left
    | (.error _,left) => world.moveTo token (failed (world.watchers token)) left

def advance (world : WatcherWorld) (token : OwnerToken) (answer : WatcherAnswer) (now : Int) : WatcherWorld :=
  match (world.watchers token).phase with
  | .idle | .ended _ => world
  | .starting =>
    world.record token answer (recordRunStarted token (world.watchers token).mode)
      (.turn .evaluating) (.turn (.releasing .raised))
  | .evaluating =>
    match answer with
    | .credentialStorageUnavailable => world.turn token (.turn (.failing .credentialUnavailable))
    | .failed kind => world.turn token (.turn (.failing kind))
    | .raised => world.turn token (.turn (.failing .evaluationFailed))
    | .warned => world.turn token (.turn (.dispatching true))
    | .returned | .notified .. | .stopRequested => world.turn token (.turn (.dispatching false))
  | .dispatching degraded =>
    match answer with
    | .failed kind => world.turn token (.turn (.failing kind))
    | .raised | .notified _ true => world.turn token (.turn (.failing .notificationFailed))
    | .notified count false => world.turn token (.turn (.beating degraded count))
    | .returned | .warned | .credentialStorageUnavailable | .stopRequested =>
      world.turn token (.turn (.beating degraded 0))
  | .beating degraded count =>
    world.record token answer (recordHeartbeat token now) (.turn (.succeeding degraded count))
      (.turn (.failing .heartbeatFailed))
  | .succeeding degraded count =>
    world.record token answer
      (recordRunOutcome token (if degraded then .degraded else .succeeded) none none now now)
      (.succeed count) (.turn (.releasing .raised))
  | .waiting =>
    if answer = .stopRequested then world.turn token (.turn (.releasing .returned))
    else world.turn token (.turn .evaluating)
  | .failing kind =>
    world.record token answer (recordRunOutcome token .failed (some kind.phase) (some kind.code) now now)
      (.turn (.releasing (.failed kind))) (.turn (.releasing .raised))
  | .releasing result =>
    world.record token answer (recordStop token now) (.turn (.ended result))
      (.turn (.ended (.failed .heartbeatFailed)))

/-- The command line starts the row with the cadence and a probe before it runs a
watcher; the watcher's own claim has neither a probe nor, for one pass, a cadence. -/
def step (world : WatcherWorld) : WatcherInput → WatcherWorld
  | .prepare token pid pollInterval incumbentIsAlive now =>
    if (world.watchers token).phase = .idle then
      world.start token pid (some pollInterval) (some incumbentIsAlive) now id
    else world
  | .runOnce token pid now =>
    if (world.watchers token).phase = .idle then
      world.start token pid none none now (fun _ => ⟨.once,0,0,.starting⟩)
    else world
  | .runForever token pid pollInterval now =>
    if (world.watchers token).phase = .idle then
      world.start token pid (some pollInterval) none now (fun _ => ⟨.continuous,0,0,.starting⟩)
    else world
  | .advance token answer now => world.advance token answer now
  | .interrupt token =>
    match (world.watchers token).phase with
    | .idle | .ended _ => world
    | .releasing _ => world.turn token (.turn (.ended .raised))
    | _ => world.turn token (.turn (.releasing .raised))
  | .crash token => world.turn token (.turn (.ended .raised))

def Owner (status : Option DaemonRow) (token : OwnerToken) : Prop :=
  ∃ row, status = some row ∧ row.ownedBy token = true

/-- A start by an idle watcher that takes the row from the owner. -/
def takes (world : WatcherWorld) (token : OwnerToken) (pid : Int) (pollInterval : Option Int)
    (incumbentIsAlive : Option (Int → Bool)) (now : Int) (row : DaemonRow) : Bool :=
  (world.watchers token).phase == .idle && !holdsOff pollInterval incumbentIsAlive now row &&
    (restarted token pid pollInterval now row).checked

/-- No owner with a dispatch ahead of it loses the row to this start. -/
def spares (world : WatcherWorld) (token : OwnerToken) (pid : Int) (pollInterval : Option Int)
    (incumbentIsAlive : Option (Int → Bool)) (now : Int) : Bool :=
  world.status.all (fun row => row.ownerToken.all (fun owner =>
    !((world.watchers owner).dispatchAhead &&
      world.takes token pid pollInterval incumbentIsAlive now row)))

/-- No start takes the row over from a run that has a dispatch ahead of it. -/
def undisturbed (world : WatcherWorld) : WatcherInput → Bool
  | .prepare token pid pollInterval incumbentIsAlive now =>
    world.spares token pid (some pollInterval) (some incumbentIsAlive) now
  | .runOnce token pid now => world.spares token pid none none now
  | .runForever token pid pollInterval now => world.spares token pid (some pollInterval) none now
  | .advance .. | .interrupt _ | .crash _ => true

theorem spares_iff (world : WatcherWorld) (token : OwnerToken) (pid : Int) (pollInterval : Option Int)
    (alive : Option (Int → Bool)) (now : Int) :
    world.spares token pid pollInterval alive now = true ↔
      ∀ row owner, world.status = some row → row.ownerToken = some owner →
        (world.watchers owner).dispatchAhead = true →
          world.takes token pid pollInterval alive now row = false := by
  simp only [spares,Option.all_eq_true,Bool.not_eq_true',Bool.and_eq_false_iff]
  constructor
  · intro spared row owner present named ahead
    rcases spared row present owner named with resting | untaken
    · cases ahead.symm.trans resting
    · exact untaken
  · intro spared row present owner named
    cases ahead : (world.watchers owner).dispatchAhead with
    | false => exact Or.inl rfl
    | true => exact Or.inr (spared row owner present named ahead)

def Fenced (world : WatcherWorld) : Prop :=
  ∀ token degraded, (world.watchers token).phase = .dispatching degraded → Owner world.status token

def Held (world : WatcherWorld) : Prop :=
  ∀ token, (world.watchers token).dispatchAhead = true → Owner world.status token

theorem Held.fenced {world : WatcherWorld} (held : world.Held) : world.Fenced := by
  intro token degraded phase
  refine held token ?_
  rw [Watcher.dispatchAhead,phase]

theorem moveTo_self (world : WatcherWorld) (token : OwnerToken) (watcher : Watcher)
    (status : Option DaemonRow) : (world.moveTo token watcher status).watchers token = watcher := by
  simp [moveTo]

theorem moveTo_other (world : WatcherWorld) {token other : OwnerToken} (watcher : Watcher)
    (status : Option DaemonRow) (different : other ≠ token) :
    (world.moveTo token watcher status).watchers other = world.watchers other := by
  simp [moveTo,different]

/-- A move keeps the row with its owners when it keeps it for the others, and for the
watcher that moves unless that one has no dispatch ahead any more. -/
theorem Held.moveTo {world : WatcherWorld} (held : world.Held) {token : OwnerToken} {watcher : Watcher}
    {status : Option DaemonRow}
    (others : ∀ other, other ≠ token → Owner world.status other → Owner status other)
    (own : watcher.dispatchAhead = true → Owner status token) : (world.moveTo token watcher status).Held := by
  intro other ahead
  by_cases here : other = token
  · subst here
    rw [moveTo_self] at ahead
    exact own ahead
  · rw [moveTo_other _ _ _ here] at ahead
    exact others other here (held other ahead)

theorem Held.turn {world : WatcherWorld} (held : world.Held) (token : OwnerToken)
    (change : Watcher → Watcher)
    (ahead : (change (world.watchers token)).dispatchAhead = true →
      (world.watchers token).dispatchAhead = true) : (world.turn token change).Held :=
  held.moveTo (fun _ _ owner => owner) (fun now => held token (ahead now))

structure Fencing (token : OwnerToken) (body : DaemonSql Unit) : Prop where
  others : ∀ status other, other ≠ token → Owner status other → Owner (body.run status).2 other
  foreign : ∀ row, row.ownedBy token = false → body.run (some row) = (.ok (),some row)

def Holding (token : OwnerToken) (body : DaemonSql Unit) : Prop :=
  ∀ status, Owner status token → Owner (body.run status).2 token

theorem owner_unique {row : DaemonRow} {token other : OwnerToken} (owner : row.ownedBy other = true)
    (different : other ≠ token) : row.ownedBy token = false := by
  rw [ownedBy,Bool.and_eq_true,beq_iff_eq,beq_iff_eq] at owner
  rw [ownedBy,owner.2,Bool.and_eq_false_iff]
  right
  rw [beq_eq_false_iff_ne]
  exact fun same => different (Option.some.inj same)

theorem recordOwned_fencing (token : OwnerToken) (outcome : Bool) (change : DaemonRow → DaemonRow) :
    Fencing token (recordOwned token outcome change) where
  foreign := by
    intro row foreign
    rw [recordOwned_run]
    exact if_pos foreign
  others := by
    intro status other different owner
    obtain ⟨row,rfl,owned⟩ := owner
    have foreign := owner_unique owned different
    rw [recordOwned_run]
    dsimp only
    rw [if_pos foreign]
    exact ⟨row,rfl,owned⟩

theorem recordOwned_holding (token : OwnerToken) (outcome : Bool) (change : DaemonRow → DaemonRow)
    (kept : ∀ row, row.ownedBy token = true → (change row).ownedBy token = true) :
    Holding token (recordOwned token outcome change) := by
  intro status owner
  obtain ⟨row,rfl,owned⟩ := owner
  rw [recordOwned_run]
  dsimp only
  split
  · exact ⟨row,rfl,owned⟩
  split
  · exact ⟨row,rfl,owned⟩
  split
  · exact ⟨change row,rfl,kept row owned⟩
  · exact ⟨row,rfl,owned⟩

theorem outcome_success (token : OwnerToken) (degraded : Bool) (failureAt completedAt : Int) :
    recordRunOutcome token (if degraded then .degraded else .succeeded) none none failureAt completedAt =
      recordOwned token true
        (concluded (if degraded then .degraded else .succeeded) none none none completedAt) := by
  cases degraded <;> rfl

theorem Held.record {world : WatcherWorld} (held : world.Held) {token : OwnerToken}
    {body : DaemonSql Unit} {done failed : Watcher → Watcher} (fencing : Fencing token body)
    (holding : (done (world.watchers token)).dispatchAhead = true ∨
      (failed (world.watchers token)).dispatchAhead = true →
        (world.watchers token).dispatchAhead = true ∧ Holding token body) (answer : WatcherAnswer) :
    (world.record token answer body done failed).Held := by
  have others := fencing.others world.status
  have own := fun ahead => (holding ahead).2 world.status (held token (holding ahead).1)
  unfold WatcherWorld.record
  split
  · exact held.turn token failed (fun ahead => (holding (Or.inr ahead)).1)
  cases ran : body.run world.status with
  | mk result left =>
    rw [ran] at others own
    cases result with
    | ok value => exact held.moveTo others (fun ahead => own (Or.inl ahead))
    | error error => exact held.moveTo others (fun ahead => own (Or.inr ahead))

theorem Held.advance {world : WatcherWorld} (held : world.Held) (token : OwnerToken)
    (answer : WatcherAnswer) (now : Int) : (world.advance token answer now).Held := by
  have ahead {phase : WatcherPhase} (at_ : (world.watchers token).phase = phase)
      (busy : ((world.watchers token).turn phase).dispatchAhead = true) :
      (world.watchers token).dispatchAhead = true := by
    rw [Watcher.turn,← at_] at busy
    exact busy
  unfold WatcherWorld.advance
  cases at_ : (world.watchers token).phase with
  | idle => exact held
  | ended => exact held
  | starting =>
    dsimp only
    refine held.record (recordOwned_fencing _ _ _) (fun _ => ⟨ahead at_ rfl,?_⟩) answer
    exact recordOwned_holding _ _ _ (fun _ owned => owned)
  | evaluating =>
    have busy := ahead at_ rfl
    cases answer <;> exact held.turn token _ (fun _ => busy)
  | dispatching degraded =>
    have busy := ahead at_ rfl
    dsimp only
    split <;> exact held.turn token _ (fun _ => busy)
  | beating degraded count =>
    dsimp only
    refine held.record (recordOwned_fencing _ _ _) (fun busy => ?_) answer
    rcases busy with busy | busy
    · refine ⟨ahead at_ busy,recordOwned_holding _ _ _ (fun row owned => ?_)⟩
      rw [ownedBy,Bool.and_eq_true] at owned ⊢
      exact ⟨rfl,owned.2⟩
    · cases busy
  | succeeding degraded count =>
    dsimp only
    rw [outcome_success]
    refine held.record (recordOwned_fencing _ _ _) (fun busy => ?_) answer
    refine ⟨ahead at_ ?_,recordOwned_holding _ _ _ (fun _ owned => owned)⟩
    rcases busy with busy | busy
    · unfold Watcher.succeed at busy
      cases mode : (world.watchers token).mode with
      | once =>
        rw [mode] at busy
        cases busy
      | continuous => simp [Watcher.dispatchAhead,Watcher.turn,mode]
    · cases busy
  | waiting =>
    have busy := ahead at_ rfl
    dsimp only
    split <;> exact held.turn token _ (fun _ => busy)
  | failing kind =>
    dsimp only
    refine held.record (recordOwned_fencing _ _ _) (fun busy => ?_) answer
    rcases busy with busy | busy <;> cases busy
  | releasing result =>
    dsimp only
    refine held.record (recordOwned_fencing _ _ _) (fun busy => ?_) answer
    rcases busy with busy | busy <;> cases busy

theorem started_owner {token : OwnerToken} {pid : Int} {pollInterval : Option Int}
    {alive : Option (Int → Bool)} {now : Int} {status left : Option DaemonRow}
    (ran : (tryRecordStart token pid pollInterval alive now).run status = (.ok true,left)) :
    Owner left token := by
  rw [tryRecordStart_run] at ran
  split at ran
  · cases ran
  cases status with
  | none =>
    dsimp only at ran
    split at ran
    · cases ran
      exact ⟨_,rfl,by simp [ownedBy,started]⟩
    · cases ran
  | some row =>
    dsimp only at ran
    split at ran
    · rename_i owned
      cases ran
      exact ⟨row,rfl,owned⟩
    split at ran
    · cases ran
    split at ran
    · cases ran
      exact ⟨_,rfl,by simp [ownedBy,restarted]⟩
    · cases ran

theorem untaken_row {world : WatcherWorld} {token : OwnerToken} (pid : Int) (pollInterval : Option Int)
    (alive : Option (Int → Bool)) (now : Int) {row : DaemonRow}
    (idle : (world.watchers token).phase = .idle) (foreign : row.ownedBy token = false) :
    ((tryRecordStart token pid pollInterval alive now).run (some row)).2 =
      if world.takes token pid pollInterval alive now row = true then
        some (restarted token pid pollInterval now row) else some row := by
  rw [tryRecordStart_run,takes,idle,beq_self_eq_true,Bool.true_and]
  dsimp only
  rw [foreign,if_neg Bool.false_ne_true]
  split
  · rename_i invalid
    -- An interval that the call rejects fails the column check as well.
    obtain ⟨interval,named,negative⟩ := Option.any_eq_true _ _ |>.mp invalid
    have unchecked : (restarted token pid pollInterval now row).checked = false := by
      have rejected := Int.not_lt.mpr (of_decide_eq_true negative)
      simp [DaemonRow.checked,restarted,named,rejected]
    rw [unchecked,Bool.and_false]
    rfl
  · cases holdsOff pollInterval alive now row with
    | true => rfl
    | false => cases (restarted token pid pollInterval now row).checked <;> rfl

/-- A start that spares every owner with a dispatch ahead keeps the row with them. -/
theorem Held.start {world : WatcherWorld} (held : world.Held) {token : OwnerToken} {pid : Int}
    {pollInterval : Option Int} {alive : Option (Int → Bool)} {now : Int} {claimed : Watcher → Watcher}
    (idle : (world.watchers token).phase = .idle)
    (spares : world.spares token pid pollInterval alive now = true) :
    (world.start token pid pollInterval alive now claimed).Held := by
  have resting : (world.watchers token).dispatchAhead = false := by
    rw [Watcher.dispatchAhead,idle]
  -- Whoever holds the row with a dispatch ahead is not the idle watcher, and is spared.
  have kept {other : OwnerToken} (busy : (world.watchers other).dispatchAhead = true) :
      Owner ((tryRecordStart token pid pollInterval alive now).run world.status).2 other := by
    have different : other ≠ token := by
      intro same
      rw [same,resting] at busy
      cases busy
    obtain ⟨row,present,owned⟩ := held other busy
    have named : row.ownerToken = some other := by
      rw [ownedBy,Bool.and_eq_true,beq_iff_eq,beq_iff_eq] at owned
      exact owned.2
    have undisturbed := (spares_iff _ _ _ _ _ _).mp spares row other present named busy
    rw [present,untaken_row pid pollInterval alive now idle (owner_unique owned different),undisturbed]
    exact ⟨row,rfl,owned⟩
  have lost {watcher : Watcher} {left : Option DaemonRow}
      (same : ((tryRecordStart token pid pollInterval alive now).run world.status).2 = left)
      (own : watcher.dispatchAhead = true → Owner left token) :
      (world.moveTo token watcher left).Held := by
    intro other busy
    by_cases here : other = token
    · subst here
      rw [moveTo_self] at busy
      exact own busy
    · rw [moveTo_other _ _ _ here] at busy
      exact same ▸ kept busy
  unfold WatcherWorld.start
  cases ran : (tryRecordStart token pid pollInterval alive now).run world.status with
  | mk result left =>
    rw [ran] at lost
    cases result with
    | error error =>
      apply lost rfl
      intro busy
      cases busy
    | ok claimed =>
      cases claimed with
      | false =>
        apply lost rfl
        intro busy
        cases busy
      | true => exact lost rfl (fun _ => started_owner ran)

theorem Held.step {world : WatcherWorld} (held : world.Held) (input : WatcherInput)
    (undisturbed : world.undisturbed input = true) : (world.step input).Held := by
  cases input with
  | prepare token pid pollInterval alive now =>
    rw [WatcherWorld.step]
    split
    · rename_i idle
      exact held.start idle undisturbed
    · exact held
  | runOnce token pid now =>
    rw [WatcherWorld.step]
    split
    · rename_i idle
      exact held.start idle undisturbed
    · exact held
  | runForever token pid pollInterval now =>
    rw [WatcherWorld.step]
    split
    · rename_i idle
      exact held.start idle undisturbed
    · exact held
  | advance token answer now => exact held.advance token answer now
  | interrupt token =>
    rw [WatcherWorld.step]
    split
    · exact held
    · exact held
    · exact held.turn token _ (fun busy => nomatch busy)
    · exact held.turn token _ (fun busy => nomatch busy)
  | crash token => exact held.turn token _ (fun busy => nomatch busy)

/-- Some continuation dispatches without the row. -/
def Breaks (world : WatcherWorld) : Prop := ∃ later, ¬(Run.run step world later).Fenced

theorem Breaks.before {world : WatcherWorld} (input : WatcherInput) (breaks : (world.step input).Breaks) :
    world.Breaks := by
  obtain ⟨later,broken⟩ := breaks
  exact ⟨input::later,broken⟩

structure Astray (world : WatcherWorld) (token : OwnerToken) (watcher : Watcher) : Prop where
  watching : world.watchers token = watcher
  foreign : ∃ row, world.status = some row ∧ row.ownedBy token = false

theorem Astray.turn {world : WatcherWorld} {token : OwnerToken} {watcher : Watcher}
    (astray : world.Astray token watcher) (change : Watcher → Watcher) :
    (world.turn token change).Astray token (change watcher) :=
  ⟨(moveTo_self _ _ _ _).trans (congrArg change astray.watching),astray.foreign⟩

/-- A store call of a watcher that lost the row does nothing and reports no error. -/
theorem Astray.record {world : WatcherWorld} {token : OwnerToken} {watcher : Watcher}
    (astray : world.Astray token watcher) {body : DaemonSql Unit} (fencing : Fencing token body)
    (done failed : Watcher → Watcher) :
    (world.record token .returned body done failed).Astray token (done watcher) := by
  obtain ⟨row,present,foreign⟩ := astray.foreign
  have ran := fencing.foreign row foreign
  unfold WatcherWorld.record
  rw [if_neg (by decide),present,ran]
  exact ⟨(moveTo_self _ _ _ _).trans (congrArg done astray.watching),row,rfl,foreign⟩

theorem Astray.dispatching {world : WatcherWorld} {token : OwnerToken} {watcher : Watcher}
    {degraded : Bool} (astray : world.Astray token watcher) (phase : watcher.phase = .dispatching degraded) :
    world.Breaks := by
  refine ⟨[],fun fenced => ?_⟩
  obtain ⟨row,present,foreign⟩ := astray.foreign
  obtain ⟨held,same,owned⟩ := fenced token degraded (astray.watching ▸ phase)
  cases same.symm.trans present
  cases foreign.symm.trans owned

theorem Astray.evaluating {world : WatcherWorld} {token : OwnerToken} {watcher : Watcher}
    (astray : world.Astray token watcher) (phase : watcher.phase = .evaluating) : world.Breaks := by
  refine Breaks.before (.advance token .returned 0) ?_
  have next : world.step (.advance token .returned 0) =
      world.turn token (.turn (.dispatching false)) := by
    rw [step,WatcherWorld.advance,astray.watching,phase]
  rw [next]
  exact (astray.turn (.turn (.dispatching false))).dispatching rfl

theorem Astray.starting {world : WatcherWorld} {token : OwnerToken} {watcher : Watcher}
    (astray : world.Astray token watcher) (phase : watcher.phase = .starting) : world.Breaks := by
  refine Breaks.before (.advance token .returned 0) ?_
  have next : world.step (.advance token .returned 0) =
      world.record token .returned (recordRunStarted token watcher.mode) (.turn .evaluating)
        (.turn (.releasing .raised)) := by
    rw [step,WatcherWorld.advance,astray.watching,phase]
  rw [next]
  exact (astray.record (recordOwned_fencing _ _ _) _ _).evaluating rfl

theorem Astray.waiting {world : WatcherWorld} {token : OwnerToken} {watcher : Watcher}
    (astray : world.Astray token watcher) (phase : watcher.phase = .waiting) : world.Breaks := by
  refine Breaks.before (.advance token .returned 0) ?_
  have next : world.step (.advance token .returned 0) = world.turn token (.turn .evaluating) := by
    rw [step,WatcherWorld.advance,astray.watching,phase]
    exact if_neg (by decide)
  rw [next]
  exact (astray.turn (.turn .evaluating)).evaluating rfl

theorem Astray.succeeding {world : WatcherWorld} {token : OwnerToken} {watcher : Watcher} {degraded : Bool}
    {count : Nat} (astray : world.Astray token watcher) (phase : watcher.phase = .succeeding degraded count)
    (mode : watcher.mode = .continuous) : world.Breaks := by
  refine Breaks.before (.advance token .returned 0) ?_
  have next : world.step (.advance token .returned 0) = world.record token .returned
      (recordOwned token true (concluded (if degraded then .degraded else .succeeded) none none none 0))
        (.succeed count) (.turn (.releasing .raised)) := by
    rw [step,WatcherWorld.advance,astray.watching,phase,← outcome_success]
  rw [next]
  refine (astray.record (recordOwned_fencing _ _ _) _ _).waiting ?_
  rw [Watcher.succeed,mode]

theorem Astray.beating {world : WatcherWorld} {token : OwnerToken} {watcher : Watcher} {degraded : Bool}
    {count : Nat} (astray : world.Astray token watcher) (phase : watcher.phase = .beating degraded count)
    (mode : watcher.mode = .continuous) : world.Breaks := by
  refine Breaks.before (.advance token .returned 0) ?_
  have next : world.step (.advance token .returned 0) = world.record token .returned
      (recordHeartbeat token 0) (.turn (.succeeding degraded count)) (.turn (.failing .heartbeatFailed)) := by
    rw [step,WatcherWorld.advance,astray.watching,phase]
  rw [next]
  exact (astray.record (recordOwned_fencing _ _ _) _ _).succeeding rfl mode

theorem Astray.breaks {world : WatcherWorld} {token : OwnerToken} {watcher : Watcher}
    (astray : world.Astray token watcher) (ahead : watcher.dispatchAhead = true) : world.Breaks := by
  unfold Watcher.dispatchAhead at ahead
  cases phase : watcher.phase with
  | starting => exact astray.starting phase
  | evaluating => exact astray.evaluating phase
  | dispatching degraded => exact astray.dispatching phase
  | waiting => exact astray.waiting phase
  | beating degraded count =>
    rw [phase] at ahead
    exact astray.beating phase (beq_iff_eq.mp ahead)
  | succeeding degraded count =>
    rw [phase] at ahead
    exact astray.succeeding phase (beq_iff_eq.mp ahead)
  | idle | failing | releasing | ended =>
    rw [phase] at ahead
    cases ahead

/-- A start that takes the row from an owner with a dispatch ahead leaves it astray. -/
theorem start_breaks {world : WatcherWorld} {token : OwnerToken} {pid : Int} {pollInterval : Option Int}
    {alive : Option (Int → Bool)} {now : Int} {claimed : Watcher → Watcher}
    (taken : ¬world.spares token pid pollInterval alive now = true) :
    (world.watchers token).phase = .idle ∧ (world.start token pid pollInterval alive now claimed).Breaks := by
  rw [spares_iff] at taken
  push Not at taken
  obtain ⟨row,owner,present,named,ahead,takes⟩ := taken
  have idle : (world.watchers token).phase = .idle := by
    rw [WatcherWorld.takes,Bool.ne_false_iff,Bool.and_eq_true,Bool.and_eq_true,beq_iff_eq] at takes
    exact takes.1.1
  have different : owner ≠ token := by
    intro same
    rw [same,Watcher.dispatchAhead,idle] at ahead
    cases ahead
  have unowned (held : DaemonRow) (by_ : OwnerToken) (other : OwnerToken)
      (names : held.ownerToken = some by_) (distinct : by_ ≠ other) : held.ownedBy other = false := by
    rw [ownedBy,names,Bool.and_eq_false_iff,beq_eq_false_iff_ne,beq_eq_false_iff_ne]
    exact Or.inr (fun same => distinct (Option.some.inj same))
  have left := untaken_row pid pollInterval alive now idle (unowned row owner token named different)
  rw [Bool.ne_false_iff.mp takes,if_pos rfl,← present] at left
  have foreign := unowned (restarted token pid pollInterval now row) token owner rfl (Ne.symm different)
  have astray {watcher : Watcher} {after : Option DaemonRow}
      (same : ((tryRecordStart token pid pollInterval alive now).run world.status).2 = after) :
      (world.moveTo token watcher after).Breaks := by
    have strays : (world.moveTo token watcher after).Astray owner (world.watchers owner) :=
      ⟨moveTo_other _ _ _ different,_,same.symm.trans left,foreign⟩
    exact strays.breaks ahead
  refine ⟨idle,?_⟩
  unfold WatcherWorld.start
  cases ran : (tryRecordStart token pid pollInterval alive now).run world.status with
  | mk result after =>
    rw [ran] at astray
    cases result with
    | error error => exact astray rfl
    | ok claimed => cases claimed <;> exact astray rfl

theorem disturbed_breaks {world : WatcherWorld} {input : WatcherInput}
    (disturbed : ¬world.undisturbed input = true) : (world.step input).Breaks := by
  cases input with
  | prepare token pid pollInterval alive now =>
    obtain ⟨idle,breaks⟩ := start_breaks disturbed
    rw [step,if_pos idle]
    exact breaks
  | runOnce token pid now =>
    obtain ⟨idle,breaks⟩ := start_breaks disturbed
    rw [step,if_pos idle]
    exact breaks
  | runForever token pid pollInterval now =>
    obtain ⟨idle,breaks⟩ := start_breaks disturbed
    rw [step,if_pos idle]
    exact breaks
  | advance => exact absurd rfl disturbed
  | interrupt => exact absurd rfl disturbed
  | crash => exact absurd rfl disturbed

def resting (status : Option DaemonRow) : WatcherWorld := ⟨status,fun _ => .idle⟩

/-- While no start takes the row from a run that has a dispatch ahead of it, whoever
dispatches holds the running row; and after a start that does, some continuation dispatches
without it. -/
theorem dispatch_fenced (status : Option DaemonRow) (inputs : List WatcherInput) :
    (Run.Along step (fun world input => world.undisturbed input) (resting status) inputs →
      (Run.run step (resting status) inputs).Fenced) ∧
    ∀ input, (Run.run step (resting status) inputs).undisturbed input = false →
      ∃ later, ¬(Run.run step (resting status) (inputs ++ input::later)).Fenced := by
  refine ⟨fun along => ?_,fun input disturbed => ?_⟩
  · have held := Run.along_invariant step (fun world input => world.undisturbed input) Held
      (fun _ input undisturbed held => held.step input undisturbed) (resting status) inputs
      (fun _ busy => (nomatch busy)) along
    exact held.fenced
  · obtain ⟨later,broken⟩ := disturbed_breaks (ne_true_of_eq_false disturbed)
    refine ⟨later,?_⟩
    rw [Run.run_append]
    exact broken

def handover : List WatcherInput :=
  [.runOnce 1 100 0,.advance 1 .returned 0,.advance 1 .returned 1,.advance 1 .returned 2,
    .advance 1 .returned 3,.advance 1 .returned 4,.advance 1 .returned 5,.runOnce 2 200 6,
    .advance 2 .returned 6,.advance 2 .returned 7]

theorem handover_fenced :
    ((Run.run step (resting none) handover).watchers 2).phase = .dispatching false ∧
      (Run.run step (resting none) handover).Fenced :=
  ⟨by decide,(dispatch_fenced none handover).1 (by decide)⟩

/-- A continuous run whose evaluation takes sixteen minutes at a cadence of five, and
one pass that another process starts meanwhile. -/
def longEvaluation : List WatcherInput :=
  let minute := 60 * 1000000
  [.runForever 1 100 (5 * minute) 0,.advance 1 .returned 0,.runOnce 2 200 (16 * minute),
    .advance 1 .returned (16 * minute)]

theorem longEvaluation_dispatches :
    ¬∀ status inputs, (Run.run step (resting status) inputs).Fenced := by
  intro fenced
  have dispatching : ((Run.run step (resting none) longEvaluation).watchers 1).phase = .dispatching false := by
    decide
  obtain ⟨row,present,owned⟩ := fenced none longEvaluation 1 false dispatching
  have taken : (Run.run step (resting none) longEvaluation).status.map (DaemonRow.ownedBy 1) = some false := by
    decide
  rw [present,Option.map_some,owned] at taken
  cases taken

end WatcherWorld
end Proactive.Delivery
