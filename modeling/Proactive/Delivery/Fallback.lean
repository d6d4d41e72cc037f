import Mathlib.Logic.Function.Basic
import Proactive.Situations.Policy
import Proactive.Store.Fallbacks

/-! One-shot OS notifications for situations that no agent received: any number
of `dispatch` calls over one database, each able to stop between two effects. -/
namespace Proactive.Delivery
open Proactive.Library Proactive.Situations Proactive.Store Database FallbackDatabase

inductive NotificationErrorCode | timeout | unavailable | failed | unsupportedPlatform
deriving DecidableEq, Repr

def failureCode : NotificationErrorCode → FallbackFailureCode
  | .timeout => .timeout
  | .unavailable => .toolMissing
  | .failed => .nonzeroExit
  | .unsupportedPlatform => .unsupportedPlatform

structure NotificationPayload where
  situationType : SituationType
  title : String
deriving DecidableEq, Repr

def notificationPayload (situation : Situation) : NotificationPayload where
  situationType := situation.situationType
  title := match situation.situationType with
    | .replyDeadline => "Reply needed"
    | .calendarConflict => "Calendar conflict"
    | .personalOccasion => "Upcoming personal occasion"

structure FallbackSettings where
  priorities : List SituationPriority
  wait : Int
  enabled : Bool
deriving DecidableEq, Repr

def FallbackSettings.default : FallbackSettings := ⟨[.critical],30 * 60 * second,true⟩

def FallbackSettings.claim (settings : FallbackSettings) (now : Int) (mode : FallbackClaimMode) :
    FallbackClaim :=
  ⟨now,now - settings.wait,settings.priorities,mode⟩

inductive FallbackDispatch
  | sent (situationId : Nat)
  | failed (situationId : Nat) (failureCode : FallbackFailureCode)
deriving DecidableEq, Repr

/-- The next effect of a call: a claim, the notifier, or the outcome of the notifier. -/
inductive DispatchPhase
  | claiming (mode : FallbackClaimMode)
  | notifying (situation : Situation)
  | recording (situationId : Nat) (failure : Option NotificationErrorCode)
  | finished
  | crashed
deriving DecidableEq, Repr

structure Dispatch where
  settings : FallbackSettings
  now : Int
  phase : DispatchPhase
  dispatched : List FallbackDispatch
deriving DecidableEq, Repr

/-- What a call does that another process can see, with the database it saw when it claimed. -/
inductive DispatchEvent
  | attempted (call : Nat) (claim : FallbackClaim) (claimed : Option Situation) (seen : FallbackDatabase)
  | notified (call : Nat) (situationId : Nat) (payload : NotificationPayload)
  | recorded (call : Nat) (situationId : Nat)

structure DispatchWorld where
  database : FallbackDatabase
  calls : Nat → Option Dispatch
  log : List DispatchEvent

/-- Calls are numbered; `failure` and `timestamp` are what the notifier and the
clock answer where a call consults them. -/
inductive DispatchInput
  | host (operation : Operation)
  | dispatch (call : Nat) (settings : FallbackSettings) (now : Int)
  | advance (call : Nat) (failure : Option NotificationErrorCode) (timestamp : Int)
  | crash (call : Nat)

namespace Dispatch

def start (settings : FallbackSettings) (now : Int) : Dispatch where
  settings := settings
  now := now
  phase := if !settings.enabled || settings.priorities.isEmpty then .finished else .claiming .bootstrap
  dispatched := []

/-- Where `claim_next` leaves the call that found nothing to claim. -/
def afterMiss : FallbackClaimMode → DispatchPhase
  | .bootstrap => .claiming .configured
  | .configured => .finished

def outcome (id : Nat) : Option NotificationErrorCode → FallbackDispatch
  | none => .sent id
  | some error => .failed id (failureCode error)

def record (id : Nat) (timestamp : Int) : Option NotificationErrorCode → FallbackSql Unit
  | none => recordSent id timestamp
  | some error => recordFailed id (failureCode error) timestamp

end Dispatch

namespace DispatchWorld
open Dispatch

def empty : DispatchWorld := ⟨FallbackDatabase.empty,fun _ => none,[]⟩

def moveTo (world : DispatchWorld) (call : Nat) (dispatch : Dispatch) (database : FallbackDatabase)
    (events : List DispatchEvent) : DispatchWorld :=
  ⟨database,Function.update world.calls call (some dispatch),world.log ++ events⟩

def advance (world : DispatchWorld) (call : Nat) (dispatch : Dispatch)
    (failure : Option NotificationErrorCode) (timestamp : Int) : DispatchWorld :=
  match dispatch.phase with
  | .claiming mode =>
    let claim := dispatch.settings.claim dispatch.now mode
    match (claimNext claim).run world.database with
    | (.ok none,left) =>
      world.moveTo call {dispatch with phase := afterMiss mode} left
        [.attempted call claim none world.database]
    | (.ok (some situation),left) =>
      world.moveTo call {dispatch with phase := .notifying situation} left
        [.attempted call claim (some situation) world.database]
    | (.error _,left) => world.moveTo call {dispatch with phase := .crashed} left []
  | .notifying situation =>
    world.moveTo call {dispatch with phase := .recording situation.id failure} world.database
      [.notified call situation.id (notificationPayload situation)]
  | .recording id notified =>
    match (record id timestamp notified).run world.database with
    | (.ok (),left) =>
      world.moveTo call {dispatch with
        phase := .claiming .configured
        dispatched := dispatch.dispatched ++ [outcome id notified]} left [.recorded call id]
    | (.error _,left) => world.moveTo call {dispatch with phase := .crashed} left []
  | .finished | .crashed => world

variable [EvidenceJson]

def step (world : DispatchWorld) : DispatchInput → DispatchWorld
  | .host operation => {world with
      database := {world.database with store := Store.step world.database.store operation}}
  | .dispatch call settings now =>
    match world.calls call with
    | none => world.moveTo call (start settings now) world.database []
    | some _ => world
  | .advance call failure timestamp =>
    match world.calls call with
    | none => world
    | some dispatch => world.advance call dispatch failure timestamp
  | .crash call =>
    match world.calls call with
    | none => world
    | some dispatch =>
      match dispatch.phase with
      | .finished | .crashed => world
      | _ => world.moveTo call {dispatch with phase := .crashed} world.database []

end DispatchWorld

namespace DispatchEvent

def call : DispatchEvent → Nat
  | .attempted call .. | .notified call .. | .recorded call _ => call

def claimedId : DispatchEvent → Option Nat
  | .attempted _ _ (some situation) _ => some situation.id
  | _ => none

def notifiedId : DispatchEvent → Option Nat
  | .notified _ id _ => some id
  | _ => none

def bootstraps : DispatchEvent → Bool
  | .attempted _ claim (some _) _ => claim.mode == .bootstrap
  | _ => false

def attempts : DispatchEvent → Bool
  | .attempted .. => true
  | _ => false

end DispatchEvent

open Dispatch DispatchWorld DispatchEvent

namespace DispatchWorld

@[simp] theorem moveTo_self (world : DispatchWorld) (call : Nat) (dispatch : Dispatch)
    (database : FallbackDatabase) (events : List DispatchEvent) :
    (world.moveTo call dispatch database events).calls call = some dispatch := by
  simp [moveTo]

theorem moveTo_other (world : DispatchWorld) {call other : Nat} (dispatch : Dispatch)
    (database : FallbackDatabase) (events : List DispatchEvent) (different : other ≠ call) :
    (world.moveTo call dispatch database events).calls other = world.calls other := by
  simp [moveTo,different]

/-- Everything one input can do to a world with a sound database. -/
inductive Moved (world : DispatchWorld) : DispatchWorld → Prop
  | unchanged : Moved world world
  | host (database : FallbackDatabase) (sound : database.Sound)
    (fallbacks : database.fallbacks = world.database.fallbacks) :
    Moved world {world with database := database}
  | started (call : Nat) (settings : FallbackSettings) (now : Int) (fresh : world.calls call = none) :
    Moved world (world.moveTo call (start settings now) world.database [])
  | missed (call : Nat) (dispatch : Dispatch) (mode : FallbackClaimMode) (claim : FallbackClaim)
    (called : world.calls call = some dispatch) (phase : dispatch.phase = .claiming mode) :
    Moved world (world.moveTo call {dispatch with phase := afterMiss mode} world.database
      [.attempted call claim none world.database])
  | claimed (call : Nat) (dispatch : Dispatch) (mode : FallbackClaimMode) (situation : Situation)
    (called : world.calls call = some dispatch) (phase : dispatch.phase = .claiming mode)
    (stored : situation ∈ world.database.store.situations)
    (eligible : world.database.eligible (dispatch.settings.claim dispatch.now mode) situation = true) :
    Moved world (world.moveTo call {dispatch with phase := .notifying situation}
      (world.database.insert (dispatch.settings.claim dispatch.now mode) situation)
      [.attempted call (dispatch.settings.claim dispatch.now mode) (some situation) world.database])
  | notified (call : Nat) (dispatch : Dispatch) (situation : Situation)
    (failure : Option NotificationErrorCode) (called : world.calls call = some dispatch)
    (phase : dispatch.phase = .notifying situation) :
    Moved world (world.moveTo call {dispatch with phase := .recording situation.id failure}
      world.database [.notified call situation.id (notificationPayload situation)])
  | recorded (call : Nat) (dispatch next : Dispatch) (id : Nat) (failure : Option NotificationErrorCode)
    (outcome : FallbackOutcome) (called : world.calls call = some dispatch)
    (phase : dispatch.phase = .recording id failure) (same : next.settings = dispatch.settings)
    (again : next.now = dispatch.now) (turned : next.phase = .claiming .configured) :
    Moved world (world.moveTo call next (world.database.completed id outcome) [.recorded call id])
  | crashed (call : Nat) (dispatch : Dispatch) (called : world.calls call = some dispatch) :
    Moved world (world.moveTo call {dispatch with phase := .crashed} world.database [])

theorem advance_moved {world : DispatchWorld} (sound : world.database.Sound) {call : Nat}
    {dispatch : Dispatch} (called : world.calls call = some dispatch)
    (failure : Option NotificationErrorCode) (timestamp : Int) :
    Moved world (world.advance call dispatch failure timestamp) := by
  unfold advance
  cases phase : dispatch.phase with
  | claiming mode =>
    rcases claimNext_cases (dispatch.settings.claim dispatch.now mode) world.database sound.schema with
      ⟨ran,_⟩ | ⟨situation,stored,eligible,ran⟩
    · simp only [ran]
      exact .missed call dispatch mode _ called phase
    · simp only [ran]
      exact .claimed call dispatch mode situation called phase stored eligible
  | notifying situation => exact .notified call dispatch situation failure called phase
  | recording id notified =>
    obtain ⟨written,same⟩ : ∃ written, record id timestamp notified = complete id written := by
      cases notified <;> exact ⟨_,rfl⟩
    have left := complete_run id written world.database
    dsimp only
    rw [same]
    cases ran : (complete id written).run world.database with
    | mk result after =>
      rw [ran] at left
      cases result with
      | ok value =>
        obtain rfl : after = world.database.completed id written := left
        exact .recorded call dispatch _ id notified written called phase rfl rfl rfl
      | error error =>
        obtain rfl := Statement.immediate_rollback _ _ _ _ ran
        exact .crashed call dispatch called
  | finished => exact .unchanged
  | crashed => exact .unchanged

theorem step_moved [EvidenceJson] {world : DispatchWorld} (sound : world.database.Sound)
    (input : DispatchInput) : Moved world (step world input) := by
  cases input with
  | host operation => exact .host _ (sound.host operation) rfl
  | dispatch call settings now =>
    rw [step]
    cases called : world.calls call with
    | none => exact .started call settings now called
    | some dispatch => exact .unchanged
  | advance call failure timestamp =>
    rw [step]
    cases called : world.calls call with
    | none => exact .unchanged
    | some dispatch => exact advance_moved sound called failure timestamp
  | crash call =>
    rw [step]
    cases called : world.calls call with
    | none => exact .unchanged
    | some dispatch =>
      dsimp only
      split
      · exact .unchanged
      · exact .unchanged
      · exact .crashed call dispatch called

theorem Moved.sound {world next : DispatchWorld} (moved : Moved world next)
    (sound : world.database.Sound) : next.database.Sound := by
  cases moved with
  | host _ kept => exact kept
  | claimed _ _ _ _ _ _ stored eligible => exact sound.insert _ stored eligible
  | recorded => exact sound.completed _ _
  | _ => exact sound

/-- The log claims exactly the situations of the fallback table, each lawfully. -/
structure Ledger (world : DispatchWorld) : Prop where
  claims : world.log.filterMap claimedId = world.database.fallbacks.map FallbackRow.situationId
  lawful : ∀ call claim situation seen, .attempted call claim (some situation) seen ∈ world.log →
    situation ∈ seen.store.situations ∧ seen.eligible claim situation = true ∧
      ∃ dispatch, world.calls call = some dispatch ∧
        claim = dispatch.settings.claim dispatch.now claim.mode
  bootstrapped : world.log.countP bootstraps ≤ 1

theorem empty_ledger : empty.Ledger := ⟨rfl,fun _ _ _ _ member => (nomatch member),Nat.zero_le 1⟩

theorem Moved.call_kept {world next : DispatchWorld} (moved : Moved world next) {call : Nat}
    {dispatch : Dispatch} (called : world.calls call = some dispatch) :
    ∃ later, next.calls call = some later ∧ later.settings = dispatch.settings ∧
      later.now = dispatch.now := by
  have moves (other : Nat) (old later : Dispatch) (database : FallbackDatabase)
      (events : List DispatchEvent) (was : world.calls other = some old)
      (same : later.settings = old.settings) (again : later.now = old.now) :
      ∃ later', (world.moveTo other later database events).calls call = some later' ∧
        later'.settings = dispatch.settings ∧ later'.now = dispatch.now := by
    by_cases here : call = other
    · subst here
      obtain rfl := Option.some.inj (was.symm.trans called)
      exact ⟨later,moveTo_self _ _ _ _ _,same,again⟩
    · exact ⟨dispatch,(moveTo_other _ _ _ _ here).trans called,rfl,rfl⟩
  cases moved with
  | unchanged => exact ⟨dispatch,called,rfl,rfl⟩
  | host => exact ⟨dispatch,called,rfl,rfl⟩
  | started other settings now fresh =>
    have different : call ≠ other := by
      intro same
      subst same
      cases called.symm.trans fresh
    exact ⟨dispatch,(moveTo_other _ _ _ _ different).trans called,rfl,rfl⟩
  | missed other old _ _ was => exact moves other old _ _ _ was rfl rfl
  | claimed other old _ _ was => exact moves other old _ _ _ was rfl rfl
  | notified other old _ _ was => exact moves other old _ _ _ was rfl rfl
  | recorded other old _ _ _ _ was _ same again => exact moves other old _ _ _ was same again
  | crashed other old was => exact moves other old _ _ _ was rfl rfl

theorem Ledger.carried {world next : DispatchWorld} (ledger : world.Ledger) (moved : Moved world next)
    {call : Nat} {claim : FallbackClaim} {situation : Situation} {seen : FallbackDatabase}
    (old : .attempted call claim (some situation) seen ∈ world.log) :
    situation ∈ seen.store.situations ∧ seen.eligible claim situation = true ∧
      ∃ dispatch, next.calls call = some dispatch ∧
        claim = dispatch.settings.claim dispatch.now claim.mode := by
  obtain ⟨stored,eligible,dispatch,called,made⟩ := ledger.lawful _ _ _ _ old
  obtain ⟨later,found,same,again⟩ := moved.call_kept called
  exact ⟨stored,eligible,later,found,by rw [same,again]; exact made⟩

/-- Events that claim nothing leave the ledger as it is. -/
theorem Ledger.idle {world next : DispatchWorld} (ledger : world.Ledger) (moved : Moved world next)
    {events : List DispatchEvent} (added : next.log = world.log ++ events)
    (claims : events.filterMap claimedId = []) (silent : events.countP bootstraps = 0)
    (same : next.database.fallbacks.map FallbackRow.situationId =
      world.database.fallbacks.map FallbackRow.situationId) : next.Ledger := by
  refine ⟨?_,fun call claim situation seen member => ?_,?_⟩
  · rw [added,List.filterMap_append,claims,List.append_nil,same]
    exact ledger.claims
  · rw [added] at member
    rcases List.mem_append.mp member with old | last
    · exact ledger.carried moved old
    · have claimed : situation.id ∈ events.filterMap claimedId := List.mem_filterMap.mpr ⟨_,last,rfl⟩
      rw [claims] at claimed
      cases claimed
  · rw [added,List.countP_append,silent]
    exact ledger.bootstrapped

theorem Ledger.unbootstrapped {world : DispatchWorld} (ledger : world.Ledger)
    (unclaimed : world.database.fallbacks = []) : world.log.countP bootstraps = 0 := by
  refine List.countP_eq_zero.mpr (fun event member claims => ?_)
  have listed := ledger.claims
  rw [unclaimed,List.map_nil,List.filterMap_eq_nil_iff] at listed
  have blank := listed event member
  cases event with
  | attempted _ _ claimed _ =>
    cases claimed with
    | none => cases claims
    | some situation => cases blank
  | notified => cases claims
  | recorded => cases claims

theorem Ledger.moved {world next : DispatchWorld} (ledger : world.Ledger) (moved : Moved world next) :
    next.Ledger := by
  have idle := @Ledger.idle world next ledger moved
  have carried := @Ledger.carried world next ledger moved
  cases moved with
  | unchanged => exact ledger
  | host database _ fallbacks =>
    exact idle (List.append_nil _).symm rfl rfl (congrArg (List.map FallbackRow.situationId) fallbacks)
  | started => exact idle rfl rfl rfl rfl
  | crashed => exact idle rfl rfl rfl rfl
  | missed => exact idle rfl rfl rfl rfl
  | notified => exact idle rfl rfl rfl rfl
  | recorded _ _ _ id _ outcome => exact idle rfl rfl rfl (completed_ids id outcome _)
  | claimed call dispatch mode situation called phase stored eligible =>
    refine ⟨?_,fun other claim row seen member => ?_,?_⟩
    · change (world.log ++ [_]).filterMap claimedId = (world.database.fallbacks ++ [_]).map _
      rw [List.filterMap_append,ledger.claims,List.map_append]
      rfl
    · rcases List.mem_append.mp member with old | last
      · exact carried old
      · cases List.mem_singleton.mp last
        exact ⟨stored,eligible,_,moveTo_self _ _ _ _ _,rfl⟩
    · change (world.log ++ [_]).countP bootstraps ≤ 1
      rw [List.countP_append,List.countP_singleton]
      cases mode with
      | configured => exact ledger.bootstrapped
      | bootstrap =>
        -- The first bootstrap claim finds an empty history, so no claim precedes it.
        rw [ledger.unbootstrapped (bootstrap_empty rfl eligible).2]
        split <;> decide

def Claimed (world : DispatchWorld) (call : Nat) (situation : Situation) : Prop :=
  ∃ claim seen, .attempted call claim (some situation) seen ∈ world.log

theorem Claimed.kept {world : DispatchWorld} {call : Nat} {situation : Situation}
    (claimed : world.Claimed call situation) (other : Nat) (later : Dispatch) (database : FallbackDatabase)
    (events : List DispatchEvent) : (world.moveTo other later database events).Claimed call situation := by
  obtain ⟨claim,seen,member⟩ := claimed
  exact ⟨claim,seen,List.mem_append_left events member⟩

theorem Ledger.one_claimer {world : DispatchWorld} (ledger : world.Ledger)
    (sound : world.database.Sound) {call other : Nat} {situation another : Situation}
    (first : world.Claimed call situation) (second : world.Claimed other another)
    (same : situation.id = another.id) : call = other ∧ situation = another := by
  obtain ⟨claim,seen,one⟩ := first
  obtain ⟨claim',seen',two⟩ := second
  have distinct : (world.log.filterMap claimedId).Nodup := by
    rw [ledger.claims]
    exact sound.claimedOnce
  have named : (DispatchEvent.attempted other claim' (some another) seen').claimedId = some situation.id :=
    congrArg some same.symm
  have equal := Table.filterMap_inj_on distinct one two rfl named
  cases equal
  exact ⟨rfl,rfl⟩

/-- The notifier runs once for each situation, for the call that claimed it. -/
structure NotifiedOnce (world : DispatchWorld) : Prop where
  once : (world.log.filterMap notifiedId).Nodup
  claimed : ∀ call id payload, .notified call id payload ∈ world.log →
    ∃ situation, world.Claimed call situation ∧ situation.id = id ∧ payload = notificationPayload situation
  waiting : ∀ call dispatch situation, world.calls call = some dispatch →
    dispatch.phase = .notifying situation →
      world.Claimed call situation ∧ situation.id ∉ world.log.filterMap notifiedId

theorem empty_notifiedOnce : empty.NotifiedOnce :=
  ⟨.nil,fun _ _ _ member => (nomatch member),fun _ _ _ called => (nomatch called)⟩

theorem NotifiedOnce.notified_claimed {world : DispatchWorld} (once : world.NotifiedOnce) {id : Nat}
    (listed : id ∈ world.log.filterMap notifiedId) :
    ∃ call situation, world.Claimed call situation ∧ situation.id = id := by
  obtain ⟨event,member,named⟩ := List.mem_filterMap.mp listed
  cases event with
  | notified call other payload =>
    cases named
    obtain ⟨situation,claimed,same,_⟩ := once.claimed _ _ _ member
    exact ⟨call,situation,claimed,same⟩
  | attempted => cases named
  | recorded => cases named

/-- A call that moves to a phase other than `notifying`, with events other than a notification. -/
theorem NotifiedOnce.idle {world : DispatchWorld} (once : world.NotifiedOnce) (call : Nat) {later : Dispatch}
    (database : FallbackDatabase) {events : List DispatchEvent}
    (phase : ∀ situation, later.phase ≠ .notifying situation) (silent : events.filterMap notifiedId = []) :
    (world.moveTo call later database events).NotifiedOnce := by
  have same : (world.moveTo call later database events).log.filterMap notifiedId =
      world.log.filterMap notifiedId := by
    change (world.log ++ events).filterMap notifiedId = _
    rw [List.filterMap_append,silent,List.append_nil]
  refine ⟨same ▸ once.once,fun other id payload member => ?_,fun other dispatch situation called at_ => ?_⟩
  · rcases List.mem_append.mp member with old | last
    · obtain ⟨situation,claimed,rest⟩ := once.claimed _ _ _ old
      exact ⟨situation,claimed.kept _ _ _ _,rest⟩
    · have notified : id ∈ events.filterMap notifiedId := List.mem_filterMap.mpr ⟨_,last,rfl⟩
      rw [silent] at notified
      cases notified
  · rw [same]
    by_cases here : other = call
    · subst here
      rw [moveTo_self] at called
      cases called
      exact absurd at_ (phase situation)
    · rw [moveTo_other _ _ _ _ here] at called
      obtain ⟨claimed,fresh⟩ := once.waiting _ _ _ called at_
      exact ⟨claimed.kept _ _ _ _,fresh⟩

/-- A situation without a fallback row was never notified. -/
theorem NotifiedOnce.unnotified {world : DispatchWorld} (once : world.NotifiedOnce) (ledger : world.Ledger)
    {situation : Situation} (untouched : ∀ fallback ∈ world.database.fallbacks,
      fallback.situationId ≠ situation.id) : situation.id ∉ world.log.filterMap notifiedId := by
  intro listed
  obtain ⟨claimant,claimedRow,⟨claim,seen,claimed⟩,named⟩ := once.notified_claimed listed
  have recorded : claimedRow.id ∈ world.database.fallbacks.map FallbackRow.situationId := by
    rw [← ledger.claims]
    exact List.mem_filterMap.mpr ⟨_,claimed,rfl⟩
  obtain ⟨fallback,present,equal⟩ := List.mem_map.mp recorded
  exact untouched fallback present (equal.trans named)

theorem NotifiedOnce.claim {world : DispatchWorld} (once : world.NotifiedOnce) (ledger : world.Ledger)
    (call : Nat) (dispatch : Dispatch) (claim : FallbackClaim) {situation : Situation}
    (untouched : ∀ fallback ∈ world.database.fallbacks, fallback.situationId ≠ situation.id) :
    (world.moveTo call {dispatch with phase := .notifying situation} (world.database.insert claim situation)
      [.attempted call claim (some situation) world.database]).NotifiedOnce := by
  have same : (world.moveTo call {dispatch with phase := .notifying situation}
      (world.database.insert claim situation)
      [.attempted call claim (some situation) world.database]).log.filterMap notifiedId =
        world.log.filterMap notifiedId := by
    change (world.log ++ [_]).filterMap notifiedId = _
    rw [List.filterMap_append]
    exact List.append_nil _
  refine ⟨same ▸ once.once,fun other id payload member => ?_,fun other later row found at_ => ?_⟩
  · rcases List.mem_append.mp member with old | last
    · obtain ⟨claimant,claimed,rest⟩ := once.claimed _ _ _ old
      exact ⟨claimant,claimed.kept _ _ _ _,rest⟩
    · cases List.mem_singleton.mp last
  · rw [same]
    by_cases here : other = call
    · subst here
      rw [moveTo_self] at found
      cases found
      cases at_
      exact ⟨⟨_,_,List.mem_append_right _ (List.mem_singleton.mpr rfl)⟩,once.unnotified ledger untouched⟩
    · rw [moveTo_other _ _ _ _ here] at found
      obtain ⟨claimed,fresh⟩ := once.waiting _ _ _ found at_
      exact ⟨claimed.kept _ _ _ _,fresh⟩

theorem NotifiedOnce.notify {world : DispatchWorld} (once : world.NotifiedOnce) (ledger : world.Ledger)
    (sound : world.database.Sound) {call : Nat} {dispatch : Dispatch} {situation : Situation}
    (failure : Option NotificationErrorCode) (called : world.calls call = some dispatch)
    (phase : dispatch.phase = .notifying situation) :
    (world.moveTo call {dispatch with phase := .recording situation.id failure} world.database
      [.notified call situation.id (notificationPayload situation)]).NotifiedOnce := by
  obtain ⟨claimed,fresh⟩ := once.waiting _ _ _ called phase
  have added : (world.moveTo call {dispatch with phase := .recording situation.id failure}
      world.database [.notified call situation.id (notificationPayload situation)]).log.filterMap
        notifiedId = world.log.filterMap notifiedId ++ [situation.id] := by
    change (world.log ++ [_]).filterMap notifiedId = _
    rw [List.filterMap_append]
    rfl
  refine ⟨?_,fun other id payload member => ?_,fun other later row found at_ => ?_⟩
  · rw [added]
    refine List.nodup_append.mpr ⟨once.once,by simp,fun id listed last member => ?_⟩
    rw [List.mem_singleton.mp member]
    exact fun same => fresh (same ▸ listed)
  · rcases List.mem_append.mp member with old | last
    · obtain ⟨claimant,claimed,rest⟩ := once.claimed _ _ _ old
      exact ⟨claimant,claimed.kept _ _ _ _,rest⟩
    · cases List.mem_singleton.mp last
      exact ⟨situation,claimed.kept _ _ _ _,rfl,rfl⟩
  · by_cases here : other = call
    · subst here
      rw [moveTo_self] at found
      cases found
      cases at_
    · rw [moveTo_other _ _ _ _ here] at found
      obtain ⟨others,unseen⟩ := once.waiting _ _ _ found at_
      refine ⟨others.kept _ _ _ _,fun listed => ?_⟩
      rw [added,List.mem_append,List.mem_singleton] at listed
      rcases listed with old | same
      · exact unseen old
      · exact here (ledger.one_claimer sound others claimed same).1

theorem NotifiedOnce.moved {world next : DispatchWorld} (once : world.NotifiedOnce)
    (ledger : world.Ledger) (sound : world.database.Sound) (moved : Moved world next) :
    next.NotifiedOnce := by
  cases moved with
  | unchanged => exact once
  | host => exact ⟨once.once,once.claimed,once.waiting⟩
  | started call settings now =>
    refine once.idle call _ (fun situation => ?_) rfl
    unfold start
    dsimp only
    split <;> exact DispatchPhase.noConfusion
  | missed call dispatch mode =>
    refine once.idle call _ (fun situation => ?_) rfl
    cases mode <;> exact DispatchPhase.noConfusion
  | recorded call dispatch later _ _ _ _ _ _ _ turned =>
    refine once.idle call _ (fun situation => ?_) rfl
    rw [turned]
    exact DispatchPhase.noConfusion
  | crashed call => exact once.idle call _ (fun _ => DispatchPhase.noConfusion) rfl
  | claimed call dispatch mode situation called phase stored eligible =>
    exact once.claim ledger call dispatch _ (baseEligible_facts stored (eligible_base eligible)).2
  | notified call dispatch situation failure called phase =>
    exact once.notify ledger sound failure called phase

/-- How many events of one call the log holds, of those that `selects` picks. -/
def share (world : DispatchWorld) (selects : DispatchEvent → Bool) (call : Nat) : Nat :=
  world.log.countP (fun event => event.call == call && selects event)

/-- The events of a call, its claims that took a situation, and all its claims. -/
def turns (world : DispatchWorld) : Nat → Nat := world.share (fun _ => true)

def wins (world : DispatchWorld) : Nat → Nat := world.share (fun event => event.claimedId.isSome)

def attempts (world : DispatchWorld) : Nat → Nat := world.share DispatchEvent.attempts

theorem attempts_le_turns (world : DispatchWorld) (call : Nat) :
    world.attempts call ≤ world.turns call := by
  refine List.countP_mono_left (fun event _ hit => ?_)
  rw [Bool.and_eq_true] at hit ⊢
  exact ⟨hit.1,rfl⟩

def owed : DispatchPhase → Nat
  | .notifying _ => 2
  | .recording .. => 1
  | .claiming _ | .finished | .crashed => 0

def misses : DispatchPhase → Nat
  | .claiming .bootstrap => 0
  | .claiming .configured | .notifying _ | .recording .. => 1
  | .finished | .crashed => 2

theorem misses_le (phase : DispatchPhase) : misses phase ≤ 2 := by
  cases phase with
  | claiming mode => cases mode <;> decide
  | _ => exact Nat.le_of_ble_eq_true rfl

/-- The work of a call is paid by the situations it claimed. -/
structure Paced (world : DispatchWorld) : Prop where
  unstarted : ∀ call, world.calls call = none → world.turns call = 0
  turns : ∀ call dispatch, world.calls call = some dispatch →
    world.turns call + owed dispatch.phase ≤ 3 * world.wins call + misses dispatch.phase
  attempts : ∀ call dispatch, world.calls call = some dispatch →
    world.attempts call ≤ world.wins call + misses dispatch.phase

theorem empty_paced : empty.Paced :=
  ⟨fun _ _ => rfl,fun _ _ called => (nomatch called),fun _ _ called => (nomatch called)⟩

theorem share_moveTo (world : DispatchWorld) (selects : DispatchEvent → Bool) (call other : Nat)
    (dispatch : Dispatch) (database : FallbackDatabase) (events : List DispatchEvent)
    (own : ∀ event ∈ events, event.call = call) :
    (world.moveTo call dispatch database events).share selects other =
      world.share selects other + if other = call then events.countP selects else 0 := by
  change (world.log ++ events).countP _ = _
  rw [List.countP_append,share]
  by_cases here : other = call
  · subst here
    rw [if_pos rfl]
    congr 1
    refine List.countP_congr (fun event member => ?_)
    rw [own event member,beq_self_eq_true,Bool.true_and]
  · rw [if_neg here]
    congr 1
    refine List.countP_eq_zero.mpr (fun event member => ?_)
    rw [own event member,beq_eq_false_iff_ne.mpr (Ne.symm here)]
    exact Bool.false_ne_true

theorem turns_moveTo (world : DispatchWorld) {call : Nat} (other : Nat) (dispatch : Dispatch)
    (database : FallbackDatabase) (events : List DispatchEvent)
    (own : ∀ event ∈ events, event.call = call) :
    (world.moveTo call dispatch database events).turns other =
      world.turns other + if other = call then events.length else 0 := by
  unfold turns
  rw [share_moveTo _ _ _ _ _ _ _ own,congrFun List.countP_true events]

theorem Paced.moveTo {world : DispatchWorld} (paced : world.Paced) (call : Nat) {later : Dispatch}
    {database : FallbackDatabase} {events : List DispatchEvent}
    (own : ∀ event ∈ events, event.call = call)
    (turned : world.turns call + events.length + owed later.phase ≤
      3 * (world.wins call + events.countP (fun event => event.claimedId.isSome)) + misses later.phase)
    (attempted : world.attempts call + events.countP DispatchEvent.attempts ≤
      world.wins call + events.countP (fun event => event.claimedId.isSome) + misses later.phase) :
    (world.moveTo call later database events).Paced := by
  refine ⟨fun other none => ?_,fun other dispatch called => ?_,fun other dispatch called => ?_⟩
  · by_cases here : other = call
    · subst here
      rw [moveTo_self] at none
      cases none
    · rw [moveTo_other _ _ _ _ here] at none
      rw [turns_moveTo _ _ _ _ _ own,if_neg here]
      exact paced.unstarted other none
  · rw [turns_moveTo _ _ _ _ _ own,wins,share_moveTo _ _ _ _ _ _ _ own]
    by_cases here : other = call
    · subst here
      rw [moveTo_self] at called
      cases called
      rw [if_pos rfl,if_pos rfl]
      exact turned
    · rw [moveTo_other _ _ _ _ here] at called
      rw [if_neg here,if_neg here]
      exact paced.turns other dispatch called
  · rw [DispatchWorld.attempts,wins,share_moveTo _ _ _ _ _ _ _ own,share_moveTo _ _ _ _ _ _ _ own]
    by_cases here : other = call
    · subst here
      rw [moveTo_self] at called
      cases called
      rw [if_pos rfl,if_pos rfl]
      exact attempted
    · rw [moveTo_other _ _ _ _ here] at called
      rw [if_neg here,if_neg here]
      exact paced.attempts other dispatch called

theorem Paced.moved {world next : DispatchWorld} (paced : world.Paced) (moved : Moved world next) :
    next.Paced := by
  have solo {event : DispatchEvent} {call : Nat} (by_ : event.call = call) :
      ∀ other ∈ [event], other.call = call := by
    intro other member
    rw [List.mem_singleton.mp member]
    exact by_
  have turned {call : Nat} {dispatch : Dispatch} {phase : DispatchPhase}
      (called : world.calls call = some dispatch) (at_ : dispatch.phase = phase) :
      world.turns call + owed phase ≤ 3 * world.wins call + misses phase ∧
        world.attempts call ≤ world.wins call + misses phase :=
    ⟨at_ ▸ paced.turns call dispatch called,at_ ▸ paced.attempts call dispatch called⟩
  cases moved with
  | unchanged => exact paced
  | host => exact ⟨paced.unstarted,paced.turns,paced.attempts⟩
  | started call settings now fresh =>
    have idle : world.turns call = 0 := paced.unstarted call fresh
    have fewer := attempts_le_turns world call
    have unowed : owed (start settings now).phase = 0 := by
      unfold start
      dsimp only
      split <;> rfl
    refine paced.moveTo call (fun _ member => (nomatch member)) ?_ ?_
    · rw [unowed,idle]
      exact Nat.zero_le _
    · simp only [List.countP_nil]
      omega
  | missed call dispatch mode claim called phase =>
    obtain ⟨turns,attempts⟩ := turned called phase
    refine paced.moveTo call (solo rfl) ?_ ?_
    · cases mode <;> simp [afterMiss,owed,misses,claimedId] at * <;> omega
    · cases mode <;> simp [afterMiss,misses,claimedId,DispatchEvent.attempts] at * <;> omega
  | claimed call dispatch mode situation called phase =>
    obtain ⟨turns,attempts⟩ := turned called phase
    refine paced.moveTo call (solo rfl) ?_ ?_
    · cases mode <;> simp [owed,misses,claimedId] at * <;> omega
    · cases mode <;> simp [misses,claimedId,DispatchEvent.attempts] at * <;> omega
  | notified call dispatch situation failure called phase =>
    obtain ⟨turns,attempts⟩ := turned called phase
    refine paced.moveTo call (solo rfl) ?_ ?_
    · simp [owed,misses,claimedId] at *
      omega
    · simpa [misses,claimedId,DispatchEvent.attempts] using attempts
  | recorded call dispatch later id failure outcome called phase _ _ next =>
    obtain ⟨turns,attempts⟩ := turned called phase
    refine paced.moveTo call (solo rfl) ?_ ?_
    · rw [next]
      simpa [owed,misses,claimedId] using turns
    · rw [next]
      simpa [misses,claimedId,DispatchEvent.attempts] using attempts
  | crashed call dispatch called =>
    obtain ⟨turns,attempts⟩ := turned called rfl
    have few := misses_le dispatch.phase
    refine paced.moveTo call (fun _ member => (nomatch member)) ?_ ?_
    · simp only [owed,misses,List.length_nil,List.countP_nil]
      omega
    · simp only [misses,List.countP_nil]
      omega

theorem wins_le {world : DispatchWorld} (ledger : world.Ledger) (sound : world.database.Sound)
    (call : Nat) : world.wins call ≤ world.database.store.situations.length := by
  have counted : (world.log.filterMap claimedId).length = world.database.fallbacks.length := by
    rw [ledger.claims,List.length_map]
  have fewer : world.wins call ≤ world.log.countP (fun event => event.claimedId.isSome) :=
    List.countP_mono_left (fun event _ hit => ((Bool.and_eq_true _ _).mp hit).2)
  have bound := sound.count_le
  rw [List.length_filterMap_eq_countP] at counted
  omega

def ended (world : DispatchWorld) (call : Nat) : Bool :=
  (world.calls call).any (fun dispatch => dispatch.phase == .finished || dispatch.phase == .crashed)

def advances (call : Nat) : DispatchInput → Bool
  | .advance other .. => other == call
  | _ => false

theorem advance_cases (world : DispatchWorld) (call : Nat) (dispatch : Dispatch)
    (failure : Option NotificationErrorCode) (timestamp : Int) :
    ((dispatch.phase = .finished ∨ dispatch.phase = .crashed) ∧
      world.advance call dispatch failure timestamp = world) ∨
    ∃ later database events, world.advance call dispatch failure timestamp =
      world.moveTo call later database events ∧ (∀ event ∈ events, event.call = call) ∧
        (later.phase = .crashed ∨ events.length = 1) := by
  unfold advance
  have solo {event : DispatchEvent} (by_ : event.call = call) : ∀ other ∈ [event], other.call = call := by
    intro other member
    rw [List.mem_singleton.mp member]
    exact by_
  have died (database : FallbackDatabase) : ∃ later left events,
      world.moveTo call {dispatch with phase := .crashed} database [] =
        world.moveTo call later left events ∧ (∀ event ∈ events, event.call = call) ∧
          (later.phase = .crashed ∨ events.length = 1) :=
    ⟨_,_,_,rfl,fun _ member => (nomatch member),Or.inl rfl⟩
  cases phase : dispatch.phase with
  | claiming mode =>
    right
    dsimp only
    split
    · exact ⟨_,_,_,rfl,solo rfl,Or.inr rfl⟩
    · exact ⟨_,_,_,rfl,solo rfl,Or.inr rfl⟩
    · exact died _
  | notifying situation => exact Or.inr ⟨_,_,_,rfl,solo rfl,Or.inr rfl⟩
  | recording id notified =>
    right
    dsimp only
    split
    · exact ⟨_,_,_,rfl,solo rfl,Or.inr rfl⟩
    · exact died _
  | finished => exact Or.inl ⟨Or.inl rfl,rfl⟩
  | crashed => exact Or.inl ⟨Or.inr rfl,rfl⟩

theorem ended_of_phase {world : DispatchWorld} {call : Nat} {dispatch : Dispatch}
    (called : world.calls call = some dispatch)
    (phase : dispatch.phase = .finished ∨ dispatch.phase = .crashed) : world.ended call = true := by
  rw [ended,called]
  rcases phase with phase | phase <;> simp [phase]

theorem moveTo_turns (world : DispatchWorld) {call : Nat} {dispatch later : Dispatch}
    {database : FallbackDatabase} {events : List DispatchEvent} (other : Nat)
    (called : world.calls call = some dispatch) (own : ∀ event ∈ events, event.call = call)
    (paid : later.phase = .crashed ∨ events.length = 1) (started : world.calls other ≠ none) :
    (world.moveTo call later database events).calls other ≠ none ∧
      ((world.moveTo call later database events).ended other = true ∨
        world.turns other + (call == other).toNat ≤
          (world.moveTo call later database events).turns other) := by
  by_cases here : other = call
  · subst here
    refine ⟨by rw [moveTo_self]; exact Option.some_ne_none _,?_⟩
    rcases paid with died | one
    · exact Or.inl (ended_of_phase (moveTo_self _ _ _ _ _) (Or.inr died))
    · right
      rw [turns_moveTo _ _ _ _ _ own,if_pos rfl,one,beq_self_eq_true]
      exact Nat.le_refl _
  · rw [moveTo_other _ _ _ _ here]
    refine ⟨started,Or.inr ?_⟩
    rw [turns_moveTo _ _ _ _ _ own,if_neg here,beq_eq_false_iff_ne.mpr (Ne.symm here)]
    exact Nat.le_refl _

structure OneShot (world : DispatchWorld) : Prop where
  sound : world.database.Sound
  ledger : world.Ledger
  notifiedOnce : world.NotifiedOnce
  paced : world.Paced

section runs
variable [EvidenceJson]

def after (inputs : List DispatchInput) : DispatchWorld := Run.run step empty inputs

theorem after_oneShot (inputs : List DispatchInput) : (after inputs).OneShot := by
  refine Run.run_invariant step OneShot (fun world input one => ?_) empty inputs
    ⟨empty_sound,empty_ledger,empty_notifiedOnce,empty_paced⟩
  have moved := step_moved one.sound input
  exact ⟨moved.sound one.sound,one.ledger.moved moved,one.notifiedOnce.moved one.ledger one.sound moved,
    one.paced.moved moved⟩

theorem after_append (earlier later : List DispatchInput) :
    after (earlier ++ later) = Run.run step (after earlier) later :=
  Run.run_append step empty earlier later

/-- A terminal outcome outlives every later input. -/
theorem terminal_kept (world : DispatchWorld) (sound : world.database.Sound) (later : List DispatchInput)
    (row : FallbackRow) (terminal : row.outcome ≠ .claimed) (member : row ∈ world.database.fallbacks) :
    row ∈ (Run.run step world later).database.fallbacks := by
  have holds := Run.run_invariant step
    (fun world => world.database.Sound ∧ row ∈ world.database.fallbacks) (fun world input kept => ?_)
    world later ⟨sound,member⟩
  · exact holds.2
  · have moved := step_moved kept.1 input
    refine ⟨moved.sound kept.1,?_⟩
    have present := kept.2
    generalize step world input = next at moved ⊢
    cases moved with
    | host _ _ fallbacks => exact fallbacks ▸ present
    | claimed => exact List.mem_append_left _ present
    | recorded => exact completed_keeps present terminal
    | _ => exact present

/-- A call that has not ended takes part in the log each time it advances. -/
theorem step_turns (world : DispatchWorld) (input : DispatchInput) (call : Nat)
    (started : world.calls call ≠ none) :
    (step world input).calls call ≠ none ∧ ((step world input).ended call = true ∨
      world.turns call + (advances call input).toNat ≤ (step world input).turns call) := by
  have same : world.calls call ≠ none ∧ (world.ended call = true ∨
      world.turns call + false.toNat ≤ world.turns call) := ⟨started,Or.inr (Nat.le_refl _)⟩
  cases input with
  | host operation => exact same
  | dispatch other settings now =>
    rw [step]
    cases called : world.calls other with
    | some dispatch => exact same
    | none =>
      have different : call ≠ other := fun equal => started (equal ▸ called)
      have idle : ∀ event ∈ ([] : List DispatchEvent), event.call = other := by simp
      dsimp only
      rw [moveTo_other _ _ _ _ different,turns_moveTo _ _ _ _ _ idle,if_neg different]
      exact ⟨started,Or.inr (Nat.le_refl _)⟩
  | advance other failure timestamp =>
    rw [step]
    cases called : world.calls other with
    | none =>
      have different : other ≠ call := fun equal => started (equal ▸ called)
      rw [advances,beq_eq_false_iff_ne.mpr different]
      exact same
    | some dispatch =>
      dsimp only
      rcases advance_cases world other dispatch failure timestamp with ⟨finished,still⟩ |
        ⟨later,database,events,moves,own,paid⟩
      · rw [still]
        by_cases here : other = call
        · subst here
          exact ⟨started,Or.inl (ended_of_phase called finished)⟩
        · rw [advances,beq_eq_false_iff_ne.mpr here]
          exact same
      · rw [moves]
        exact moveTo_turns world call called own paid started
  | crash other =>
    rw [step]
    cases called : world.calls other with
    | none => exact same
    | some dispatch =>
      dsimp only
      split
      · exact same
      · exact same
      · have idle : ∀ event ∈ ([] : List DispatchEvent), event.call = other := by simp
        have died : ({dispatch with phase := .crashed} : Dispatch).phase = .crashed := rfl
        obtain ⟨present,turned⟩ := moveTo_turns world call called idle (Or.inl died) started
        exact ⟨present,turned.imp_right (fun more => Nat.le_trans (Nat.le_add_right _ _) more)⟩

theorem step_ended (world : DispatchWorld) (input : DispatchInput) (call : Nat)
    (finished : world.ended call = true) : (step world input).ended call = true := by
  have elsewhere {other : Nat} (later : Dispatch) (database : FallbackDatabase)
      (events : List DispatchEvent) (different : call ≠ other) :
      (world.moveTo other later database events).ended call = true := by
    rw [ended,moveTo_other _ _ _ _ different]
    exact finished
  have phase {dispatch : Dispatch} (called : world.calls call = some dispatch) :
      dispatch.phase = .finished ∨ dispatch.phase = .crashed := by
    rw [ended,called,Option.any_some,Bool.or_eq_true,beq_iff_eq,beq_iff_eq] at finished
    exact finished
  cases input with
  | host operation => exact finished
  | dispatch other settings now =>
    rw [step]
    cases called : world.calls other with
    | some dispatch => exact finished
    | none =>
      refine elsewhere _ _ _ (fun equal => ?_)
      rw [ended,equal,called] at finished
      cases finished
  | advance other failure timestamp =>
    rw [step]
    cases called : world.calls other with
    | none => exact finished
    | some dispatch =>
      by_cases here : call = other
      · subst here
        dsimp only
        unfold advance
        rcases phase called with at_ | at_
        · simpa only [at_] using finished
        · simpa only [at_] using finished
      · dsimp only
        rcases advance_cases world other dispatch failure timestamp with ⟨_,still⟩ |
          ⟨later,database,events,moves,_⟩
        · rw [still]
          exact finished
        · rw [moves]
          exact elsewhere _ _ _ here
  | crash other =>
    rw [step]
    cases called : world.calls other with
    | none => exact finished
    | some dispatch =>
      dsimp only
      split
      · exact finished
      · exact finished
      · rename_i running crashless
        refine elsewhere _ _ _ (fun equal => ?_)
        subst equal
        rcases phase called with at_ | at_
        · exact running at_
        · exact crashless at_

theorem run_turns (world : DispatchWorld) (later : List DispatchInput) (call : Nat)
    (started : world.calls call ≠ none) :
    (Run.run step world later).calls call ≠ none ∧ ((Run.run step world later).ended call = true ∨
      world.turns call + later.countP (advances call) ≤ (Run.run step world later).turns call) := by
  induction later using List.reverseRecOn with
  | nil => exact ⟨started,Or.inr (Nat.le_refl _)⟩
  | append_singleton front input ih =>
    rw [Run.run_append,Run.run_cons,Run.run_nil,List.countP_append,List.countP_singleton]
    obtain ⟨present,before⟩ := ih
    obtain ⟨kept,turned⟩ := step_turns _ input call present
    refine ⟨kept,?_⟩
    rcases before with finished | worked
    · exact Or.inl (step_ended _ input call finished)
    · refine turned.imp_right (fun more => ?_)
      have counted : (if advances call input = true then 1 else 0) = (advances call input).toNat := by
        cases advances call input <;> rfl
      rw [counted]
      omega

/-- Over every interleaving of dispatches, crashes and store operations: the notifier
runs at most once for each situation and only for a call that claimed it; one claim at
most is a bootstrap claim, made while both histories were empty; each claimed situation
was unreceived; a terminal outcome stays; and every call ends, after at most one
successful claim for each stored situation. -/
theorem fallback_one_shot (inputs : List DispatchInput) :
    ((after inputs).log.filterMap notifiedId).Nodup ∧
    (∀ call id payload, .notified call id payload ∈ (after inputs).log →
      ∃ situation, (after inputs).Claimed call situation ∧ situation.id = id ∧
        payload = notificationPayload situation) ∧
    (after inputs).log.countP bootstraps ≤ 1 ∧
    (∀ call claim situation seen, .attempted call claim (some situation) seen ∈ (after inputs).log →
      Unreceived seen claim situation ∧
      (claim.mode = .bootstrap → seen.store.deliveries = [] ∧ seen.fallbacks = []) ∧
      ∃ dispatch, (after inputs).calls call = some dispatch ∧ claim.claimedAt = dispatch.now) ∧
    (∀ later, ∀ row ∈ (after inputs).database.fallbacks, row.outcome ≠ .claimed →
      row ∈ (after (inputs ++ later)).database.fallbacks) ∧
    ((after inputs).log.filterMap claimedId).Nodup ∧
    (∀ call, (after inputs).wins call ≤ (after inputs).database.store.situations.length ∧
      (after inputs).attempts call ≤ (after inputs).wins call + 2) ∧
    ∀ call later, (after inputs).calls call ≠ none →
      3 * maxSituationRows + 2 < later.countP (advances call) →
        (after (inputs ++ later)).ended call = true := by
  have one := after_oneShot inputs
  refine ⟨one.notifiedOnce.once,one.notifiedOnce.claimed,one.ledger.bootstrapped,
    fun call claim situation seen member => ?_,fun later row member terminal => ?_,?_,
    fun call => ⟨wins_le one.ledger one.sound call,?_⟩,fun call later started many => ?_⟩
  · obtain ⟨stored,eligible,dispatch,called,made⟩ := one.ledger.lawful _ _ _ _ member
    refine ⟨(baseEligible_facts stored (eligible_base eligible)).1,
      fun mode => bootstrap_empty mode eligible,dispatch,called,?_⟩
    rw [made]
    rfl
  · rw [after_append]
    exact terminal_kept _ one.sound later row terminal member
  · rw [one.ledger.claims]
    exact one.sound.claimedOnce
  · cases called : (after inputs).calls call with
    | none =>
      have idle := one.paced.unstarted call called
      have fewer := attempts_le_turns (after inputs) call
      omega
    | some dispatch =>
      have bound := one.paced.attempts call dispatch called
      have few := misses_le dispatch.phase
      omega
  · have next := after_oneShot (inputs ++ later)
    rw [after_append] at next ⊢
    obtain ⟨present,finished | worked⟩ := run_turns (after inputs) later call started
    · exact finished
    · obtain ⟨dispatch,called⟩ := Option.ne_none_iff_exists'.mp present
      have bound := next.paced.turns call dispatch called
      have won := wins_le next.ledger next.sound call
      have capacity := next.sound.capacity
      have few := misses_le dispatch.phase
      omega

end runs

/-- One call notifies and dies before it records; a second and a third find nothing. -/
def unrecordedNotification : List DispatchInput :=
  let reply : Detection := ⟨.replyDeadline,"reply:1",.high,"t","w",.empty,none⟩
  let hour := 3600 * second
  [.host (.upsertDetections [reply] 0),.dispatch 1 .default hour,.dispatch 2 .default hour,
    .advance 1 none hour,.advance 2 none hour,.advance 1 none hour,.crash 1,.advance 2 none hour,
    .dispatch 3 .default (2 * hour),.advance 3 none hour,.advance 3 none hour]

example : (@after EvidenceJson.compact unrecordedNotification).log.filterMap notifiedId = [1] ∧
    (@after EvidenceJson.compact unrecordedNotification).database.fallbacks.map FallbackRow.outcome =
      [.claimed] := by decide +kernel

end DispatchWorld
end Proactive.Delivery
