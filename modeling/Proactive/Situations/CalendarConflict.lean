import Mathlib.Data.List.Sort
import Proactive.Library.Outcome
import Proactive.Situations.Inputs

/-! Deterministic calendar-conflict detection over calendar event snapshots. -/
namespace Proactive.Situations
open Proactive.Library Proactive.Store

def maxCalendarConflicts : Nat := 1000

structure ConflictSettings where
  now : Int
  zone : TimeZone
  criticalWindow : Int
  highWindow : Int

/-- One committed event reduced to a UTC interval. -/
structure Interval where
  event : CalendarEvent
  start : Int
  end_ : Int
  allDay : Bool
deriving DecidableEq, Repr

def instant (zone : TimeZone) : Option EventBound → Except Raised (Option Int)
  | some (.timedInstant instant) => .ok (some instant)
  | some (.allDayDate date) => (zone.checkedLocalDayStart date).map some
  | none => .ok none

def committed (event : CalendarEvent) : Bool :=
  event.status == .confirmed && event.transparency == .opaqueEvent &&
    (event.isOrganizer || event.selfResponseStatus == some .accepted)

def startsAllDay (event : CalendarEvent) : Bool :=
  match event.start with
  | some (.allDayDate _) => true
  | _ => false

def intervalBetween (event : CalendarEvent) : Option Int → Option Int → Option Interval
  | some start,some end_ => some ⟨event,start,end_,startsAllDay event⟩
  | _,_ => none

def committedIntervals (zone : TimeZone) : List CalendarEvent → Except Raised (List Interval)
  | [] => .ok []
  | event::rest =>
    if committed event then do
      let start ← instant zone event.start
      let end_ ← instant zone event.end_
      let intervals ← committedIntervals zone rest
      return (intervalBetween event start end_).toList ++ intervals
    else committedIntervals zone rest

/-- At most, in the order of the sort key `(start, end, event.id)`. -/
def Interval.Precedes (first second : Interval) : Prop :=
  first.start < second.start ∨ (first.start = second.start ∧
    (first.end_ < second.end_ ∨ (first.end_ = second.end_ ∧ first.event.id ≤ second.event.id)))

instance (first second : Interval) : Decidable (first.Precedes second) :=
  inferInstanceAs (Decidable (_ ∨ _))

def conflictPriority (settings : ConflictSettings) (overlapStart : Int) : SituationPriority :=
  if overlapStart ≤ settings.now + settings.criticalWindow then .critical
  else if overlapStart ≤ settings.now + settings.highWindow then .high
  else .routine

def secondsPerHour : Int := 3600

def urgencyText (lead : Int) : String :=
  if lead ≤ 0 then "the overlap already started"
  else "the overlap starts in " ++ toString (lead / (secondsPerHour * second)) ++ "h"

def quotedSummary (label : String) (interval : Interval) : List (String × String) :=
  (interval.event.summary.map (fun summary => (label,summary))).toList

/-- What `_detection` returns, given the local wall clock of both ends of the overlap. -/
def describeOverlap (settings : ConflictSettings) (first second : Interval)
    (localStart localEnd : Int) : Detection :=
  let overlapStart := second.start
  let overlapEnd := min first.end_ second.end_
  let onDate := isoDate (localStart / day)
  let lowId := if first.event.id ≤ second.event.id then first.event.id else second.event.id
  let highId := if first.event.id ≤ second.event.id then second.event.id else first.event.id
  { situationType := .calendarConflict
    dedupeKey := "calendar_conflict:" ++ lowId ++ ":" ++ highId
    priority := conflictPriority settings overlapStart
    title := "Calendar conflict on " ++ onDate
    whyNow := "Two committed events overlap " ++ clockTime localStart ++ "-" ++ clockTime localEnd ++
      " on " ++ onDate ++ "; " ++ urgencyText (overlapStart - settings.now)
    evidence := ⟨[("event_a_id",first.event.id),("event_b_id",second.event.id),
      ("event_a_start",isoInstant first.start),("event_a_end",isoInstant first.end_),
      ("event_b_start",isoInstant second.start),("event_b_end",isoInstant second.end_),
      ("overlap_start",isoInstant overlapStart),("overlap_end",isoInstant overlapEnd)],
      quotedSummary "event_a" first ++ quotedSummary "event_b" second,[],[]⟩
    expiresAt := some overlapEnd }

/-- `_detection`; the overlap runs from the later start to the earlier end. -/
def conflictDetection (settings : ConflictSettings) (first second : Interval) :
    Except Raised Detection := do
  let localStart ← settings.zone.checkedLocalTime second.start
  let localEnd ← settings.zone.checkedLocalTime (min first.end_ second.end_)
  return describeOverlap settings first second localStart localEnd

/-- The dictionaries `active` and `active_timed` in insertion order, and the heap
of ends as its elements in ascending order. -/
structure Sweep where
  active : List (Nat × Interval)
  activeTimed : List (Nat × Interval)
  ends : List (Int × Nat)
deriving DecidableEq, Repr

def popEntry (sequence : Nat) (entries : List (Nat × Interval)) :
    Except Raised (Interval × List (Nat × Interval)) :=
  match entries.lookup sequence with
  | none => .error .keyError
  | some interval => .ok (interval,entries.filter (fun entry => entry.1 != sequence))

def popTimed (sequence : Nat) (expired : Interval) (activeTimed : List (Nat × Interval)) :
    Except Raised (List (Nat × Interval)) :=
  if expired.allDay then .ok activeTimed else (popEntry sequence activeTimed).map Prod.snd

/-- The loop that drops what ended by `start`, over the heap's elements. -/
def expireEnded (start : Int) (active activeTimed : List (Nat × Interval)) :
    List (Int × Nat) → Except Raised Sweep
  | [] => .ok ⟨active,activeTimed,[]⟩
  | (end_,sequence)::ends =>
    if end_ ≤ start then do
      let (expired,active) ← popEntry sequence active
      let activeTimed ← popTimed sequence expired activeTimed
      expireEnded start active activeTimed ends
    else .ok ⟨active,activeTimed,(end_,sequence)::ends⟩

def EndsBefore (first second : Int × Nat) : Prop :=
  first.1 < second.1 ∨ (first.1 = second.1 ∧ first.2 ≤ second.2)

instance (first second : Int × Nat) : Decidable (EndsBefore first second) :=
  inferInstanceAs (Decidable (_ ∨ _))

def Sweep.enter (sweep : Sweep) (sequence : Nat) (current : Interval) : Sweep where
  active := sweep.active ++ [(sequence,current)]
  activeTimed := if current.allDay then sweep.activeTimed else sweep.activeTimed ++ [(sequence,current)]
  ends := sweep.ends.orderedInsert EndsBefore (current.end_,sequence)

/-- The detections so far, and whether one more would exceed the bound. -/
abbrev Reported := List Detection × Bool

/-- The loop over the candidates that may overlap `current`. -/
def reportOverlaps (settings : ConflictSettings) (current : Interval) :
    List Interval → List Detection → Except Raised Reported
  | [],detections => .ok (detections,false)
  | previous::rest,detections =>
    if min previous.end_ current.end_ ≤ settings.now then reportOverlaps settings current rest detections
    else if detections.length = maxCalendarConflicts then .ok (detections,true)
    else do
      let detection ← conflictDetection settings previous current
      reportOverlaps settings current rest (detections ++ [detection])

/-- The sweep over the remaining intervals, the first of them numbered `sequence`. -/
def sweepIntervals (settings : ConflictSettings) (sweep : Sweep) (sequence : Nat) :
    List Interval → List Detection → Except Raised Reported
  | [],detections => .ok (detections,false)
  | current::rest,detections => do
    let sweep ← expireEnded current.start sweep.active sweep.activeTimed sweep.ends
    let candidates := if current.allDay then sweep.activeTimed else sweep.active
    let (detections,overflow) ←
      reportOverlaps settings current (candidates.map Prod.snd) detections
    if overflow then return (detections,true)
    sweepIntervals settings (sweep.enter sequence current) (sequence + 1) rest detections

def conflictRun : Reported → CalendarConflictRun
  | (detections,overflow) =>
    ⟨detections,!overflow,if overflow then ["calendar_conflict_output_overflow"] else []⟩

def orderedIntervals (settings : ConflictSettings) (intervals : List Interval) : List Interval :=
  (intervals.filter (fun interval => settings.now < interval.end_)).insertionSort Interval.Precedes

def runCalendarConflictDetection (settings : ConflictSettings) (events : List CalendarEvent) :
    Except Raised CalendarConflictRun := do
  let intervals ← committedIntervals settings.zone events
  let reported ← sweepIntervals settings ⟨[],[],[]⟩ 0 (orderedIntervals settings intervals) []
  return conflictRun reported

instance : Std.Total Interval.Precedes where
  total first second := by
    unfold Interval.Precedes
    have named := String.le_total first.event.id second.event.id
    grind

instance : IsTrans Interval Interval.Precedes where
  trans first second third one two := by
    unfold Interval.Precedes at *
    have named : first.event.id ≤ second.event.id → second.event.id ≤ third.event.id →
        first.event.id ≤ third.event.id := String.le_trans
    grind

instance : Std.Total EndsBefore where
  total first second := by
    unfold EndsBefore
    omega

instance : IsTrans (Int × Nat) EndsBefore where
  trans first second third one two := by
    unfold EndsBefore at *
    omega

theorem orderedIntervals_sorted (settings : ConflictSettings) (intervals : List Interval) :
    (orderedIntervals settings intervals).Pairwise (fun first second => first.start ≤ second.start) := by
  have sorted := List.pairwise_insertionSort Interval.Precedes
    (intervals.filter (fun interval => settings.now < interval.end_))
  refine sorted.imp (fun ordered => ?_)
  rcases ordered with less | ⟨same,_⟩
  · exact Int.le_of_lt less
  · exact Int.le_of_eq same

/-- The dictionaries and the heap agree: `activeTimed` is the timed part of
`active`, whose sequence numbers are distinct and whose ends are the heap. -/
structure Sweep.Aligned (sweep : Sweep) : Prop where
  keys : (sweep.active.map Prod.fst).Nodup
  ends : sweep.ends.Perm (sweep.active.map (fun entry => (entry.2.end_,entry.1)))
  sorted : sweep.ends.Pairwise EndsBefore
  timed : sweep.activeTimed = sweep.active.filter (fun entry => !entry.2.allDay)

theorem popEntry_mem {entries : List (Nat × Interval)} {sequence : Nat} {interval : Interval}
    (keys : (entries.map Prod.fst).Nodup) (member : (sequence,interval) ∈ entries) :
    popEntry sequence entries = .ok (interval,entries.filter (fun entry => entry.1 != sequence)) := by
  have found : entries.lookup sequence = some interval := by
    induction entries with
    | nil => contradiction
    | cons head tail ih =>
      obtain ⟨fresh,rest⟩ := List.nodup_cons.mp keys
      rcases List.mem_cons.mp member with rfl | later
      · exact List.lookup_cons_self
      · have different : sequence ≠ head.1 := fun same =>
          fresh (same ▸ List.mem_map_of_mem later)
        rw [List.lookup_cons,beq_false_of_ne different]
        exact ih rest later
  rw [popEntry,found]

theorem Sweep.Aligned.pop {active activeTimed : List (Nat × Interval)} {ends : List (Int × Nat)}
    {end_ : Int} {sequence : Nat} (aligned : Sweep.Aligned ⟨active,activeTimed,(end_,sequence)::ends⟩) :
    ∃ expired activeTimed', expired.end_ = end_ ∧ (sequence,expired) ∈ active ∧
      popEntry sequence active = .ok (expired,active.filter (fun entry => entry.1 != sequence)) ∧
      popTimed sequence expired activeTimed = .ok activeTimed' ∧
      Sweep.Aligned ⟨active.filter (fun entry => entry.1 != sequence),activeTimed',ends⟩ := by
  obtain ⟨keys,perm,sorted,timed⟩ := aligned
  dsimp only at keys perm sorted timed
  obtain ⟨⟨key,expired⟩,member,same⟩ := List.mem_map.mp (perm.subset List.mem_cons_self)
  obtain ⟨rfl,rfl⟩ := Prod.mk.inj same
  have others : ∀ entry ∈ active, (entry.1 != key) = true ↔ entry ≠ (key,expired) := by
    intro entry present
    rw [bne_iff_ne]
    exact ⟨fun different equal => different (congrArg Prod.fst equal),fun different equal =>
      different (List.inj_on_of_nodup_map keys present member equal)⟩
  have split : active.Perm ((key,expired)::active.filter (fun entry => entry.1 != key)) := by
    have distinct := List.Nodup.of_map Prod.fst keys
    have erased : active.filter (fun entry => entry.1 != key) = active.erase (key,expired) := by
      rw [distinct.erase_eq_filter]
      exact List.filter_congr (fun entry present => by
        rw [Bool.eq_iff_iff,others entry present,bne_iff_ne])
    rw [erased]
    exact List.perm_cons_erase member
  have heap : ends.Perm ((active.filter (fun entry => entry.1 != key)).map
      (fun entry => (entry.2.end_,entry.1))) :=
    (perm.trans (split.map _)).cons_inv
  have remaining : activeTimed.filter (fun entry => entry.1 != key) =
      (active.filter (fun entry => entry.1 != key)).filter (fun entry => !entry.2.allDay) := by
    rw [timed,List.filter_filter,List.filter_filter]
    exact List.filter_congr (fun entry _ => Bool.and_comm _ _)
  refine ⟨expired,activeTimed.filter (fun entry => entry.1 != key),rfl,member,popEntry_mem keys member,?_,
    ⟨keys.sublist (List.filter_sublist.map _),heap,sorted.of_cons,remaining⟩⟩
  unfold popTimed
  cases allDay : expired.allDay with
  | true =>
    rw [if_pos rfl,timed]
    refine congrArg Except.ok (List.filter_eq_self.mpr (fun entry present => ?_)).symm
    obtain ⟨present,timedEntry⟩ := List.mem_filter.mp present
    rw [others entry present]
    rintro rfl
    rw [allDay] at timedEntry
    contradiction
  | false =>
    rw [if_neg Bool.false_ne_true,popEntry_mem]
    · rfl
    · rw [timed]
      exact keys.sublist (List.filter_sublist.map _)
    · rw [timed]
      exact List.mem_filter.mpr ⟨member,by simp [allDay]⟩

theorem expireEnded_run (start : Int) (active activeTimed : List (Nat × Interval))
    (ends : List (Int × Nat)) (aligned : Sweep.Aligned ⟨active,activeTimed,ends⟩) :
    ∃ sweep, expireEnded start active activeTimed ends = .ok sweep ∧ sweep.Aligned ∧
      sweep.active = active.filter (fun entry => start < entry.2.end_) := by
  induction ends generalizing active activeTimed with
  | nil =>
    have empty : active = [] := by simpa using aligned.ends
    subst empty
    exact ⟨_,rfl,aligned,rfl⟩
  | cons first ends ih =>
    obtain ⟨end_,sequence⟩ := first
    unfold expireEnded
    by_cases ended : end_ ≤ start
    · rw [if_pos ended]
      obtain ⟨expired,activeTimed',same,member,popped,timed,rest⟩ := aligned.pop
      obtain ⟨sweep,ran,after,kept⟩ := ih _ _ rest
      refine ⟨sweep,?_,after,?_⟩
      · rw [popped]
        change (popTimed sequence expired activeTimed >>= _) = _
        rw [timed]
        exact ran
      · rw [kept,List.filter_filter]
        apply List.filter_congr
        intro entry present
        by_cases key : entry.1 = sequence
        · have equal := List.inj_on_of_nodup_map aligned.keys present member key
          subst equal
          have past : ¬start < expired.end_ := by omega
          simp [past]
        · simp [key]
    · rw [if_neg ended]
      refine ⟨_,rfl,aligned,(List.filter_eq_self.mpr (fun entry present => ?_)).symm⟩
      have listed := aligned.ends.symm.subset (List.mem_map_of_mem present)
      have later : end_ ≤ entry.2.end_ := by
        rcases List.mem_cons.mp listed with same | tail
        · exact Int.le_of_eq (congrArg Prod.fst same).symm
        · have ordered := List.rel_of_pairwise_cons aligned.sorted tail
          unfold EndsBefore at ordered
          dsimp only at ordered
          omega
      have ahead : start < entry.2.end_ := by omega
      simpa using ahead

theorem Sweep.Aligned.enter {sweep : Sweep} (aligned : sweep.Aligned) {sequence : Nat}
    (fresh : ∀ entry ∈ sweep.active, entry.1 < sequence) (current : Interval) :
    (sweep.enter sequence current).Aligned where
  keys := by
    rw [Sweep.enter,List.map_append]
    refine List.nodup_append.mpr ⟨aligned.keys,by simp,?_⟩
    intro key member other last
    obtain ⟨entry,present,rfl⟩ := List.mem_map.mp member
    obtain rfl : other = sequence := by simpa using last
    exact Nat.ne_of_lt (fresh entry present)
  ends := by
    rw [Sweep.enter,List.map_append]
    refine (List.perm_orderedInsert _ _ _).trans ?_
    exact (aligned.ends.cons _).trans (List.perm_append_singleton _ _).symm
  sorted := aligned.sorted.orderedInsert _ _
  timed := by
    rw [Sweep.enter,List.filter_append,aligned.timed]
    cases allDay : current.allDay <;> simp [allDay]

/-- Neither ended when the other starts, and they are not both all-day. -/
def overlapping (previous current : Interval) : Bool :=
  current.start < previous.end_ && !(previous.allDay && current.allDay)

/-- The pairs of overlapping intervals in the order in which the sweep meets
them: by the later interval, then by the earlier one. -/
def conflictPairs (now : Int) : List Interval → List Interval → List (Interval × Interval)
  | _,[] => []
  | earlier,current::rest =>
    (earlier.filter (fun previous => overlapping previous current &&
        now < min previous.end_ current.end_)).map (fun previous => (previous,current)) ++
      conflictPairs now (earlier ++ [current]) rest

def reportPairs (settings : ConflictSettings) :
    List (Interval × Interval) → List Detection → Except Raised Reported
  | [],detections => .ok (detections,false)
  | (first,second)::rest,detections =>
    if detections.length = maxCalendarConflicts then .ok (detections,true)
    else do
      let detection ← conflictDetection settings first second
      reportPairs settings rest (detections ++ [detection])

theorem reportPairs_append (settings : ConflictSettings) (first second : List (Interval × Interval))
    (detections : List Detection) :
    reportPairs settings (first ++ second) detections = (do
      let (detections,overflow) ← reportPairs settings first detections
      if overflow then return (detections,true)
      reportPairs settings second detections) := by
  induction first generalizing detections with
  | nil => rfl
  | cons pair rest ih =>
    rw [List.cons_append,reportPairs,reportPairs]
    by_cases full : detections.length = maxCalendarConflicts
    · rw [if_pos full,if_pos full]
      rfl
    · rw [if_neg full,if_neg full]
      cases conflictDetection settings pair.1 pair.2 with
      | error error => rfl
      | ok detection => exact ih _

theorem reportOverlaps_eq (settings : ConflictSettings) (current : Interval)
    (candidates : List Interval) (detections : List Detection) :
    reportOverlaps settings current candidates detections =
      reportPairs settings ((candidates.filter (fun previous =>
        settings.now < min previous.end_ current.end_)).map (fun previous => (previous,current)))
        detections := by
  induction candidates generalizing detections with
  | nil => rfl
  | cons previous rest ih =>
    unfold reportOverlaps
    by_cases past : min previous.end_ current.end_ ≤ settings.now
    · have dropped : ¬decide (settings.now < min previous.end_ current.end_) = true := by
        rw [decide_eq_true_eq]
        exact not_lt.mpr past
      rw [if_pos past,ih,List.filter_cons,if_neg dropped]
    · have kept : decide (settings.now < min previous.end_ current.end_) = true := by
        rw [decide_eq_true_eq]
        exact not_le.mp past
      rw [if_neg past,List.filter_cons,if_pos kept,List.map_cons,reportPairs]
      simp only [ih]

/-- The sweep meets exactly the overlapping pairs: whatever the dictionaries
dropped had ended before every interval that follows. -/
theorem sweepIntervals_eq (settings : ConflictSettings) (rest : List Interval) (sweep : Sweep)
    (sequence : Nat) (earlier : List Interval) (bound : Int) (detections : List Detection)
    (aligned : sweep.Aligned) (numbered : ∀ entry ∈ sweep.active, entry.1 < sequence)
    (covers : ∀ start, bound ≤ start →
      (sweep.active.filter (fun entry => start < entry.2.end_)).map Prod.snd =
        earlier.filter (fun interval => start < interval.end_))
    (sorted : rest.Pairwise (fun first second => first.start ≤ second.start))
    (later : ∀ interval ∈ rest, bound ≤ interval.start) :
    sweepIntervals settings sweep sequence rest detections =
      reportPairs settings (conflictPairs settings.now earlier rest) detections := by
  induction rest generalizing sweep sequence earlier bound detections with
  | nil => rfl
  | cons current rest ih =>
    obtain ⟨expired,ran,kept,active⟩ := expireEnded_run current.start _ _ _ aligned
    have reached := covers current.start (later current (by simp))
    have shape : expired.active.map Prod.snd =
        earlier.filter (fun interval => current.start < interval.end_) := by
      rw [active]
      exact reached
    have candidates : (if current.allDay then expired.activeTimed else expired.active).map Prod.snd =
        earlier.filter (fun previous => overlapping previous current) := by
      by_cases allDay : current.allDay = true
      · have narrowed : (expired.active.filter (fun entry => !entry.2.allDay)).map Prod.snd =
            (expired.active.map Prod.snd).filter (fun interval => !interval.allDay) := by
          rw [List.filter_map]
          rfl
        rw [if_pos allDay,kept.timed,narrowed,shape,List.filter_filter]
        exact List.filter_congr (fun interval _ => by simp [overlapping,allDay,Bool.and_comm])
      · rw [if_neg allDay,shape]
        exact List.filter_congr (fun interval _ => by simp [overlapping,allDay])
    have fresh : ∀ entry ∈ expired.active, entry.1 < sequence := by
      intro entry member
      rw [active] at member
      exact numbered entry (List.mem_of_mem_filter member)
    have next := ih (expired.enter sequence current) (sequence + 1) (earlier ++ [current]) current.start
    have conditions : ∀ previous ∈ earlier, (decide (settings.now < min previous.end_ current.end_) &&
        overlapping previous current) = (overlapping previous current &&
          decide (settings.now < min previous.end_ current.end_)) := fun _ _ => Bool.and_comm _ _
    rw [sweepIntervals,ran]
    change (reportOverlaps settings current _ detections >>= _) = _
    rw [candidates,reportOverlaps_eq,List.filter_filter,List.filter_congr conditions,conflictPairs,
      reportPairs_append]
    cases reportPairs settings _ detections with
    | error error => rfl
    | ok reported =>
      obtain ⟨found,overflow⟩ := reported
      cases overflow with
      | true => rfl
      | false =>
        refine next found (kept.enter fresh current) ?_ ?_ sorted.of_cons
          (fun interval member => List.rel_of_pairwise_cons sorted member)
        · intro entry member
          rcases List.mem_append.mp member with old | new
          · exact Nat.lt_succ_of_lt (fresh entry old)
          · obtain rfl := List.mem_singleton.mp new
            exact Nat.lt_succ_self sequence
        · intro start reach
          have still : (expired.active.filter (fun entry => start < entry.2.end_)).map Prod.snd =
              earlier.filter (fun interval => start < interval.end_) := by
            rw [active,List.filter_filter,← covers start ((later current (by simp)).trans reach)]
            refine congrArg (List.map Prod.snd) (List.filter_congr (fun entry _ => ?_))
            by_cases ahead : start < entry.2.end_
            · have further : current.start < entry.2.end_ := by omega
              simp [ahead,further]
            · simp [ahead]
          rw [Sweep.enter,List.filter_append,List.map_append,still,List.filter_append]
          by_cases ahead : start < current.end_ <;> simp [ahead]

/-- The local wall clock of both ends of the pair's overlap lies in the years of a `datetime`. -/
def Localizable (zone : TimeZone) (pair : Interval × Interval) : Prop :=
  representable (zone.localTime pair.2.start) = true ∧
    representable (zone.localTime (min pair.1.end_ pair.2.end_)) = true

theorem conflictDetection_ok_iff (settings : ConflictSettings) (first second : Interval) :
    (∃ detection, conflictDetection settings first second = .ok detection) ↔
      Localizable settings.zone (first,second) := by
  have named (now : Int) : (∃ wall, settings.zone.checkedLocalTime now = .ok wall) ↔
      representable (settings.zone.localTime now) = true := by
    unfold TimeZone.checkedLocalTime
    by_cases fine : representable (settings.zone.localTime now) = true <;> simp [fine]
  unfold conflictDetection Localizable
  rw [← named,← named]
  constructor
  · rintro ⟨detection,ran⟩
    obtain ⟨localStart,start,ran⟩ := (Outcome.bind_ok_iff _ _ _).mp ran
    obtain ⟨localEnd,end_,_⟩ := (Outcome.bind_ok_iff _ _ _).mp ran
    exact ⟨⟨localStart,start⟩,localEnd,end_⟩
  · rintro ⟨⟨localStart,start⟩,localEnd,end_⟩
    rw [start]
    change ∃ detection, (settings.zone.checkedLocalTime _ >>= _) = _
    rw [end_]
    exact ⟨_,rfl⟩

theorem reportPairs_ok_iff (settings : ConflictSettings) (pairs : List (Interval × Interval))
    (detections : List Detection) (bounded : detections.length ≤ maxCalendarConflicts) :
    (∃ reported, reportPairs settings pairs detections = .ok reported) ↔
      ∀ pair ∈ pairs.take (maxCalendarConflicts - detections.length), Localizable settings.zone pair := by
  induction pairs generalizing detections with
  | nil => exact ⟨by simp,fun _ => ⟨_,rfl⟩⟩
  | cons pair rest ih =>
    unfold reportPairs
    by_cases full : detections.length = maxCalendarConflicts
    · rw [if_pos full,full,Nat.sub_self]
      exact ⟨by simp,fun _ => ⟨_,rfl⟩⟩
    · obtain ⟨left,room⟩ : ∃ left, maxCalendarConflicts - detections.length = left + 1 :=
        ⟨maxCalendarConflicts - detections.length - 1,by omega⟩
      have localized := conflictDetection_ok_iff settings pair.1 pair.2
      rw [if_neg full,room,List.take_succ_cons,List.forall_mem_cons]
      cases ran : conflictDetection settings pair.1 pair.2 with
      | error error =>
        rw [ran] at localized
        refine ⟨fun ⟨_,failed⟩ => (nomatch failed),fun fine => ?_⟩
        obtain ⟨_,impossible⟩ := localized.mpr fine.1
        cases impossible
      | ok detection =>
        have one := localized.mp ⟨detection,ran⟩
        have size : (detections ++ [detection]).length = detections.length + 1 := by simp
        have after := ih (detections ++ [detection]) (by omega)
        rw [size,show maxCalendarConflicts - (detections.length + 1) = left by omega] at after
        exact after.trans (and_iff_right one).symm

def boundInstant (zone : TimeZone) : Option EventBound → Option Int
  | some (.timedInstant instant) => some instant
  | some (.allDayDate date) => some (zone.localDayStart date)
  | none => none

/-- The interval of an event, were every instant representable. -/
def eventInterval (zone : TimeZone) (event : CalendarEvent) : Option Interval :=
  if committed event then
    intervalBetween event (boundInstant zone event.start) (boundInstant zone event.end_)
  else none

/-- The local day that an all-day bound names starts at an instant that UTC can name. -/
def DayRepresentable (zone : TimeZone) (bound : Option EventBound) : Prop :=
  ∀ date, bound = some (.allDayDate date) → representable (zone.localDayStart date) = true

theorem instant_ok_iff (zone : TimeZone) (bound : Option EventBound) (value : Option Int) :
    instant zone bound = .ok value ↔ DayRepresentable zone bound ∧ value = boundInstant zone bound := by
  have same (found : Option Int) : (Except.ok found : Except Raised (Option Int)) = .ok value ↔ value = found :=
    ⟨fun equal => (Except.ok.inj equal).symm,fun equal => congrArg Except.ok equal.symm⟩
  unfold DayRepresentable
  cases bound with
  | none => exact (same none).trans (and_iff_right (by simp)).symm
  | some named =>
    cases named with
    | timedInstant at_ => exact (same (some at_)).trans (and_iff_right (by simp)).symm
    | allDayDate date =>
      have only : (∀ other, some (EventBound.allDayDate date) = some (.allDayDate other) →
          representable (zone.localDayStart other) = true) ↔
            representable (zone.localDayStart date) = true := by simp
      rw [only]
      unfold instant boundInstant TimeZone.checkedLocalDayStart
      dsimp only
      by_cases fine : representable (zone.localDayStart date) = true
      · rw [if_pos fine]
        exact (same _).trans (and_iff_right fine).symm
      · rw [if_neg fine]
        exact ⟨fun failed => (nomatch failed),fun both => absurd both.1 fine⟩

def DaysRepresentable (zone : TimeZone) (events : List CalendarEvent) : Prop :=
  ∀ event ∈ events, committed event = true →
    DayRepresentable zone event.start ∧ DayRepresentable zone event.end_

theorem committedIntervals_ok_iff (zone : TimeZone) (events : List CalendarEvent)
    (intervals : List Interval) :
    committedIntervals zone events = .ok intervals ↔
      DaysRepresentable zone events ∧ intervals = events.filterMap (eventInterval zone) := by
  induction events generalizing intervals with
  | nil =>
    refine ⟨fun ran => ⟨fun _ member => (nomatch member),(Except.ok.inj ran).symm⟩,fun both => ?_⟩
    rw [both.2]
    rfl
  | cons event rest ih =>
    unfold committedIntervals DaysRepresentable
    rw [List.forall_mem_cons]
    by_cases busy : committed event = true
    · have split : (event::rest).filterMap (eventInterval zone) =
          (intervalBetween event (boundInstant zone event.start) (boundInstant zone event.end_)).toList ++
            rest.filterMap (eventInterval zone) := by
        rw [List.filterMap_cons,eventInterval,if_pos busy]
        cases intervalBetween event _ _ <;> rfl
      rw [if_pos busy,split,forall_prop_of_true busy]
      constructor
      · intro ran
        obtain ⟨start,first,ran⟩ := (Outcome.bind_ok_iff _ _ _).mp ran
        obtain ⟨end_,second,ran⟩ := (Outcome.bind_ok_iff _ _ _).mp ran
        obtain ⟨found,others,ran⟩ := (Outcome.bind_ok_iff _ _ _).mp ran
        obtain ⟨startDay,rfl⟩ := (instant_ok_iff _ _ _).mp first
        obtain ⟨endDay,rfl⟩ := (instant_ok_iff _ _ _).mp second
        obtain ⟨days,rfl⟩ := (ih _).mp others
        exact ⟨⟨⟨startDay,endDay⟩,days⟩,(Except.ok.inj ran).symm⟩
      · rintro ⟨⟨⟨startDay,endDay⟩,days⟩,rfl⟩
        refine (Outcome.bind_ok_iff _ _ _).mpr ⟨_,(instant_ok_iff _ _ _).mpr ⟨startDay,rfl⟩,?_⟩
        refine (Outcome.bind_ok_iff _ _ _).mpr ⟨_,(instant_ok_iff _ _ _).mpr ⟨endDay,rfl⟩,?_⟩
        exact (Outcome.bind_ok_iff _ _ _).mpr ⟨_,(ih _).mpr ⟨days,rfl⟩,rfl⟩
    · have skipped : eventInterval zone event = none := by
        rw [eventInterval,if_neg busy]
      rw [if_neg busy,ih,List.filterMap_cons_none skipped,forall_prop_of_false busy,true_and]
      rfl

theorem sweep_pairs (settings : ConflictSettings) (intervals : List Interval) :
    sweepIntervals settings ⟨[],[],[]⟩ 0 (orderedIntervals settings intervals) [] =
      reportPairs settings (conflictPairs settings.now [] (orderedIntervals settings intervals)) [] := by
  have aligned : Sweep.Aligned ⟨[],[],[]⟩ := ⟨List.nodup_nil,.refl _,.nil,rfl⟩
  have sorted := orderedIntervals_sorted settings intervals
  cases ordered : orderedIntervals settings intervals with
  | nil => rfl
  | cons first rest =>
    rw [ordered] at sorted
    refine sweepIntervals_eq settings _ _ 0 [] first.start [] aligned (by simp) (by simp) sorted ?_
    exact List.forall_mem_cons.mpr ⟨le_rfl,fun interval later => List.rel_of_pairwise_cons sorted later⟩

def reportedPairs (settings : ConflictSettings) (events : List CalendarEvent) :
    List (Interval × Interval) :=
  (conflictPairs settings.now [] (orderedIntervals settings
    (events.filterMap (eventInterval settings.zone)))).take maxCalendarConflicts

/-- The detection raises only for instants at the two ends of the calendar: a
committed all-day bound, or an end of one of the overlaps that it reports. -/
theorem runCalendarConflictDetection_ok_iff (settings : ConflictSettings) (events : List CalendarEvent) :
    (∃ run, runCalendarConflictDetection settings events = .ok run) ↔
      DaysRepresentable settings.zone events ∧
        ∀ pair ∈ reportedPairs settings events, Localizable settings.zone pair := by
  have reported (intervals : List Interval) := reportPairs_ok_iff settings
    (conflictPairs settings.now [] (orderedIntervals settings intervals)) [] (Nat.zero_le _)
  unfold runCalendarConflictDetection
  constructor
  · rintro ⟨run,ran⟩
    obtain ⟨intervals,found,ran⟩ := (Outcome.bind_ok_iff _ _ _).mp ran
    obtain ⟨days,rfl⟩ := (committedIntervals_ok_iff _ _ _).mp found
    obtain ⟨result,ran,_⟩ := (Outcome.bind_ok_iff _ _ _).mp ran
    rw [sweep_pairs] at ran
    exact ⟨days,(reported _).mp ⟨result,ran⟩⟩
  · intro ⟨days,localized⟩
    obtain ⟨result,ran⟩ := (reported _).mpr localized
    refine ⟨conflictRun result,(Outcome.bind_ok_iff _ _ _).mpr
      ⟨_,(committedIntervals_ok_iff _ _ _).mpr ⟨days,rfl⟩,?_⟩⟩
    exact (Outcome.bind_ok_iff _ _ _).mpr ⟨result,(sweep_pairs _ _).trans ran,rfl⟩

end Proactive.Situations
