import Proactive.Library.Pairs
import Proactive.Situations.CalendarConflict

/-! The sweep against its specification: the overlapping ones of all pairs. -/
namespace Proactive.Situations
open Proactive.Library Proactive.Store

/-- The pairs of intervals that end after `now`, in the order of their sort key, which
are not both all-day and the earlier of which ends after the later one starts. -/
def allPairs (settings : ConflictSettings) (intervals : List Interval) : List (Interval × Interval) :=
  (pairs (orderedIntervals settings intervals)).filter (fun pair => overlapping pair.1 pair.2)

/-- A run over the pairs: the first of them are reported, the others only counted. -/
def allPairsRun (settings : ConflictSettings) (found : List (Interval × Interval)) :
    Except Raised CalendarConflictRun := do
  let detections ← (found.take maxCalendarConflicts).mapM
    (fun pair => conflictDetection settings pair.1 pair.2)
  return ⟨detections,decide (found.length ≤ maxCalendarConflicts),
    if found.length ≤ maxCalendarConflicts then [] else ["calendar_conflict_output_overflow"]⟩

section pairs
variable {settings : ConflictSettings}

theorem conflictPairs_filter (now : Int) (earlier rest : List Interval) :
    conflictPairs now earlier rest = (pairsAfter earlier rest).filter (fun pair =>
      overlapping pair.1 pair.2 && now < min pair.1.end_ pair.2.end_) := by
  induction rest generalizing earlier with
  | nil => rfl
  | cons current rest ih =>
    rw [conflictPairs,pairsAfter,List.filter_append,List.filter_map,ih]
    rfl

theorem mem_orderedIntervals (intervals : List Interval) (interval : Interval) :
    interval ∈ orderedIntervals settings intervals ↔
      interval ∈ intervals ∧ settings.now < interval.end_ := by
  rw [orderedIntervals,List.mem_insertionSort,List.mem_filter,decide_eq_true_eq]

theorem conflictPairs_eq (intervals : List Interval) :
    conflictPairs settings.now [] (orderedIntervals settings intervals) = allPairs settings intervals := by
  rw [conflictPairs_filter,allPairs,pairs_eq]
  apply List.filter_congr
  intro pair member
  obtain ⟨first,second⟩ := pair
  rw [← pairs_eq,mem_pairs] at member
  have one := (mem_orderedIntervals intervals first).mp (member.subset (by simp))
  have two := (mem_orderedIntervals intervals second).mp (member.subset (by simp))
  have ahead : settings.now < min first.end_ second.end_ := lt_min one.2 two.2
  simp [ahead]

theorem reportPairs_eq (found : List (Interval × Interval)) (detections : List Detection)
    (bounded : detections.length ≤ maxCalendarConflicts) :
    reportPairs settings found detections = (do
      let reported ← (found.take (maxCalendarConflicts - detections.length)).mapM
        (fun pair => conflictDetection settings pair.1 pair.2)
      return (detections ++ reported,decide (maxCalendarConflicts < detections.length + found.length))) := by
  induction found generalizing detections with
  | nil =>
    have within : decide (maxCalendarConflicts < detections.length + 0) = false := by
      rw [decide_eq_false_iff_not]
      omega
    rw [List.take_nil,List.mapM_nil,List.length_nil,within]
    change _ = Except.ok (detections ++ [],false)
    rw [List.append_nil]
    rfl
  | cons pair rest ih =>
    unfold reportPairs
    by_cases full : detections.length = maxCalendarConflicts
    · have beyond : decide (maxCalendarConflicts < detections.length + (pair::rest).length) = true := by
        rw [decide_eq_true_eq,List.length_cons]
        omega
      rw [if_pos full,beyond,full,Nat.sub_self,List.take_zero,List.mapM_nil]
      change _ = Except.ok (detections ++ [],true)
      rw [List.append_nil]
    · obtain ⟨left,room⟩ : ∃ left, maxCalendarConflicts - detections.length = left + 1 :=
        ⟨maxCalendarConflicts - detections.length - 1,by omega⟩
      rw [if_neg full,room,List.take_succ_cons,List.mapM_cons]
      cases ran : conflictDetection settings pair.1 pair.2 with
      | error error => rfl
      | ok detection =>
        have size : (detections ++ [detection]).length = detections.length + 1 := by simp
        have after := ih (detections ++ [detection]) (by omega)
        rw [size,show maxCalendarConflicts - (detections.length + 1) = left by omega] at after
        change reportPairs settings rest (detections ++ [detection]) = _
        rw [after]
        cases (rest.take left).mapM (fun pair => conflictDetection settings pair.1 pair.2) with
        | error error => rfl
        | ok reported =>
          change Except.ok _ = Except.ok _
          rw [List.append_assoc,List.length_cons,Nat.add_right_comm,Nat.add_assoc]
          rfl

end pairs

section failures

/-- The one failure of a run: an instant that a `datetime` cannot name. -/
def Unnameable (failure : Raised) : Prop := failure = .overflowError

theorem checkedLocalTime_fails (zone : TimeZone) (now : Int) :
    Outcome.FailsOnly Unnameable (zone.checkedLocalTime now) := by
  unfold TimeZone.checkedLocalTime
  split
  · exact .ok _
  · exact .error rfl

theorem instant_fails (zone : TimeZone) (bound : Option EventBound) :
    Outcome.FailsOnly Unnameable (instant zone bound) := by
  cases bound with
  | none => exact .ok none
  | some named =>
    cases named with
    | timedInstant at_ => exact .ok (some at_)
    | allDayDate date =>
      unfold instant TimeZone.checkedLocalDayStart
      dsimp only
      split
      · exact .ok _
      · exact .error rfl

theorem committedIntervals_fails (zone : TimeZone) (events : List CalendarEvent) :
    Outcome.FailsOnly Unnameable (committedIntervals zone events) := by
  induction events with
  | nil => exact .ok []
  | cons event rest ih =>
    unfold committedIntervals
    split
    · apply Outcome.FailsOnly.bind (instant_fails zone event.start)
      intro start _
      apply Outcome.FailsOnly.bind (instant_fails zone event.end_)
      intro end_ _
      apply Outcome.FailsOnly.bind ih
      intro intervals _
      exact .ok _
    · exact ih

theorem allPairsRun_fails (settings : ConflictSettings) (found : List (Interval × Interval)) :
    Outcome.FailsOnly Unnameable (allPairsRun settings found) := by
  apply Outcome.FailsOnly.bind
  · apply Outcome.FailsOnly.mapM
    intro pair _
    apply Outcome.FailsOnly.bind (checkedLocalTime_fails settings.zone _)
    intro localStart _
    apply Outcome.FailsOnly.bind (checkedLocalTime_fails settings.zone _)
    intro localEnd _
    exact .ok _
  · intro detections _
    exact .ok _

end failures

theorem runCalendarConflictDetection_eq (settings : ConflictSettings) (events : List CalendarEvent) :
    runCalendarConflictDetection settings events = (do
      let intervals ← committedIntervals settings.zone events
      allPairsRun settings (allPairs settings intervals)) := by
  have swept (intervals : List Interval) : (do
      let reported ← sweepIntervals settings ⟨[],[],[]⟩ 0 (orderedIntervals settings intervals) []
      return conflictRun reported) = allPairsRun settings (allPairs settings intervals) := by
    rw [sweep_pairs,conflictPairs_eq,reportPairs_eq _ _ (Nat.zero_le _),List.length_nil,Nat.sub_zero,
      Nat.zero_add]
    unfold allPairsRun
    cases ran : ((allPairs settings intervals).take maxCalendarConflicts).mapM
        (fun pair => conflictDetection settings pair.1 pair.2) with
    | error error => rfl
    | ok detections =>
      change Except.ok _ = Except.ok _
      by_cases within : (allPairs settings intervals).length ≤ maxCalendarConflicts
      · simp [conflictRun,within,not_lt.mpr within]
      · simp [conflictRun,within,not_le.mp within]
  unfold runCalendarConflictDetection
  cases committedIntervals settings.zone events with
  | error error => rfl
  | ok intervals => exact swept intervals

/-- The sweep reports the overlapping pairs, safely if none was cut; and no step on its
dictionaries or its heap fails. -/
theorem sweep_is_all_pairs (settings : ConflictSettings) (events : List CalendarEvent) :
    runCalendarConflictDetection settings events = (do
      let intervals ← committedIntervals settings.zone events
      allPairsRun settings (allPairs settings intervals)) ∧
    runCalendarConflictDetection settings events ≠ .error .keyError := by
  refine ⟨runCalendarConflictDetection_eq settings events,?_⟩
  have fails : Outcome.FailsOnly Unnameable (runCalendarConflictDetection settings events) := by
    rw [runCalendarConflictDetection_eq]
    apply Outcome.FailsOnly.bind (committedIntervals_fails settings.zone events)
    intro intervals _
    exact allPairsRun_fails settings _
  intro raised
  cases fails _ raised

section reported
variable {settings : ConflictSettings} {events : List CalendarEvent} {run : CalendarConflictRun}

def conflictingPairs (settings : ConflictSettings) (events : List CalendarEvent) : List (Interval × Interval) :=
  (allPairs settings (events.filterMap (eventInterval settings.zone))).take maxCalendarConflicts

theorem run_detections (ran : runCalendarConflictDetection settings events = .ok run) :
    DaysRepresentable settings.zone events ∧ (conflictingPairs settings events).mapM
      (fun pair => conflictDetection settings pair.1 pair.2) = .ok run.detections := by
  rw [runCalendarConflictDetection_eq] at ran
  obtain ⟨intervals,found,ran⟩ := (Outcome.bind_ok_iff _ _ _).mp ran
  obtain ⟨days,rfl⟩ := (committedIntervals_ok_iff _ _ _).mp found
  obtain ⟨detections,mapped,same⟩ := (Outcome.bind_ok_iff _ _ _).mp ran
  rw [← Except.ok.inj same]
  exact ⟨days,mapped⟩

theorem conflictingPairs_mem {first second : Interval} (member : (first,second) ∈ conflictingPairs settings events) :
    (∃ event ∈ events, eventInterval settings.zone event = some first) ∧
      (∃ event ∈ events, eventInterval settings.zone event = some second) ∧
        settings.now < first.end_ ∧ settings.now < second.end_ ∧ first.start ≤ second.start ∧
          second.start < first.end_ := by
  obtain ⟨both,overlap⟩ := List.mem_filter.mp (List.mem_of_mem_take member)
  have sub := (mem_pairs _ first second).mp both
  obtain ⟨one,ahead⟩ := (mem_orderedIntervals _ first).mp (sub.subset (by simp))
  obtain ⟨two,ahead'⟩ := (mem_orderedIntervals _ second).mp (sub.subset (by simp))
  have sorted := (orderedIntervals_sorted settings _).sublist sub
  simp only [overlapping,Bool.and_eq_true,decide_eq_true_eq] at overlap
  exact ⟨List.mem_filterMap.mp one,List.mem_filterMap.mp two,ahead,ahead',
    List.rel_of_pairwise_cons sorted List.mem_cons_self,overlap.1⟩

end reported
end Proactive.Situations
