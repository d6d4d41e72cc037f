import Proactive.Situations.OverlapTruth

/-! What identifies a reported conflict: the ids of its two events, sorted and joined. -/
namespace Proactive.Situations.ConflictIdentity
open Proactive.Library Proactive.Store Proactive.Sources

def lowId (pair : Interval × Interval) : String :=
  if pair.1.event.id ≤ pair.2.event.id then pair.1.event.id else pair.2.event.id

def highId (pair : Interval × Interval) : String :=
  if pair.1.event.id ≤ pair.2.event.id then pair.2.event.id else pair.1.event.id

/-- The detection names two events, by two ids. -/
def NamesTwoEvents (detection : Detection) : Prop :=
  ∃ first second, detection.evidence.fact "event_a_id" = some first ∧
    detection.evidence.fact "event_b_id" = some second ∧ first ≠ second

/-- The low id of one pair continues that of the other past a colon, by what the high ids differ in. -/
def Shifts (one other : Interval × Interval) : Prop :=
  ∃ between, lowId other = lowId one ++ ":" ++ between ∧ highId one = between ++ ":" ++ highId other

/-- Two pairs of the same events, or of events whose ids contain the separator. -/
def Confused (one other : Interval × Interval) : Prop :=
  (lowId one = lowId other ∧ highId one = highId other) ∨ Shifts one other ∨ Shifts other one

private theorem colon_toList (low high : String) : (low ++ ":" ++ high).toList = low.toList ++ ':'::high.toList := by
  rw [String.toList_append,String.toList_append,List.append_assoc]
  rfl

theorem shifts_iff (one other : Interval × Interval) : Shifts one other ↔
    ∃ between, (lowId other).toList = (lowId one).toList ++ ':'::between ∧
      (highId one).toList = between ++ ':'::(highId other).toList := by
  constructor
  · intro ⟨between,low,high⟩
    refine ⟨between.toList,?_,?_⟩
    · rw [low,colon_toList]
    · rw [high,colon_toList]
  · intro ⟨between,low,high⟩
    refine ⟨String.ofList between,?_,?_⟩
    · apply String.toList_injective
      rw [colon_toList,String.toList_ofList,low]
    · apply String.toList_injective
      rw [colon_toList,String.toList_ofList,high]

def dedupeKey (pair : Interval × Interval) : String :=
  "calendar_conflict:" ++ lowId pair ++ ":" ++ highId pair

private theorem labelled_toList (label low high : String) :
    (label ++ low ++ ":" ++ high).toList = label.toList ++ (low.toList ++ ':'::high.toList) := by
  rw [colon_toList,String.toList_append,List.append_assoc]

theorem dedupeKey_eq_iff (one other : Interval × Interval) : dedupeKey one = dedupeKey other ↔ Confused one other := by
  unfold dedupeKey
  generalize "calendar_conflict:" = label
  rw [← String.toList_inj,labelled_toList,labelled_toList,List.append_cancel_left_eq,Separated.join_eq_iff,
    Confused,shifts_iff,shifts_iff,String.toList_inj,String.toList_inj]

section runs
variable {settings : ConflictSettings} {events : List CalendarEvent} {run : CalendarConflictRun}

theorem conflictDetection_identity {first second : Interval} {detection : Detection}
    (described : conflictDetection settings first second = .ok detection) :
    detection.evidence.fact "event_a_id" = some first.event.id ∧
      detection.evidence.fact "event_b_id" = some second.event.id ∧
      detection.dedupeKey = dedupeKey (first,second) := by
  obtain ⟨localStart,_,described⟩ := (Outcome.bind_ok_iff _ _ _).mp described
  obtain ⟨localEnd,_,described⟩ := (Outcome.bind_ok_iff _ _ _).mp described
  rw [← Except.ok.inj described]
  exact ⟨rfl,rfl,rfl⟩

theorem namesTwoEvents_iff (ran : runCalendarConflictDetection settings events = .ok run) :
    (∀ detection ∈ run.detections, NamesTwoEvents detection) ↔
      ∀ pair ∈ conflictingPairs settings events, pair.1.event.id ≠ pair.2.event.id := by
  have mapped := (run_detections ran).2
  constructor
  · intro named pair member
    obtain ⟨detection,reported,described⟩ := Outcome.mem_mapM mapped member
    obtain ⟨one,two,_⟩ := conflictDetection_identity described
    obtain ⟨first,second,found,found',different⟩ := named detection reported
    rw [Option.some.inj (one.symm.trans found),Option.some.inj (two.symm.trans found')]
    exact different
  · intro different detection reported
    obtain ⟨pair,member,described⟩ := Outcome.mapM_origin mapped reported
    obtain ⟨one,two,_⟩ := conflictDetection_identity described
    exact ⟨_,_,one,two,different pair member⟩

theorem dedupeKeys_nodup_iff (ran : runCalendarConflictDetection settings events = .ok run) :
    (run.detections.map Detection.dedupeKey).Nodup ↔
      (conflictingPairs settings events).Pairwise (fun one other => ¬Confused one other) := by
  have keys : run.detections.map Detection.dedupeKey = (conflictingPairs settings events).map dedupeKey :=
    Outcome.mapM_views (run_detections ran).2 (fun _ _ described => (conflictDetection_identity described).2.2)
  rw [keys,List.nodup_iff_pairwise_ne,List.pairwise_map]
  constructor
  · intro distinct
    exact distinct.imp (fun different same => different ((dedupeKey_eq_iff _ _).mpr same))
  · intro distinct
    exact distinct.imp (fun different same => different ((dedupeKey_eq_iff _ _).mp same))

end runs

/-- Each conflict names two events and no two share a key exactly when no pair is of one id and no
two pairs are confused. -/
theorem conflict_identity_iff (settings : ConflictSettings) (events : List CalendarEvent)
    (run : CalendarConflictRun) (ran : runCalendarConflictDetection settings events = .ok run) :
    ((∀ detection ∈ run.detections, NamesTwoEvents detection) ∧
        (run.detections.map Detection.dedupeKey).Nodup) ↔
      (∀ pair ∈ conflictingPairs settings events, pair.1.event.id ≠ pair.2.event.id) ∧
        (conflictingPairs settings events).Pairwise (fun one other => ¬Confused one other) :=
  and_congr (namesTwoEvents_iff ran) (dedupeKeys_nodup_iff ran)

section distinct
variable {settings : ConflictSettings} {events : List CalendarEvent}

theorem lowId_cases (pair : Interval × Interval) :
    (lowId pair = pair.1.event.id ∧ highId pair = pair.2.event.id) ∨
      (lowId pair = pair.2.event.id ∧ highId pair = pair.1.event.id) := by
  unfold lowId highId
  split
  · exact Or.inl ⟨rfl,rfl⟩
  · exact Or.inr ⟨rfl,rfl⟩

theorem eventIntervals_ids (zone : TimeZone) (events : List CalendarEvent) :
    List.Sublist ((events.filterMap (eventInterval zone)).map (fun interval => interval.event.id))
      (events.map CalendarEvent.id) := by
  induction events with
  | nil => exact .slnil
  | cons event rest ih =>
    cases found : eventInterval zone event with
    | none =>
      rw [List.filterMap_cons_none found]
      exact ih.cons event.id
    | some interval =>
      rw [List.filterMap_cons_some found,List.map_cons,(OverlapTruth.eventInterval_bounds found).2.1]
      exact ih.cons_cons event.id

/-- Events with distinct ids that lack the separator always identify their conflicts. -/
theorem distinct_ids_identify (distinct : (events.map CalendarEvent.id).Nodup)
    (plain : ∀ event ∈ events, ':' ∉ event.id.toList) :
    (∀ pair ∈ conflictingPairs settings events, pair.1.event.id ≠ pair.2.event.id) ∧
      (conflictingPairs settings events).Pairwise (fun one other => ¬Confused one other) := by
  have ordered : ((orderedIntervals settings (events.filterMap (eventInterval settings.zone))).map
      (fun interval => interval.event.id)).Nodup := by
    have kept := ((List.filter_sublist (p := fun interval => decide (settings.now < interval.end_))).map
      (fun interval : Interval => interval.event.id)).trans (eventIntervals_ids settings.zone events)
    exact (((List.perm_insertionSort Interval.Precedes _).map _).nodup_iff).mpr (distinct.sublist kept)
  have apart : (conflictingPairs settings events).Pairwise (Apart (fun interval => interval.event.id)) :=
    (pairs_apart ordered).sublist ((List.take_sublist _ _).trans List.filter_sublist)
  have separated : ∀ pair ∈ conflictingPairs settings events, ':' ∉ (lowId pair).toList := by
    intro pair member
    obtain ⟨⟨one,present,found⟩,⟨two,present',found'⟩,_⟩ := conflictingPairs_mem member
    rcases lowId_cases pair with ⟨low,_⟩ | ⟨low,_⟩
    · rw [low,(OverlapTruth.eventInterval_bounds found).2.1]
      exact plain one present
    · rw [low,(OverlapTruth.eventInterval_bounds found').2.1]
      exact plain two present'
  have unshifted (one other : Interval × Interval) (free : ':' ∉ (lowId other).toList) : ¬Shifts one other := by
    intro shifted
    obtain ⟨between,low,_⟩ := (shifts_iff one other).mp shifted
    rw [low] at free
    exact free (List.mem_append_right _ List.mem_cons_self)
  constructor
  · intro pair member
    have both := (mem_pairs _ pair.1 pair.2).mp (List.mem_filter.mp (List.mem_of_mem_take member)).1
    have names := ordered.sublist (both.map (fun interval => interval.event.id))
    simpa using names
  · refine apart.imp_of_mem (fun {one other} member member' differ confused => ?_)
    rcases confused with ⟨low,high⟩ | shifted | shifted
    · rcases lowId_cases one with ⟨first,second⟩ | ⟨first,second⟩
      · rcases lowId_cases other with ⟨first',second'⟩ | ⟨first',second'⟩
        · exact differ.1 ⟨first.symm.trans (low.trans first'),second.symm.trans (high.trans second')⟩
        · exact differ.2 ⟨first.symm.trans (low.trans first'),second.symm.trans (high.trans second')⟩
      · rcases lowId_cases other with ⟨first',second'⟩ | ⟨first',second'⟩
        · exact differ.2 ⟨second.symm.trans (high.trans second'),first.symm.trans (low.trans first')⟩
        · exact differ.1 ⟨second.symm.trans (high.trans second'),first.symm.trans (low.trans first')⟩
    · exact unshifted _ _ (separated _ member') shifted
    · exact unshifted _ _ (separated _ member) shifted

end distinct

open OverlapTruth

def threeEvents : List CalendarEvent :=
  [ownEvent "a" 1783764000 1783767600,ownEvent "b" 1783765800 1783767600,ownEvent "c" 1783765800 1783767600]

theorem conflict_identity_three : ∃ run, runCalendarConflictDetection utcSettings threeEvents = .ok run ∧
    run.detections.length = 3 ∧ (∀ detection ∈ run.detections, NamesTwoEvents detection) ∧
      (run.detections.map Detection.dedupeKey).Nodup := by
  obtain ⟨run,ran,three⟩ := (Outcome.map_ok_iff (fun run => run.detections.length)
    (runCalendarConflictDetection utcSettings threeEvents) 3).mp (by decide +kernel)
  exact ⟨run,ran,three,(conflict_identity_iff utcSettings threeEvents run ran).mpr
    (distinct_ids_identify (by decide) (by decide))⟩

/-- The second page lists an event of the first one again. -/
def listedTwice : List (List OwnEvent) :=
  [[⟨"a","2026-07-11T10:00:00Z","2026-07-11T11:00:00Z"⟩,⟨"b","2026-07-11T10:30:00Z","2026-07-11T11:00:00Z"⟩],
    [⟨"b","2026-07-11T10:30:00Z","2026-07-11T11:00:00Z"⟩]]

theorem listedTwice_conflicts : ∃ result run,
    (pagesAdapter listedTwice).listEvents (answering listedTwice) = .ok result ∧
      runCalendarConflictDetection utcSettings result.events = .ok run ∧
      run.detections.map Detection.dedupeKey =
        ["calendar_conflict:a:b","calendar_conflict:a:b","calendar_conflict:b:b"] ∧
      (¬∀ detection ∈ run.detections, NamesTwoEvents detection) ∧
      ¬(run.detections.map Detection.dedupeKey).Nodup := by
  let events := [ownEvent "a" 1783764000 1783767600,ownEvent "b" 1783765800 1783767600,
    ownEvent "b" 1783765800 1783767600]
  have listed : (pagesAdapter listedTwice).listEvents (answering listedTwice) =
      .ok ⟨events,1783760400 * second,2,0⟩ := by decide +kernel
  obtain ⟨run,ran,keys⟩ := (Outcome.map_ok_iff (fun run => run.detections.map Detection.dedupeKey)
    (runCalendarConflictDetection utcSettings events)
      ["calendar_conflict:a:b","calendar_conflict:a:b","calendar_conflict:b:b"]).mp (by decide +kernel)
  refine ⟨_,run,listed,ran,keys,?_,?_⟩
  · rw [namesTwoEvents_iff ran]
    decide +kernel
  · rw [keys]
    decide

end Proactive.Situations.ConflictIdentity
