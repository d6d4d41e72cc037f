import Proactive.Situations.CalendarSweep
import Proactive.Situations.IsoText
import Proactive.Sources.Calendar

/-! What the evidence of a reported conflict says of its overlap. -/
namespace Proactive.Situations.OverlapTruth
open Proactive.Library Proactive.Store Proactive.Sources

def Names (detection : Detection) (label : String) (instant : Int) : Prop :=
  representable instant = true ∧ detection.evidence.fact label = some (isoInstant instant)

/-- By its own evidence the overlap is not empty, ends after `now` and lies inside both events. -/
def RealOverlap (now : Int) (detection : Detection) : Prop :=
  ∃ startA endA startB endB overlapStart overlapEnd,
    Names detection "event_a_start" startA ∧ Names detection "event_a_end" endA ∧
    Names detection "event_b_start" startB ∧ Names detection "event_b_end" endB ∧
    Names detection "overlap_start" overlapStart ∧ Names detection "overlap_end" overlapEnd ∧
    overlapStart < overlapEnd ∧ now < overlapEnd ∧
    (startA ≤ overlapStart ∧ overlapEnd ≤ endA) ∧ startB ≤ overlapStart ∧ overlapEnd ≤ endB

theorem Names.same {detection : Detection} {label : String} {first second : Int}
    (one : Names detection label first) (two : Names detection label second) : first = second := by
  apply isoInstant_injective one.1 two.1
  exact Option.some.inj (one.2.symm.trans two.2)

theorem boundInstant_representable {zone : TimeZone} {bound : Option EventBound} {instant : Int}
    (days : DayRepresentable zone bound)
    (timed : bound = some (.timedInstant instant) → representable instant = true)
    (named : boundInstant zone bound = some instant) : representable instant = true := by
  cases bound with
  | none => cases named
  | some kind =>
    cases kind with
    | timedInstant at_ =>
      apply timed
      rw [Option.some.inj named]
    | allDayDate date =>
      rw [← Option.some.inj named]
      exact days date rfl

theorem eventInterval_bounds {zone : TimeZone} {event : CalendarEvent} {interval : Interval}
    (found : eventInterval zone event = some interval) :
    committed event = true ∧ interval.event = event ∧
      boundInstant zone event.start = some interval.start ∧
      boundInstant zone event.end_ = some interval.end_ := by
  unfold eventInterval at found
  split at found
  · rename_i busy
    cases start : boundInstant zone event.start with
    | none =>
      rw [start] at found
      cases found
    | some first =>
      cases end_ : boundInstant zone event.end_ with
      | none =>
        rw [start,end_] at found
        cases found
      | some last =>
        rw [start,end_] at found
        obtain rfl := Option.some.inj found
        exact ⟨busy,rfl,rfl,rfl⟩
  · cases found

theorem conflictDetection_facts {settings : ConflictSettings} {first second : Interval} {detection : Detection}
    (described : conflictDetection settings first second = .ok detection) :
    detection.evidence.fact "event_a_start" = some (isoInstant first.start) ∧
    detection.evidence.fact "event_a_end" = some (isoInstant first.end_) ∧
    detection.evidence.fact "event_b_start" = some (isoInstant second.start) ∧
    detection.evidence.fact "event_b_end" = some (isoInstant second.end_) ∧
    detection.evidence.fact "overlap_start" = some (isoInstant second.start) ∧
    detection.evidence.fact "overlap_end" = some (isoInstant (min first.end_ second.end_)) := by
  obtain ⟨localStart,_,described⟩ := (Outcome.bind_ok_iff _ _ _).mp described
  obtain ⟨localEnd,_,described⟩ := (Outcome.bind_ok_iff _ _ _).mp described
  rw [← Except.ok.inj described]
  exact ⟨rfl,rfl,rfl,rfl,rfl,rfl⟩

section runs
variable {adapter : CalendarAdapter} {transport : Transport} {result : CalendarReadResult}
  {settings : ConflictSettings} {run : CalendarConflictRun}

theorem interval_representable (listed : adapter.listEvents transport = .ok result)
    (days : DaysRepresentable settings.zone result.events) {event : CalendarEvent} {interval : Interval}
    (member : event ∈ result.events) (found : eventInterval settings.zone event = some interval) :
    representable interval.start = true ∧ representable interval.end_ = true := by
  obtain ⟨wire,parsed⟩ := CalendarAdapter.listEvents_events listed event member
  obtain ⟨busy,_,start,end_⟩ := eventInterval_bounds found
  have timed := CalendarAdapter.parseEvent_representable parsed
  constructor
  · exact boundInstant_representable (days event member busy).1 (fun named => timed _ (Or.inl named)) start
  · exact boundInstant_representable (days event member busy).2 (fun named => timed _ (Or.inr named)) end_

theorem pair_named (listed : adapter.listEvents transport = .ok result)
    (days : DaysRepresentable settings.zone result.events) {first second : Interval} {detection : Detection}
    (member : (first,second) ∈ conflictingPairs settings result.events)
    (described : conflictDetection settings first second = .ok detection) :
    Names detection "event_a_start" first.start ∧ Names detection "event_a_end" first.end_ ∧
    Names detection "event_b_start" second.start ∧ Names detection "event_b_end" second.end_ ∧
    Names detection "overlap_start" second.start ∧
    Names detection "overlap_end" (min first.end_ second.end_) := by
  obtain ⟨⟨one,present,found⟩,⟨two,present',found'⟩,_⟩ := conflictingPairs_mem member
  obtain ⟨start,end_⟩ := interval_representable listed days present found
  obtain ⟨start',end_'⟩ := interval_representable listed days present' found'
  obtain ⟨startA,endA,startB,endB,overlapStart,overlapEnd⟩ := conflictDetection_facts described
  have least : representable (min first.end_ second.end_) = true := by
    rw [min_def]
    split
    · exact end_
    · exact end_'
  exact ⟨⟨start,startA⟩,⟨end_,endA⟩,⟨start',startB⟩,⟨end_',endB⟩,⟨start',overlapStart⟩,⟨least,overlapEnd⟩⟩

theorem proper_of_real (listed : adapter.listEvents transport = .ok result)
    (ran : runCalendarConflictDetection settings result.events = .ok run)
    (real : ∀ detection ∈ run.detections, RealOverlap settings.now detection) :
    ∀ pair ∈ conflictingPairs settings result.events, pair.2.start < pair.2.end_ := by
  intro pair member
  obtain ⟨days,mapped⟩ := run_detections ran
  obtain ⟨detection,reported,described⟩ := Outcome.mem_mapM mapped member
  obtain ⟨_,_,_,_,named,overlapEnds⟩ := pair_named listed days member described
  obtain ⟨_,_,_,_,_,_,_,_,_,_,starts,ends,proper,_⟩ := real detection reported
  rw [starts.same named,ends.same overlapEnds] at proper
  exact proper.trans_le (min_le_right _ _)

theorem real_of_proper (listed : adapter.listEvents transport = .ok result)
    (ran : runCalendarConflictDetection settings result.events = .ok run)
    (proper : ∀ pair ∈ conflictingPairs settings result.events, pair.2.start < pair.2.end_) :
    ∀ detection ∈ run.detections, RealOverlap settings.now detection := by
  intro detection reported
  obtain ⟨days,mapped⟩ := run_detections ran
  obtain ⟨⟨first,second⟩,member,described⟩ := Outcome.mapM_origin mapped reported
  obtain ⟨startA,endA,startB,endB,overlapStart,overlapEnd⟩ := pair_named listed days member described
  obtain ⟨_,_,ahead,ahead',ordered,crossing⟩ := conflictingPairs_mem member
  exact ⟨_,_,_,_,_,_,startA,endA,startB,endB,overlapStart,overlapEnd,
    lt_min crossing (proper _ member),lt_min ahead ahead',⟨ordered,min_le_left _ _⟩,le_rfl,min_le_right _ _⟩

end runs

/-- Every reported overlap is real exactly when, in each pair, the later event ends after its start. -/
theorem overlaps_real_iff (adapter : CalendarAdapter) (transport : Transport) (result : CalendarReadResult)
    (settings : ConflictSettings) (run : CalendarConflictRun)
    (listed : adapter.listEvents transport = .ok result)
    (ran : runCalendarConflictDetection settings result.events = .ok run) :
    (∀ detection ∈ run.detections, RealOverlap settings.now detection) ↔
      ∀ pair ∈ conflictingPairs settings result.events, pair.2.start < pair.2.end_ :=
  ⟨proper_of_real listed ran,real_of_proper listed ran⟩

/-- A timed event of the user's own, as a page spells it. -/
structure OwnEvent where
  id : String
  start : String
  end_ : String

namespace OwnEvent

def text (event : OwnEvent) : Body :=
  textBody "\x7b\"id\":\"" ++ textBody event.id ++ textBody "\",\"start\":\x7b\"dateTime\":\"" ++
    textBody event.start ++ textBody "\"\x7d,\"end\":\x7b\"dateTime\":\"" ++ textBody event.end_ ++
    textBody "\"\x7d,\"organizer\":\x7b\"self\":true\x7d\x7d"

def wire (event : OwnEvent) : WireEvent :=
  ⟨some event.id,none,none,some ⟨none,some event.start⟩,some ⟨none,some event.end_⟩,some ⟨true⟩,[],none⟩

end OwnEvent

/-- The body of page `index`; every page but the last one names a next page. -/
def pageBody (pages : List (List OwnEvent)) (index : Nat) : Body :=
  textBody "\x7b\"items\":[" ++
    (textBody ",").intercalate ((pages.getD index []).map OwnEvent.text) ++
    (if index + 1 = pages.length then textBody "]\x7d" else textBody "],\"nextPageToken\":\"next\"\x7d")

def answering (pages : List (List OwnEvent)) : Transport :=
  .answers (fun index => ⟨httpOk,pageBody pages index,none⟩)

def wallTimes : List (String × Int) :=
  [("2026-07-11T10:00:00+00:00",1783764000),("2026-07-11T10:30:00+00:00",1783765800),
    ("2026-07-11T11:00:00+00:00",1783767600)]

def pagesAdapter (pages : List (List OwnEvent)) : CalendarAdapter where
  validatePage := fun body =>
    ((List.range pages.length).find? (fun index => body == pageBody pages index)).map (fun index =>
      ⟨(pages.getD index []).map OwnEvent.wire,if index + 1 = pages.length then none else some "next"⟩)
  datetimeFromisoformat := fun text =>
    (wallTimes.lookup text).map (fun seconds => ⟨seconds * second,some 0⟩)
  dateFromisoformat := fun _ => none
  now := 1783760400 * second

def utcSettings : ConflictSettings := ⟨1783760400 * second,.utc,7200 * second,day⟩

def ownEvent (id : String) (start end_ : Int) : CalendarEvent :=
  ⟨id,.confirmed,none,some (.timedInstant (start * second)),some (.timedInstant (end_ * second)),true,none,
    .opaqueEvent⟩

def halfHour : List (List OwnEvent) :=
  [[⟨"a","2026-07-11T10:00:00Z","2026-07-11T11:00:00Z"⟩,⟨"b","2026-07-11T10:30:00Z","2026-07-11T11:00:00Z"⟩]]

theorem overlaps_real_halfHour : ∃ result run,
    (pagesAdapter halfHour).listEvents (answering halfHour) = .ok result ∧
      runCalendarConflictDetection utcSettings result.events = .ok run ∧
      run.detections.length = 1 ∧ ∀ detection ∈ run.detections, RealOverlap utcSettings.now detection := by
  let events := [ownEvent "a" 1783764000 1783767600,ownEvent "b" 1783765800 1783767600]
  have listed : (pagesAdapter halfHour).listEvents (answering halfHour) =
      .ok ⟨events,1783760400 * second,1,0⟩ := by decide +kernel
  obtain ⟨run,ran,one⟩ := (Outcome.map_ok_iff (fun run => run.detections.length)
    (runCalendarConflictDetection utcSettings events) 1).mp (by decide +kernel)
  have proper : ∀ pair ∈ conflictingPairs utcSettings events, pair.2.start < pair.2.end_ := by decide +kernel
  exact ⟨_,run,listed,ran,one,(overlaps_real_iff _ _ _ utcSettings run listed ran).mpr proper⟩

/-- An event without duration inside another one. -/
def momentInside : List (List OwnEvent) :=
  [[⟨"a","2026-07-11T10:00:00Z","2026-07-11T11:00:00Z"⟩,⟨"b","2026-07-11T10:30:00Z","2026-07-11T10:30:00Z"⟩]]

theorem moment_overlaps : ∃ result run,
    (pagesAdapter momentInside).listEvents (answering momentInside) = .ok result ∧
      runCalendarConflictDetection utcSettings result.events = .ok run ∧
      run.detections.map (fun detection =>
        (detection.evidence.fact "overlap_start",detection.evidence.fact "overlap_end")) =
          [(some "2026-07-11T10:30:00+00:00",some "2026-07-11T10:30:00+00:00")] ∧
      ¬∀ detection ∈ run.detections, RealOverlap utcSettings.now detection := by
  let events := [ownEvent "a" 1783764000 1783767600,ownEvent "b" 1783765800 1783765800]
  have listed : (pagesAdapter momentInside).listEvents (answering momentInside) =
      .ok ⟨events,1783760400 * second,1,0⟩ := by decide +kernel
  obtain ⟨run,ran,facts⟩ := (Outcome.map_ok_iff (fun run => run.detections.map (fun detection =>
    (detection.evidence.fact "overlap_start",detection.evidence.fact "overlap_end")))
      (runCalendarConflictDetection utcSettings events)
        [(some "2026-07-11T10:30:00+00:00",some "2026-07-11T10:30:00+00:00")]).mp (by decide +kernel)
  refine ⟨_,run,listed,ran,facts,fun real => ?_⟩
  have proper := proper_of_real listed ran real
  have improper : ¬∀ pair ∈ conflictingPairs utcSettings events, pair.2.start < pair.2.end_ := by decide +kernel
  exact improper proper

end Proactive.Situations.OverlapTruth
