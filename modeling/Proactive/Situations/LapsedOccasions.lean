import Proactive.Situations.CalendarSweep
import Proactive.Situations.Engine
import Proactive.Situations.OccasionGroups
import Proactive.Situations.ReplyDeadline
import Proactive.Store.Lapsing

/-! What is pending or delivered past its expiry after an evaluation pass: only an occasion whose local
day had ended before the pass. -/
namespace Proactive.Situations
open Proactive.Library Proactive.Store Database DeadlineText

structure DetectorSettings where
  replyThreshold : Int := ReplyDeadline.defaultReplyThreshold
  calendarHighWindow : Int := 24 * 3600 * second
  calendarCriticalWindow : Int := 2 * 3600 * second
  occasionDefaultLeadDays : Int := defaultLeadDays

/-- The detectors as the engine binds them to its settings, and to the memories the store lists. -/
def engineDetectors (characters : Characters) (normalizers : MemoryNormalizers) (memories : List DatedMemory)
    (zone : TimeZone) (settings : DetectorSettings) : Detectors where
  detectPersonalOccasions now :=
    detectPersonalOccasions characters normalizers memories now zone settings.occasionDefaultLeadDays
  detectReplyDeadlines threads now :=
    ReplyDeadline.detectReplyDeadlines characters zone settings.replyThreshold threads now
  runCalendarConflictDetection events now :=
    runCalendarConflictDetection ⟨now,zone,settings.calendarCriticalWindow,settings.calendarHighWindow⟩ events

/-- The readings of a pass during which the clock stands. -/
def PassReadings.fixed (now : Int) : PassReadings := ⟨now,now,now,now,⟨now,now,now⟩,⟨now,now,now⟩⟩

section expiries
variable {characters : Characters} {normalizers : MemoryNormalizers} {memories : List DatedMemory} {zone : TimeZone}
  {leadDays now : Int} {detections : List Detection} {detection : Detection}

private theorem head_append {first : Char} {label : String} (named : label.toList.head? = some first) (rest : String) :
    (label ++ rest).toList.head? = some first := by
  rw [String.toList_append,List.head?_append,named]
  rfl

theorem reply_detections {threads : List InboxThreadSnapshot} {threshold : Int}
    (ran : ReplyDeadline.detectReplyDeadlines characters zone threshold threads now = .ok detections)
    (member : detection ∈ detections) :
    detection.hasLapsed now = false ∧ detection.dedupeKey.toList.head? = some 'r' := by
  obtain ⟨_,found,mapped,rfl⟩ := ReplyDeadline.detectReplyDeadlines_ok.mp ran
  obtain ⟨emitted,listed,same⟩ := List.mem_filterMap.mp member
  obtain rfl : emitted = some detection := same
  obtain ⟨thread,_,emits⟩ := Outcome.mapM_origin mapped listed
  unfold ReplyDeadline.detectThread at emits
  split at emits
  · obtain ⟨scan,_,described⟩ := (Outcome.bind_ok_iff _ _ _).mp emits
    have shape := Except.ok.inj described
    split at shape
    · cases shape
    · rw [← Option.some.inj shape]
      have label : "reply_deadline:".toList.head? = some 'r' := by decide +kernel
      exact ⟨rfl,head_append (head_append (head_append label _) _) _⟩
  · cases emits

theorem calendar_detections {events : List CalendarEvent} {settings : ConflictSettings} {conflicts : CalendarConflictRun}
    (ran : runCalendarConflictDetection settings events = .ok conflicts) (member : detection ∈ conflicts.detections) :
    detection.hasLapsed settings.now = false ∧ detection.dedupeKey.toList.head? = some 'c' := by
  obtain ⟨_,mapped⟩ := run_detections ran
  obtain ⟨⟨first,second⟩,listed,described⟩ := Outcome.mapM_origin mapped member
  obtain ⟨_,_,ahead,ahead',_⟩ := conflictingPairs_mem listed
  obtain ⟨localStart,_,described⟩ := (Outcome.bind_ok_iff _ _ _).mp described
  obtain ⟨localEnd,_,described⟩ := (Outcome.bind_ok_iff _ _ _).mp described
  obtain rfl := Except.ok.inj described
  have label : "calendar_conflict:".toList.head? = some 'c' := by decide +kernel
  refine ⟨?_,head_append (head_append (head_append label _) _) _⟩
  change decide (min first.end_ second.end_ ≤ settings.now) = false
  rw [decide_eq_false_iff_not,not_le]
  exact lt_min ahead ahead'

theorem occasion_key (item : DatedMemory) (year : Nat) : (occasionDedupeKey item year).toList.head? = some 'p' := by
  have entity : "personal_occasion:entity:".toList.head? = some 'p' := by decide +kernel
  have own : "personal_occasion:item:".toList.head? = some 'p' := by decide +kernel
  unfold occasionDedupeKey
  split
  · split
    · exact head_append (head_append (head_append own _) _) _
    · exact head_append (head_append (head_append (head_append (head_append entity _) _) _) _) _
  · exact head_append (head_append (head_append own _) _) _

/-- What the detector finds, one detection of a row each, with distinct keys. -/
theorem occasion_detections (distinct : (memories.map DatedMemory.id).Nodup)
    (ran : detectPersonalOccasions characters normalizers memories now zone leadDays = .ok detections) :
    (detections.map Detection.dedupeKey).Nodup ∧ ∀ detection ∈ detections, ∃ rows trigger expiresAt,
      zone.localDate now ≤ trigger.occurrence ∧ checkedLocalDayEnd zone trigger.occurrence = .ok expiresAt ∧
        detection = occasionDetection rows trigger (zone.localDate now) leadDays expiresAt := by
  obtain ⟨wall,named,_⟩ := (Outcome.bind_ok_iff _ _ _).mp ran
  rw [detectPersonalOccasions_eq characters normalizers memories zone leadDays named] at ran
  obtain rfl := Except.ok.inj ran
  rw [List.map_map]
  refine ⟨announcements_dedupeKeys_nodup distinct,?_⟩
  intro detection member
  obtain ⟨entry,listed,rfl⟩ := List.mem_map.mp member
  obtain ⟨trigger,row,expiresAt,ended,described⟩ := announcements_row listed
  obtain ⟨_,next,_⟩ := (mem_rowsOf entry.1).mp row
  exact ⟨_,trigger,expiresAt,(nextOccurrence_cases next).1,ended,described⟩

/-- Where the local days from today's on end after the pass, no occasion has lapsed. -/
theorem occasions_current (distinct : (memories.map DatedMemory.id).Nodup)
    (later : ∀ date, zone.localDate now ≤ date → now < zone.localDayEnd date)
    (ran : detectPersonalOccasions characters normalizers memories now zone leadDays = .ok detections)
    (member : detection ∈ detections) : detection.hasLapsed now = false := by
  obtain ⟨rows,trigger,expiresAt,upcoming,ended,rfl⟩ := (occasion_detections distinct ran).2 detection member
  have ends : zone.localDayEnd trigger.occurrence = expiresAt := by
    unfold checkedLocalDayEnd at ended
    obtain ⟨date,next,start⟩ := (Outcome.bind_ok_iff _ _ _).mp ended
    unfold checkedDate at next
    split at next
    · obtain rfl := Except.ok.inj next
      unfold TimeZone.checkedLocalDayStart at start
      split at start
      · exact Except.ok.inj start
      · cases start
    · cases next
  have after := later trigger.occurrence upcoming
  rw [ends] at after
  exact decide_eq_false (not_le.mpr after)

theorem utc_days_later (now date : Int) (upcoming : TimeZone.utc.localDate now ≤ date) :
    now < TimeZone.utc.localDayEnd date := by
  unfold TimeZone.localDate TimeZone.localTime at upcoming
  unfold TimeZone.localDayEnd TimeZone.localDayStart
  unfold TimeZone.utc day second at *
  dsimp only at *
  omega

end expiries

section passes
variable [EvidenceJson] {now : Int} {db : Database} {operations : List Operation} {row : Situation}

/-- The application of a source whose detections are current and are no occasions. -/
def Current (now : Int) (operation : Operation) : Prop :=
  ∃ application clock, operation = .applySourceGeneration application clock ∧
    ∀ detection ∈ application.detections,
      detection.hasLapsed now = false ∧ detection.dedupeKey.toList.head? ≠ some 'p'

theorem run_unlapsed (current : ∀ operation ∈ operations, Current now operation) (schema : db.WellFormed)
    (unlapsed : Unlapsed now db) : Unlapsed now (Run.run step db operations) := by
  induction operations generalizing db with
  | nil => exact unlapsed
  | cons operation rest ih =>
    obtain ⟨application,clock,rfl,fresh⟩ := current operation List.mem_cons_self
    rw [Run.run_cons]
    refine ih (fun other member => current other (List.mem_cons_of_mem _ member)) (step_wellFormed db _ schema) ?_
    exact applySourceGeneration_unlapsed schema (fun detection member => (fresh detection member).1) unlapsed

theorem run_keeps_row (current : ∀ operation ∈ operations, Current now operation) (schema : db.WellFormed)
    (occasion : row.dedupeKey.toList.head? = some 'p') (sourced : row.sourceName = .memory)
    (stored : row ∈ db.situations) : row ∈ (Run.run step db operations).situations := by
  induction operations generalizing db with
  | nil => exact stored
  | cons operation rest ih =>
    obtain ⟨application,clock,rfl,fresh⟩ := current operation List.mem_cons_self
    rw [Run.run_cons]
    refine ih (fun other member => current other (List.mem_cons_of_mem _ member)) (step_wellFormed db _ schema) ?_
    refine applySourceGeneration_keeps_row schema (fun detection member same => ?_) sourced stored
    rw [← same] at occasion
    exact (fresh detection member).2 occasion

variable (characters : Characters) (normalizers : MemoryNormalizers) (memories : List DatedMemory) (zone : TimeZone)
  (settings : DetectorSettings) (inputs : EngineInputs)

omit [EvidenceJson] in
theorem gmailOperations_current : ∀ operation ∈ gmailOperations
    (engineDetectors characters normalizers memories zone settings) (.fixed now) inputs, Current now operation := by
  intro operation member
  unfold gmailOperations at member
  split at member
  · cases member
  · rename_i gmail read
    split at member
    · rename_i detections ran
      refine ⟨_,_,List.mem_singleton.mp member,fun detection listed => ?_⟩
      obtain ⟨fresh,head⟩ := reply_detections ran listed
      exact ⟨fresh,by rw [head]; decide⟩
    · cases member

omit [EvidenceJson] in
theorem calendarOperations_current : ∀ operation ∈ calendarOperations
    (engineDetectors characters normalizers memories zone settings) (.fixed now) inputs, Current now operation := by
  intro operation member
  unfold calendarOperations at member
  split at member
  · cases member
  · rename_i calendar read
    split at member
    · rename_i conflicts ran
      refine ⟨_,_,List.mem_singleton.mp member,fun detection listed => ?_⟩
      obtain ⟨fresh,head⟩ := calendar_detections ran listed
      exact ⟨fresh,by rw [head]; decide⟩
    · cases member

omit [EvidenceJson] in
theorem openOperations_detected (detectors : Detectors) (readings : PassReadings) {occasions : List Detection}
    (ran : detectors.detectPersonalOccasions readings.now = .ok occasions) : openOperations detectors readings =
      [.wakeSnoozed readings.wokenAt,.expireLapsed readings.expiredAt,
        .applyLocalDetections occasions readings.localAt] := by
  rw [openOperations,ran]
  rfl

omit [EvidenceJson] in
theorem openOperations_raised (detectors : Detectors) (readings : PassReadings) {error : Raised}
    (ran : detectors.detectPersonalOccasions readings.now = .error error) : openOperations detectors readings =
      [.wakeSnoozed readings.wokenAt,.expireLapsed readings.expiredAt] := by
  rw [openOperations,ran]
  rfl

/-- The occasions come first: what follows them in a pass is current. -/
theorem passOperations_shape (now : Int) (db : Database) : ∃ sources,
    passOperations (engineDetectors characters normalizers memories zone settings) (.fixed now) inputs db =
      openOperations (engineDetectors characters normalizers memories zone settings) (.fixed now) ++ sources ∧
    ∀ operation ∈ sources, Current now operation := by
  unfold passOperations
  refine ⟨_,rfl,?_⟩
  intro operation member
  split at member
  · cases member
  · rcases List.mem_append.mp member with gmail | rest
    · exact gmailOperations_current characters normalizers memories zone settings inputs operation gmail
    · split at rest
      · cases rest
      · exact calendarOperations_current characters normalizers memories zone settings inputs operation rest

variable {characters normalizers memories zone} {leadDays : Int} {front back : List Detection} {detection : Detection}

/-- A lapsed occasion that lands is stale when the pass is over. -/
theorem pass_stale (schema : db.WellFormed) (distinct : (memories.map DatedMemory.id).Nodup)
    (ran : detectPersonalOccasions characters normalizers memories now zone leadDays = .ok (front ++ detection::back))
    (lapsed : detection.hasLapsed now = true) (lands : Lands now front detection db) (awake : Awake now db)
    (current : ∀ operation ∈ operations, Current now operation) :
    ¬Unlapsed now (Run.run step (step db (.applyLocalDetections (front ++ detection::back) now)) operations) := by
  obtain ⟨keys,described⟩ := occasion_detections distinct ran
  have typed : ∀ other ∈ front ++ detection::back, other.situationType = .personalOccasion := by
    intro other member
    obtain ⟨_,_,_,_,_,rfl⟩ := described other member
    rfl
  obtain ⟨row,stored,stale,key,sourced⟩ : ∃ row ∈ (step db (.applyLocalDetections (front ++ detection::back) now)).situations,
      row.stale now = true ∧ row.dedupeKey = detection.dedupeKey ∧ row.sourceName = .memory :=
    applyLocalDetections_stale schema typed keys awake lapsed lands
  have occasion : row.dedupeKey.toList.head? = some 'p' := by
    obtain ⟨_,trigger,_,_,_,rfl⟩ := described detection (List.mem_append_right _ List.mem_cons_self)
    rw [key]
    exact occasion_key trigger.item _
  intro unlapsed
  have kept := run_keeps_row current (step_wellFormed db _ schema) occasion sourced stored
  exact Bool.eq_false_iff.mp (unlapsed row kept) stale

variable (characters normalizers memories zone)

/-- After a pass nothing pending or delivered is past its expiry, exactly when no occasion of it that the
store puts on an active row has its local day end at or before the pass. -/
theorem pass_unlapsed_iff (schema : db.WellFormed) (distinct : (memories.map DatedMemory.id).Nodup) :
    Unlapsed now ((evaluate (engineDetectors characters normalizers memories zone settings)
        (.fixed now) inputs).run db).2 ↔
      ∀ front detection back, detectPersonalOccasions characters normalizers memories now zone
          settings.occasionDefaultLeadDays = .ok (front ++ detection::back) →
        detection.hasLapsed now = true → ¬Lands now front detection db := by
  obtain ⟨sources,shape,current⟩ := passOperations_shape characters normalizers memories zone settings inputs now db
  have swept : Unlapsed now (step (step db (.wakeSnoozed now)) (.expireLapsed now)) := expireLapsed_unlapsed now _
  have awake : Awake now (step (step db (.wakeSnoozed now)) (.expireLapsed now)) :=
    expireLapsed_awake (wakeSnoozed_awake now db)
  have opened := step_wellFormed _ (.expireLapsed now) (step_wellFormed db (.wakeSnoozed now) schema)
  have lands (front : List Detection) (detection : Detection) :
      Lands now front detection (step (step db (.wakeSnoozed now)) (.expireLapsed now)) ↔
        Lands now front detection db := lands_expired.trans lands_woken
  rw [evaluate_operations,shape,Run.run_append]
  cases ran : detectPersonalOccasions characters normalizers memories now zone settings.occasionDefaultLeadDays with
  | error error =>
    rw [openOperations_raised _ _ ran]
    refine iff_of_true (run_unlapsed current opened swept) (fun front detection back failed => ?_)
    cases failed
  | ok occasions =>
    rw [openOperations_detected _ _ ran]
    obtain ⟨keys,described⟩ := occasion_detections distinct ran
    have typed : ∀ other ∈ occasions, other.situationType = .personalOccasion := by
      intro other member
      obtain ⟨_,_,_,_,_,rfl⟩ := described other member
      rfl
    constructor
    · intro unlapsed front detection back same lapsed landed
      obtain rfl := Except.ok.inj same
      exact pass_stale opened distinct ran lapsed ((lands front detection).mpr landed) awake current unlapsed
    · intro spared
      have after := step_wellFormed _ (.applyLocalDetections occasions now) opened
      refine run_unlapsed current after ?_
      refine applyLocalDetections_unlapsed opened typed keys swept (fun front detection back same lapsed landed => ?_)
      exact spared front detection back (by rw [same]) lapsed ((lands front detection).mp landed)

end passes

theorem pass_unlapsed_utc : Unlapsed (1783760400 * second)
    ((@evaluate EvidenceJson.compact (engineDetectors .ascii ⟨id,id,id⟩ [birthday 1 "--07-18" (some 7)] .utc {})
      (.fixed (1783760400 * second)) .skipped).run .empty).2 := by
  have single : ([birthday 1 "--07-18" (some 7)].map DatedMemory.id).Nodup := by decide
  refine (@pass_unlapsed_iff EvidenceJson.compact _ _ .ascii ⟨id,id,id⟩ _ .utc {} .skipped empty_wellFormed single).mpr ?_
  intro front detection back ran lapsed _
  have member : detection ∈ front ++ detection::back := List.mem_append_right _ List.mem_cons_self
  have current := occasions_current single (utc_days_later _) ran member
  rw [current] at lapsed
  cases lapsed

section midnights

/-- St. John's in October 2006: at 00:01 on the 29th the clock goes back to 23:01 on the 28th. -/
def stJohns : TimeZone where
  offsetAt instant := if instant < 1162089060 * second then -9000 * second else -12600 * second
  offsetOf wall := if wall < 1162080060 * second then -9000 * second else -12600 * second

/-- In the repeated hour the local date is the 28th again, whose end is read as its first midnight. -/
theorem repeated_hour_stale : ¬Unlapsed (1162089900 * second)
    ((@evaluate EvidenceJson.compact (engineDetectors .ascii ⟨id,id,id⟩ [birthday 1 "--10-28" (some 7)] stJohns {})
      (.fixed (1162089900 * second)) .skipped).run .empty).2 := by
  decide +kernel

end midnights

end Proactive.Situations
