import Proactive.Library.Ledger
import Proactive.Store.Lapsing

/-! Passes that report the same detections again: the rows are as the last detection of their key
says, and a repetition writes what is there. -/
namespace Proactive.Store.Repetition
open Proactive.Library Database Ledger

/-- A detection and the source that reports it. -/
abbrev Entry := SituationSource × Detection

def Live (row : Situation) : Prop := row.state = .pending ∨ row.state = .delivered ∨ row.state = .snoozed

def Dormant (row : Situation) : Prop := row.state = .resolved ∨ row.state = .expired

structure Describes (entry : Entry) (row : Situation) : Prop where
  priority : row.priority = entry.2.priority
  title : row.title = entry.2.title
  whyNow : row.whyNow = entry.2.whyNow
  evidence : row.evidence = entry.2.evidence
  expiresAt : row.expiresAt = entry.2.expiresAt
  sourceName : row.sourceName = entry.1

/-- An occasion that was delivered is not brought back. -/
def Told (db : Database) (row : Situation) : Prop :=
  row.situationType = .personalOccasion ∧ db.hasDelivery row.id = true

theorem live_of_active {row : Situation} (active : row.active = true) : Live row := by
  rcases active_cases active with state | state
  · exact Or.inl state
  · exact Or.inr (Or.inl state)

theorem not_live_of_dormant {row : Situation} (dormant : Dormant row) : ¬Live row := by
  unfold Live
  rcases dormant with state | state <;> simp [state]

section entries
variable [EvidenceJson]

/-- The detection is one for the key, and small enough for the store. -/
def written (key : String) (entry : Entry) : Option Entry :=
  if entry.2.dedupeKey = key ∧ recordSize entry.2 ≤ maxSituationRecordBytes then some entry else none

theorem written_some {key : String} {entry found : Entry} :
    written key entry = some found ↔
      found = entry ∧ entry.2.dedupeKey = key ∧ recordSize entry.2 ≤ maxSituationRecordBytes := by
  unfold written
  split
  · rename_i fits
    simp [fits,eq_comm]
  · rename_i unfit
    simp [unfit]

/-- What the detections of a log leave in the rows: those still open say what the last one of
their key said, and a closed one is an occasion that was told. -/
structure Reported (log : List Entry) (db : Database) : Prop where
  live : ∀ row ∈ db.situations, ∀ entry, last (written row.dedupeKey) log = some entry → Live row → Describes entry row
  dormant : ∀ row ∈ db.situations, ∀ entry, last (written row.dedupeKey) log = some entry → Dormant row → Told db row
  landed : ∀ entry ∈ log, recordSize entry.2 ≤ maxSituationRecordBytes →
    (∃ row ∈ db.situations, row.dedupeKey = entry.2.dedupeKey) ∨ maxSituationRows ≤ db.situations.length

theorem reported_nil (db : Database) : Reported [] db :=
  ⟨fun _ _ _ none => (nomatch none),fun _ _ _ none => (nomatch none),fun _ member => by simp at member⟩

theorem Reported.congr {log other : List Entry} {db left : Database} (reported : Reported log db)
    (same : ∀ key, last (written key) other = last (written key) log) (listed : ∀ entry ∈ other, entry ∈ log)
    (situations : left.situations = db.situations) (deliveries : left.deliveries = db.deliveries) :
    Reported other left := by
  refine ⟨fun row member entry => ?_,fun row member entry => ?_,fun entry member => ?_⟩
  · rw [same]
    exact reported.live row (situations ▸ member) entry
  · rw [same]
    intro found dormant
    obtain ⟨occasion,told⟩ := reported.dormant row (situations ▸ member) entry found dormant
    refine ⟨occasion,?_⟩
    unfold hasDelivery at told ⊢
    rwa [deliveries]
  · rw [situations]
    exact reported.landed entry (listed entry member)

variable {detection : Detection} {timestamp : Int} {source : SituationSource} {generation : Option Nat}
  {db left : Database} {outcome : UpsertOutcome} {log : List Entry}

/-- Each row after the step: not concerned by the detection, written by it, or closed to it. -/
theorem step_rows (schema : db.WellFormed) (step : UpsertStep detection timestamp source generation db outcome left) :
    ∀ row ∈ left.situations,
      (row ∈ db.situations ∧ written row.dedupeKey (source,detection) = none) ∨
      (written row.dedupeKey (source,detection) = some (source,detection) ∧ Live row ∧ Describes (source,detection) row) ∨
      (row ∈ db.situations ∧ ¬Live row ∧ (Dormant row → Told db row)) := by
  have apart {row : Situation} (other : row.dedupeKey ≠ detection.dedupeKey) :
      written row.dedupeKey (source,detection) = none := if_neg (fun fits => other fits.1.symm)
  have unique {row stored : Situation} (member : row ∈ db.situations) (present : stored ∈ db.situations)
      (key : stored.dedupeKey = detection.dedupeKey) : row = stored ∨ written row.dedupeKey (source,detection) = none := by
    by_cases same : row.dedupeKey = detection.dedupeKey
    · exact Or.inl (List.inj_on_of_nodup_map schema.dedupeKeys member present (same.trans key.symm))
    · exact Or.inr (apart same)
  have fits (room : ¬Rejected detection db) : recordSize detection ≤ maxSituationRecordBytes :=
    Nat.le_of_not_lt (fun large => room (Or.inl large))
  have rewritten {stored : Situation} {change : Situation → Situation} (present : stored ∈ db.situations)
      (key : stored.dedupeKey = detection.dedupeKey) (room : ¬Rejected detection db)
      (keeps : (change stored).dedupeKey = stored.dedupeKey) (live : Live (change stored))
      (describes : Describes (source,detection) (change stored)) :
      ∀ row ∈ Table.updateWhere (fun other => other.id == stored.id) change db.situations,
        (row ∈ db.situations ∧ written row.dedupeKey (source,detection) = none) ∨
        (written row.dedupeKey (source,detection) = some (source,detection) ∧ Live row ∧ Describes (source,detection) row) ∨
        (row ∈ db.situations ∧ ¬Live row ∧ (Dormant row → Told db row)) := by
    intro row member
    rcases (Table.mem_updateWhere _ _ _ _).mp member with ⟨old,was,hit,rfl⟩ | ⟨was,missed⟩
    · obtain rfl := schema.same_id was present (beq_iff_eq.mp hit)
      exact Or.inr (Or.inl ⟨written_some.mpr ⟨rfl,(keeps.trans key).symm,fits room⟩,live,describes⟩)
    · rcases unique was present key with rfl | none
      · simp at missed
      · exact Or.inl ⟨was,none⟩
  cases step with
  | rejected limit =>
    refine fun row member => Or.inl ⟨member,?_⟩
    rcases limit with large | ⟨absent,_⟩
    · exact if_neg (fun fits => Nat.not_lt.mpr fits.2 large)
    · exact apart (absent_iff.mp absent row member)
  | created room absent =>
    intro row member
    rcases List.mem_append.mp member with was | new
    · exact Or.inl ⟨was,apart (absent_iff.mp absent row was)⟩
    · obtain rfl := List.mem_singleton.mp new
      exact Or.inr (Or.inl ⟨written_some.mpr ⟨rfl,rfl,fits room⟩,Or.inl rfl,⟨rfl,rfl,rfl,rfl,rfl,rfl⟩⟩)
  | announced stored room present key dormant told =>
    intro row member
    rcases unique member present key with rfl | none
    · exact Or.inr (Or.inr ⟨member,not_live_of_dormant dormant,fun _ => told⟩)
    · exact Or.inl ⟨member,none⟩
  | reactivated stored room present key dormant untold =>
    exact rewritten present key room rfl (Or.inl rfl) ⟨rfl,rfl,rfl,rfl,rfl,rfl⟩
  | refreshed stored room present key live =>
    exact rewritten present key room rfl live ⟨rfl,rfl,rfl,rfl,rfl,rfl⟩
  | closed stored room present key done =>
    intro row member
    rcases unique member present key with rfl | none
    · refine Or.inr (Or.inr ⟨member,?_,?_⟩)
      · unfold Live
        rcases done with state | state <;> simp [state]
      · unfold Dormant
        rcases done with state | state <;> simp [state]
    · exact Or.inl ⟨member,none⟩

theorem step_deliveries (step : UpsertStep detection timestamp source generation db outcome left) :
    left.deliveries = db.deliveries := by
  cases step <;> rfl

theorem step_kept (step : UpsertStep detection timestamp source generation db outcome left) :
    db.situations.length ≤ left.situations.length ∧
      ∀ row ∈ db.situations, ∃ next ∈ left.situations, next.dedupeKey = row.dedupeKey := by
  have changed {selects : Situation → Bool} {change : Situation → Situation}
      (keeps : ∀ row : Situation, (change row).dedupeKey = row.dedupeKey) :
      db.situations.length ≤ (Table.updateWhere selects change db.situations).length ∧
        ∀ row ∈ db.situations, ∃ next ∈ Table.updateWhere selects change db.situations, next.dedupeKey = row.dedupeKey := by
    refine ⟨Nat.le_of_eq (List.length_map _).symm,fun row member => ?_⟩
    refine ⟨_,List.mem_map_of_mem member,?_⟩
    split
    · exact keeps row
    · rfl
  cases step with
  | rejected | announced | closed => exact ⟨Nat.le_refl _,fun row member => ⟨row,member,rfl⟩⟩
  | created =>
    exact ⟨by rw [List.length_append]; exact Nat.le_add_right _ _,fun row member => ⟨row,List.mem_append_left _ member,rfl⟩⟩
  | reactivated => exact changed (fun _ => rfl)
  | refreshed => exact changed (fun _ => rfl)

theorem step_landed (step : UpsertStep detection timestamp source generation db outcome left)
    (fits : recordSize detection ≤ maxSituationRecordBytes) :
    (∃ row ∈ left.situations, row.dedupeKey = detection.dedupeKey) ∨ maxSituationRows ≤ left.situations.length := by
  have kept {stored : Situation} (present : stored ∈ db.situations) (key : stored.dedupeKey = detection.dedupeKey) :
      ∃ row ∈ left.situations, row.dedupeKey = detection.dedupeKey := by
    obtain ⟨next,member,same⟩ := (step_kept step).2 stored present
    exact ⟨next,member,same.trans key⟩
  cases step with
  | rejected limit =>
    rcases limit with large | ⟨_,full⟩
    · exact absurd large (Nat.not_lt.mpr fits)
    · rw [countSituations_all] at full
      exact Or.inr full
  | created room absent => exact Or.inl ⟨_,List.mem_append_right _ (List.mem_singleton_self _),rfl⟩
  | announced stored room present key => exact Or.inl (kept present key)
  | reactivated stored room present key => exact Or.inl (kept present key)
  | refreshed stored room present key => exact Or.inl (kept present key)
  | closed stored room present key => exact Or.inl (kept present key)

theorem Reported.step (reported : Reported log db) (schema : db.WellFormed)
    (step : UpsertStep detection timestamp source generation db outcome left) :
    Reported (log ++ [(source,detection)]) left := by
  have told {row : Situation} (held : Told db row) : Told left row := by
    refine ⟨held.1,?_⟩
    unfold hasDelivery
    rw [step_deliveries step]
    exact held.2
  have rows := step_rows schema step
  have newest (key : String) : last (written key) (log ++ [(source,detection)]) =
      (written key (source,detection)).or (last (written key) log) := by
    rw [last_append,last_cons,last_nil,Option.none_or]
  refine ⟨fun row member entry found live => ?_,fun row member entry found dormant => ?_,fun entry member fits => ?_⟩
  · rw [newest] at found
    rcases rows row member with ⟨was,none⟩ | ⟨wrote,_,describes⟩ | ⟨_,dead,_⟩
    · rw [none,Option.none_or] at found
      exact reported.live row was entry found live
    · rw [wrote,Option.some_or] at found
      exact Option.some.inj found ▸ describes
    · exact absurd live dead
  · rw [newest] at found
    rcases rows row member with ⟨was,none⟩ | ⟨_,live,_⟩ | ⟨_,_,closed⟩
    · rw [none,Option.none_or] at found
      exact told (reported.dormant row was entry found dormant)
    · exact absurd live (not_live_of_dormant dormant)
    · exact told (closed dormant)
  · rcases List.mem_append.mp member with earlier | latest
    · obtain ⟨longer,kept⟩ := step_kept step
      rcases reported.landed entry earlier fits with ⟨row,stored,key⟩ | full
      · obtain ⟨next,present,same⟩ := kept row stored
        exact Or.inl ⟨next,present,same.trans key⟩
      · exact Or.inr (Nat.le_trans full longer)
    · obtain rfl := List.mem_singleton.mp latest
      exact step_landed step fits

/-- A source's detections, and the rows it resolves after them. -/
structure Batch where
  source : SituationSource
  detections : List Detection
  resolves : Situation → Bool

namespace Batch

def entries (batch : Batch) : List Entry := batch.detections.map (fun detection => (batch.source,detection))

/-- Only open rows of the source are resolved, and none that is reported. -/
def Sound (batch : Batch) : Prop :=
  ∀ row, batch.resolves row = true →
    row.active = true ∧ row.sourceName = batch.source ∧ ∀ detection ∈ batch.detections, detection.dedupeKey ≠ row.dedupeKey

end Batch

/-- The detections of a batch one after the other, with the outcome of each. -/
inductive Upserting (timestamp : Int) (source : SituationSource) (generation : Option Nat) :
    List Detection → Database → List UpsertOutcome → Database → Prop
  | done (db : Database) : Upserting timestamp source generation [] db [] db
  | next {detection : Detection} {rest : List Detection} {outcome : UpsertOutcome} {outcomes : List UpsertOutcome}
    {db middle left : Database} (first : UpsertStep detection timestamp source generation db outcome middle)
    (others : Upserting timestamp source generation rest middle outcomes left) :
    Upserting timestamp source generation (detection::rest) db (outcome::outcomes) left

inductive Batch.Ran (batch : Batch) : DetectionApplySummary → Database → Database → Prop
  | applied {db start middle left : Database} {outcomes : List UpsertOutcome} {timestamp : Int} {generation : Option Nat}
    {resolved : Nat} (schema : start.WellFormed) (situations : start.situations = db.situations)
    (deliveries : start.deliveries = db.deliveries)
    (upserts : Upserting timestamp batch.source generation batch.detections start outcomes middle)
    (resolves : left.situations = Table.updateWhere batch.resolves (.resolved timestamp) middle.situations)
    (kept : left.deliveries = middle.deliveries)
    (counted : (∀ row ∈ middle.situations, batch.resolves row = false) → resolved = 0) :
    Batch.Ran batch ⟨outcomes.foldl DetectionUpsertSummary.add .zero,resolved⟩ db left

/-- The batches of a pass. -/
inductive Passed : List Batch → List DetectionApplySummary → Database → Database → Prop
  | done (db : Database) : Passed [] [] db db
  | next {batch : Batch} {rest : List Batch} {summary : DetectionApplySummary} {summaries : List DetectionApplySummary}
    {db middle left : Database} (first : batch.Ran summary db middle) (others : Passed rest summaries middle left) :
    Passed (batch::rest) (summary::summaries) db left

theorem Passed.append {front back : List Batch} {first second : List DetectionApplySummary} {db middle left : Database}
    (passed : Passed front first db middle) (others : Passed back second middle left) :
    Passed (front ++ back) (first ++ second) db left := by
  induction passed with
  | done db => exact others
  | next ran _ ih => exact .next ran (ih others)

/-- What a source has ever reported in the log it still reports. -/
def Agrees (log : List Entry) (batch : Batch) : Prop :=
  ∀ entry ∈ log, entry.1 = batch.source → ∃ detection ∈ batch.detections, detection.dedupeKey = entry.2.dedupeKey

/-- What the batch would resolve, of the rows that no detection of the log concerns, is resolved. -/
def Quiet (log : List Entry) (batch : Batch) (db : Database) : Prop :=
  ∀ row ∈ db.situations, last (written row.dedupeKey) log = none → batch.resolves row = false

variable {batch other : Batch} {rest : List Detection} {outcomes : List UpsertOutcome} {summary : DetectionApplySummary}
  {batches : List Batch} {summaries : List DetectionApplySummary}

theorem Upserting.reported (upserts : Upserting timestamp source generation rest db outcomes left) (schema : db.WellFormed)
    (reported : Reported log db) :
    left.WellFormed ∧ Reported (log ++ rest.map (fun detection => (source,detection))) left := by
  induction upserts generalizing log with
  | done db => exact ⟨schema,by simpa using reported⟩
  | next first others ih =>
    have after := first.evolves [_] List.mem_cons_self 0 schema (Nat.zero_le _)
    have next := ih after.2.1 (reported.step schema first)
    rwa [List.append_assoc] at next

omit [EvidenceJson] in
theorem resolve_rows {selects : Situation → Bool} {rows : List Situation} {row : Situation}
    (member : row ∈ Table.updateWhere selects (.resolved timestamp) rows) :
    (∃ old ∈ rows, selects old = true ∧ row.dedupeKey = old.dedupeKey ∧ Dormant row ∧ row.active = false) ∨
      row ∈ rows ∧ selects row = false := by
  rcases (Table.mem_updateWhere _ _ _ _).mp member with ⟨old,was,hit,rfl⟩ | unchanged
  · exact Or.inl ⟨old,was,hit,rfl,Or.inl rfl,rfl⟩
  · exact Or.inr unchanged

/-- A row that the log concerns is not resolved: it is another source's, or still reported. -/
theorem not_resolved {row : Situation} {entry : Entry} (sound : batch.Sound) (agrees : Agrees log batch)
    (reported : Reported log db) (member : row ∈ db.situations) (found : last (written row.dedupeKey) log = some entry) :
    batch.resolves row = false := by
  by_contra resolves
  rw [Bool.not_eq_false] at resolves
  obtain ⟨active,sourced,unreported⟩ := sound row resolves
  have describes := reported.live row member entry found (live_of_active active)
  obtain ⟨front,writer,back,rfl,wrote,_⟩ := last_some found
  obtain ⟨rfl,key,_⟩ := written_some.mp wrote
  obtain ⟨detection,listed,same⟩ := agrees entry (by simp) (describes.sourceName.symm.trans sourced)
  exact unreported detection listed (same.trans key)

theorem Batch.Ran.reported (ran : batch.Ran summary db left) (sound : batch.Sound) (reported : Reported log db)
    (agrees : Agrees (log ++ batch.entries) batch) : Reported (log ++ batch.entries) left := by
  cases ran with
  | applied schema situations deliveries upserts resolves kept counted =>
    have start := reported.congr (fun _ => rfl) (fun _ listed => listed) situations deliveries
    obtain ⟨_,middle⟩ := upserts.reported schema start
    change Reported (log ++ batch.entries) _ at middle
    refine ⟨fun row member entry found live => ?_,fun row member entry found dormant => ?_,fun entry member fits => ?_⟩
    · rw [resolves] at member
      rcases resolve_rows member with ⟨old,_,_,_,dormant,_⟩ | ⟨was,_⟩
      · exact absurd live (not_live_of_dormant dormant)
      · exact middle.live row was entry found live
    · rw [resolves] at member
      rcases resolve_rows member with ⟨old,was,hit,key,_⟩ | ⟨was,_⟩
      · rw [key] at found
        rw [not_resolved sound agrees middle was found] at hit
        cases hit
      · obtain ⟨occasion,told⟩ := middle.dormant row was entry found dormant
        refine ⟨occasion,?_⟩
        unfold hasDelivery at told ⊢
        rwa [kept]
    · rw [resolves,Table.updateWhere,List.length_map]
      refine (middle.landed entry member fits).imp_left ?_
      rintro ⟨row,stored,key⟩
      refine ⟨_,List.mem_map_of_mem stored,?_⟩
      split <;> exact key

theorem Quiet.step (quiet : Quiet log batch db) (schema : db.WellFormed) (listed : (source,detection) ∈ log)
    (step : UpsertStep detection timestamp source generation db outcome left) : Quiet log batch left := by
  intro row member none
  rcases step_rows schema step row member with ⟨was,_⟩ | ⟨wrote,_⟩ | ⟨was,_⟩
  · exact quiet row was none
  · rw [last_none.mp none _ listed] at wrote
    cases wrote
  · exact quiet row was none

theorem Quiet.upserting (quiet : Quiet log batch db) (schema : db.WellFormed)
    (listed : ∀ detection ∈ rest, (source,detection) ∈ log)
    (upserts : Upserting timestamp source generation rest db outcomes left) : Quiet log batch left := by
  induction upserts with
  | done db => exact quiet
  | next first others ih =>
    have after := first.evolves [_] List.mem_cons_self 0 schema (Nat.zero_le _)
    exact ih (quiet.step schema (listed _ List.mem_cons_self) first) after.2.1
      (fun other member => listed other (List.mem_cons_of_mem _ member))

theorem quiet_resolved {selects : Situation → Bool} {middle : Database} (sound : batch.Sound)
    (same : left.situations = Table.updateWhere selects (.resolved timestamp) middle.situations)
    (quiet : ∀ row ∈ middle.situations, selects row = false → last (written row.dedupeKey) log = none →
      batch.resolves row = false) : Quiet log batch left := by
  intro row member none
  rw [same] at member
  rcases resolve_rows member with ⟨old,_,_,_,_,closed⟩ | ⟨was,missed⟩
  · by_contra resolves
    rw [Bool.not_eq_false] at resolves
    rw [(sound row resolves).1] at closed
    cases closed
  · exact quiet row was missed none

theorem Batch.Ran.quiet (ran : other.Ran summary db left) (sound : batch.Sound)
    (listed : ∀ entry ∈ other.entries, entry ∈ log) (quiet : batch = other ∨ Quiet log batch db) :
    Quiet log batch left := by
  cases ran with
  | applied schema situations deliveries upserts resolves kept counted =>
    rcases quiet with rfl | quiet
    · exact quiet_resolved sound resolves (fun row _ missed _ => missed)
    · have start : Quiet log batch _ := fun row member => quiet row (situations ▸ member)
      have middle := start.upserting schema (fun detection member => listed _ (List.mem_map_of_mem member)) upserts
      exact quiet_resolved sound resolves (fun row member _ => middle row member)

theorem Passed.quiet (passed : Passed batches summaries db left) (sound : batch.Sound)
    (listed : ∀ other ∈ batches, ∀ entry ∈ other.entries, entry ∈ log)
    (quiet : batch ∈ batches ∨ Quiet log batch db) : Quiet log batch left := by
  induction passed with
  | done db => exact quiet.resolve_left (by simp)
  | next first others ih =>
    rename_i head rest summary summaries db middle left
    have later : ∀ other ∈ rest, ∀ entry ∈ other.entries, entry ∈ log :=
      fun other member => listed other (List.mem_cons_of_mem _ member)
    refine ih later ?_
    rcases quiet with member | quiet
    · rcases List.mem_cons.mp member with same | after
      · exact Or.inr (first.quiet sound (listed head List.mem_cons_self) (Or.inl same))
      · exact Or.inl after
    · exact Or.inr (first.quiet sound (listed head List.mem_cons_self) (Or.inr quiet))

theorem Passed.reported {whole : List Entry} (passed : Passed batches summaries db left)
    (sound : ∀ batch ∈ batches, batch.Sound) (agrees : ∀ batch ∈ batches, Agrees whole batch)
    (within : ∀ entry ∈ log, entry ∈ whole) (listed : ∀ batch ∈ batches, ∀ entry ∈ batch.entries, entry ∈ whole)
    (reported : Reported log db) : Reported (log ++ batches.flatMap Batch.entries) left := by
  induction passed generalizing log with
  | done db => simpa using reported
  | next first others ih =>
    rename_i head rest summary summaries db middle left
    have inside : ∀ entry ∈ log ++ head.entries, entry ∈ whole := by
      intro entry member
      rcases List.mem_append.mp member with earlier | new
      · exact within entry earlier
      · exact listed head List.mem_cons_self entry new
    have after := first.reported (sound head List.mem_cons_self) reported
      (fun entry member => agrees head List.mem_cons_self entry (inside entry member))
    have rest := ih (fun other member => sound other (List.mem_cons_of_mem _ member))
      (fun other member => agrees other (List.mem_cons_of_mem _ member)) inside
      (fun other member => listed other (List.mem_cons_of_mem _ member)) after
    rwa [List.append_assoc] at rest

/-- What all batches of a pass report. -/
abbrev whole (batches : List Batch) : List Entry := batches.flatMap Batch.entries

/-- Each source has one batch, which resolves as a batch may. -/
structure Regular (batches : List Batch) : Prop where
  sources : (batches.map Batch.source).Nodup
  sound : ∀ batch ∈ batches, batch.Sound

omit [EvidenceJson] in
theorem Regular.agrees (regular : Regular batches) (member : batch ∈ batches) : Agrees (whole batches) batch := by
  intro entry listed same
  obtain ⟨other,present,inside⟩ := List.mem_flatMap.mp listed
  obtain ⟨detection,reports,rfl⟩ := List.mem_map.mp inside
  obtain rfl := List.inj_on_of_nodup_map regular.sources present member same
  exact ⟨detection,reports,rfl⟩

omit [EvidenceJson] in
theorem mem_whole (member : batch ∈ batches) : ∀ entry ∈ batch.entries, entry ∈ whole batches :=
  fun _ listed => List.mem_flatMap.mpr ⟨batch,member,listed⟩

/-- The rows are as a pass with these batches leaves them. -/
structure Fixed (batches : List Batch) (db : Database) : Prop where
  reported : Reported (whole batches) db
  quiet : ∀ batch ∈ batches, Quiet (whole batches) batch db

theorem Fixed.congr (fixed : Fixed batches db) (situations : left.situations = db.situations)
    (deliveries : left.deliveries = db.deliveries) : Fixed batches left where
  reported := fixed.reported.congr (fun _ => rfl) (fun _ member => member) situations deliveries
  quiet batch member row present := fixed.quiet batch member row (situations ▸ present)

/-- Any pass leaves the rows as a pass with its batches leaves them. -/
theorem Passed.fixed (regular : Regular batches) (passed : Passed batches summaries db left) : Fixed batches left where
  reported := passed.reported regular.sound (fun _ member => regular.agrees member) (fun _ member => by simp at member)
    (fun _ member => mem_whole member) (reported_nil db)
  quiet batch member := passed.quiet (regular.sound batch member) (fun _ member => mem_whole member) (Or.inl member)

/-- A row, and the same row when detections of the log may have been written to it again. -/
inductive Retold (log : List Entry) (old : Situation) : Situation → Prop
  | same : Retold log old old
  | refreshed {entry : Entry} (live : Live old) (listed : entry ∈ log) (wrote : written old.dedupeKey entry = some entry)
    (generation : Option Nat) (timestamp : Int) : Retold log old (old.refreshed entry.2 entry.1 generation timestamp)

theorem Retold.again {old row : Situation} (entry : Entry) (retold : Retold log old row) (live : Live row)
    (listed : entry ∈ log) (wrote : written row.dedupeKey entry = some entry) :
    Retold log old (row.refreshed entry.2 entry.1 generation timestamp) := by
  cases retold with
  | same => exact .refreshed live listed wrote generation timestamp
  | refreshed before _ _ _ _ => exact .refreshed before listed wrote generation timestamp

omit [EvidenceJson] in
theorem forall₂_updateWhere {relates : Situation → Situation → Prop} {selects : Situation → Bool}
    {change : Situation → Situation} {base rows : List Situation} (related : List.Forall₂ relates base rows)
    (changed : ∀ old row, row ∈ rows → relates old row → selects row = true → relates old (change row)) :
    List.Forall₂ relates base (Table.updateWhere selects change rows) := by
  induction related with
  | nil => exact .nil
  | cons head tail ih =>
    refine .cons ?_ (ih (fun old row member => changed old row (List.mem_cons_of_mem _ member)))
    dsimp only
    split
    · exact changed _ _ List.mem_cons_self head ‹_›
    · exact head

variable {base : List Situation} {full : List Entry}

/-- A detection that was reported before creates no row and brings none back. -/
theorem step_still (reported : Reported full db) (schema : db.WellFormed) (within : ∀ entry ∈ log, entry ∈ full)
    (listed : (source,detection) ∈ log) (still : List.Forall₂ (Retold log) base db.situations)
    (step : UpsertStep detection timestamp source generation db outcome left) :
    outcome ≠ .created ∧ outcome ≠ .reactivated ∧ List.Forall₂ (Retold log) base left.situations := by
  have fits (room : ¬Rejected detection db) : recordSize detection ≤ maxSituationRecordBytes :=
    Nat.le_of_not_lt (fun large => room (Or.inl large))
  cases step with
  | rejected | announced | closed => exact ⟨by simp,by simp,still⟩
  | created room absent =>
    rcases reported.landed _ (within _ listed) (fits room) with ⟨row,stored,key⟩ | full
    · exact absurd key (absent_iff.mp absent row stored)
    · rw [← countSituations_all] at full
      exact absurd (Or.inr ⟨absent,full⟩) room
  | reactivated row room stored key dormant untold =>
    cases found : last (written row.dedupeKey) full with
    | none =>
      have missed := last_none.mp found _ (within _ listed)
      rw [written_some.mpr ⟨rfl,key.symm,fits room⟩] at missed
      cases missed
    | some entry => exact absurd (reported.dormant row stored entry found dormant) untold
  | refreshed row room stored key live =>
    refine ⟨by simp,by simp,forall₂_updateWhere still (fun old other member retold hit => ?_)⟩
    obtain rfl := schema.same_id member stored (beq_iff_eq.mp hit)
    exact retold.again (source,detection) live listed (written_some.mpr ⟨rfl,key.symm,fits room⟩)

theorem Upserting.still (upserts : Upserting timestamp source generation rest db outcomes left)
    (reported : Reported full db) (schema : db.WellFormed) (within : ∀ entry ∈ log, entry ∈ full)
    (listed : ∀ detection ∈ rest, (source,detection) ∈ log) (still : List.Forall₂ (Retold log) base db.situations) :
    (∀ outcome ∈ outcomes, outcome ≠ .created ∧ outcome ≠ .reactivated) ∧ left.deliveries = db.deliveries ∧
      List.Forall₂ (Retold log) base left.situations := by
  induction upserts generalizing full with
  | done db => exact ⟨fun _ member => by simp at member,rfl,still⟩
  | next first others ih =>
    have after := first.evolves [_] List.mem_cons_self 0 schema (Nat.zero_le _)
    obtain ⟨created,reactivated,moved⟩ := step_still reported schema within (listed _ List.mem_cons_self) still first
    obtain ⟨idle,same,rest⟩ := ih (reported.step schema first) after.2.1
      (fun entry member => List.mem_append_left _ (within entry member))
      (fun other member => listed other (List.mem_cons_of_mem _ member)) moved
    refine ⟨fun outcome member => ?_,same.trans (step_deliveries first),rest⟩
    rcases List.mem_cons.mp member with rfl | later
    · exact ⟨created,reactivated⟩
    · exact idle outcome later

omit [EvidenceJson] in
theorem foldl_idle (idle : ∀ outcome ∈ outcomes, outcome ≠ .created ∧ outcome ≠ .reactivated)
    (summary : DetectionUpsertSummary) :
    (outcomes.foldl DetectionUpsertSummary.add summary).created = summary.created ∧
      (outcomes.foldl DetectionUpsertSummary.add summary).reactivated = summary.reactivated := by
  induction outcomes generalizing summary with
  | nil => exact ⟨rfl,rfl⟩
  | cons outcome rest ih =>
    obtain ⟨created,reactivated⟩ := ih (fun other member => idle other (List.mem_cons_of_mem _ member)) (summary.add outcome)
    rw [List.foldl_cons,created,reactivated]
    have first := idle outcome List.mem_cons_self
    cases outcome with
    | created => exact absurd rfl first.1
    | reactivated => exact absurd rfl first.2
    | _ => exact ⟨rfl,rfl⟩

/-- Nothing was created, brought back or resolved. -/
def Idle (summary : DetectionApplySummary) : Prop :=
  summary.upsert.created = 0 ∧ summary.upsert.reactivated = 0 ∧ summary.resolved = 0

theorem Batch.Ran.still (ran : batch.Ran summary db left) (sound : batch.Sound)
    (reported : Reported full db) (quiet : Quiet log batch db) (within : ∀ entry ∈ log, entry ∈ full)
    (agrees : Agrees (full ++ batch.entries) batch) (listed : ∀ entry ∈ batch.entries, entry ∈ log)
    (still : List.Forall₂ (Retold log) base db.situations) :
    Idle summary ∧ left.deliveries = db.deliveries ∧ List.Forall₂ (Retold log) base left.situations := by
  cases ran with
  | applied schema situations deliveries upserts resolves kept counted =>
    rename_i start middle outcomes timestamp generation resolved
    have begun := reported.congr (fun _ => rfl) (fun _ listed => listed) situations deliveries
    have calm : Quiet log batch start := fun row member => quiet row (situations ▸ member)
    have inside : ∀ detection ∈ batch.detections, (batch.source,detection) ∈ log :=
      fun detection member => listed _ (List.mem_map_of_mem member)
    obtain ⟨idle,same,moved⟩ := upserts.still begun schema within inside (situations ▸ still)
    have after := (upserts.reported schema begun).2
    have later := calm.upserting schema inside upserts
    have none : ∀ row ∈ middle.situations, batch.resolves row = false := by
      intro row member
      cases found : last (written row.dedupeKey) (full ++ batch.entries) with
      | none =>
        refine later row member (last_none.mpr (fun entry listed => ?_))
        exact last_none.mp found entry (List.mem_append_left _ (within entry listed))
      | some entry => exact not_resolved sound agrees after member found
    rw [Table.updateWhere_none _ _ _ none] at resolves
    obtain ⟨created,reactivated⟩ := foldl_idle idle .zero
    exact ⟨⟨created,reactivated,counted none⟩,kept.trans (same.trans deliveries),resolves ▸ moved⟩

theorem Passed.still (passed : Passed batches summaries db left) (sound : ∀ batch ∈ batches, batch.Sound)
    (reported : Reported full db) (quiet : ∀ batch ∈ batches, Quiet log batch db)
    (within : ∀ entry ∈ log, entry ∈ full) (inside : ∀ entry ∈ full, entry ∈ log)
    (agrees : ∀ batch ∈ batches, Agrees log batch) (listed : ∀ batch ∈ batches, ∀ entry ∈ batch.entries, entry ∈ log)
    (still : List.Forall₂ (Retold log) base db.situations) :
    (∀ summary ∈ summaries, Idle summary) ∧ left.deliveries = db.deliveries ∧
      List.Forall₂ (Retold log) base left.situations := by
  induction passed generalizing full with
  | done db => exact ⟨fun _ member => by simp at member,rfl,still⟩
  | next first others ih =>
    rename_i head rest summary summaries db middle left
    have mine := listed head List.mem_cons_self
    have both : ∀ entry ∈ full ++ head.entries, entry ∈ log := by
      intro entry member
      rcases List.mem_append.mp member with earlier | new
      · exact inside entry earlier
      · exact mine entry new
    have knows : Agrees (full ++ head.entries) head :=
      fun entry member => agrees head List.mem_cons_self entry (both entry member)
    obtain ⟨idle,same,moved⟩ := first.still (sound head List.mem_cons_self) reported (quiet head List.mem_cons_self)
      within knows mine still
    have after := first.reported (sound head List.mem_cons_self) reported knows
    obtain ⟨rest,sameLater,last⟩ := ih (fun other member => sound other (List.mem_cons_of_mem _ member)) after
      (fun other member => first.quiet (sound other (List.mem_cons_of_mem _ member)) mine
        (Or.inr (quiet other (List.mem_cons_of_mem _ member))))
      (fun entry member => List.mem_append_left _ (within entry member)) both
      (fun other member => agrees other (List.mem_cons_of_mem _ member))
      (fun other member => listed other (List.mem_cons_of_mem _ member)) moved
    refine ⟨fun summary member => ?_,sameLater.trans same,last⟩
    rcases List.mem_cons.mp member with rfl | later
    · exact idle
    · exact rest summary later

omit [EvidenceJson] in
/-- All of a row but the generation and the time of its last write. -/
def unstamped (row : Situation) : Situation := {row with sourceGeneration := none,updatedAt := 0}

theorem Retold.unstamped {old row : Situation} (retold : Retold log old row) (before : Reported log db)
    (after : Reported log left) (was : old ∈ db.situations) (is_ : row ∈ left.situations) :
    unstamped row = unstamped old := by
  cases retold with
  | same => rfl
  | refreshed live listed wrote generation timestamp =>
    rename_i entry
    cases found : last (written old.dedupeKey) log with
    | none =>
      rw [last_none.mp found entry listed] at wrote
      cases wrote
    | some latest =>
      have one := before.live old was latest found live
      have two := after.live _ is_ latest found live
      have priority : entry.2.priority = old.priority := two.priority.trans one.priority.symm
      have title : entry.2.title = old.title := two.title.trans one.title.symm
      have whyNow : entry.2.whyNow = old.whyNow := two.whyNow.trans one.whyNow.symm
      have evidence : entry.2.evidence = old.evidence := two.evidence.trans one.evidence.symm
      have expiresAt : entry.2.expiresAt = old.expiresAt := two.expiresAt.trans one.expiresAt.symm
      have sourceName : entry.1 = old.sourceName := two.sourceName.trans one.sourceName.symm
      simp [Repetition.unstamped,Situation.refreshed,Situation.describe,priority,title,whyNow,evidence,expiresAt,sourceName]

omit [EvidenceJson] in
theorem map_eq_of_forall₂ {relates : Situation → Situation → Prop} {olds rows : List Situation}
    (related : List.Forall₂ relates olds rows)
    (same : ∀ old ∈ olds, ∀ row ∈ rows, relates old row → unstamped row = unstamped old) :
    rows.map unstamped = olds.map unstamped := by
  induction related with
  | nil => rfl
  | cons head tail ih =>
    rw [List.map_cons,List.map_cons,same _ List.mem_cons_self _ List.mem_cons_self head,
      ih (fun old was row is_ => same old (List.mem_cons_of_mem _ was) row (List.mem_cons_of_mem _ is_))]

/-- A pass with the same batches changes no row, and leaves what it found. -/
theorem Passed.repeats (regular : Regular batches) (fixed : Fixed batches db)
    (passed : Passed batches summaries db left) :
    (∀ summary ∈ summaries, Idle summary) ∧ left.situations.map unstamped = db.situations.map unstamped ∧
      left.deliveries = db.deliveries ∧ Fixed batches left := by
  have start : List.Forall₂ (Retold (whole batches)) db.situations db.situations :=
    List.forall₂_same.mpr (fun _ _ => .same)
  have after := passed.fixed regular
  obtain ⟨idle,deliveries,moved⟩ := passed.still regular.sound fixed.reported fixed.quiet (fun _ member => member)
    (fun _ member => member) (fun _ member => regular.agrees member) (fun _ member => mem_whole member) start
  refine ⟨idle,map_eq_of_forall₂ moved (fun old was row is_ retold => ?_),deliveries,after⟩
  exact retold.unstamped fixed.reported after.reported was is_

end entries
end Proactive.Store.Repetition
