import Mathlib.Algebra.GroupWithZero.Nat
import Proactive.Store.Reader

/-! Detection upsert and source-scoped resolution. -/
namespace Proactive.Store
open Proactive.Library Database

/-- The JSON encoder of stored evidence, provided by the validation library. -/
class EvidenceJson where
  dumpJson : SituationEvidence → List UInt8

namespace EvidenceJson

def jsonChar (char : Char) : List Char :=
  if char = '"' then ['\\','"']
  else if char = '\\' then ['\\','\\']
  else if char.toNat = 8 then ['\\','b']
  else if char.toNat = 9 then ['\\','t']
  else if char.toNat = 10 then ['\\','n']
  else if char.toNat = 12 then ['\\','f']
  else if char.toNat = 13 then ['\\','r']
  else if char.toNat < 32 then
    ['\\','u','0','0',Nat.digitChar (char.toNat / 16),Nat.digitChar (char.toNat % 16)]
  else [char]

def jsonString (text : String) : List Char := ['"'] ++ text.toList.flatMap jsonChar ++ ['"']

def jsonObject (entries : List (String × String)) : List Char :=
  ['\x7b'] ++ [','].intercalate (entries.map (fun entry =>
    jsonString entry.1 ++ [':'] ++ jsonString entry.2)) ++ ['\x7d']

def jsonArray (items : List String) : List Char :=
  ['['] ++ [','].intercalate (items.map jsonString) ++ [']']

/-- Compact output with the fields in declaration order. -/
@[reducible] def compact : EvidenceJson where
  dumpJson evidence :=
    (['\x7b'] ++ [','].intercalate
      [jsonString "facts" ++ [':'] ++ jsonObject evidence.facts,
        jsonString "quoted_external" ++ [':'] ++ jsonObject evidence.quotedExternal,
        jsonString "quoted_memory" ++ [':'] ++ jsonObject evidence.quotedMemory,
        jsonString "contradictory_dates" ++ [':'] ++ jsonArray evidence.contradictoryDates] ++
      ['\x7d']).flatMap String.utf8EncodeChar

end EvidenceJson

def SituationType.text : SituationType → String
  | .replyDeadline => "reply_deadline"
  | .calendarConflict => "calendar_conflict"
  | .personalOccasion => "personal_occasion"

def SituationPriority.text : SituationPriority → String
  | .critical => "critical"
  | .high => "high"
  | .routine => "routine"

def maxSituationRows : Nat := 10000

def maxSituationRecordBytes : Nat := 16 * 1024

inductive UpsertOutcome | created | reactivated | refreshed | skipped | capacitySkipped
deriving DecidableEq, Repr

section upsert
variable [EvidenceJson]

def recordSize (detection : Detection) : Nat :=
  (EvidenceJson.dumpJson detection.evidence).length +
    ([detection.situationType.text,detection.dedupeKey,detection.priority.text,
      detection.title,detection.whyNow].map String.utf8ByteSize).sum

def updateSituation (id : Nat) (change : Situation → Situation) : Sql Nat :=
  updateSituations (fun row => row.id == id) change

def insertSituation (detection : Detection) (timestamp : Int) (source : SituationSource)
    (generation : Option Nat) : Sql Unit :=
  Statement.update (fun db => {db with
    situations := db.situations ++ [.inserted db.nextId detection source generation timestamp]})

def upsertDetection (detection : Detection) (timestamp : Int) (source : SituationSource)
    (generation : Option Nat) : Sql UpsertOutcome := do
  let existing ← Statement.select (fun db => db.situationByDedupeKey detection.dedupeKey)
  let stored ← Statement.select (countSituations none)
  if maxSituationRecordBytes < recordSize detection ∨ existing = none ∧ maxSituationRows ≤ stored then
    return .capacitySkipped
  match existing with
  | none =>
    insertSituation detection timestamp source generation
    return .created
  | some row =>
    let delivered ← Statement.select (hasDelivery row.id)
    match row.state with
    | .resolved | .expired =>
      if row.situationType = .personalOccasion ∧ delivered then
        return .skipped
      let _ ← updateSituation row.id (.reactivated detection source generation timestamp)
      return .reactivated
    | .pending | .delivered | .snoozed =>
      let _ ← updateSituation row.id (.refreshed detection source generation timestamp)
      return .refreshed
    | .acknowledged | .muted => return .skipped

end upsert

def DetectionUpsertSummary.zero : DetectionUpsertSummary := ⟨0,0,0,0,0⟩

def DetectionUpsertSummary.add (summary : DetectionUpsertSummary) :
    UpsertOutcome → DetectionUpsertSummary
  | .created => {summary with created := summary.created + 1}
  | .reactivated => {summary with reactivated := summary.reactivated + 1}
  | .refreshed => {summary with refreshed := summary.refreshed + 1}
  | .skipped => {summary with skipped := summary.skipped + 1}
  | .capacitySkipped => {summary with
      skipped := summary.skipped + 1
      capacitySkipped := summary.capacitySkipped + 1}

def upsertEach [EvidenceJson] (timestamp : Int) (expected : Option SituationType)
    (source : SituationSource) (generation : Option Nat) :
    DetectionUpsertSummary → List Detection → Sql DetectionUpsertSummary
  | summary,[] => return summary
  | summary,detection::rest =>
    match expected.filter (fun wanted => wanted != detection.situationType) with
    | some wanted => Statement.raise (.detectionSourceMismatch wanted detection.situationType)
    | none => do
      let outcome ← upsertDetection detection timestamp source generation
      upsertEach timestamp expected source generation (summary.add outcome) rest

def upsertBatch [EvidenceJson] (detections : List Detection) (timestamp : Int)
    (expected : Option SituationType) (source : SituationSource) (generation : Option Nat) :
    Sql DetectionUpsertSummary :=
  upsertEach timestamp expected source generation .zero detections

/-- The loop shared by `resolve` and `resolve_by_source_ids`: rows not passed
over are resolved one by one. -/
def resolveRows (passes : Situation → Bool) (timestamp : Int) : Nat → List Situation → Sql Nat
  | resolved,[] => return resolved
  | resolved,row::rest => do
    if passes row then
      resolveRows passes timestamp resolved rest
    else
      let count ← updateSituations (fun stored => stored.id == row.id && stored.active)
        (.resolved timestamp)
      resolveRows passes timestamp (resolved + count) rest

def resolve (situationType : SituationType) (presentKeys : List String) (timestamp : Int)
    (sourceName : Option SituationSource) : Sql Nat := do
  let rows ← Statement.select (activeByType situationType sourceName)
  resolveRows (fun row => presentKeys.contains row.dedupeKey) timestamp 0 rows

/-- Which rows `resolve_by_source_ids` passes over. -/
def passesSourceIds (presentKeys sourceIds : List String) (include_ : Bool) (row : Situation) : Bool :=
  presentKeys.contains row.dedupeKey ||
    match row.evidence.fact "thread_id" with
    | none => true
    | some sourceId => sourceIds.contains sourceId != include_

def resolveBySourceIds (situationType : SituationType) (presentKeys sourceIds : List String)
    (timestamp : Int) (include_ : Bool) (sourceName : Option SituationSource) : Sql Nat := do
  let rows ← Statement.select (activeByType situationType sourceName)
  resolveRows (passesSourceIds presentKeys sourceIds include_) timestamp 0 rows

section steps
variable [EvidenceJson]

/-- The record is too large, or it needs a new row and the table is full. -/
def Rejected (detection : Detection) (db : Database) : Prop :=
  maxSituationRecordBytes < recordSize detection ∨
    db.situationByDedupeKey detection.dedupeKey = none ∧ maxSituationRows ≤ countSituations none db

instance (detection : Detection) (db : Database) : Decidable (Rejected detection db) :=
  inferInstanceAs (Decidable (_ ∨ _))

/-- The outcomes of one detection, by the state of the row that has its key. -/
inductive UpsertStep (detection : Detection) (timestamp : Int) (source : SituationSource)
    (generation : Option Nat) (db : Database) : UpsertOutcome → Database → Prop
  | rejected (limit : Rejected detection db) :
    UpsertStep detection timestamp source generation db .capacitySkipped db
  | created (room : ¬Rejected detection db) (absent : db.situationByDedupeKey detection.dedupeKey = none) :
    UpsertStep detection timestamp source generation db .created {db with
      situations := db.situations ++ [.inserted db.nextId detection source generation timestamp]}
  | announced (row : Situation) (room : ¬Rejected detection db) (stored : row ∈ db.situations)
    (key : row.dedupeKey = detection.dedupeKey) (dormant : row.state = .resolved ∨ row.state = .expired)
    (told : row.situationType = .personalOccasion ∧ db.hasDelivery row.id) :
    UpsertStep detection timestamp source generation db .skipped db
  | reactivated (row : Situation) (room : ¬Rejected detection db) (stored : row ∈ db.situations)
    (key : row.dedupeKey = detection.dedupeKey) (dormant : row.state = .resolved ∨ row.state = .expired)
    (untold : ¬(row.situationType = .personalOccasion ∧ db.hasDelivery row.id)) :
    UpsertStep detection timestamp source generation db .reactivated {db with
      situations := Table.updateWhere (fun stored => stored.id == row.id)
        (.reactivated detection source generation timestamp) db.situations}
  | refreshed (row : Situation) (room : ¬Rejected detection db) (stored : row ∈ db.situations)
    (key : row.dedupeKey = detection.dedupeKey)
    (live : row.state = .pending ∨ row.state = .delivered ∨ row.state = .snoozed) :
    UpsertStep detection timestamp source generation db .refreshed {db with
      situations := Table.updateWhere (fun stored => stored.id == row.id)
        (.refreshed detection source generation timestamp) db.situations}
  | closed (row : Situation) (room : ¬Rejected detection db) (stored : row ∈ db.situations)
    (key : row.dedupeKey = detection.dedupeKey) (done : row.state = .acknowledged ∨ row.state = .muted) :
    UpsertStep detection timestamp source generation db .skipped db

/-- `_upsert_detection` never raises. -/
theorem upsertDetection_steps (detection : Detection) (timestamp : Int) (source : SituationSource)
    (generation : Option Nat) (db : Database) :
    ∃ outcome left, (upsertDetection detection timestamp source generation).run db = (.ok outcome,left) ∧
      UpsertStep detection timestamp source generation db outcome left := by
  unfold upsertDetection
  simp only [Statement.run_select_bind]
  by_cases full : maxSituationRecordBytes < recordSize detection ∨
      db.situationByDedupeKey detection.dedupeKey = none ∧ maxSituationRows ≤ countSituations none db
  · exact ⟨.capacitySkipped,db,by simp [full],.rejected full⟩
  · rw [if_neg full]
    cases existing : db.situationByDedupeKey detection.dedupeKey with
    | none => exact ⟨.created,_,rfl,.created full existing⟩
    | some row =>
      have present : row ∈ db.situations := List.mem_of_find?_eq_some existing
      have named : row.dedupeKey = detection.dedupeKey := by simpa using List.find?_some existing
      simp only [Statement.run_select_bind]
      cases state : row.state with
      | resolved | expired =>
        by_cases told : row.situationType = .personalOccasion ∧ db.hasDelivery row.id
        · exact ⟨.skipped,db,by simp [told],.announced row full present named (by simp [state]) told⟩
        · exact ⟨.reactivated,_,by rw [if_neg told]; rfl,
            .reactivated row full present named (by simp [state]) told⟩
      | pending | delivered | snoozed =>
        exact ⟨.refreshed,_,rfl,.refreshed row full present named (by simp [state])⟩
      | acknowledged | muted => exact ⟨.skipped,db,rfl,.closed row full present named (by simp [state])⟩

end steps

/-- What a batch of detections from one source may change of a stored row. -/
structure Upserted (detections : List Detection) (source : SituationSource)
    (old new : Situation) : Prop where
  id : new.id = old.id
  key : new.dedupeKey = old.dedupeKey
  situationType : new.situationType = old.situationType
  deliveredAt : new.deliveredAt = old.deliveredAt
  lifecycle : (new.state = old.state ∧ new.snoozedUntil = old.snoozedUntil) ∨
    (old.state = .resolved ∨ old.state = .expired) ∧ new.state = .pending ∧ new.snoozedUntil = none
  described : new = old ∨ ∃ detection ∈ detections, detection.dedupeKey = old.dedupeKey ∧
    new.priority = detection.priority ∧ new.sourceName = source

/-- What a batch of detections from one source may add, from id `bound` on. -/
structure AddedBy (detections : List Detection) (source : SituationSource) (bound : Nat)
    (row : Situation) : Prop where
  id : bound ≤ row.id
  state : row.state = .pending
  deliveredAt : row.deliveredAt = none
  snoozedUntil : row.snoozedUntil = none
  sourceName : row.sourceName = source
  described : ∃ detection ∈ detections, detection.dedupeKey = row.dedupeKey ∧
    detection.situationType = row.situationType
  priority : ∃ detection ∈ detections, detection.dedupeKey = row.dedupeKey ∧
    detection.priority = row.priority

theorem Upserted.refl (detections : List Detection) (source : SituationSource) (row : Situation) :
    Upserted detections source row row :=
  ⟨rfl,rfl,rfl,rfl,Or.inl ⟨rfl,rfl⟩,Or.inl rfl⟩

theorem Upserted.trans {detections : List Detection} {source : SituationSource}
    {first second third : Situation} (one : Upserted detections source first second)
    (two : Upserted detections source second third) : Upserted detections source first third where
  id := two.id.trans one.id
  key := two.key.trans one.key
  situationType := two.situationType.trans one.situationType
  deliveredAt := two.deliveredAt.trans one.deliveredAt
  lifecycle := by
    rcases one.lifecycle with ⟨s,z⟩ | ⟨from_,s,z⟩ <;> rcases two.lifecycle with ⟨s',z'⟩ | ⟨from',s',z'⟩
    · exact Or.inl ⟨s'.trans s,z'.trans z⟩
    · exact Or.inr ⟨by rwa [s] at from',s',z'⟩
    · exact Or.inr ⟨from_,s'.trans s,z'.trans z⟩
    · exact Or.inr ⟨from_,s',z'⟩
  described := by
    rcases two.described with rfl | ⟨detection,member,named,priority,sourced⟩
    · exact one.described
    · exact Or.inr ⟨detection,member,named.trans one.key,priority,sourced⟩

theorem AddedBy.upserted {detections : List Detection} {source : SituationSource} {bound : Nat}
    {row next : Situation} (added : AddedBy detections source bound row)
    (upserted : Upserted detections source row next) : AddedBy detections source bound next where
  id := upserted.id ▸ added.id
  state := by
    rcases upserted.lifecycle with ⟨same,_⟩ | ⟨_,same,_⟩
    · exact same.trans added.state
    · exact same
  deliveredAt := upserted.deliveredAt.trans added.deliveredAt
  snoozedUntil := by
    rcases upserted.lifecycle with ⟨_,same⟩ | ⟨_,_,same⟩
    · exact same.trans added.snoozedUntil
    · exact same
  sourceName := by
    rcases upserted.described with rfl | ⟨_,_,_,_,sourced⟩
    · exact added.sourceName
    · exact sourced
  described := by rw [upserted.key,upserted.situationType]; exact added.described
  priority := by
    rcases upserted.described with rfl | ⟨detection,member,named,priority,_⟩
    · exact added.priority
    · exact ⟨detection,member,named.trans upserted.key.symm,priority.symm⟩

section batches
variable [EvidenceJson]

theorem UpsertStep.evolves {detection : Detection} {timestamp : Int} {source : SituationSource}
    {generation : Option Nat} {db left : Database} {outcome : UpsertOutcome}
    (effect : UpsertStep detection timestamp source generation db outcome left)
    (detections : List Detection) (listed : detection ∈ detections) (bound : Nat) (schema : db.WellFormed)
    (below : bound ≤ db.nextId) :
    SituationsOnly db left ∧ left.WellFormed ∧
      Table.Evolves (Upserted detections source) (AddedBy detections source bound)
        db.situations left.situations := by
  have named (row stored : Situation) (present : row ∈ db.situations) (other : stored ∈ db.situations)
      (hit : (stored.id == row.id) = true) : stored = row :=
    schema.same_id other present (by simpa using hit)
  cases effect with
  | rejected | announced | closed => exact ⟨rfl,schema,.refl (Upserted.refl _ _) _⟩
  | created room absent =>
    have fresh : ∀ stored ∈ db.situations, stored.dedupeKey ≠ detection.dedupeKey := by
      intro stored member
      simpa using List.find?_eq_none.mp absent stored member
    refine ⟨rfl,schema.insert _ rfl fresh,.append (Upserted.refl _ _) _ _ ?_⟩
    exact ⟨below,rfl,rfl,rfl,rfl,⟨detection,listed,rfl,rfl⟩,⟨detection,listed,rfl,rfl⟩⟩
  | reactivated row room present key dormant =>
    refine ⟨rfl,schema.change _ _ (fun _ => rfl) (fun _ => rfl),.updateWhere _ _ _ (Upserted.refl _ _) ?_⟩
    intro stored other hit
    rw [named row stored present other hit]
    exact ⟨rfl,rfl,rfl,rfl,Or.inr ⟨dormant,rfl,rfl⟩,Or.inr ⟨detection,listed,key.symm,rfl,rfl⟩⟩
  | refreshed row room present key live =>
    refine ⟨rfl,schema.change _ _ (fun _ => rfl) (fun _ => rfl),.updateWhere _ _ _ (Upserted.refl _ _) ?_⟩
    intro stored other hit
    rw [named row stored present other hit]
    exact ⟨rfl,rfl,rfl,rfl,Or.inl ⟨rfl,rfl⟩,Or.inr ⟨detection,listed,key.symm,rfl,rfl⟩⟩

theorem upsertDetection_evolves (detection : Detection) (detections : List Detection)
    (listed : detection ∈ detections) (timestamp : Int) (source : SituationSource)
    (generation : Option Nat) (bound : Nat) (db : Database) (schema : db.WellFormed)
    (below : bound ≤ db.nextId) :
    ∃ outcome left, (upsertDetection detection timestamp source generation).run db = (.ok outcome,left) ∧
      SituationsOnly db left ∧ left.WellFormed ∧
      Table.Evolves (Upserted detections source) (AddedBy detections source bound)
        db.situations left.situations := by
  obtain ⟨outcome,left,ran,effect⟩ := upsertDetection_steps detection timestamp source generation db
  exact ⟨outcome,left,ran,effect.evolves detections listed bound schema below⟩

theorem upsertEach_success (timestamp : Int) (expected : Option SituationType)
    (source : SituationSource) (generation : Option Nat) (detections : List Detection) (bound : Nat)
    (rest : List Detection) (included : ∀ detection ∈ rest, detection ∈ detections)
    (summary result : DetectionUpsertSummary) (db left : Database) (schema : db.WellFormed)
    (below : bound ≤ db.nextId)
    (ok : (upsertEach timestamp expected source generation summary rest).run db = (.ok result,left)) :
    SituationsOnly db left ∧ left.WellFormed ∧
      Table.Evolves (Upserted detections source) (AddedBy detections source bound)
        db.situations left.situations ∧
      ∀ detection ∈ rest, ∀ wanted, expected = some wanted → detection.situationType = wanted := by
  induction rest generalizing summary db with
  | nil =>
    obtain ⟨_,rfl⟩ := Statement.pure_success _ _ _ _ ok
    exact ⟨rfl,schema,.refl (Upserted.refl _ _) _,by simp⟩
  | cons detection rest ih =>
    unfold upsertEach at ok
    split at ok
    · simp at ok
    · rename_i matching
      obtain ⟨outcome,middle,ran,only,kept,evolves⟩ := upsertDetection_evolves detection detections
        (included detection (by simp)) timestamp source generation bound db schema below
      rw [Statement.run_bind_ok _ _ _ _ _ ran] at ok
      have mono : db.nextId ≤ middle.nextId := nextId_mono _ _ (fun row member => by
        obtain ⟨next,present,changed⟩ := evolves.forward row member
        exact ⟨next,present,changed.id⟩)
      obtain ⟨only',kept',evolves',types⟩ := ih (fun d member => included d (by simp [member]))
        _ _ kept (below.trans mono) ok
      refine ⟨only.trans only',kept',evolves.comp evolves' (fun _ _ _ one two => one.trans two)
        (fun _ _ added change => added.upserted change),?_⟩
      intro d member wanted same
      rcases List.mem_cons.mp member with rfl | later
      · subst same
        by_contra different
        simp [Option.filter,Ne.symm different] at matching
      · exact types d later wanted same

theorem upsertBatch_success (timestamp : Int) (expected : Option SituationType)
    (source : SituationSource) (generation : Option Nat) (detections : List Detection)
    (result : DetectionUpsertSummary) (db left : Database) (schema : db.WellFormed)
    (ok : (upsertBatch detections timestamp expected source generation).run db = (.ok result,left)) :
    SituationsOnly db left ∧ left.WellFormed ∧
      Table.Evolves (Upserted detections source) (AddedBy detections source db.nextId)
        db.situations left.situations ∧
      ∀ detection ∈ detections, ∀ wanted, expected = some wanted → detection.situationType = wanted :=
  upsertEach_success timestamp expected source generation detections db.nextId detections
    (fun _ member => member) _ result db left schema le_rfl ok

end batches

theorem resolveRows_run (passes : Situation → Bool) (timestamp : Int) (rows : List Situation)
    (resolved : Nat) (db : Database) :
    ∃ count, (resolveRows passes timestamp resolved rows).run db = (.ok count,{db with
      situations := Table.updateWhere (fun stored => stored.active &&
        rows.any (fun row => stored.id == row.id && !passes row)) (.resolved timestamp) db.situations}) := by
  induction rows generalizing resolved db with
  | nil =>
    refine ⟨resolved,?_⟩
    unfold resolveRows
    rw [Statement.run_pure,Table.updateWhere_none _ _ _ (by simp)]
  | cons row rest ih =>
    unfold resolveRows
    by_cases passed : passes row
    · obtain ⟨count,ran⟩ := ih resolved db
      exact ⟨count,by simpa [passed] using ran⟩
    · rw [if_neg passed]
      obtain ⟨count,ran⟩ := ih (resolved + db.situations.countP
        (fun stored => stored.id == row.id && stored.active)) {db with
          situations := Table.updateWhere (fun stored => stored.id == row.id && stored.active)
            (.resolved timestamp) db.situations}
      refine ⟨count,?_⟩
      rw [Statement.run_bind_ok _ _ _ _ _ (run_updateSituations _ _ _),ran]
      dsimp only
      rw [Table.updateWhere_merge _ _ _ _ (fun stored => by simp [Situation.resolved,Situation.active])]
      congr 3
      funext stored
      cases stored.active <;> simp [passed]

/-- Rows of one type and source scope that are active and not passed over. -/
def resolves (situationType : SituationType) (sourceName : Option SituationSource)
    (passes : Situation → Bool) (row : Situation) : Bool :=
  row.situationType == situationType && sourceName.all (fun source => row.sourceName == source) &&
    row.active && !passes row

theorem resolveActive_run (situationType : SituationType) (sourceName : Option SituationSource)
    (passes : Situation → Bool) (timestamp : Int) (db : Database) (schema : db.WellFormed) :
    ∃ count, (resolveRows passes timestamp 0 (activeByType situationType sourceName db)).run db =
      (.ok count,{db with
        situations := Table.updateWhere (resolves situationType sourceName passes)
          (.resolved timestamp) db.situations}) := by
  obtain ⟨count,ran⟩ := resolveRows_run passes timestamp (activeByType situationType sourceName db) 0 db
  refine ⟨count,?_⟩
  rw [ran,Table.updateWhere_congr _ (resolves situationType sourceName passes) _ _ ?_]
  intro stored member
  rw [Bool.eq_iff_iff]
  simp only [resolves,activeByType,Bool.and_eq_true,List.any_eq_true,List.mem_filter,beq_iff_eq]
  constructor
  · rintro ⟨_,row,⟨present,scope⟩,same,kept⟩
    rw [schema.same_id member present same]
    exact ⟨scope,kept⟩
  · rintro ⟨scope,kept⟩
    exact ⟨scope.2,stored,⟨member,scope⟩,rfl,kept⟩

end Proactive.Store
