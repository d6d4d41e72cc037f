import Proactive.Store.Serialization

/-! Rows that are pending or delivered past their expiry: what clears them, and which detections of a
batch bring them back. -/
namespace Proactive.Store
open Proactive.Library Database

def Detection.hasLapsed (now : Int) (detection : Detection) : Bool := detection.expiresAt.any (fun at_ => at_ ≤ now)

/-- Pending or delivered, with an expiry at or before the instant. -/
def Situation.stale (now : Int) (row : Situation) : Bool := row.active && row.hasLapsed now

def Unlapsed (now : Int) (db : Database) : Prop := ∀ row ∈ db.situations, row.stale now = false

/-- No snoozed row is due. -/
def Awake (now : Int) (db : Database) : Prop := ∀ row ∈ db.situations, row.due now = false

/-- A detection does not make the row active: the user closed it, it sleeps on, or it is an occasion
that was delivered and has ended. -/
def Situation.Held (now : Int) (db : Database) (row : Situation) : Prop :=
  row.state = .acknowledged ∨ row.state = .muted ∨ (row.state = .snoozed ∧ row.due now = false) ∨
    (row.situationType = .personalOccasion ∧ db.hasDelivery row.id = true ∧
      (row.state = .resolved ∨ row.state = .expired ∨ row.hasLapsed now = true))

instance (now : Int) (db : Database) : Decidable (Unlapsed now db) :=
  inferInstanceAs (Decidable (∀ row ∈ db.situations, _))

instance (now : Int) (db : Database) (row : Situation) : Decidable (row.Held now db) :=
  inferInstanceAs (Decidable (_ ∨ _))

section rows
variable {now : Int} {row : Situation} {db : Database}

theorem stale_iff : row.stale now = true ↔ row.active = true ∧ row.hasLapsed now = true := by
  unfold Situation.stale
  rw [Bool.and_eq_true]

private theorem held_open (unheld : row.state ≠ .acknowledged ∧ row.state ≠ .muted ∧
    ¬(row.state = .snoozed ∧ row.due now = false) ∧ row.state ≠ .resolved ∧ row.state ≠ .expired) :
    row.Held now db ↔ row.situationType = .personalOccasion ∧ db.hasDelivery row.id = true ∧ row.hasLapsed now = true := by
  obtain ⟨acknowledged,muted,asleep,resolved,expired⟩ := unheld
  unfold Situation.Held
  rw [or_iff_right acknowledged,or_iff_right muted,or_iff_right asleep,or_iff_right resolved,or_iff_right expired]

theorem held_active (active : row.active = true) : row.Held now db ↔
    row.situationType = .personalOccasion ∧ db.hasDelivery row.id = true ∧ row.hasLapsed now = true := by
  apply held_open
  rcases active_cases active with state | state
  · simp [state]
  · simp [state]

theorem held_due (due : row.due now = true) : row.Held now db ↔
    row.situationType = .personalOccasion ∧ db.hasDelivery row.id = true ∧ row.hasLapsed now = true := by
  have state : row.state = .snoozed := by
    rw [Situation.due,Bool.and_eq_true,beq_iff_eq] at due
    exact due.1
  apply held_open
  simp [state,due]

theorem held_dormant (dormant : row.state = .resolved ∨ row.state = .expired) :
    row.Held now db ↔ row.situationType = .personalOccasion ∧ db.hasDelivery row.id = true := by
  constructor
  · intro held
    rcases held with closed | closed | ⟨asleep,_⟩ | ⟨occasion,told,_⟩
    · rw [closed] at dormant
      rcases dormant with other | other <;> cases other
    · rw [closed] at dormant
      rcases dormant with other | other <;> cases other
    · rw [asleep] at dormant
      rcases dormant with other | other <;> cases other
    · exact ⟨occasion,told⟩
  · rintro ⟨occasion,told⟩
    rcases dormant with ended | ended
    · exact Or.inr (Or.inr (Or.inr ⟨occasion,told,Or.inl ended⟩))
    · exact Or.inr (Or.inr (Or.inr ⟨occasion,told,Or.inr (Or.inl ended)⟩))

theorem expireLapsed_unlapsed (now : Int) (db : Database) : Unlapsed now ((expireLapsed now).run db).2 := by
  intro row member
  rw [expireLapsed,run_updateSituations] at member
  rcases (Table.mem_updateWhere _ _ _ _).mp member with ⟨old,_,_,rfl⟩ | ⟨_,fresh⟩
  · rfl
  · exact fresh

theorem wakeSnoozed_awake (now : Int) (db : Database) : Awake now ((wakeSnoozed now).run db).2 := by
  intro row member
  rw [wakeSnoozed,run_updateSituations] at member
  rcases (Table.mem_updateWhere _ _ _ _).mp member with ⟨old,_,_,rfl⟩ | ⟨_,sleeping⟩
  · rfl
  · exact sleeping

theorem expireLapsed_awake (awake : Awake now db) : Awake now ((expireLapsed now).run db).2 := by
  intro row member
  rw [expireLapsed,run_updateSituations] at member
  rcases (Table.mem_updateWhere _ _ _ _).mp member with ⟨old,_,_,rfl⟩ | ⟨kept,_⟩
  · rfl
  · exact awake row kept

theorem updateWhere_unlapsed {selects : Situation → Bool} {timestamp : Int} (unlapsed : Unlapsed now db) :
    Unlapsed now {db with situations := Table.updateWhere selects (.resolved timestamp) db.situations} := by
  intro row member
  rcases (Table.mem_updateWhere _ _ _ _).mp member with ⟨old,_,_,rfl⟩ | ⟨kept,_⟩
  · rfl
  · exact unlapsed row kept

end rows

section batches
variable [EvidenceJson] (timestamp : Int) (source : SituationSource) (generation : Option Nat)

/-- The detections of a batch, one after the other. -/
inductive Upserts : List Detection → Database → Database → Prop
  | done (db : Database) : Upserts [] db db
  | next {detection : Detection} {rest : List Detection} {outcome : UpsertOutcome} {db middle left : Database}
    (first : UpsertStep detection timestamp source generation db outcome middle)
    (others : Upserts rest middle left) : Upserts (detection::rest) db left

variable {timestamp source generation} {detection : Detection} {outcome : UpsertOutcome} {front back rest : List Detection}
  {summary : DetectionUpsertSummary} {expected : Option SituationType} {now : Int} {db middle left : Database} {row : Situation}

theorem upsertEach_upserts {result : DetectionUpsertSummary}
    (ran : (upsertEach timestamp expected source generation summary rest).run db = (.ok result,left)) :
    Upserts timestamp source generation rest db left := by
  induction rest generalizing summary db with
  | nil =>
    obtain ⟨_,rfl⟩ := Statement.pure_success _ _ _ _ ran
    exact .done db
  | cons detection rest ih =>
    unfold upsertEach at ran
    split at ran
    · rw [Statement.run_raise] at ran
      cases ran
    · obtain ⟨outcome,middle,stepped,first⟩ := upsertDetection_steps detection timestamp source generation db
      rw [Statement.run_bind_ok _ _ _ _ _ stepped] at ran
      exact .next first (ih ran)

/-- A batch of the expected type never raises. -/
theorem upsertEach_runs {wanted : SituationType} (typed : ∀ detection ∈ rest, detection.situationType = wanted)
    (summary : DetectionUpsertSummary) (db : Database) : ∃ result left,
    (upsertEach timestamp (some wanted) source generation summary rest).run db = (.ok result,left) := by
  induction rest generalizing summary db with
  | nil => exact ⟨summary,db,rfl⟩
  | cons detection rest ih =>
    obtain ⟨outcome,middle,stepped,_⟩ := upsertDetection_steps detection timestamp source generation db
    obtain ⟨result,left,ran⟩ := ih (fun other member => typed other (List.mem_cons_of_mem detection member))
      (summary.add outcome) middle
    refine ⟨result,left,?_⟩
    have matching : (some wanted).filter (fun wanted => wanted != detection.situationType) = none := by
      rw [typed detection List.mem_cons_self,Option.filter_some,bne_self_eq_false]
      rfl
    unfold upsertEach
    rw [matching]
    dsimp only
    rw [Statement.run_bind_ok _ _ _ _ _ stepped]
    exact ran

theorem Upserts.split (upserts : Upserts timestamp source generation (front ++ back) db left) :
    ∃ middle, Upserts timestamp source generation front db middle ∧
      Upserts timestamp source generation back middle left := by
  induction front generalizing db with
  | nil => exact ⟨db,.done db,upserts⟩
  | cons detection rest ih =>
    cases upserts with
    | next first others =>
      obtain ⟨middle,one,two⟩ := ih others
      exact ⟨middle,.next first one,two⟩

/-- What each step keeps, the batch keeps. -/
theorem Upserts.keeps (holds : Database → Prop) (upserts : Upserts timestamp source generation rest db left)
    (schema : db.WellFormed) (kept : holds db)
    (each : ∀ detection ∈ rest, ∀ outcome db left, db.WellFormed → holds db →
      UpsertStep detection timestamp source generation db outcome left → holds left) :
    left.WellFormed ∧ holds left := by
  induction upserts with
  | done db => exact ⟨schema,kept⟩
  | next first others ih =>
    have after := first.evolves [_] List.mem_cons_self 0 schema (Nat.zero_le _)
    refine ih after.2.1 (each _ List.mem_cons_self _ _ _ schema kept first) ?_
    exact fun other member => each other (List.mem_cons_of_mem _ member)

/-- Rows of other keys are those from before the step. -/
theorem UpsertStep.other_rows (step : UpsertStep detection timestamp source generation db outcome left)
    (schema : db.WellFormed) (apart : detection.dedupeKey ≠ row.dedupeKey) :
    row ∈ left.situations ↔ row ∈ db.situations := by
  have changed {old : Situation} {change : Situation → Situation} (stored : old ∈ db.situations)
      (key : old.dedupeKey = detection.dedupeKey) (keys : ∀ row : Situation, (change row).dedupeKey = row.dedupeKey) :
      row ∈ Table.updateWhere (fun stored => stored.id == old.id) change db.situations ↔ row ∈ db.situations := by
    rw [Table.mem_updateWhere]
    constructor
    · rintro (⟨other,member,hit,rfl⟩ | ⟨member,_⟩)
      · obtain rfl := schema.same_id member stored (beq_iff_eq.mp hit)
        exact absurd (key.symm.trans (keys other).symm) apart
      · exact member
    · intro member
      refine Or.inr ⟨member,beq_eq_false_iff_ne.mpr (fun same => ?_)⟩
      obtain rfl := schema.same_id member stored same
      exact apart key.symm
  cases step with
  | rejected | announced | closed => exact Iff.rfl
  | created room absent =>
    rw [List.mem_append,List.mem_singleton,or_iff_left]
    rintro rfl
    exact apart rfl
  | reactivated old room stored key => exact changed stored key (fun _ => rfl)
  | refreshed old room stored key => exact changed stored key (fun _ => rfl)

/-- Small enough, and without a row of its key. -/
def NeedsRow (db : Database) (detection : Detection) : Bool :=
  decide (recordSize detection ≤ maxSituationRecordBytes) &&
    db.situations.all (fun row => row.dedupeKey != detection.dedupeKey)

/-- The detection is small enough, and it has a row or finds a free one after the detections before it. -/
def HasRoom (front : List Detection) (detection : Detection) (db : Database) : Prop :=
  recordSize detection ≤ maxSituationRecordBytes ∧
    ((∃ row ∈ db.situations, row.dedupeKey = detection.dedupeKey) ∨
      db.situations.length + (front.filter (NeedsRow db)).length < maxSituationRows)

/-- The store puts the detection, the next after others, on an active row. -/
def Lands (now : Int) (front : List Detection) (detection : Detection) (db : Database) : Prop :=
  HasRoom front detection db ∧ ∀ row ∈ db.situations, row.dedupeKey = detection.dedupeKey → ¬row.Held now db

instance (front : List Detection) (detection : Detection) (db : Database) : Decidable (HasRoom front detection db) :=
  inferInstanceAs (Decidable (_ ∧ _))

instance (now : Int) (front : List Detection) (detection : Detection) (db : Database) :
    Decidable (Lands now front detection db) :=
  inferInstanceAs (Decidable (_ ∧ ∀ row ∈ db.situations, _ → _))

/-- What a part of a batch has changed: rows of its own keys, and how many rows there are. -/
structure Progress (front : List Detection) (db left : Database) : Prop where
  schema : left.WellFormed
  deliveries : left.deliveries = db.deliveries
  others : ∀ row : Situation, row.dedupeKey ∉ front.map Detection.dedupeKey →
    (row ∈ left.situations ↔ row ∈ db.situations)
  counted : left.situations.length =
    db.situations.length + min (front.filter (NeedsRow db)).length (maxSituationRows - db.situations.length)

theorem needsRow_iff : NeedsRow db detection = true ↔ recordSize detection ≤ maxSituationRecordBytes ∧
    ∀ row ∈ db.situations, row.dedupeKey ≠ detection.dedupeKey := by
  unfold NeedsRow
  rw [Bool.and_eq_true,decide_eq_true_eq,List.all_eq_true]
  simp only [bne_iff_ne]

omit [EvidenceJson] in
theorem countSituations_all : countSituations none db = db.situations.length := by
  unfold countSituations
  exact List.countP_eq_length.mpr (fun _ _ => rfl)

omit [EvidenceJson] in
theorem absent_iff : db.situationByDedupeKey detection.dedupeKey = none ↔
    ∀ row ∈ db.situations, row.dedupeKey ≠ detection.dedupeKey := by
  unfold situationByDedupeKey
  rw [List.find?_eq_none]
  simp only [beq_iff_eq]

omit [EvidenceJson] in
private theorem fresh_of_nodup (distinct : ((front ++ detection::rest).map Detection.dedupeKey).Nodup) :
    detection.dedupeKey ∉ front.map Detection.dedupeKey := by
  rw [List.map_append,List.map_cons] at distinct
  intro member
  exact (List.nodup_append.mp distinct).2.2 _ member _ List.mem_cons_self rfl

namespace Progress

theorem start (schema : db.WellFormed) : Progress [] db db :=
  ⟨schema,rfl,fun _ _ => Iff.rfl,by rw [List.filter_nil,List.length_nil,Nat.zero_min]; rfl⟩

/-- Before its own step a detection meets the rows of its key that the batch began with. -/
theorem own_rows (progress : Progress front db middle) (fresh : detection.dedupeKey ∉ front.map Detection.dedupeKey)
    (key : row.dedupeKey = detection.dedupeKey) : row ∈ middle.situations ↔ row ∈ db.situations :=
  progress.others row (key ▸ fresh)

theorem held_iff (progress : Progress front db middle) : row.Held now middle ↔ row.Held now db := by
  unfold Situation.Held hasDelivery
  rw [progress.deliveries]

theorem rejected_iff (progress : Progress front db middle)
    (fresh : detection.dedupeKey ∉ front.map Detection.dedupeKey) :
    Rejected detection middle ↔ ¬HasRoom front detection db := by
  have absent : middle.situationByDedupeKey detection.dedupeKey = none ↔
      ¬∃ row ∈ db.situations, row.dedupeKey = detection.dedupeKey := by
    rw [absent_iff]
    constructor
    · rintro none ⟨row,member,key⟩
      exact none row ((progress.own_rows fresh key).mpr member) key
    · intro none row member key
      exact none ⟨row,(progress.own_rows fresh key).mp member,key⟩
  have counted := progress.counted
  unfold Rejected HasRoom
  rw [absent,countSituations_all,not_and_or,not_or,Nat.not_le,Nat.not_lt]
  refine or_congr Iff.rfl (and_congr_right (fun _ => ?_))
  omega

theorem step (progress : Progress front db middle)
    (fresh : detection.dedupeKey ∉ front.map Detection.dedupeKey)
    (step : UpsertStep detection timestamp source generation middle outcome left) :
    Progress (front ++ [detection]) db left := by
  have evolved := step.evolves [detection] List.mem_cons_self 0 progress.schema (Nat.zero_le _)
  refine ⟨evolved.2.1,?_,?_,?_⟩
  · rw [← progress.deliveries,evolved.1]
  · intro row apart
    rw [List.map_append,List.mem_append,not_or,List.map_singleton,List.mem_singleton] at apart
    rw [step.other_rows progress.schema (Ne.symm apart.2)]
    exact progress.others row apart.1
  · have counted := progress.counted
    have room := progress.rejected_iff fresh
    have absent (none : middle.situationByDedupeKey detection.dedupeKey = none) :
        ∀ row ∈ db.situations, row.dedupeKey ≠ detection.dedupeKey := by
      intro row member key
      exact absent_iff.mp none row ((progress.own_rows fresh key).mpr member) key
    have present {old : Situation} (stored : old ∈ middle.situations) (key : old.dedupeKey = detection.dedupeKey) :
        ¬NeedsRow db detection = true := by
      intro needs
      exact (needsRow_iff.mp needs).2 old ((progress.own_rows fresh key).mp stored) key
    have skipped (stays : ¬NeedsRow db detection = true) : (front ++ [detection]).filter (NeedsRow db) =
        front.filter (NeedsRow db) := by
      rw [List.filter_append,List.filter_cons_of_neg stays,List.filter_nil,List.append_nil]
    have updated (selects : Situation → Bool) (change : Situation → Situation) :
        (Table.updateWhere selects change middle.situations).length = middle.situations.length := List.length_map _
    cases step with
    | rejected limit =>
      by_cases needs : NeedsRow db detection = true
      · -- a row is needed and none is free: the count stays at its bound
        have full := room.mp limit
        unfold HasRoom at full
        have small := (needsRow_iff.mp needs).1
        have none : ¬∃ row ∈ db.situations, row.dedupeKey = detection.dedupeKey :=
          fun ⟨row,member,key⟩ => (needsRow_iff.mp needs).2 row member key
        rw [not_and_or,not_or] at full
        have bound := (full.resolve_left (not_not.mpr small)).2
        rw [List.filter_append,List.filter_cons_of_pos needs,List.length_append,counted]
        omega
      · rw [skipped needs,counted]
    | created free none =>
      have open_ := not_not.mp (fun closed => free (room.mpr closed))
      have needs : NeedsRow db detection = true := needsRow_iff.mpr ⟨open_.1,absent none⟩
      have bound := open_.2.resolve_left (fun ⟨row,member,key⟩ => absent none row member key)
      rw [List.filter_append,List.filter_cons_of_pos needs,List.filter_nil,List.length_append,List.length_append,
        List.length_singleton,List.length_singleton,counted]
      omega
    | announced row free stored key => rw [skipped (present stored key),counted]
    | reactivated row free stored key => rw [skipped (present stored key),updated,counted]
    | refreshed row free stored key => rw [skipped (present stored key),updated,counted]
    | closed row free stored key => rw [skipped (present stored key),counted]

theorem run (upserts : Upserts timestamp source generation rest middle left) (progress : Progress front db middle)
    (distinct : ((front ++ rest).map Detection.dedupeKey).Nodup) : Progress (front ++ rest) db left := by
  induction upserts generalizing front with
  | done middle =>
    rw [List.append_nil]
    exact progress
  | @next detection rest outcome middle after left first others ih =>
    have fresh := fresh_of_nodup distinct
    have again : front ++ detection::rest = (front ++ [detection]) ++ rest := by
      rw [List.append_assoc,List.singleton_append]
    rw [again] at distinct ⊢
    exact ih (progress.step fresh first) distinct

end Progress

theorem lands_of_row (schema : middle.WellFormed) (progress : Progress front db middle)
    (fresh : detection.dedupeKey ∉ front.map Detection.dedupeKey) (room : ¬Rejected detection middle)
    (stored : row ∈ middle.situations) (key : row.dedupeKey = detection.dedupeKey) :
    Lands now front detection db ↔ ¬row.Held now middle := by
  have open_ := not_not.mp (fun closed => room ((progress.rejected_iff fresh).mpr closed))
  constructor
  · intro lands held
    exact lands.2 row ((progress.own_rows fresh key).mp stored) key (progress.held_iff.mp held)
  · intro free
    refine ⟨open_,fun other member same held => free ?_⟩
    obtain rfl := schema.same_key ((progress.own_rows fresh same).mpr member) stored (same.trans key.symm)
    exact progress.held_iff.mpr held

/-- A detection brings a stale row only when it has lapsed itself and lands. -/
theorem UpsertStep.unlapsed (step : UpsertStep detection timestamp source generation middle outcome left)
    (progress : Progress front db middle) (fresh : detection.dedupeKey ∉ front.map Detection.dedupeKey)
    (unlapsed : Unlapsed now middle)
    (spared : detection.hasLapsed now = true → ¬Lands now front detection db) : Unlapsed now left := by
  have written {old : Situation} {change : Situation → Situation} (room : ¬Rejected detection middle)
      (stored : old ∈ middle.situations) (key : old.dedupeKey = detection.dedupeKey)
      (described : ∀ row : Situation, (change row).expiresAt = detection.expiresAt)
      (free : (change old).active = true → ¬old.Held now middle) :
      Unlapsed now {middle with
        situations := Table.updateWhere (fun stored => stored.id == old.id) change middle.situations} := by
    intro row member
    rcases (Table.mem_updateWhere _ _ _ _).mp member with ⟨other,present,hit,rfl⟩ | ⟨kept,_⟩
    · obtain rfl := progress.schema.same_id present stored (beq_iff_eq.mp hit)
      refine Bool.eq_false_iff.mpr (fun stale => ?_)
      obtain ⟨active,late⟩ := stale_iff.mp stale
      rw [Situation.hasLapsed,described] at late
      exact spared late ((lands_of_row progress.schema progress fresh room stored key).mpr (free active))
    · exact unlapsed row kept
  cases step with
  | rejected | announced | closed => exact unlapsed
  | created room absent =>
    intro row member
    rcases List.mem_append.mp member with old | new
    · exact unlapsed row old
    · rw [List.mem_singleton.mp new]
      refine Bool.eq_false_iff.mpr (fun stale => spared (stale_iff.mp stale).2 ⟨?_,?_⟩)
      · exact not_not.mp (fun closed => room ((progress.rejected_iff fresh).mpr closed))
      · intro other present key
        exact absurd key (absent_iff.mp absent other ((progress.own_rows fresh key).mpr present))
  | reactivated old room stored key dormant untold =>
    exact written room stored key (fun _ => rfl) (fun _ held => untold ((held_dormant dormant).mp held))
  | refreshed old room stored key live =>
    refine written room stored key (fun _ => rfl) (fun active held => ?_)
    change old.active = true at active
    exact Bool.eq_false_iff.mp (unlapsed old stored) (stale_iff.mpr ⟨active,((held_active active).mp held).2.2⟩)

/-- A lapsed detection that lands leaves a stale row of its key. -/
theorem UpsertStep.stale (step : UpsertStep detection timestamp source generation middle outcome left)
    (progress : Progress front db middle) (fresh : detection.dedupeKey ∉ front.map Detection.dedupeKey)
    (awake : Awake now db) (lapsed : detection.hasLapsed now = true) (lands : Lands now front detection db) :
    ∃ row ∈ left.situations, row.stale now = true ∧ row.dedupeKey = detection.dedupeKey ∧ row.sourceName = source := by
  have free {old : Situation} (room : ¬Rejected detection middle) (stored : old ∈ middle.situations)
      (key : old.dedupeKey = detection.dedupeKey) : ¬old.Held now middle :=
    (lands_of_row progress.schema progress fresh room stored key).mp lands
  cases step with
  | rejected limit => exact absurd lands.1 ((progress.rejected_iff fresh).mp limit)
  | created room absent =>
    exact ⟨_,List.mem_append_right _ (List.mem_singleton_self _),stale_iff.mpr ⟨rfl,lapsed⟩,rfl,rfl⟩
  | announced old room stored key dormant told =>
    exact absurd ((held_dormant dormant).mpr told) (free room stored key)
  | reactivated old room stored key =>
    refine ⟨_,(Table.mem_updateWhere _ _ _ _).mpr (Or.inl ⟨old,stored,beq_self_eq_true _,rfl⟩),?_,key,rfl⟩
    exact stale_iff.mpr ⟨rfl,lapsed⟩
  | refreshed old room stored key live =>
    refine ⟨_,(Table.mem_updateWhere _ _ _ _).mpr (Or.inl ⟨old,stored,beq_self_eq_true _,rfl⟩),?_,key,rfl⟩
    refine stale_iff.mpr ⟨?_,lapsed⟩
    change old.active = true
    rcases live with state | state | asleep
    · rw [Situation.active,state]
      rfl
    · rw [Situation.active,state]
      rfl
    · have sleeping := awake old ((progress.own_rows fresh key).mp stored)
      exact absurd (Or.inr (Or.inr (Or.inl ⟨asleep,sleeping⟩))) (free room stored key)
  | closed old room stored key done =>
    refine absurd ?_ (free room stored key)
    rcases done with closed | closed
    · exact Or.inl closed
    · exact Or.inr (Or.inl closed)

/-- A batch on unlapsed rows leaves one stale exactly when a lapsed detection of it lands. -/
theorem Upserts.unlapsed (upserts : Upserts timestamp source generation rest middle left)
    (progress : Progress front db middle) (distinct : ((front ++ rest).map Detection.dedupeKey).Nodup)
    (unlapsed : Unlapsed now middle)
    (spared : ∀ earlier detection later, rest = earlier ++ detection::later → detection.hasLapsed now = true →
      ¬Lands now (front ++ earlier) detection db) : Unlapsed now left := by
  induction upserts generalizing front with
  | done middle => exact unlapsed
  | @next detection rest outcome middle after left first others ih =>
    have fresh := fresh_of_nodup distinct
    have again : front ++ detection::rest = (front ++ [detection]) ++ rest := by
      rw [List.append_assoc,List.singleton_append]
    have spared' := spared [] detection rest rfl
    rw [List.append_nil] at spared'
    refine ih (progress.step fresh first) (again ▸ distinct) (first.unlapsed progress fresh unlapsed spared') ?_
    rintro earlier other later rfl lapsed
    rw [List.append_assoc,List.singleton_append]
    exact spared (detection::earlier) other later rfl lapsed

theorem Upserts.stale (upserts : Upserts timestamp source generation (front ++ detection::back) db left)
    (schema : db.WellFormed) (distinct : ((front ++ detection::back).map Detection.dedupeKey).Nodup)
    (awake : Awake now db) (lapsed : detection.hasLapsed now = true) (lands : Lands now front detection db) :
    ∃ row ∈ left.situations, row.stale now = true ∧ row.dedupeKey = detection.dedupeKey ∧ row.sourceName = source := by
  obtain ⟨middle,one,two⟩ := upserts.split
  have progress := Progress.run one (Progress.start schema) (by
    rw [List.nil_append]
    exact distinct.sublist ((List.sublist_append_left _ _).map _))
  rw [List.nil_append] at progress
  have fresh := fresh_of_nodup distinct
  cases two with
  | @next _ _ outcome _ after _ first others =>
    obtain ⟨row,stored,stale,key,sourced⟩ := first.stale progress fresh awake lapsed lands
    have rest := Progress.run others (Progress.start (progress.step fresh first).schema) (by
      rw [List.nil_append]
      exact distinct.sublist (((List.sublist_cons_self _ _).trans (List.sublist_append_right _ _)).map _))
    refine ⟨row,(rest.others row ?_).mpr stored,stale,key,sourced⟩
    rw [List.nil_append,key]
    rw [List.map_append,List.map_cons] at distinct
    exact (List.nodup_cons.mp (List.nodup_append.mp distinct).2.1).1

end batches

section operations
variable [EvidenceJson] {now timestamp : Int} {front back detections : List Detection} {detection : Detection} {db left : Database}
  {row : Situation} {application : SourceApplication} {clock : Readings}

theorem hasRoom_congr (same : left.situations.map Situation.dedupeKey = db.situations.map Situation.dedupeKey) :
    HasRoom front detection left ↔ HasRoom front detection db := by
  have sized := congrArg List.length same
  rw [List.length_map,List.length_map] at sized
  have keyed (db : Database) (key : String) : (∃ row ∈ db.situations, row.dedupeKey = key) ↔
      key ∈ db.situations.map Situation.dedupeKey := List.mem_map.symm
  have needs (detection : Detection) (db : Database) : NeedsRow db detection =
      (decide (recordSize detection ≤ maxSituationRecordBytes) &&
        (db.situations.map Situation.dedupeKey).all (fun key => key != detection.dedupeKey)) := by
    rw [List.all_map]
    rfl
  have filtered : front.filter (NeedsRow left) = front.filter (NeedsRow db) := by
    apply List.filter_congr
    intro earlier _
    rw [needs,needs,same]
  unfold HasRoom
  rw [keyed,keyed,same,sized,filtered]

/-- An update of rows that neither opens nor closes one to detections. -/
theorem lands_updateWhere {selects : Situation → Bool} {change : Situation → Situation}
    (keys : ∀ row : Situation, (change row).dedupeKey = row.dedupeKey)
    (held : ∀ row ∈ db.situations, selects row = true → ((change row).Held now db ↔ row.Held now db)) :
    Lands now front detection {db with situations := Table.updateWhere selects change db.situations} ↔
      Lands now front detection db := by
  have same := Table.updateWhere_map selects change db.situations Situation.dedupeKey keys
  unfold Lands
  rw [hasRoom_congr same]
  refine and_congr_right (fun _ => ?_)
  change (∀ row ∈ Table.updateWhere selects change db.situations, row.dedupeKey = detection.dedupeKey →
    ¬row.Held now db) ↔ _
  constructor
  · intro free row member key closed
    cases hit : selects row with
    | true =>
      refine free (change row) ?_ ((keys row).trans key) ((held row member hit).mpr closed)
      exact (Table.mem_updateWhere _ _ _ _).mpr (Or.inl ⟨row,member,hit,rfl⟩)
    | false => exact free row ((Table.mem_updateWhere _ _ _ _).mpr (Or.inr ⟨member,hit⟩)) key closed
  · intro free row member key closed
    rcases (Table.mem_updateWhere _ _ _ _).mp member with ⟨old,present,hit,rfl⟩ | ⟨present,_⟩
    · exact free old present ((keys old).symm.trans key) ((held old present hit).mp closed)
    · exact free row present key closed

theorem lands_woken : Lands now front detection (step db (.wakeSnoozed now)) ↔ Lands now front detection db := by
  refine lands_updateWhere (fun _ => rfl) (fun row _ due => ?_)
  have pending : (row.woken now).active = true := rfl
  rw [held_active pending,held_due due]
  rfl

theorem lands_expired : Lands now front detection (step db (.expireLapsed now)) ↔ Lands now front detection db := by
  refine lands_updateWhere (fun _ => rfl) (fun row _ hit => ?_)
  rw [Bool.and_eq_true] at hit
  have expired : (row.lapsed now).state = .resolved ∨ (row.lapsed now).state = .expired := Or.inr rfl
  rw [held_dormant expired,held_active hit.1,and_iff_left hit.2]
  rfl

theorem applyLocalDetections_run (timestamp : Int) (schema : db.WellFormed)
    (typed : ∀ detection ∈ detections, detection.situationType = .personalOccasion) :
    ∃ middle, Upserts timestamp .memory none detections db middle ∧
      step db (.applyLocalDetections detections timestamp) = {middle with
        situations := Table.updateWhere (resolves .personalOccasion (some .memory)
          (fun row => (detections.map Detection.dedupeKey).contains row.dedupeKey)) (.resolved timestamp) middle.situations} := by
  obtain ⟨result,middle,batch⟩ : ∃ result middle,
      (upsertBatch detections timestamp (some .personalOccasion) .memory none).run db = (.ok result,middle) :=
    upsertEach_runs typed .zero db
  have upserts : Upserts timestamp .memory none detections db middle := upsertEach_upserts batch
  have kept := (upserts.keeps (fun _ => True) schema trivial (fun _ _ _ _ _ _ _ _ => trivial)).1
  obtain ⟨count,resolved⟩ := resolveActive_run .personalOccasion (some .memory)
    (fun row => (detections.map Detection.dedupeKey).contains row.dedupeKey) timestamp middle kept
  refine ⟨middle,upserts,?_⟩
  change ((applyLocalDetections detections timestamp).run db).2 = _
  have whole : (resolve .personalOccasion (detections.map Detection.dedupeKey) timestamp (some .memory)).run middle = _ :=
    resolved
  have done : (applyLocalDetections detections timestamp).run db = (.ok ⟨result,count⟩,{middle with
      situations := Table.updateWhere (resolves .personalOccasion (some .memory)
        (fun row => (detections.map Detection.dedupeKey).contains row.dedupeKey)) (.resolved timestamp)
          middle.situations}) := by
    rw [applyLocalDetections,Statement.immediate_success,Statement.run_bind_ok _ _ _ _ _ batch,
      Statement.run_bind_ok _ _ _ _ _ whole]
    rfl
  rw [done]

/-- Occasions leave the unlapsed rows unlapsed when no lapsed one of them lands. -/
theorem applyLocalDetections_unlapsed (schema : db.WellFormed)
    (typed : ∀ detection ∈ detections, detection.situationType = .personalOccasion)
    (distinct : (detections.map Detection.dedupeKey).Nodup) (unlapsed : Unlapsed now db)
    (spared : ∀ front detection back, detections = front ++ detection::back → detection.hasLapsed now = true →
      ¬Lands now front detection db) :
    Unlapsed now (step db (.applyLocalDetections detections timestamp)) := by
  obtain ⟨middle,upserts,ran⟩ := applyLocalDetections_run timestamp schema typed
  rw [ran]
  exact updateWhere_unlapsed (upserts.unlapsed (Progress.start schema) distinct unlapsed spared)

/-- A lapsed occasion that lands is stale after the batch. -/
theorem applyLocalDetections_stale (schema : db.WellFormed)
    (typed : ∀ other ∈ front ++ detection::back, other.situationType = .personalOccasion)
    (distinct : ((front ++ detection::back).map Detection.dedupeKey).Nodup) (awake : Awake now db)
    (lapsed : detection.hasLapsed now = true) (lands : Lands now front detection db) :
    ∃ row ∈ (step db (.applyLocalDetections (front ++ detection::back) timestamp)).situations,
      row.stale now = true ∧ row.dedupeKey = detection.dedupeKey ∧ row.sourceName = .memory := by
  obtain ⟨middle,upserts,ran⟩ := applyLocalDetections_run timestamp schema typed
  obtain ⟨row,stored,stale,key,sourced⟩ := upserts.stale schema distinct awake lapsed lands
  refine ⟨row,?_,stale,key,sourced⟩
  rw [ran]
  refine (Table.mem_updateWhere _ _ _ _).mpr (Or.inr ⟨stored,?_⟩)
  have listed : ((front ++ detection::back).map Detection.dedupeKey).contains row.dedupeKey = true := by
    rw [List.contains_iff_mem,key,List.map_append,List.map_cons]
    exact List.mem_append_right _ List.mem_cons_self
  rw [resolves,listed,Bool.not_true,Bool.and_false]

/-- An application that succeeds upserts its detections into the accepted generation, and resolves. -/
theorem applySourceGeneration_upserts {result : DetectionApplySummary} {left : Database} (schema : db.WellFormed)
    (ran : (applySourceGeneration application clock).run db = (.ok result,left)) :
    ∃ middle rows, (db.sourceAccepted application.generation application.status application.diagnostics
        clock.acceptedAt).WellFormed ∧
      Upserts clock.timestamp application.sourceName (some application.generation.number) application.detections
        (db.sourceAccepted application.generation application.status application.diagnostics clock.acceptedAt)
        middle ∧
      left = {middle with
        situations := Table.updateWhere application.resolves (.resolved clock.timestamp) middle.situations
        syncStates := rows} := by
  obtain ⟨_,admitted,middle,batch,rows,same⟩ := applySourceGeneration_batch _ _ _ _ _ schema ran
  exact ⟨middle,rows,schema.sourceAccepted application.generation application.status application.diagnostics
    clock.acceptedAt admitted,upsertEach_upserts batch,same⟩

/-- An application keeps the unlapsed rows unlapsed when none of its detections has lapsed. -/
theorem applySourceGeneration_unlapsed (schema : db.WellFormed)
    (fresh : ∀ detection ∈ application.detections, detection.hasLapsed now = false) (unlapsed : Unlapsed now db) :
    Unlapsed now (step db (.applySourceGeneration application clock)) := by
  change Unlapsed now ((applySourceGeneration application clock).run db).2
  rcases applySourceGeneration_outcome application clock db schema with ⟨_,error,ran⟩ | ⟨_,result,left,ran⟩
  · rw [ran]
    exact unlapsed
  · obtain ⟨middle,rows,accepted,upserts,same⟩ := applySourceGeneration_upserts schema ran
    have kept : Unlapsed now middle := by
      refine (upserts.keeps (Unlapsed now) accepted unlapsed ?_).2
      intro detection member outcome db left schema before step
      refine step.unlapsed (Progress.start schema) List.not_mem_nil before (fun late => ?_)
      rw [fresh detection member] at late
      cases late
    rw [ran,same]
    exact updateWhere_unlapsed kept

/-- An application leaves the occasions alone that no key of it names. -/
theorem applySourceGeneration_keeps_row (schema : db.WellFormed)
    (apart : ∀ detection ∈ application.detections, detection.dedupeKey ≠ row.dedupeKey)
    (sourced : row.sourceName = .memory) (stored : row ∈ db.situations) :
    row ∈ (step db (.applySourceGeneration application clock)).situations := by
  change row ∈ ((applySourceGeneration application clock).run db).2.situations
  rcases applySourceGeneration_outcome application clock db schema with ⟨_,error,ran⟩ | ⟨_,result,left,ran⟩
  · rw [ran]
    exact stored
  · obtain ⟨middle,rows,accepted,upserts,same⟩ := applySourceGeneration_upserts schema ran
    have kept : row ∈ middle.situations := by
      refine (upserts.keeps (fun db => row ∈ db.situations) accepted stored ?_).2
      intro detection member outcome db left schema before step
      exact (step.other_rows schema (apart detection member)).mpr before
    rw [ran,same]
    refine (Table.mem_updateWhere _ _ _ _).mpr (Or.inr ⟨kept,?_⟩)
    have foreign : (row.sourceName == application.sourceName) = false := by
      rw [sourced]
      unfold SourceApplication.sourceName
      cases application.generation.source <;> rfl
    rw [SourceApplication.resolves,resolves,Option.all_some,foreign,Bool.and_false,Bool.false_and,Bool.false_and]

end operations
end Proactive.Store
