import Proactive.Store.Timeline

/-! How often one personal occasion is delivered, over whole runs. -/
namespace Proactive.Store
open Proactive.Library Database

def announcements (id : Nat) (deliveries : List Delivery) : Nat :=
  deliveries.countP (fun delivery => delivery.situationId == id)

/-- Occasions are delivered once, and once more for each of `snoozed` snoozes;
one that waits for delivery has used up none of these. -/
structure Announced (snoozed : Nat → Nat) (rows : List Situation) (deliveries : List Delivery) : Prop where
  ordered : rows.Pairwise (fun first second => first.id < second.id)
  references : ∀ delivery ∈ deliveries, delivery.situationId ∈ rows.map Situation.id
  spent : ∀ row ∈ rows, row.situationType = .personalOccasion →
    announcements row.id deliveries ≤ snoozed row.id + 1
  waiting : ∀ row ∈ rows, row.situationType = .personalOccasion →
    row.state = .pending ∨ row.state = .snoozed → announcements row.id deliveries ≤ snoozed row.id

theorem announcements_fresh {rows : List Situation} {deliveries : List Delivery} {id : Nat}
    (references : ∀ delivery ∈ deliveries, delivery.situationId ∈ rows.map Situation.id)
    (fresh : ∀ row ∈ rows, row.id < id) : announcements id deliveries = 0 := by
  refine List.countP_eq_zero.mpr (fun delivery member same => ?_)
  obtain ⟨row,present,owner⟩ := List.mem_map.mp (references delivery member)
  have below := fresh row present
  have equal := beq_iff_eq.mp same
  omega

theorem announcements_none {deliveries : List Delivery} {id : Nat}
    (never : ¬deliveries.any (fun delivery => delivery.situationId == id)) :
    announcements id deliveries = 0 := by
  refine List.countP_eq_zero.mpr (fun delivery member same => never ?_)
  exact List.any_eq_true.mpr ⟨delivery,member,same⟩

section rows
variable {snoozed : Nat → Nat} {rows : List Situation} {deliveries : List Delivery}

/-- A change in place keeps the bound when no row comes to wait that did not wait before. -/
theorem Announced.change (announced : Announced snoozed rows deliveries) (selects : Situation → Bool)
    (change : Situation → Situation)
    (keeps : ∀ row ∈ rows, selects row = true →
      (change row).id = row.id ∧ (change row).situationType = row.situationType)
    (waits : ∀ row ∈ rows, selects row = true → row.situationType = .personalOccasion →
      (change row).state = .pending ∨ (change row).state = .snoozed →
        announcements row.id deliveries ≤ snoozed row.id) :
    Announced snoozed (Table.updateWhere selects change rows) deliveries where
  ordered := by
    have ordered := announced.ordered
    rw [← List.pairwise_map (f := Situation.id) (R := (· < ·))] at ordered ⊢
    rwa [Table.updateWhere_map_mem selects change rows Situation.id (fun row member hit => (keeps row member hit).1)]
  references := by
    rw [Table.updateWhere_map_mem selects change rows Situation.id (fun row member hit => (keeps row member hit).1)]
    exact announced.references
  spent := by
    intro row member occasion
    rcases (Table.mem_updateWhere _ _ _ _).mp member with ⟨old,present,hit,rfl⟩ | ⟨kept,_⟩
    · obtain ⟨id,same⟩ := keeps old present hit
      rw [id]
      exact announced.spent old present (same ▸ occasion)
    · exact announced.spent row kept occasion
  waiting := by
    intro row member occasion state
    rcases (Table.mem_updateWhere _ _ _ _).mp member with ⟨old,present,hit,rfl⟩ | ⟨kept,_⟩
    · obtain ⟨id,same⟩ := keeps old present hit
      rw [id]
      exact waits old present hit (same ▸ occasion) state
    · exact announced.waiting row kept occasion state

theorem Announced.snooze (announced : Announced snoozed rows deliveries) (id : Nat)
    (until_ timestamp : Int) :
    Announced (fun other => if other = id then snoozed other + 1 else snoozed other)
      (Table.updateWhere (fun stored => id == stored.id) (.snoozed until_ timestamp) rows) deliveries := by
  have more (other : Nat) : snoozed other ≤ if other = id then snoozed other + 1 else snoozed other := by
    split <;> omega
  have grown : Announced (fun other => if other = id then snoozed other + 1 else snoozed other)
      rows deliveries :=
    {announced with
      spent := fun row member occasion => by
        have bound := announced.spent row member occasion
        have room := more row.id
        omega
      waiting := fun row member occasion state => (announced.waiting row member occasion state).trans (more _)}
  refine grown.change _ _ (fun _ _ _ => ⟨rfl,rfl⟩) (fun row member hit occasion _ => ?_)
  have same : row.id = id := (beq_iff_eq.mp hit).symm
  have bound := announced.spent row member occasion
  rw [if_pos same]
  exact bound

end rows

theorem Announced.deliver {snoozed : Nat → Nat} {db : Database} {rows : List Situation}
    (announced : Announced snoozed db.situations db.deliveries) (schema : db.WellFormed)
    (timestamp : Int) (pending : PendingRows rows db) :
    Announced snoozed (db.deliverAll timestamp rows).situations (db.deliverAll timestamp rows).deliveries := by
  have counted (id : Nat) : announcements id (db.deliverAll timestamp rows).deliveries =
      announcements id db.deliveries + (rows.map Situation.id).count id := by
    unfold announcements deliverAll
    rw [List.countP_append,List.countP_map,List.count,List.countP_map]
    rfl
  have stored := announced.change (fun stored => rows.any (fun row => row.id == stored.id))
    (.delivered timestamp) (fun _ _ _ => ⟨rfl,rfl⟩)
    (fun _ _ _ _ state => by rcases state with state | state <;> cases state)
  have unlisted (row : Situation) (missed : rows.any (fun other => other.id == row.id) = false) :
      (rows.map Situation.id).count row.id = 0 := by
    refine List.count_eq_zero.mpr (fun listed => ?_)
    obtain ⟨other,inside,same⟩ := List.mem_map.mp listed
    have hit := List.any_eq_false.mp missed other inside
    simp [same] at hit
  refine ⟨stored.ordered,?_,?_,?_⟩
  · intro delivery member
    rcases List.mem_append.mp member with old | new
    · exact stored.references delivery old
    · obtain ⟨row,listed,rfl⟩ := List.mem_map.mp new
      have ids := Table.updateWhere_map (fun stored => rows.any (fun row => row.id == stored.id))
        (.delivered timestamp) db.situations Situation.id (fun _ => rfl)
      change row.id ∈ List.map Situation.id (Table.updateWhere _ _ _)
      rw [ids]
      exact List.mem_map_of_mem (pending.stored row listed)
  · intro row member occasion
    rw [counted]
    rcases (Table.mem_updateWhere _ _ _ _).mp member with ⟨old,present,hit,rfl⟩ | ⟨kept,missed⟩
    · obtain ⟨other,inside,same⟩ := List.any_eq_true.mp hit
      obtain rfl := schema.same_id (pending.stored other inside) present (beq_iff_eq.mp same)
      have bound := announced.waiting other present occasion (Or.inl (pending.pending other inside))
      have once := List.nodup_iff_count_le_one.mp pending.distinct other.id
      change announcements other.id db.deliveries + (rows.map Situation.id).count other.id ≤
        snoozed other.id + 1
      omega
    · rw [unlisted row missed]
      exact announced.spent row kept occasion
  · intro row member occasion state
    rw [counted]
    rcases (Table.mem_updateWhere _ _ _ _).mp member with ⟨old,_,_,rfl⟩ | ⟨kept,missed⟩
    · rcases state with state | state <;> cases state
    · rw [unlisted row missed]
      exact announced.waiting row kept occasion state

/-- A detection reopens an occasion only when it was never delivered. -/
theorem announced_upkeep [EvidenceJson] (snoozed : Nat → Nat) : Upkeep (Announced snoozed) where
  upserted := by
    intro detection timestamp source generation db announced
    obtain ⟨outcome,left,ran,effect⟩ := upsertDetection_steps detection timestamp source generation db
    rw [ran]
    cases effect with
    | rejected | announced | closed => exact announced
    | created =>
      have fresh : announcements db.nextId db.deliveries = 0 :=
        announcements_fresh announced.references db.lt_nextId
      refine ⟨?_,?_,?_,?_⟩
      · refine List.pairwise_append.mpr ⟨announced.ordered,by simp,fun stored member last same => ?_⟩
        rw [List.mem_singleton.mp same]
        exact db.lt_nextId stored member
      · intro delivery member
        rw [List.map_append]
        exact List.mem_append_left _ (announced.references delivery member)
      · intro next member occasion
        rcases List.mem_append.mp member with old | new
        · exact announced.spent next old occasion
        · rw [List.mem_singleton.mp new]
          change announcements db.nextId db.deliveries ≤ _
          omega
      · intro next member occasion waits
        rcases List.mem_append.mp member with old | new
        · exact announced.waiting next old occasion waits
        · rw [List.mem_singleton.mp new]
          change announcements db.nextId db.deliveries ≤ _
          omega
    | reactivated row _ present _ _ unspoken =>
      refine announced.change _ _ (fun _ _ _ => ⟨rfl,rfl⟩) (fun stored member hit occasion _ => ?_)
      have distinct : (db.situations.map Situation.id).Nodup := by
        rw [List.nodup_iff_pairwise_ne,List.pairwise_map]
        exact announced.ordered.imp (fun less => Nat.ne_of_lt less)
      obtain rfl := List.inj_on_of_nodup_map distinct member present (beq_iff_eq.mp hit)
      have never := announcements_none (fun any => unspoken ⟨occasion,any⟩)
      omega
    | refreshed =>
      refine announced.change _ _ (fun _ _ _ => ⟨rfl,rfl⟩) (fun stored member hit occasion waits => ?_)
      exact announced.waiting stored member occasion waits
  settled := by
    intro rows deliveries selects change settles announced
    refine announced.change selects change (fun row member hit => ?_)
      (fun row member hit occasion waits => ?_)
    · have settled := settles row member hit
      generalize change row = changed at settled ⊢
      cases settled <;> exact ⟨rfl,rfl⟩
    · have settled := settles row member hit
      generalize change row = changed at settled waits
      cases settled with
      | woken _ snoozed => exact announced.waiting row member occasion (Or.inr snoozed)
      | _ => rcases waits with state | state <;> cases state

theorem empty_announced (snoozed : Nat → Nat) : Announced snoozed [] [] :=
  ⟨.nil,by simp,by simp,by simp⟩

section runs
variable [EvidenceJson]

theorem run_announced (operations : List Operation) :
    Announced (fun id => (timeline Database.empty operations).count (.snoozed id))
      (Run.run step Database.empty operations).situations
      (Run.run step Database.empty operations).deliveries := by
  induction operations using List.reverseRecOn with
  | nil => exact empty_announced _
  | append_singleton front operation ih =>
    have schema := run_wellFormed Database.empty empty_wellFormed front
    have turn := step_turn (Run.run step Database.empty front) schema operation
    have silent := fun silent : operation.announces = false => (announced_upkeep _).step schema silent ih
    rw [timeline_append,Run.run_append,Run.run_cons,Run.run_nil]
    generalize moments _ operation = log at turn ⊢
    generalize step _ operation = after at turn silent ⊢
    cases turn with
    | refused =>
      rw [List.append_nil]
      exact ih
    | silent _ _ _ quiet =>
      rw [List.append_nil]
      exact silent quiet
    | delivered _ _ _ timestamp rows waiting situations history =>
      have unsnoozed (id : Nat) : (rows.map (fun row => Moment.delivered row.id timestamp)).count
          (.snoozed id) = 0 := by
        refine List.count_eq_zero.mpr (fun listed => ?_)
        obtain ⟨row,_,same⟩ := List.mem_map.mp listed
        cases same
      simp only [List.count_append,unsnoozed,Nat.add_zero]
      rw [situations,history]
      exact ih.deliver schema timestamp waiting
    | snoozed row until_ timestamp _ member delivered =>
      have counted (id : Nat) : (timeline Database.empty front ++ [Moment.snoozed row.id]).count
          (.snoozed id) = if id = row.id then (timeline Database.empty front).count (.snoozed id) + 1
            else (timeline Database.empty front).count (.snoozed id) := by
        rw [List.count_append,List.count_singleton]
        by_cases same : id = row.id
        · simp [same]
        · have different : ¬(Moment.snoozed row.id == Moment.snoozed id) = true := by
            intro equal
            exact same (Moment.snoozed.inj (beq_iff_eq.mp equal)).symm
          simp [same,different]
      simp only [counted]
      exact ih.snooze row.id until_ timestamp

/-- Over every run, an occasion has at most one delivery row more than the user
has snoozed it. -/
theorem occasion_announced_once (operations : List Operation) :
    ∀ row ∈ (Run.run step Database.empty operations).situations,
      row.situationType = .personalOccasion →
        announcements row.id (Run.run step Database.empty operations).deliveries ≤
          1 + (timeline Database.empty operations).count (.snoozed row.id) := by
  intro row member occasion
  have bound := (run_announced operations).spent row member occasion
  omega

end runs

/-- A birthday that is delivered, snoozed and delivered again, then detected anew. -/
def occasionTwice : List Operation :=
  let birthday : Detection := ⟨.personalOccasion,"birthday:2026",.high,"t","w",.empty,none⟩
  [.applyLocalDetections [birthday] 0,.markDelivered [1] second,
    .snoozeSituation 1 (3 * second) (2 * second),.wakeSnoozed (3 * second),
    .markDelivered [1] (4 * second),.applyLocalDetections [] (5 * second),
    .applyLocalDetections [birthday] (6 * second),.markDelivered [1] (7 * second)]

theorem occasionTwice_announced :
    announcements 1 (Run.run (@step EvidenceJson.compact) Database.empty occasionTwice).deliveries = 2 ∧
      ∃ row ∈ (Run.run (@step EvidenceJson.compact) Database.empty occasionTwice).situations,
        announcements row.id (Run.run (@step EvidenceJson.compact) Database.empty occasionTwice).deliveries ≤
          1 + (@timeline EvidenceJson.compact Database.empty occasionTwice).count (.snoozed row.id) := by
  refine ⟨by decide +kernel,?_⟩
  have occasion : ∀ row ∈ (Run.run (@step EvidenceJson.compact) Database.empty occasionTwice).situations,
      row.situationType = .personalOccasion := by decide +kernel
  have stored : (Run.run (@step EvidenceJson.compact) Database.empty occasionTwice).situations ≠ [] := by
    decide +kernel
  obtain ⟨row,member⟩ := List.exists_mem_of_ne_nil _ stored
  exact ⟨row,member,@occasion_announced_once EvidenceJson.compact occasionTwice row member
    (occasion row member)⟩

end Proactive.Store
