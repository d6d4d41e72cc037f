import Proactive.Store.MemoryIntegrity

/-! The identity of a dated memory: one active row for it, found alike by the duplicate lookup,
the unique indexes and the key of the occasion detector. -/
namespace Proactive.Store
open Proactive.Library MemoryTables

def MemoryRow.holdsFact (entityId : Nat) (attr : MemoryAttribute) (date : String) (row : MemoryRow) : Bool :=
  !row.archived && row.entityId == some entityId && row.memoryAttribute == attr && row.dateAnchor == some date

def MemoryRow.holdsFreeDate (normalizers : MemoryNormalizers) (kind : MemoryKind) (entityId : Option Nat)
    (date : String) (recurrence : MemoryRecurrence) (content : String) (row : MemoryRow) : Bool :=
  !row.archived && row.memoryAttribute == .free && row.kind == kind && row.entityId == entityId &&
    row.dateAnchor == some date && row.recurrence == recurrence && normalizers.normalizeContent row.content == content

/-- The active row that a dated memory is about, when its entity resolves to this one. -/
structure MemoryRow.Identical (normalizers : MemoryNormalizers) (memory : NewMemory) (entityId : Option Nat)
    (row : MemoryRow) : Prop where
  active : row.archived = false
  memoryAttribute : row.memoryAttribute = memory.memoryAttribute
  entity : row.entityId = entityId
  date : row.dateAnchor = memory.dateAnchor
  dated : memory.dateAnchor.isSome = true
  fact : memory.memoryAttribute ≠ .free → entityId.isSome = true
  free : memory.memoryAttribute = .free → row.kind = memory.kind ∧ row.recurrence = memory.recurrence ∧
    normalizers.normalizeContent row.content = normalizers.normalizeContent memory.content

variable {normalizers : MemoryNormalizers} {tables : MemoryTables} {memory : NewMemory} {now : Int}

theorem rejected_unchanged (request : MemoryRequest) {error : MemoryError} {left : MemoryTables}
    (rejected : (request.body normalizers).run tables = (.error error,left)) : left = tables := by
  unfold MemoryRequest.body at rejected
  cases called : request.call with
  | remember memory =>
    rw [called] at rejected
    exact Statement.checked_rollback rejected
  | update id memory =>
    rw [called] at rejected
    exact Statement.checked_rollback rejected
  | forget id =>
    rw [called] at rejected
    unfold forget readMemory at rejected
    cases found : tables.memoryById id with
    | none =>
      rw [Statement.run_bind,Statement.run_select_bind,found] at rejected
      exact (Prod.mk.inj rejected).2.symm
    | some item =>
      rw [Statement.run_bind,Statement.run_select_bind,found] at rejected
      simp only [Statement.run_pure] at rejected
      split at rejected
      · cases rejected
      · cases rejected

theorem step_sound (request : MemoryRequest) (sound : Sound normalizers tables) :
    Sound normalizers (step normalizers tables request) := by
  unfold MemoryTables.step
  cases ran : (request.body normalizers).run tables with
  | mk outcome left =>
    cases outcome with
    | ok item => exact Statement.meets_ok (body_meets sound request) ran
    | error error =>
      rw [rejected_unchanged request ran]
      exact sound

theorem reached_sound (normalizers : MemoryNormalizers) (requests : List MemoryRequest) :
    Sound normalizers (reached normalizers requests) :=
  Run.run_invariant (step normalizers) (Sound normalizers) (fun _ request sound => step_sound request sound)
    empty requests sound_empty

theorem never_notUnique (sound : Sound normalizers tables) (request : MemoryRequest) (index : MemoryIndex) :
    ((request.body normalizers).run tables).1 ≠ .error (.notUnique index) := by
  intro failed
  have refused := Statement.meets_error (body_meets sound request) (Prod.ext failed rfl)
  cases refused

theorem one_fact (sound : Sound normalizers tables) (entityId : Nat) {attr : MemoryAttribute} (kept : attr ≠ .free)
    (date : String) : tables.items.countP (MemoryRow.holdsFact entityId attr date) ≤ 1 := by
  apply le_trans _ (UniqueIndex.count_le_one sound.datedFacts (entityId,attr,date))
  apply List.countP_mono_left
  intro row _ holds
  simp only [MemoryRow.holdsFact,Bool.and_eq_true,Bool.not_eq_true',beq_iff_eq] at holds
  obtain ⟨⟨⟨active,entity⟩,attributed⟩,dated⟩ := holds
  exact beq_iff_eq.mpr (MemoryRow.datedFactKey_eq_some.mpr ⟨active,attributed,kept,entity,dated⟩)

theorem one_free_date (sound : Sound normalizers tables) (kind : MemoryKind) (entityId : Option Nat)
    (date : String) (recurrence : MemoryRecurrence) (content : String) :
    tables.items.countP (MemoryRow.holdsFreeDate normalizers kind entityId date recurrence content) ≤ 1 := by
  apply le_trans _ (UniqueIndex.count_le_one sound.freeDated (kind,entityId.getD 0,date,recurrence,content))
  apply List.countP_mono_left
  intro row member holds
  simp only [MemoryRow.holdsFreeDate,Bool.and_eq_true,Bool.not_eq_true',beq_iff_eq] at holds
  obtain ⟨⟨⟨⟨⟨⟨active,free⟩,kinded⟩,entity⟩,dated⟩,recurring⟩,content⟩ := holds
  apply beq_iff_eq.mpr
  apply MemoryRow.freeDatedKey_eq_some.mpr
  exact ⟨active,free,dated,kinded,by rw [entity],recurring,(sound.normalized row member).trans content⟩

/-- The lookup of a memory hits when an index would refuse the row that the memory makes. -/
theorem lookup_agrees (entityId excludingId : Option Nat) (id : Nat) :
    (tables.datedDuplicateId normalizers memory entityId excludingId).isSome = true ↔
      ∃ other ∈ tables.items, some other.id ≠ excludingId ∧
        other.SharesKey (memory.row normalizers entityId now id) := by
  have carries : (memory.row normalizers entityId now id).Carries normalizers memory entityId :=
    ⟨rfl,rfl,rfl,rfl,rfl,rfl⟩
  obtain ⟨duplicate,lookup,agrees⟩ := datedDuplicateId_eq tables excludingId carries rfl
  rw [lookup,Option.isSome_map,List.find?_isSome]
  constructor
  · exact fun ⟨other,member,hit⟩ => ⟨other,member,(agrees other).mp hit⟩
  · exact fun ⟨other,member,hit⟩ => ⟨other,member,(agrees other).mpr hit⟩

theorem positive_entity (sound : Sound normalizers tables) {row : MemoryRow} (member : row ∈ tables.items) {id : Nat}
    (named : row.entityId = some id) : 0 < id := by
  obtain ⟨entity,stored,rfl⟩ := hasEntity_iff.mp (sound.references row member id named)
  exact sound.positive entity stored

/-- The key of the detector groups active free dated rows as their index does. -/
theorem detector_agrees (sound : Sound normalizers tables) {first second : MemoryRow} (one : first ∈ tables.items)
    (two : second ∈ tables.items) (free : first.memoryAttribute = .free ∧ second.memoryAttribute = .free)
    (active : first.archived = false ∧ second.archived = false)
    (dated : first.dateAnchor.isSome = true ∧ second.dateAnchor.isSome = true) :
    freeDatedMemoryKey normalizers (tables.item first).freeDated first.entityId =
        freeDatedMemoryKey normalizers (tables.item second).freeDated second.entityId ↔
      first.freeDatedKey = second.freeDatedKey := by
  obtain ⟨date,earlier⟩ := Option.isSome_iff_exists.mp dated.1
  obtain ⟨other,later⟩ := Option.isSome_iff_exists.mp dated.2
  have left : first.freeDatedKey = some (first.kind,first.entityId.getD 0,date,first.recurrence,first.contentNorm) :=
    MemoryRow.freeDatedKey_eq_some.mpr ⟨active.1,free.1,earlier,rfl,rfl,rfl,rfl⟩
  have right :
      second.freeDatedKey = some (second.kind,second.entityId.getD 0,other,second.recurrence,second.contentNorm) :=
    MemoryRow.freeDatedKey_eq_some.mpr ⟨active.2,free.2,later,rfl,rfl,rfl,rfl⟩
  rw [left,right,Option.some.injEq]
  simp only [freeDatedMemoryKey,MemoryItem.freeDated,MemoryTables.item,earlier,later,Prod.mk.injEq,
    Option.some.injEq,sound.normalized first one,sound.normalized second two]
  constructor
  · intro same
    obtain ⟨kind,entity,rest⟩ := same
    exact ⟨kind,congrArg (fun id => Option.getD id 0) entity,rest⟩
  · intro same
    obtain ⟨kind,entity,rest⟩ := same
    exact ⟨kind,UniqueIndex.coalesce_inj (fun _ => positive_entity sound one)
      (fun _ => positive_entity sound two) entity,rest⟩

theorem MemoryRow.Identical.shares {row : MemoryRow} {entityId : Option Nat} (sound : Sound normalizers tables)
    (member : row ∈ tables.items) (identical : row.Identical normalizers memory entityId) (now : Int) (id : Nat) :
    row.SharesKey (memory.row normalizers entityId now id) := by
  obtain ⟨date,dated⟩ := Option.isSome_iff_exists.mp identical.dated
  by_cases free : memory.memoryAttribute = .free
  · obtain ⟨kind,recurrence,content⟩ := identical.free free
    refine Or.inr ⟨(memory.kind,entityId.getD 0,date,memory.recurrence,normalizers.normalizeContent memory.content),?_,?_⟩
    · exact MemoryRow.freeDatedKey_eq_some.mpr ⟨identical.active,identical.memoryAttribute.trans free,
        identical.date.trans dated,kind,by rw [identical.entity],recurrence,
        (sound.normalized row member).trans content⟩
    · exact MemoryRow.freeDatedKey_eq_some.mpr ⟨rfl,free,dated,rfl,rfl,rfl,rfl⟩
  · obtain ⟨entity,named⟩ := Option.isSome_iff_exists.mp (identical.fact free)
    refine Or.inl ⟨(entity,memory.memoryAttribute,date),?_,?_⟩
    · exact MemoryRow.datedFactKey_eq_some.mpr ⟨identical.active,identical.memoryAttribute,free,
        identical.entity.trans named,identical.date.trans dated⟩
    · exact MemoryRow.datedFactKey_eq_some.mpr ⟨rfl,rfl,free,named,dated⟩

theorem shared_once (sound : Sound normalizers tables) {first second row : MemoryRow} (one : first ∈ tables.items)
    (two : second ∈ tables.items) (left : first.SharesKey row) (right : second.SharesKey row) :
    first = second := by
  have apart {kind : MemoryKind} {entity other : Nat} {attr : MemoryAttribute} {date day content : String}
      {recurrence : MemoryRecurrence} (fact : row.datedFactKey = some (entity,attr,date))
      (free : row.freeDatedKey = some (kind,other,day,recurrence,content)) : False := by
    obtain ⟨_,attributed,kept,_⟩ := MemoryRow.datedFactKey_eq_some.mp fact
    exact kept (attributed.symm.trans (MemoryRow.freeDatedKey_eq_some.mp free).2.1)
  rcases left with ⟨key,keyed,own⟩ | ⟨key,keyed,own⟩
  · rcases right with ⟨other,same,own'⟩ | ⟨other,_,own'⟩
    · exact Table.filterMap_inj_on sound.datedFacts one two keyed (same.trans (own'.symm.trans own))
    · exact (apart own own').elim
  · rcases right with ⟨other,_,own'⟩ | ⟨other,same,own'⟩
    · exact (apart own' own).elim
    · exact Table.filterMap_inj_on sound.freeDated one two keyed (same.trans (own'.symm.trans own))

theorem duplicate_found {row : MemoryRow} {entityId : Option Nat} (sound : Sound normalizers tables)
    (member : row ∈ tables.items) (identical : row.Identical normalizers memory entityId) :
    tables.datedDuplicateId normalizers memory entityId none = some row.id := by
  have carries : (memory.row normalizers entityId 0 0).Carries normalizers memory entityId :=
    ⟨rfl,rfl,rfl,rfl,rfl,rfl⟩
  obtain ⟨duplicate,lookup,agrees⟩ := datedDuplicateId_eq tables none carries rfl
  have shares := identical.shares sound member 0 0
  rw [lookup]
  cases found : tables.items.find? duplicate with
  | none => exact absurd ((agrees row).mpr ⟨by simp,shares⟩) (List.find?_eq_none.mp found row member)
  | some other =>
    have hit := (agrees other).mp (List.find?_some found)
    rw [shared_once sound (List.mem_of_find?_eq_some found) member hit.2 shares]
    rfl

theorem touched_memoryById (sound : Sound normalizers tables) {row : MemoryRow} (member : row ∈ tables.items)
    (now : Int) :
    ∃ item, (tables.touched row.id now).memoryById row.id = some item ∧ item.id = row.id := by
  have stored : {row with updatedAt := now} ∈ (tables.touched row.id now).items :=
    (Table.mem_updateWhere _ _ _ _).mpr (Or.inl ⟨row,member,beq_self_eq_true row.id,rfl⟩)
  have read := (sound.toConsistent.touched row.id).memoryById stored
  exact ⟨_,read,rfl⟩

theorem capacity_kept (sound : Sound normalizers tables) : requireEntityCapacity.run tables = (.ok (),tables) := by
  unfold requireEntityCapacity
  rw [Statement.run_select_bind,if_neg (Nat.not_lt.mpr sound.entityCapacity),Statement.run_select_bind,
    if_neg (Nat.not_lt.mpr sound.aliasCapacity),Statement.run_pure]

/-- Remembering what an active row holds finds the entity of the row, and touches the row alone. -/
theorem remember_identical (sound : Sound normalizers tables) (valid : memory.validate = .ok ())
    {entity : Option Entity} {left : MemoryTables}
    (resolved : (resolveEntity normalizers memory now).run tables = (.ok entity,left)) {row : MemoryRow}
    (member : row ∈ tables.items) (identical : row.Identical normalizers memory (entity.map Entity.id)) :
    ∃ item, (remember normalizers memory now).run tables = (.ok item,tables.touched row.id now) ∧
      item.id = row.id := by
  have unchanged : left = tables := by
    rcases (Statement.meets_ok (resolveEntity_meets sound.toConsistent memory) resolved).known with same | created
    · exact same
    · obtain ⟨fresh,rfl,unknown⟩ := created
      have known := sound.references row member fresh.id identical.entity
      rw [unknown] at known
      cases known
  rw [unchanged] at resolved
  obtain ⟨item,read,named⟩ := touched_memoryById sound member now
  refine ⟨item,?_,named⟩
  unfold remember
  rw [valid]
  change (Statement.immediate _).run tables = _
  rw [Statement.immediate_success,Statement.run_bind_ok _ _ _ _ _ resolved,
    Statement.run_bind_ok _ _ _ _ _ (capacity_kept sound)]
  unfold merge
  rw [Statement.run_select_bind,duplicate_found sound member identical]
  dsimp only
  rw [Statement.run_update_bind]
  unfold readMemory
  rw [Statement.run_select_bind,read]
  rfl

theorem dated_memory_identity (normalizers : MemoryNormalizers) (requests : List MemoryRequest) :
    let tables := reached normalizers requests
    (∀ entityId attr date, attr ≠ .free → tables.items.countP (MemoryRow.holdsFact entityId attr date) ≤ 1) ∧
    (∀ kind entityId date recurrence content,
      tables.items.countP (MemoryRow.holdsFreeDate normalizers kind entityId date recurrence content) ≤ 1) ∧
    (∀ (request : MemoryRequest) index, ((request.body normalizers).run tables).1 ≠ .error (.notUnique index)) ∧
    (∀ (memory : NewMemory) entityId excludingId now id,
      (tables.datedDuplicateId normalizers memory entityId excludingId).isSome = true ↔
        ∃ other ∈ tables.items, some other.id ≠ excludingId ∧
          other.SharesKey (memory.row normalizers entityId now id)) ∧
    (∀ first ∈ tables.items, ∀ second ∈ tables.items,
      first.memoryAttribute = .free ∧ second.memoryAttribute = .free →
      first.archived = false ∧ second.archived = false →
      first.dateAnchor.isSome = true ∧ second.dateAnchor.isSome = true →
      (freeDatedMemoryKey normalizers (tables.item first).freeDated first.entityId =
          freeDatedMemoryKey normalizers (tables.item second).freeDated second.entityId ↔
        first.freeDatedKey = second.freeDatedKey)) ∧
    (∀ (memory : NewMemory) now entity left row, memory.validate = .ok () →
      (resolveEntity normalizers memory now).run tables = (.ok entity,left) → row ∈ tables.items →
      row.Identical normalizers memory (entity.map Entity.id) →
      ∃ item, (remember normalizers memory now).run tables = (.ok item,tables.touched row.id now) ∧
        item.id = row.id) ∧
    ∀ (request : MemoryRequest) error left,
      (request.body normalizers).run tables = (.error error,left) → left = tables := by
  have sound := reached_sound normalizers requests
  refine ⟨?_,?_,?_,?_,?_,?_,?_⟩
  · exact fun entityId attr date kept => one_fact sound entityId kept date
  · exact one_free_date sound
  · exact never_notUnique sound
  · exact fun memory entityId excludingId now id => lookup_agrees entityId excludingId id
  · exact fun first one second two free active dated => detector_agrees sound one two free active dated
  · exact fun memory now entity left row valid resolved member identical =>
      remember_identical sound valid resolved member identical
  · exact fun request error left rejected => rejected_unchanged request rejected

/-- Plain normalizers for texts that are in normal form but for their case. -/
def asciiNormalizers : MemoryNormalizers := ⟨id,String.toLower,String.toLower⟩

def dentist : NewMemory := ⟨.commitment,"Dentist",none,none,none,.free,some "2026-03-01",.none,7,.manual⟩

theorem dated_memory_identity_merged :
    ∃ item, (remember asciiNormalizers {dentist with content := "dentist"} 2).run
        (reached asciiNormalizers [⟨.remember dentist,1⟩]) =
      (.ok item,(reached asciiNormalizers [⟨.remember dentist,1⟩]).touched 1 2) ∧ item.id = 1 := by
  have identity := dated_memory_identity asciiNormalizers [⟨.remember dentist,1⟩]
  exact identity.2.2.2.2.2.1 {dentist with content := "dentist"} 2 none _
    (dentist.row asciiNormalizers none 1 1) (by decide +kernel) rfl (by decide +kernel)
    ⟨rfl,rfl,rfl,rfl,rfl,fun kept => absurd rfl kept,fun _ => ⟨rfl,rfl,by decide +kernel⟩⟩

end Proactive.Store
