import Proactive.Store.Memory

/-! The tables of the memory store keep their indexes and references through every call, and
no statement of a call runs into one. -/
namespace Proactive.Store
open Proactive.Library MemoryTables

def MemoryError.integrity : MemoryError → Bool
  | .notUnique _ | .noReference | .outOfBounds => true
  | _ => false

namespace MemoryTables

theorem hasEntity_iff {tables : MemoryTables} {id : Nat} :
    tables.hasEntity id = true ↔ ∃ entity ∈ tables.entities, entity.id = id := by
  unfold hasEntity
  rw [List.any_eq_true]
  simp only [beq_iff_eq]

structure Consistent (normalizers : MemoryNormalizers) (tables : MemoryTables) : Prop where
  itemIds : (tables.items.map MemoryRow.id).Nodup
  entityIds : (tables.entities.map Entity.id).Nodup
  positive : ∀ entity ∈ tables.entities, 0 < entity.id
  aliasNorms : UniqueIndex.Unique EntityAlias.normKey tables.aliases
  targets : ∀ row ∈ tables.aliases, tables.hasEntity row.entityId = true
  references : ∀ row ∈ tables.items, ∀ id, row.entityId = some id → tables.hasEntity id = true
  normalized : ∀ row ∈ tables.items, row.contentNorm = normalizers.normalizeContent row.content
  datedFacts : UniqueIndex.Unique MemoryRow.datedFactKey tables.items
  freeDated : UniqueIndex.Unique MemoryRow.freeDatedKey tables.items

/-- Consistent tables within the row budgets of entities and aliases. -/
structure Sound (normalizers : MemoryNormalizers) (tables : MemoryTables) : Prop
    extends Consistent normalizers tables where
  entityCapacity : tables.entities.length ≤ maxEntityRows
  aliasCapacity : tables.aliases.length ≤ maxEntityAliasRows

/-- Entities and aliases are only added, and memories stay. -/
structure Grows (before after : MemoryTables) : Prop where
  items : after.items = before.items
  entities : ∃ fresh, after.entities = before.entities ++ fresh
  aliases : ∃ fresh, after.aliases = before.aliases ++ fresh

theorem Grows.refl (tables : MemoryTables) : Grows tables tables :=
  ⟨rfl,⟨[],(List.append_nil _).symm⟩,⟨[],(List.append_nil _).symm⟩⟩

theorem Grows.trans {first second third : MemoryTables} (one : Grows first second) (two : Grows second third) :
    Grows first third := by
  obtain ⟨entities,grown⟩ := one.entities
  obtain ⟨entities',grown'⟩ := two.entities
  obtain ⟨aliases,longer⟩ := one.aliases
  obtain ⟨aliases',longer'⟩ := two.aliases
  exact ⟨two.items.trans one.items,⟨entities ++ entities',by rw [grown',grown,List.append_assoc]⟩,
    ⟨aliases ++ aliases',by rw [longer',longer,List.append_assoc]⟩⟩

theorem Grows.hasEntity {before after : MemoryTables} (grows : Grows before after) {id : Nat}
    (has : before.hasEntity id = true) : after.hasEntity id = true := by
  obtain ⟨fresh,grown⟩ := grows.entities
  obtain ⟨entity,member,named⟩ := hasEntity_iff.mp has
  apply hasEntity_iff.mpr
  rw [grown]
  exact ⟨entity,List.mem_append_left fresh member,named⟩

variable {normalizers : MemoryNormalizers} {tables : MemoryTables}

theorem sound_empty : Sound normalizers empty := by
  refine ⟨⟨.nil,.nil,?_,UniqueIndex.unique_nil _,?_,?_,?_,UniqueIndex.unique_nil _,UniqueIndex.unique_nil _⟩,
    Nat.zero_le _,Nat.zero_le _⟩ <;> exact fun _ member => absurd member List.not_mem_nil

theorem Consistent.same_id (consistent : Consistent normalizers tables) {first second : MemoryRow}
    (one : first ∈ tables.items) (two : second ∈ tables.items) (same : first.id = second.id) : first = second :=
  List.inj_on_of_nodup_map consistent.itemIds one two same

theorem Consistent.entityById (consistent : Consistent normalizers tables) {entity : Entity}
    (member : entity ∈ tables.entities) : tables.entityById entity.id = some entity :=
  Table.find?_key consistent.entityIds member rfl

theorem Consistent.memoryById (consistent : Consistent normalizers tables) {row : MemoryRow}
    (member : row ∈ tables.items) : tables.memoryById row.id = some (tables.item row) := by
  unfold MemoryTables.memoryById
  rw [Table.find?_key consistent.itemIds member rfl]
  rfl

theorem entityIdByAlias_none {aliasNorm : String} (missed : tables.entityIdByAlias aliasNorm = none) :
    ∀ row ∈ tables.aliases, row.aliasNorm ≠ aliasNorm := by
  unfold entityIdByAlias at missed
  rw [Option.map_eq_none_iff,List.find?_eq_none] at missed
  intro row member same
  exact missed row member (beq_iff_eq.mpr same)

theorem Consistent.insertEntity (consistent : Consistent normalizers tables) (kind : EntityKind)
    (path : Option String) (label : String) (now : Int) :
    Consistent normalizers {tables with
      entities := tables.entities ++
        [⟨UniqueIndex.nextId Entity.id tables.entities,kind,path,label,.active,now,now⟩]} := by
  have grows : Grows tables {tables with
      entities := tables.entities ++
        [⟨UniqueIndex.nextId Entity.id tables.entities,kind,path,label,.active,now,now⟩]} :=
    ⟨rfl,⟨_,rfl⟩,⟨[],(List.append_nil _).symm⟩⟩
  refine ⟨consistent.itemIds,?_,?_,consistent.aliasNorms,
    fun row member => grows.hasEntity (consistent.targets row member),
    fun row member id named => grows.hasEntity (consistent.references row member id named),consistent.normalized,
    consistent.datedFacts,consistent.freeDated⟩
  · rw [List.map_append,List.nodup_append]
    refine ⟨consistent.entityIds,List.nodup_singleton _,fun id listed other last same => ?_⟩
    obtain ⟨entity,member,rfl⟩ := List.mem_map.mp listed
    have below := UniqueIndex.lt_nextId Entity.id member
    rw [same,List.mem_singleton.mp last] at below
    exact Nat.lt_irrefl _ below
  · intro entity member
    rcases List.mem_append.mp member with known | last
    · exact consistent.positive entity known
    · rw [List.mem_singleton.mp last]
      exact Nat.succ_pos _

theorem Consistent.insertAlias (consistent : Consistent normalizers tables) (row : EntityAlias)
    (unused : ∀ other ∈ tables.aliases, other.aliasNorm ≠ row.aliasNorm)
    (target : tables.hasEntity row.entityId = true) :
    tables.admitAlias row = .ok () ∧
      Consistent normalizers {tables with aliases := tables.aliases ++ [row]} := by
  have free : UniqueIndex.taken EntityAlias.normKey tables.aliases row = false := by
    rw [← Bool.not_eq_true,UniqueIndex.taken_iff]
    intro ⟨own,keyed,other,member,same⟩
    rw [← keyed] at same
    exact unused other member (Option.some.inj same)
  constructor
  · rw [admitAlias,free,if_neg Bool.false_ne_true,if_pos target]
  · refine ⟨consistent.itemIds,consistent.entityIds,consistent.positive,
      UniqueIndex.unique_append consistent.aliasNorms free,?_,consistent.references,consistent.normalized,
      consistent.datedFacts,consistent.freeDated⟩
    intro other member
    rcases List.mem_append.mp member with known | last
    · exact consistent.targets other known
    · rw [List.mem_singleton.mp last]
      exact target

end MemoryTables

/-- An error that no constraint of the database raised. -/
abbrev MemoryError.Refusal (error : MemoryError) : Prop := error.integrity = false

section Rules
variable {tables : MemoryTables} {refused : MemoryError → Prop}

theorem insertEntity_rule {post : Nat → MemoryTables → Prop} {kind : EntityKind} {path : Option String}
    {label : String} {now : Int}
    (inserted : post (UniqueIndex.nextId Entity.id tables.entities) {tables with
      entities := tables.entities ++ [⟨UniqueIndex.nextId Entity.id tables.entities,kind,path,label,.active,now,now⟩]}) :
    (insertEntity kind path label now).Meets tables post refused := by
  unfold insertEntity
  apply Statement.meets_bind
  apply Statement.meets_select
  apply Statement.meets_bind
  apply Statement.meets_update
  exact Statement.meets_pure inserted

theorem insertEntityAlias_rule {post : Unit → MemoryTables → Prop} {row : EntityAlias}
    (allowed : Outcome.FailsOnly refused (tables.admitAlias row))
    (inserted : post () {tables with aliases := tables.aliases ++ [row]}) :
    (insertEntityAlias row).Meets tables post refused := by
  unfold insertEntityAlias
  apply Statement.meets_bind
  apply Statement.meets_select
  apply Statement.meets_bind
  exact Statement.meets_ofExcept (fun _ _ => Statement.meets_update inserted) allowed

theorem insertMemoryItem_rule {post : Nat → MemoryTables → Prop} {fresh : Nat → MemoryRow}
    (allowed : Outcome.FailsOnly refused
      (tables.admitRow tables.items (fresh (UniqueIndex.nextId MemoryRow.id tables.items))))
    (inserted : post (UniqueIndex.nextId MemoryRow.id tables.items)
      {tables with items := tables.items ++ [fresh (UniqueIndex.nextId MemoryRow.id tables.items)]}) :
    (insertMemoryItem fresh).Meets tables post refused := by
  unfold insertMemoryItem
  apply Statement.meets_bind
  apply Statement.meets_select
  apply Statement.meets_bind
  apply Statement.meets_select
  apply Statement.meets_bind
  refine Statement.meets_ofExcept (fun _ _ => ?_) allowed
  apply Statement.meets_bind
  apply Statement.meets_update
  exact Statement.meets_pure inserted

theorem updateMemoryItem_rule {post : Unit → MemoryTables → Prop} {id : Nat} {change : MemoryRow → MemoryRow}
    (absent : (∀ row ∈ tables.items, row.id ≠ id) → post () tables)
    (allowed : ∀ row ∈ tables.items, row.id = id →
      Outcome.FailsOnly refused (tables.admitRow (tables.others id) (change row)))
    (updated : ∀ row ∈ tables.items, row.id = id →
      post () {tables with items := Table.updateWhere (fun other => other.id == id) change tables.items}) :
    (updateMemoryItem id change).Meets tables post refused := by
  unfold updateMemoryItem
  apply Statement.meets_bind
  apply Statement.meets_select
  cases found : tables.items.find? (fun row => row.id == id) with
  | none =>
    apply Statement.meets_pure
    exact absent (fun row member named => List.find?_eq_none.mp found row member (beq_iff_eq.mpr named))
  | some row =>
    have member := List.mem_of_find?_eq_some found
    have named := List.find?_some found
    rw [beq_iff_eq] at named
    apply Statement.meets_bind
    apply Statement.meets_select
    apply Statement.meets_bind
    exact Statement.meets_ofExcept (fun _ _ => Statement.meets_update (updated row member named))
      (allowed row member named)

end Rules

section Entities
variable {normalizers : MemoryNormalizers} {tables : MemoryTables} {now : Int}

theorem requireFreeAliases_meets (texts : List String) :
    (requireFreeAliases normalizers texts).Meets tables
      (fun _ left => left = tables ∧
        ∀ text ∈ texts, ∀ row ∈ tables.aliases, row.aliasNorm ≠ normalizers.normalizeAlias text)
      MemoryError.Refusal := by
  induction texts with
  | nil => exact ⟨rfl,fun _ member => absurd member List.not_mem_nil⟩
  | cons text rest ih =>
    unfold requireFreeAliases
    apply Statement.meets_bind
    apply Statement.meets_select
    cases assigned : tables.entityIdByAlias (normalizers.normalizeAlias text) with
    | some id => exact Statement.meets_raise rfl
    | none =>
      apply Statement.meets_mono ih _ (fun _ refused => refused)
      intro _ left unused
      obtain ⟨rfl,free⟩ := unused
      refine ⟨rfl,fun other listed => ?_⟩
      rcases List.mem_cons.mp listed with rfl | later
      · exact entityIdByAlias_none assigned
      · exact free other later

theorem insertEntityAliases_meets (consistent : Consistent normalizers tables) {entityId : Nat}
    (target : tables.hasEntity entityId = true) (source : MemorySource) (texts : List String)
    (distinct : (texts.map normalizers.normalizeAlias).Nodup)
    (unused : ∀ text ∈ texts, ∀ row ∈ tables.aliases, row.aliasNorm ≠ normalizers.normalizeAlias text) :
    (insertEntityAliases normalizers entityId source now texts).Meets tables
      (fun _ left => Consistent normalizers left ∧ Grows tables left ∧ left.entities = tables.entities)
      MemoryError.Refusal := by
  induction texts generalizing tables with
  | nil => exact ⟨consistent,Grows.refl tables,rfl⟩
  | cons text rest ih =>
    rw [List.map_cons,List.nodup_cons] at distinct
    let row : EntityAlias := ⟨entityId,text,normalizers.normalizeAlias text,source,now⟩
    obtain ⟨admitted,inserted⟩ := consistent.insertAlias row (unused text List.mem_cons_self) target
    have grown : Grows tables {tables with aliases := tables.aliases ++ [row]} :=
      ⟨rfl,⟨[],(List.append_nil _).symm⟩,⟨[row],rfl⟩⟩
    unfold insertEntityAliases
    apply Statement.meets_bind
    refine insertEntityAlias_rule (admitted ▸ Outcome.FailsOnly.ok ()) ?_
    have later := ih inserted target distinct.2 (fun other listed used member => by
      rcases List.mem_append.mp member with known | last
      · exact unused other (List.mem_cons_of_mem text listed) used known
      · rw [List.mem_singleton.mp last]
        intro same
        exact distinct.1 (List.mem_map.mpr ⟨other,listed,same.symm⟩))
    apply Statement.meets_mono later _ (fun _ refused => refused)
    intro _ left kept
    exact ⟨kept.1,grown.trans kept.2.1,kept.2.2⟩

theorem MemoryNormalizers.entityAliases_distinct (label : String) (path : Option String) :
    ((normalizers.entityAliases label path).map normalizers.normalizeAlias).Nodup := by
  unfold MemoryNormalizers.entityAliases
  cases path with
  | none => exact List.nodup_singleton _
  | some path =>
    dsimp only
    by_cases same : normalizers.normalizeAlias label =
        normalizers.normalizeAlias ((MemoryNormalizers.segments path).getLastD "")
    · rw [if_pos same]
      exact List.nodup_singleton _
    · rw [if_neg same]
      exact List.nodup_cons.mpr ⟨fun member => same (List.mem_singleton.mp member),List.nodup_singleton _⟩

/-- `createEntity` inserts the entity and then its aliases, under keys that were free. -/
theorem createEntity_rule {post : Entity → MemoryTables → Prop} {refused : MemoryError → Prop}
    {source : MemorySource} {kind : EntityKind} {label : String} {path : Option String}
    (clash : ∀ error, MemoryError.Refusal error → refused error)
    (inserted : (∀ text ∈ normalizers.entityAliases label path, ∀ row ∈ tables.aliases,
        row.aliasNorm ≠ normalizers.normalizeAlias text) →
      (insertEntityAliases normalizers (UniqueIndex.nextId Entity.id tables.entities) source now
        (normalizers.entityAliases label path)).Meets
        {tables with entities := tables.entities ++
          [⟨UniqueIndex.nextId Entity.id tables.entities,kind,path,label,.active,now,now⟩]}
        (fun _ left =>
          (left.entityById (UniqueIndex.nextId Entity.id tables.entities) = none →
            refused (.validation "entity" "was not created")) ∧
          ∀ entity, left.entityById (UniqueIndex.nextId Entity.id tables.entities) = some entity → post entity left)
        refused) :
    (createEntity normalizers source kind label path now).Meets tables post refused := by
  unfold createEntity
  apply Statement.meets_bind
  apply Statement.meets_mono (requireFreeAliases_meets _) _ clash
  intro _ checked unused
  obtain ⟨rfl,free⟩ := unused
  apply Statement.meets_bind
  apply insertEntity_rule
  apply Statement.meets_bind
  apply Statement.meets_mono (inserted free) _ (fun _ failed => failed)
  intro _ left ends
  apply Statement.meets_bind
  apply Statement.meets_select
  cases found : left.entityById (UniqueIndex.nextId Entity.id checked.entities) with
  | none => exact Statement.meets_raise (ends.1 found)
  | some entity => exact Statement.meets_pure (ends.2 entity found)

theorem createEntity_meets (consistent : Consistent normalizers tables) (source : MemorySource)
    (kind : EntityKind) (label : String) (path : Option String) :
    (createEntity normalizers source kind label path now).Meets tables
      (fun entity left => Consistent normalizers left ∧ Grows tables left ∧ entity ∈ left.entities ∧
        tables.hasEntity entity.id = false)
      MemoryError.Refusal := by
  let entity : Entity := ⟨UniqueIndex.nextId Entity.id tables.entities,kind,path,label,.active,now,now⟩
  have fresh : tables.hasEntity entity.id = false := by
    rw [← Bool.not_eq_true,hasEntity_iff]
    intro ⟨other,member,same⟩
    exact Nat.lt_irrefl _ (same ▸ UniqueIndex.lt_nextId Entity.id member)
  have stored : entity ∈ tables.entities ++ [entity] := List.mem_append_right _ List.mem_cons_self
  have grown : Grows tables {tables with entities := tables.entities ++ [entity]} :=
    ⟨rfl,⟨[entity],rfl⟩,⟨[],(List.append_nil _).symm⟩⟩
  refine createEntity_rule (fun _ refused => refused) (fun free => ?_)
  apply Statement.meets_mono (insertEntityAliases_meets (consistent.insertEntity kind path label now)
    (hasEntity_iff.mpr ⟨entity,stored,rfl⟩) source _ (MemoryNormalizers.entityAliases_distinct label path) free)
    _ (fun _ refused => refused)
  intro _ left kept
  obtain ⟨whole,grows,same⟩ := kept
  have present : entity ∈ left.entities := by
    rw [same]
    exact stored
  have found : left.entityById (UniqueIndex.nextId Entity.id tables.entities) = some entity :=
    whole.entityById present
  rw [found]
  refine ⟨fun _ => rfl,fun created same => ?_⟩
  obtain rfl := Option.some.inj same
  exact ⟨whole,grown.trans grows,present,fresh⟩

theorem aliasedEntity_meets (id : Nat) (kind : EntityKind) :
    (aliasedEntity id kind).Meets tables
      (fun entity left => left = tables ∧ entity ∈ tables.entities) MemoryError.Refusal := by
  unfold aliasedEntity
  apply Statement.meets_bind
  apply Statement.meets_select
  cases found : tables.entityById id with
  | none => exact Statement.meets_raise rfl
  | some entity =>
    by_cases other : entity.kind ≠ kind
    · simp only [if_pos other]
      exact Statement.meets_raise rfl
    · simp only [if_neg other]
      exact ⟨rfl,List.mem_of_find?_eq_some found⟩

/-- An entity that was resolved is stored; one that no memory can refer to yet was created. -/
structure Resolved (normalizers : MemoryNormalizers) (before : MemoryTables) (entity : Option Entity)
    (after : MemoryTables) : Prop where
  consistent : Consistent normalizers after
  grows : Grows before after
  stored : ∀ found, entity = some found → found ∈ after.entities
  known : after = before ∨ ∃ created, entity = some created ∧ before.hasEntity created.id = false

theorem namedEntity_meets (consistent : Consistent normalizers tables) (source : MemorySource)
    (kind : EntityKind) (label : String) (path : Option String) :
    (namedEntity normalizers source kind label path now).Meets tables
      (fun entity left => Resolved normalizers tables (some entity) left) MemoryError.Refusal := by
  unfold namedEntity
  apply Statement.meets_bind
  apply Statement.meets_select
  cases tables.entityIdByAlias (normalizers.normalizeAlias label) with
  | some id =>
    apply Statement.meets_mono (aliasedEntity_meets id kind) _ (fun _ refused => refused)
    intro entity left kept
    obtain ⟨rfl,member⟩ := kept
    exact ⟨consistent,Grows.refl left,fun found same => Option.some.inj same ▸ member,Or.inl rfl⟩
  | none =>
    apply Statement.meets_mono (createEntity_meets consistent source kind label path) _ (fun _ refused => refused)
    intro entity left kept
    exact ⟨kept.1,kept.2.1,fun found same => Option.some.inj same ▸ kept.2.2.1,
      Or.inr ⟨entity,rfl,kept.2.2.2⟩⟩

theorem MemoryNormalizers.normalizeLabel_refused (label : String) :
    Outcome.FailsOnly MemoryError.Refusal (normalizers.normalizeLabel label) := by
  unfold MemoryNormalizers.normalizeLabel
  split
  · exact Outcome.FailsOnly.error rfl
  · exact Outcome.FailsOnly.ok _

theorem MemoryNormalizers.normalizePath_refused (path : String) :
    Outcome.FailsOnly MemoryError.Refusal (normalizers.normalizePath path) := by
  unfold MemoryNormalizers.normalizePath
  split
  · exact Outcome.FailsOnly.error rfl
  · split
    · exact Outcome.FailsOnly.error rfl
    · exact Outcome.FailsOnly.ok _

theorem NewMemory.entityName_refused (memory : NewMemory) :
    Outcome.FailsOnly MemoryError.Refusal (memory.entityName normalizers) := by
  unfold NewMemory.entityName
  split
  · split
    · exact Outcome.FailsOnly.error rfl
    · exact Outcome.FailsOnly.ok _
  · apply Outcome.FailsOnly.bind (MemoryNormalizers.normalizeLabel_refused _)
    intro label _
    split
    · exact Outcome.FailsOnly.error rfl
    · split
      · exact Outcome.FailsOnly.ok _
      · apply Outcome.FailsOnly.bind (MemoryNormalizers.normalizePath_refused _)
        exact fun path _ => Outcome.FailsOnly.ok _

theorem resolveEntity_meets (consistent : Consistent normalizers tables) (memory : NewMemory) :
    (resolveEntity normalizers memory now).Meets tables (Resolved normalizers tables) MemoryError.Refusal := by
  unfold resolveEntity
  apply Statement.meets_bind
  apply Statement.meets_ofExcept
  · intro name _
    cases name with
    | none =>
      exact Statement.meets_pure ⟨consistent,Grows.refl tables,fun _ absent => (nomatch absent),Or.inl rfl⟩
    | some name =>
      obtain ⟨label,kind,path⟩ := name
      apply Statement.meets_bind
      exact namedEntity_meets consistent memory.source kind label path
  · exact NewMemory.entityName_refused memory

theorem requireEntityCapacity_meets (consistent : Consistent normalizers tables) :
    requireEntityCapacity.Meets tables (fun _ left => left = tables ∧ Sound normalizers left) MemoryError.Refusal := by
  unfold requireEntityCapacity
  apply Statement.meets_bind
  apply Statement.meets_select
  by_cases crowded : tables.entities.length > maxEntityRows
  · rw [if_pos crowded]
    exact Statement.meets_raise rfl
  · rw [if_neg crowded]
    apply Statement.meets_bind
    apply Statement.meets_select
    by_cases named : tables.aliases.length > maxEntityAliasRows
    · rw [if_pos named]
      exact Statement.meets_raise rfl
    · rw [if_neg named]
      exact ⟨rfl,consistent,Nat.le_of_not_lt crowded,Nat.le_of_not_lt named⟩

end Entities

namespace NewMemory

theorem checkDate_refused (memory : NewMemory) : Outcome.FailsOnly MemoryError.Refusal memory.checkDate := by
  unfold checkDate
  split
  · split
    · exact Outcome.FailsOnly.error rfl
    · exact Outcome.FailsOnly.ok _
  · split
    · exact Outcome.FailsOnly.error rfl
    · split
      · exact Outcome.FailsOnly.error rfl
      · exact Outcome.FailsOnly.ok _

theorem checkBytes_refused (field : String) (value : Option String) (maximum : Nat) :
    Outcome.FailsOnly MemoryError.Refusal (checkBytes field value maximum) := by
  unfold checkBytes
  split
  · exact Outcome.FailsOnly.error rfl
  · exact Outcome.FailsOnly.ok _

theorem checkRecord_refused (memory : NewMemory) : Outcome.FailsOnly MemoryError.Refusal memory.checkRecord := by
  unfold checkRecord
  split
  · exact Outcome.FailsOnly.error rfl
  · exact Outcome.FailsOnly.ok _

theorem checkLeadDays_refused (memory : NewMemory) : Outcome.FailsOnly MemoryError.Refusal memory.checkLeadDays := by
  unfold checkLeadDays
  split
  · exact Outcome.FailsOnly.error rfl
  · exact Outcome.FailsOnly.ok _

theorem validate_refused (memory : NewMemory) : Outcome.FailsOnly MemoryError.Refusal memory.validate := by
  unfold validate
  apply Outcome.FailsOnly.bind (checkDate_refused memory)
  intro _ _
  apply Outcome.FailsOnly.bind (checkBytes_refused _ _ _)
  intro _ _
  apply Outcome.FailsOnly.bind (checkBytes_refused _ _ _)
  intro _ _
  apply Outcome.FailsOnly.bind (checkBytes_refused _ _ _)
  intro _ _
  apply Outcome.FailsOnly.bind (checkBytes_refused _ _ _)
  intro _ _
  apply Outcome.FailsOnly.bind (checkRecord_refused memory)
  intro _ _
  exact checkLeadDays_refused memory

theorem anchorDate_last : anchorDate "9999-12-31" = none := by decide +kernel

/-- What the trigger of the table would refuse, validation has refused before. -/
theorem validate_bounds {memory : NewMemory} (valid : memory.validate = .ok ()) :
    0 ≤ memory.leadDays ∧ memory.leadDays ≤ 366 ∧ memory.dateAnchor ≠ some "9999-12-31" := by
  unfold validate at valid
  simp only [Outcome.bind_ok_iff] at valid
  obtain ⟨_,dated,_,_,_,_,_,_,_,_,_,_,leading⟩ := valid
  unfold checkLeadDays maxMemoryLeadDays at leading
  split at leading
  · cases leading
  · rename_i bounds
    refine ⟨by omega,by omega,fun last => ?_⟩
    rw [checkDate,last] at dated
    simp only [anchorDate_last,Option.isNone_none,if_true] at dated
    cases dated

end NewMemory
namespace MemoryRow

def SharesKey (first second : MemoryRow) : Prop :=
  (∃ key, first.datedFactKey = some key ∧ second.datedFactKey = some key) ∨
    ∃ key, first.freeDatedKey = some key ∧ second.freeDatedKey = some key

theorem datedFactKey_eq_some {row : MemoryRow} {entityId : Nat} {attr : MemoryAttribute} {date : String} :
    row.datedFactKey = some (entityId,attr,date) ↔
      row.archived = false ∧ row.memoryAttribute = attr ∧ attr ≠ .free ∧ row.entityId = some entityId ∧
        row.dateAnchor = some date := by
  unfold datedFactKey
  rw [Option.ite_none_left_eq_some,not_or,Bool.not_eq_true]
  simp only [Option.bind_eq_some_iff,Option.map_eq_some_iff,Prod.mk.injEq]
  constructor
  · intro ⟨⟨active,kept⟩,_,entity,_,dated,same,attributed,date⟩
    exact ⟨active,attributed,attributed ▸ kept,same ▸ entity,date ▸ dated⟩
  · intro ⟨active,attributed,kept,entity,dated⟩
    exact ⟨⟨active,attributed ▸ kept⟩,entityId,entity,date,dated,rfl,attributed,rfl⟩

theorem freeDatedKey_eq_some {row : MemoryRow} {kind : MemoryKind} {entityId : Nat} {date : String}
    {recurrence : MemoryRecurrence} {contentNorm : String} :
    row.freeDatedKey = some (kind,entityId,date,recurrence,contentNorm) ↔
      row.archived = false ∧ row.memoryAttribute = .free ∧ row.dateAnchor = some date ∧ row.kind = kind ∧
        row.entityId.getD 0 = entityId ∧ row.recurrence = recurrence ∧ row.contentNorm = contentNorm := by
  unfold freeDatedKey
  rw [Option.ite_none_left_eq_some,not_or,Bool.not_eq_true,not_not]
  simp only [Option.map_eq_some_iff,Prod.mk.injEq]
  constructor
  · intro ⟨⟨active,free⟩,_,dated,kind,entity,date,recurrence,content⟩
    exact ⟨active,free,date ▸ dated,kind,entity,recurrence,content⟩
  · intro ⟨active,free,dated,kind,entity,recurrence,content⟩
    exact ⟨⟨active,free⟩,date,dated,kind,entity,rfl,recurrence,content⟩

theorem not_taken {others : List MemoryRow} {row : MemoryRow} (apart : ∀ other ∈ others, ¬ other.SharesKey row) :
    UniqueIndex.taken datedFactKey others row = false ∧ UniqueIndex.taken freeDatedKey others row = false := by
  constructor
  · rw [← Bool.not_eq_true,UniqueIndex.taken_iff]
    intro ⟨key,own,other,member,same⟩
    exact apart other member (Or.inl ⟨key,same,own⟩)
  · rw [← Bool.not_eq_true,UniqueIndex.taken_iff]
    intro ⟨key,own,other,member,same⟩
    exact apart other member (Or.inr ⟨key,same,own⟩)

theorem sharesKey_none {other row : MemoryRow} (undated : row.datedFactKey = none)
    (unfree : row.freeDatedKey = none) : ¬ other.SharesKey row := by
  intro shares
  rcases shares with ⟨key,_,own⟩ | ⟨key,_,own⟩
  · rw [undated] at own
    cases own
  · rw [unfree] at own
    cases own

theorem sharesKey_dated {other row : MemoryRow} {key : Nat × MemoryAttribute × String}
    (dated : row.datedFactKey = some key) (unfree : row.freeDatedKey = none) :
    other.SharesKey row ↔ other.datedFactKey = some key := by
  constructor
  · intro shares
    rcases shares with ⟨_,same,own⟩ | ⟨_,_,own⟩
    · exact same.trans (own.symm.trans dated)
    · rw [unfree] at own
      cases own
  · exact fun same => Or.inl ⟨key,same,dated⟩

theorem sharesKey_free {other row : MemoryRow} {key : MemoryKind × Nat × String × MemoryRecurrence × String}
    (undated : row.datedFactKey = none) (free : row.freeDatedKey = some key) :
    other.SharesKey row ↔ other.freeDatedKey = some key := by
  constructor
  · intro shares
    rcases shares with ⟨_,_,own⟩ | ⟨_,same,own⟩
    · rw [undated] at own
      cases own
    · exact same.trans (own.symm.trans free)
  · exact fun same => Or.inr ⟨key,same,free⟩

/-- The row holds what the indexes see of the memory. -/
structure Carries (normalizers : MemoryNormalizers) (memory : NewMemory) (entityId : Option Nat)
    (row : MemoryRow) : Prop where
  kind : row.kind = memory.kind
  entity : row.entityId = entityId
  memoryAttribute : row.memoryAttribute = memory.memoryAttribute
  contentNorm : row.contentNorm = normalizers.normalizeContent memory.content
  dateAnchor : row.dateAnchor = memory.dateAnchor
  recurrence : row.recurrence = memory.recurrence

end MemoryRow

namespace MemoryTables
variable {normalizers : MemoryNormalizers} {tables : MemoryTables} {memory : NewMemory} {row : MemoryRow}

theorem freeDatedDuplicate_iff {kind : MemoryKind} {entityId : Option Nat} {date : String}
    {recurrence : MemoryRecurrence} {contentNorm : String} {excludingId : Option Nat} :
    freeDatedDuplicate (kind,entityId,some date,recurrence,contentNorm) excludingId row = true ↔
      some row.id ≠ excludingId ∧
        row.freeDatedKey = some (kind,entityId.getD 0,date,recurrence,contentNorm) := by
  rw [MemoryRow.freeDatedKey_eq_some]
  simp only [freeDatedDuplicate,Bool.and_eq_true,beq_iff_eq,bne_iff_ne,Bool.not_eq_true',Option.isSome_some]
  tauto

theorem datedDuplicate_iff {entityId : Nat} {attr : MemoryAttribute} {date : String}
    {excludingId : Option Nat} (kept : attr ≠ .free) :
    datedDuplicate entityId attr date excludingId row = true ↔
      some row.id ≠ excludingId ∧ row.datedFactKey = some (entityId,attr,date) := by
  rw [MemoryRow.datedFactKey_eq_some]
  simp only [datedDuplicate,Bool.and_eq_true,beq_iff_eq,bne_iff_ne,Bool.not_eq_true']
  tauto

/-- The lookup finds the first other row that an index takes for the row of the memory. -/
theorem datedDuplicateId_eq (tables : MemoryTables) {entityId : Option Nat} (excludingId : Option Nat)
    (carries : row.Carries normalizers memory entityId) (active : row.archived = false) :
    ∃ duplicate : MemoryRow → Bool,
      tables.datedDuplicateId normalizers memory entityId excludingId =
        (tables.items.find? duplicate).map MemoryRow.id ∧
      ∀ other, duplicate other = true ↔ some other.id ≠ excludingId ∧ other.SharesKey row := by
  have nowhere (undated : row.datedFactKey = none) (unfree : row.freeDatedKey = none) :
      ∃ duplicate : MemoryRow → Bool,
        none = (tables.items.find? duplicate).map MemoryRow.id ∧
        ∀ other, duplicate other = true ↔ some other.id ≠ excludingId ∧ other.SharesKey row := by
    have missed : tables.items.find? (fun _ => false) = none := List.find?_eq_none.mpr (by simp)
    refine ⟨fun _ => false,by rw [missed,Option.map_none],fun other => ?_⟩
    constructor
    · exact fun found => nomatch found
    · exact fun found => absurd found.2 (MemoryRow.sharesKey_none undated unfree)
  unfold datedDuplicateId
  cases dated : memory.dateAnchor with
  | none =>
    apply nowhere
    · rw [MemoryRow.datedFactKey,carries.dateAnchor,dated]
      simp
    · rw [MemoryRow.freeDatedKey,carries.dateAnchor,dated]
      simp
  | some date =>
    dsimp only
    by_cases free : memory.memoryAttribute = .free
    · rw [if_pos free]
      refine ⟨_,rfl,fun other => ?_⟩
      have unfact : row.datedFactKey = none := by
        rw [MemoryRow.datedFactKey,if_pos (Or.inr (carries.memoryAttribute.trans free))]
      have keyed : row.freeDatedKey = some (memory.kind,entityId.getD 0,date,memory.recurrence,
          normalizers.normalizeContent memory.content) :=
        MemoryRow.freeDatedKey_eq_some.mpr ⟨active,carries.memoryAttribute.trans free,
          carries.dateAnchor.trans dated,carries.kind,by rw [carries.entity],carries.recurrence,carries.contentNorm⟩
      rw [MemoryRow.sharesKey_free unfact keyed,freeDatedMemoryKey,NewMemory.freeDated,dated]
      exact freeDatedDuplicate_iff
    · rw [if_neg free]
      have unfree : row.freeDatedKey = none := by
        rw [MemoryRow.freeDatedKey,carries.memoryAttribute,if_pos (Or.inr free)]
      cases entityId with
      | none =>
        apply nowhere _ unfree
        rw [MemoryRow.datedFactKey,carries.entity]
        simp
      | some entityId =>
        refine ⟨_,rfl,fun other => ?_⟩
        have keyed : row.datedFactKey = some (entityId,memory.memoryAttribute,date) :=
          MemoryRow.datedFactKey_eq_some.mpr ⟨active,carries.memoryAttribute,free,carries.entity,
            carries.dateAnchor.trans dated⟩
        rw [MemoryRow.sharesKey_dated keyed unfree]
        exact datedDuplicate_iff free

end MemoryTables

namespace MemoryTables
variable {normalizers : MemoryNormalizers} {tables : MemoryTables} {row : MemoryRow} {now : Int}

structure Fits (normalizers : MemoryNormalizers) (tables : MemoryTables) (others : List MemoryRow)
    (row : MemoryRow) : Prop where
  bounds : 0 ≤ row.leadDays ∧ row.leadDays ≤ 366 ∧ row.dateAnchor ≠ some "9999-12-31"
  apart : ∀ other ∈ others, row.archived = false → ¬ other.SharesKey row
  reference : ∀ id, row.entityId = some id → tables.hasEntity id = true
  normalized : row.contentNorm = normalizers.normalizeContent row.content

variable {others : List MemoryRow}

theorem Fits.free (fits : Fits normalizers tables others row) :
    UniqueIndex.taken MemoryRow.datedFactKey others row = false ∧
      UniqueIndex.taken MemoryRow.freeDatedKey others row = false := by
  cases archived : row.archived with
  | false => exact MemoryRow.not_taken (fun other member => fits.apart other member archived)
  | true =>
    apply MemoryRow.not_taken
    intro other _
    apply MemoryRow.sharesKey_none
    · rw [MemoryRow.datedFactKey,if_pos (Or.inl archived)]
    · rw [MemoryRow.freeDatedKey,if_pos (Or.inl archived)]

theorem Fits.admitted (fits : Fits normalizers tables others row) : tables.admitRow others row = .ok () := by
  obtain ⟨low,high,before⟩ := fits.bounds
  have inside : ¬ (row.leadDays < 0 ∨ row.leadDays > 366 ∨ row.dateAnchor = some "9999-12-31") := by
    rintro (below | above | last)
    · omega
    · omega
    · exact before last
  have referred : ¬ row.entityId.any (fun id => !tables.hasEntity id) = true := by
    rw [Option.any_eq_true]
    intro ⟨id,named,missing⟩
    rw [fits.reference id named] at missing
    cases missing
  rw [admitRow,if_neg inside,fits.free.1,fits.free.2,if_neg Bool.false_ne_true,if_neg Bool.false_ne_true,
    if_neg referred]

theorem Consistent.insertItem (consistent : Consistent normalizers tables)
    (fits : Fits normalizers tables tables.items row) (fresh : ∀ other ∈ tables.items, other.id ≠ row.id) :
    Consistent normalizers {tables with items := tables.items ++ [row]} := by
  refine ⟨?_,consistent.entityIds,consistent.positive,consistent.aliasNorms,consistent.targets,?_,?_,
    UniqueIndex.unique_append consistent.datedFacts fits.free.1,
    UniqueIndex.unique_append consistent.freeDated fits.free.2⟩
  · rw [List.map_append,List.nodup_append]
    refine ⟨consistent.itemIds,List.nodup_singleton _,fun id listed other last same => ?_⟩
    obtain ⟨known,member,rfl⟩ := List.mem_map.mp listed
    exact fresh known member (same.trans (List.mem_singleton.mp last))
  · intro other member
    rcases List.mem_append.mp member with known | last
    · exact consistent.references other known
    · rw [List.mem_singleton.mp last]
      exact fits.reference
  · intro other member
    rcases List.mem_append.mp member with known | last
    · exact consistent.normalized other known
    · rw [List.mem_singleton.mp last]
      exact fits.normalized

theorem Consistent.replaceItem (consistent : Consistent normalizers tables) {change : MemoryRow → MemoryRow}
    (member : row ∈ tables.items) (named : (change row).id = row.id)
    (fits : Fits normalizers tables (tables.others row.id) (change row)) :
    Consistent normalizers
      {tables with items := Table.updateWhere (fun other => other.id == row.id) change tables.items} := by
  obtain ⟨front,back,split,apart⟩ := Table.split_key consistent.itemIds member
  have others : tables.others row.id = front ++ back := by
    rw [MemoryTables.others,split,Table.filter_split apart]
  have written : Table.updateWhere (fun other => other.id == row.id) change tables.items =
      front ++ change row::back := by
    rw [split,Table.updateWhere_split apart]
  have sameIds : (front ++ change row::back).map MemoryRow.id = tables.items.map MemoryRow.id := by
    rw [split,List.map_append,List.map_append,List.map_cons,List.map_cons,named]
  have stays {other : MemoryRow} (listed : other ∈ front ++ change row::back) :
      other = change row ∨ other ∈ tables.items := by
    rw [split]
    rcases List.mem_append.mp listed with before | after
    · exact Or.inr (List.mem_append_left _ before)
    · rcases List.mem_cons.mp after with same | later
      · exact Or.inl same
      · exact Or.inr (List.mem_append_right _ (List.mem_cons_of_mem _ later))
  obtain ⟨unfact,unfree⟩ := fits.free
  rw [others] at unfact unfree
  have datedFacts := consistent.datedFacts
  have freeDated := consistent.freeDated
  rw [split,UniqueIndex.unique_middle] at datedFacts freeDated
  rw [written]
  refine ⟨sameIds ▸ consistent.itemIds,consistent.entityIds,consistent.positive,consistent.aliasNorms,
    consistent.targets,?_,?_,
    UniqueIndex.unique_middle.mpr ⟨fun own keyed => UniqueIndex.not_taken unfact keyed,datedFacts.2⟩,
    UniqueIndex.unique_middle.mpr ⟨fun own keyed => UniqueIndex.not_taken unfree keyed,freeDated.2⟩⟩
  · intro other listed
    rcases stays listed with rfl | known
    · exact fits.reference
    · exact consistent.references other known
  · intro other listed
    rcases stays listed with rfl | known
    · exact fits.normalized
    · exact consistent.normalized other known

/-- Updates that give no row a new key or entity. -/
theorem Consistent.updateItems (consistent : Consistent normalizers tables) (selects : MemoryRow → Bool)
    (change : MemoryRow → MemoryRow) (sameId : ∀ row, (change row).id = row.id)
    (sameEntity : ∀ row, (change row).entityId = row.entityId)
    (sameContent : ∀ row, (change row).content = row.content ∧ (change row).contentNorm = row.contentNorm)
    (fact : ∀ row, (change row).datedFactKey = row.datedFactKey ∨ (change row).datedFactKey = none)
    (free : ∀ row, (change row).freeDatedKey = row.freeDatedKey ∨ (change row).freeDatedKey = none) :
    Consistent normalizers {tables with items := Table.updateWhere selects change tables.items} := by
  refine ⟨?_,consistent.entityIds,consistent.positive,consistent.aliasNorms,consistent.targets,?_,?_,
    UniqueIndex.unique_updateWhere consistent.datedFacts fact,
    UniqueIndex.unique_updateWhere consistent.freeDated free⟩
  · change ((Table.updateWhere selects change tables.items).map _).Nodup
    rw [Table.updateWhere_map _ _ _ _ sameId]
    exact consistent.itemIds
  · intro other listed
    rcases (Table.mem_updateWhere _ _ _ _).mp listed with ⟨old,known,_,rfl⟩ | ⟨known,_⟩
    · rw [sameEntity]
      exact consistent.references old known
    · exact consistent.references other known
  · intro other listed
    rcases (Table.mem_updateWhere _ _ _ _).mp listed with ⟨old,known,_,rfl⟩ | ⟨known,_⟩
    · rw [(sameContent old).1,(sameContent old).2]
      exact consistent.normalized old known
    · exact consistent.normalized other known

theorem Consistent.touched (consistent : Consistent normalizers tables) (id : Nat) :
    Consistent normalizers (tables.touched id now) :=
  consistent.updateItems _ (fun row => {row with updatedAt := now}) (fun _ => rfl) (fun _ => rfl)
    (fun _ => ⟨rfl,rfl⟩) (fun _ => Or.inl rfl) (fun _ => Or.inl rfl)

theorem Consistent.shelved (consistent : Consistent normalizers tables) (id : Nat) :
    Consistent normalizers (tables.shelved id now) := by
  apply consistent.updateItems _ (fun row => {row with archived := true, updatedAt := now}) (fun _ => rfl)
    (fun _ => rfl) (fun _ => ⟨rfl,rfl⟩)
  · intro row
    right
    rw [MemoryRow.datedFactKey,if_pos (Or.inl rfl)]
  · intro row
    right
    rw [MemoryRow.freeDatedKey,if_pos (Or.inl rfl)]

end MemoryTables

section Calls
variable {normalizers : MemoryNormalizers} {tables : MemoryTables} {memory : NewMemory} {now : Int}
  {entityId : Option Nat}

theorem readMemory_meets {post : MemoryItem → MemoryTables → Prop} {id : Nat}
    (found : ∀ item, tables.memoryById id = some item → post item tables) :
    (readMemory id).Meets tables post MemoryError.Refusal := by
  unfold readMemory
  apply Statement.meets_bind
  apply Statement.meets_select
  cases read : tables.memoryById id with
  | none => exact Statement.meets_raise rfl
  | some item => exact Statement.meets_pure (found item read)

theorem insertMemoryItem_meets (sound : Sound normalizers tables) {fresh : Nat → MemoryRow}
    (named : ∀ id, (fresh id).id = id) (fits : ∀ id, Fits normalizers tables tables.items (fresh id)) :
    (insertMemoryItem fresh).Meets tables (fun _ left => Sound normalizers left) MemoryError.Refusal := by
  let id := UniqueIndex.nextId MemoryRow.id tables.items
  refine insertMemoryItem_rule ((fits id).admitted ▸ Outcome.FailsOnly.ok ()) ?_
  refine ⟨sound.insertItem (fits id) (fun other member same => ?_),sound.entityCapacity,sound.aliasCapacity⟩
  have below := UniqueIndex.lt_nextId MemoryRow.id member
  rw [same,named] at below
  exact Nat.lt_irrefl _ below

theorem updateMemoryItem_meets (sound : Sound normalizers tables) (id : Nat) (change : MemoryRow → MemoryRow)
    (named : ∀ row, (change row).id = row.id)
    (fits : ∀ row ∈ tables.items, Fits normalizers tables (tables.others id) (change row)) :
    (updateMemoryItem id change).Meets tables (fun _ left => Sound normalizers left) MemoryError.Refusal := by
  refine updateMemoryItem_rule (fun _ => sound) (fun row member _ => (fits row member).admitted ▸ Outcome.FailsOnly.ok ())
    (fun row member same => ?_)
  subst same
  exact ⟨sound.replaceItem member (named row) (fits row member),sound.entityCapacity,sound.aliasCapacity⟩

theorem datedDuplicateId_none {row : MemoryRow} {excludingId : Option Nat}
    (carries : row.Carries normalizers memory entityId) (active : row.archived = false)
    (missed : tables.datedDuplicateId normalizers memory entityId excludingId = none) :
    ∀ other ∈ tables.items, some other.id ≠ excludingId → ¬ other.SharesKey row := by
  obtain ⟨duplicate,lookup,agrees⟩ := datedDuplicateId_eq tables excludingId carries active
  rw [lookup,Option.map_eq_none_iff,List.find?_eq_none] at missed
  intro other member apart shares
  exact missed other member ((agrees other).mpr ⟨apart,shares⟩)

theorem merge_meets (sound : Sound normalizers tables) (valid : memory.validate = .ok ())
    (reference : ∀ id, entityId = some id → tables.hasEntity id = true) :
    (merge normalizers memory entityId now).Meets tables (fun _ left => Sound normalizers left) MemoryError.Refusal := by
  unfold merge
  apply Statement.meets_bind
  apply Statement.meets_select
  cases duplicate : tables.datedDuplicateId normalizers memory entityId none with
  | some id =>
    apply Statement.meets_bind
    apply Statement.meets_update
    apply readMemory_meets
    exact fun _ _ => ⟨sound.touched id,sound.entityCapacity,sound.aliasCapacity⟩
  | none =>
    apply Statement.meets_bind
    apply Statement.meets_select
    by_cases crowded : tables.activeItems ≥ maxMemoryRows
    · simp only [if_pos crowded]
      exact Statement.meets_raise rfl
    · simp only [if_neg crowded]
      apply Statement.meets_bind
      have inserted : (insertMemoryItem (memory.row normalizers entityId now)).Meets tables
          (fun _ left => Sound normalizers left) MemoryError.Refusal := by
        apply insertMemoryItem_meets sound (fun _ => rfl)
        intro id
        refine ⟨NewMemory.validate_bounds valid,fun other member active => ?_,reference,rfl⟩
        exact datedDuplicateId_none ⟨rfl,rfl,rfl,rfl,rfl,rfl⟩ active duplicate other member (by simp)
      apply Statement.meets_mono inserted _ (fun _ refused => refused)
      exact fun id left kept => readMemory_meets (fun _ _ => kept)

theorem replace_meets (sound : Sound normalizers tables) (valid : memory.validate = .ok ()) (id : Nat)
    (reference : ∀ id, entityId = some id → tables.hasEntity id = true) :
    (replace normalizers id memory entityId now).Meets tables (fun _ left => Sound normalizers left) MemoryError.Refusal := by
  unfold replace
  apply Statement.meets_bind
  apply Statement.meets_select
  cases duplicate : tables.datedDuplicateId normalizers memory entityId (some id) with
  | some other => exact Statement.meets_raise rfl
  | none =>
    apply Statement.meets_bind
    have written : (updateMemoryItem id (memory.columns normalizers entityId now)).Meets tables
        (fun _ left => Sound normalizers left) MemoryError.Refusal := by
      apply updateMemoryItem_meets sound id (memory.columns normalizers entityId now) (fun _ => rfl)
      intro row _
      refine ⟨NewMemory.validate_bounds valid,fun other listed active => ?_,reference,rfl⟩
      obtain ⟨member,apart⟩ := List.mem_filter.mp listed
      refine datedDuplicateId_none ⟨rfl,rfl,rfl,rfl,rfl,rfl⟩ active duplicate other member (fun same => ?_)
      exact bne_iff_ne.mp apart (Option.some.inj same)
    apply Statement.meets_mono written _ (fun _ refused => refused)
    exact fun _ left kept => readMemory_meets (fun _ _ => kept)

/-- The common part of `remember` and `update`: the entity, its budget, and then the rows. -/
theorem resolved_meets (sound : Sound normalizers tables) (finish : Option Nat → MemorySql MemoryItem)
    (finishes : ∀ middle : MemoryTables, Sound normalizers middle → ∀ entityId : Option Nat,
      (∀ id, entityId = some id → middle.hasEntity id = true) →
      (finish entityId).Meets middle (fun _ left => Sound normalizers left) MemoryError.Refusal) :
    Statement.Meets (do
        let entity ← resolveEntity normalizers memory now
        requireEntityCapacity
        finish (entity.map Entity.id))
      tables (fun _ left => Sound normalizers left) MemoryError.Refusal := by
  apply Statement.meets_bind
  apply Statement.meets_mono (resolveEntity_meets sound.toConsistent memory) _ (fun _ refused => refused)
  intro entity middle resolved
  apply Statement.meets_bind
  apply Statement.meets_mono (requireEntityCapacity_meets resolved.consistent) _ (fun _ refused => refused)
  intro _ same kept
  obtain ⟨rfl,bounded⟩ := kept
  apply finishes same bounded
  intro id named
  obtain ⟨found,rfl,rfl⟩ := Option.map_eq_some_iff.mp named
  exact hasEntity_iff.mpr ⟨found,resolved.stored found rfl,rfl⟩

theorem remember_meets (sound : Sound normalizers tables) :
    (remember normalizers memory now).Meets tables (fun _ left => Sound normalizers left) MemoryError.Refusal := by
  unfold remember
  apply Statement.meets_bind
  apply Statement.meets_ofExcept
  · intro _ valid
    apply Statement.meets_immediate
    apply resolved_meets sound (fun entityId => merge normalizers memory entityId now)
    exact fun middle kept entityId reference => merge_meets kept valid reference
  · exact NewMemory.validate_refused memory

theorem update_meets (sound : Sound normalizers tables) (id : Nat) :
    (update normalizers id memory now).Meets tables (fun _ left => Sound normalizers left) MemoryError.Refusal := by
  unfold update
  apply Statement.meets_bind
  apply Statement.meets_ofExcept
  · intro _ valid
    apply Statement.meets_immediate
    apply Statement.meets_bind
    apply readMemory_meets
    intro _ _
    apply resolved_meets sound (fun entityId => replace normalizers id memory entityId now)
    exact fun middle kept entityId reference => replace_meets kept valid id reference
  · exact NewMemory.validate_refused memory

theorem forget_meets (sound : Sound normalizers tables) (id : Nat) :
    (forget id now).Meets tables (fun _ left => Sound normalizers left) MemoryError.Refusal := by
  unfold forget
  apply Statement.meets_bind
  apply readMemory_meets
  intro item _
  by_cases archived : item.archived = true
  · rw [if_pos archived]
    exact Statement.meets_pure sound
  · rw [if_neg archived]
    apply Statement.meets_bind
    apply Statement.meets_update
    exact ⟨sound.shelved id,sound.entityCapacity,sound.aliasCapacity⟩

/-- A call keeps the tables sound when it returns, and never fails on a constraint of the database. -/
theorem body_meets (sound : Sound normalizers tables) (request : MemoryRequest) :
    (request.body normalizers).Meets tables (fun _ left => Sound normalizers left) MemoryError.Refusal := by
  unfold MemoryRequest.body
  cases request.call with
  | remember memory => exact remember_meets sound
  | update id memory => exact update_meets sound id
  | forget id => exact forget_meets sound id

end Calls

end Proactive.Store
