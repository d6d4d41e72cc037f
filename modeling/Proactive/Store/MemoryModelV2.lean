import Mathlib.Data.List.Dedup
import Mathlib.Data.List.Sort
import Mathlib.Data.String.Basic
import Proactive.Library.Outcome
import Proactive.Store.FreeDatedDedupe
import Proactive.Store.MemoryModels

/-! Migration 004: the entity column of memories becomes entities, aliases and references. -/
namespace Proactive.Store
open Proactive.Library

/-- A row of `memory_items` up to version 3. -/
structure MemoryItemV3 where
  id : Nat
  kind : String
  entity : Option String
  content : String
  dateAnchor : Option String
  recurrence : String
  leadDays : Option Int
  source : String
  createdAt : String
  updatedAt : String
  archived : Bool
deriving DecidableEq, Repr

structure MemoryTableV3 where
  rows : List MemoryItemV3
  distinct : (rows.map MemoryItemV3.id).Nodup

structure EntityV4 where
  id : Nat
  kind : String
  path : Option String
  label : String
  status : String
  mergedInto : Option Nat
  createdAt : String
  updatedAt : String
deriving DecidableEq, Repr

structure EntityAliasV4 where
  id : Nat
  entityId : Nat
  aliasText : String
  aliasNorm : String
  source : String
  createdAt : String
deriving DecidableEq, Repr

structure MemorySchemaV4 where
  entities : List EntityV4
  aliases : List EntityAliasV4
  items : List MemoryItemV4
deriving DecidableEq, Repr

namespace MemoryModelV2
variable (normalizers : MemoryNormalizers)

def notNull {α : Type} (column : String) (value : Option α) : Except MigrationError α :=
  match value with
  | none => .error (.notNull column)
  | some value => .ok value

/-- `_proactive_alias_norm(entity)`, where the entity is not null and its key not empty. -/
def aliasKey (row : MemoryItemV3) : Option String :=
  row.entity.bind (fun text =>
    if normalizers.normalizeAlias text = "" then none else some (normalizers.normalizeAlias text))

/-- The groups of `GROUP BY _proactive_alias_norm(entity)`, in the order of their keys. -/
def groupKeys (rows : List MemoryItemV3) : List String :=
  ((rows.filterMap (aliasKey normalizers)).dedup).mergeSort (fun first second => decide (first ≤ second))

def group (rows : List MemoryItemV3) (key : String) : List MemoryItemV3 :=
  rows.filter (fun row => aliasKey normalizers row == some key)

/-- `_proactive_normalize_label(entity)` over a group. -/
def groupLabels (rows : List MemoryItemV3) : Except MigrationError (List String) :=
  (rows.filterMap MemoryItemV3.entity).mapM
    (fun text => (normalizers.normalizeLabel text).mapError (fun _ => .raised))

def insertEntity (rows : List MemoryItemV3) (slot : String × Nat) : Except MigrationError EntityV4 := do
  let members := group normalizers rows slot.1
  let labels ← groupLabels normalizers members
  let label ← notNull "entities.label" labels.min?
  let createdAt ← notNull "entities.created_at" (members.map MemoryItemV3.createdAt).min?
  let updatedAt ← notNull "entities.updated_at" (members.map MemoryItemV3.updatedAt).max?
  return ⟨slot.2,"person",none,label,"active",none,createdAt,updatedAt⟩

/-- Row ids are drawn from 1 on. -/
def insertEntities (rows : List MemoryItemV3) : Except MigrationError (List EntityV4) :=
  ((groupKeys normalizers rows).zipIdx 1).mapM (insertEntity normalizers rows)

/-- The source of the first row of the group, by id. -/
def aliasSource (rows : List MemoryItemV3) (key : String) : Option String :=
  (((group normalizers rows key).mergeSort (fun first second => decide (first.id ≤ second.id))).head?).map
    MemoryItemV3.source

def insertAlias (rows : List MemoryItemV3) (slot : EntityV4 × Nat) : Except MigrationError EntityAliasV4 := do
  let source ← notNull "entity_aliases.source"
    (aliasSource normalizers rows (normalizers.normalizeAlias slot.1.label))
  return ⟨slot.2,slot.1.id,slot.1.label,normalizers.normalizeAlias slot.1.label,source,slot.1.createdAt⟩

/-- `uq_entity_alias_norm` stands before the rows are inserted. -/
def insertAliases (rows : List MemoryItemV3) (entities : List EntityV4) :
    Except MigrationError (List EntityAliasV4) := do
  let aliases ← (entities.zipIdx 1).mapM (insertAlias normalizers rows)
  if (aliases.map EntityAliasV4.aliasNorm).Nodup then .ok aliases
  else .error (.notUnique "uq_entity_alias_norm")

/-- `LEFT JOIN entities`: a row without a match is joined to nulls. -/
def joined (entities : List EntityV4) (row : MemoryItemV3) : List (Option EntityV4) :=
  match entities.filter (fun entity =>
    aliasKey normalizers row == some (normalizers.normalizeAlias entity.label)) with
  | [] => [none]
  | matched => matched.map some

def kindOf (kind : String) : String := if kind = "person_fact" then "fact" else kind

def itemOf (slot : MemoryItemV3 × Option EntityV4) : MemoryItemV4 where
  id := slot.1.id
  kind := kindOf slot.1.kind
  entityId := slot.2.map EntityV4.id
  memoryAttribute := "free"
  supersedesId := none
  content := slot.1.content
  dateAnchor := slot.1.dateAnchor
  recurrence := slot.1.recurrence
  leadDays := slot.1.leadDays
  source := slot.1.source
  createdAt := slot.1.createdAt
  updatedAt := slot.1.updatedAt
  archived := slot.1.archived

def insertItem (slot : MemoryItemV3 × Option EntityV4) : Except MigrationError MemoryItemV4 :=
  if kindOf slot.1.kind ∈ ["fact","commitment","preference","note"] then .ok (itemOf slot)
  else .error (.check "memory_items.kind")

def insertItems (rows : List MemoryItemV3) (entities : List EntityV4) :
    Except MigrationError (List MemoryItemV4) := do
  let slots := rows.flatMap (fun row => (joined normalizers entities row).map (fun entity => (row,entity)))
  let items ← slots.mapM insertItem
  if (items.map MemoryItemV4.id).Nodup then .ok items else .error (.notUnique "memory_items.id")

/-- `uq_memory_dated_fact`. A null in a key equals nothing. -/
def datedFactKey (row : MemoryItemV4) : Option (Nat × String × String) :=
  if !row.archived && row.memoryAttribute != "free" then
    row.entityId.bind (fun entityId => row.dateAnchor.map (fun date => (entityId,row.memoryAttribute,date)))
  else none

def createIndex (items : List MemoryItemV4) : Except MigrationError Unit :=
  if UniqueIndex.Unique datedFactKey items then .ok () else .error (.notUnique "uq_memory_dated_fact")

/-- `004_memory_model_v2`. -/
def migrate (rows : List MemoryItemV3) : Except MigrationError MemorySchemaV4 := do
  let entities ← insertEntities normalizers rows
  let aliases ← insertAliases normalizers rows entities
  let items ← insertItems normalizers rows entities
  createIndex items
  return ⟨entities,aliases,items⟩

section
variable {normalizers} {rows : List MemoryItemV3} {row : MemoryItemV3} {key : String}

theorem aliasKey_eq_some :
    aliasKey normalizers row = some key ↔
      ∃ text, row.entity = some text ∧ normalizers.normalizeAlias text = key ∧ key ≠ "" := by
  unfold aliasKey
  rw [Option.bind_eq_some_iff]
  constructor
  · intro ⟨text,named,keyed⟩
    by_cases blank : normalizers.normalizeAlias text = ""
    · rw [if_pos blank] at keyed
      cases keyed
    · rw [if_neg blank,Option.some.injEq] at keyed
      exact ⟨text,named,keyed,keyed ▸ blank⟩
  · intro ⟨text,named,keyed,filled⟩
    refine ⟨text,named,?_⟩
    rw [keyed,if_neg filled]

theorem mem_group : row ∈ group normalizers rows key ↔ row ∈ rows ∧ aliasKey normalizers row = some key := by
  rw [group,List.mem_filter,beq_iff_eq]

theorem mem_groupKeys :
    key ∈ groupKeys normalizers rows ↔ ∃ row ∈ rows, aliasKey normalizers row = some key := by
  rw [groupKeys,List.mem_mergeSort,List.mem_dedup,List.mem_filterMap]

theorem groupKeys_nodup : (groupKeys normalizers rows).Nodup :=
  (List.mergeSort_perm _ _).nodup_iff.mpr (List.nodup_dedup _)

theorem min_some {values : List String} (filled : values ≠ []) :
    ∃ least ∈ values, values.min? = some least := by
  cases found : values.min? with
  | none => exact absurd (List.min?_eq_none_iff.mp found) filled
  | some least => exact ⟨least,(List.min?_eq_some_iff.mp found).1,rfl⟩

theorem max_some {values : List String} (filled : values ≠ []) :
    ∃ greatest ∈ values, values.max? = some greatest := by
  cases found : values.max? with
  | none => exact absurd (List.max?_eq_none_iff.mp found) filled
  | some greatest => exact ⟨greatest,(List.max?_eq_some_iff.mp found).1,rfl⟩

/-- What the two normalizers share: a stripped label has the key of the text, and nothing the empty key. -/
def Agree (normalizers : MemoryNormalizers) : Prop :=
  (∀ text, normalizers.normalizeAlias (normalizers.stripped text) = normalizers.normalizeAlias text) ∧
    normalizers.normalizeAlias "" = ""

theorem normalizeLabel_run (agree : Agree normalizers) {text : String}
    (filled : normalizers.normalizeAlias text ≠ "") :
    normalizers.normalizeLabel text = .ok (normalizers.stripped text) := by
  rw [MemoryNormalizers.normalizeLabel,if_neg]
  intro blank
  have same := agree.1 text
  rw [blank,agree.2] at same
  exact filled same.symm

theorem groupLabels_run (agree : Agree normalizers) :
    groupLabels normalizers (group normalizers rows key) =
      .ok (((group normalizers rows key).filterMap MemoryItemV3.entity).map normalizers.stripped) := by
  apply Outcome.mapM_map
  intro text member
  obtain ⟨other,grouped,named⟩ := List.mem_filterMap.mp member
  obtain ⟨text',named',keyed,filled⟩ := aliasKey_eq_some.mp (mem_group.mp grouped).2
  obtain rfl : text = text' := Option.some.inj (named.symm.trans named')
  rw [normalizeLabel_run agree (keyed ▸ filled)]
  rfl

theorem mem_groupLabels (agree : Agree normalizers) {label : String}
    (member : label ∈ ((group normalizers rows key).filterMap MemoryItemV3.entity).map normalizers.stripped) :
    normalizers.normalizeAlias label = key := by
  obtain ⟨text,listed,rfl⟩ := List.mem_map.mp member
  obtain ⟨other,grouped,named⟩ := List.mem_filterMap.mp listed
  obtain ⟨text',named',keyed,_⟩ := aliasKey_eq_some.mp (mem_group.mp grouped).2
  obtain rfl : text = text' := Option.some.inj (named.symm.trans named')
  exact (agree.1 text).trans keyed

theorem insertEntity_run (agree : Agree normalizers) {slot : String × Nat}
    (listed : slot.1 ∈ groupKeys normalizers rows) :
    ∃ entity, insertEntity normalizers rows slot = .ok entity ∧
      (normalizers.normalizeAlias entity.label,entity.id) = slot := by
  obtain ⟨row,present,keyed⟩ := mem_groupKeys.mp listed
  obtain ⟨text,named,_⟩ := aliasKey_eq_some.mp keyed
  have grouped : row ∈ group normalizers rows slot.1 := mem_group.mpr ⟨present,keyed⟩
  have filled (column : MemoryItemV3 → String) : (group normalizers rows slot.1).map column ≠ [] :=
    List.ne_nil_of_mem (List.mem_map_of_mem grouped)
  have labelled : ((group normalizers rows slot.1).filterMap MemoryItemV3.entity).map normalizers.stripped ≠ [] :=
    List.ne_nil_of_mem (List.mem_map_of_mem (List.mem_filterMap.mpr ⟨row,grouped,named⟩))
  obtain ⟨label,among,least⟩ := min_some labelled
  obtain ⟨createdAt,_,earliest⟩ := min_some (filled MemoryItemV3.createdAt)
  obtain ⟨updatedAt,_,latest⟩ := max_some (filled MemoryItemV3.updatedAt)
  refine ⟨⟨slot.2,"person",none,label,"active",none,createdAt,updatedAt⟩,?_,?_⟩
  · unfold insertEntity
    dsimp only
    rw [groupLabels_run agree,earliest,latest]
    change (notNull "entities.label" _ >>= fun _ => _) = _
    rw [least]
    rfl
  · rw [mem_groupLabels agree among]

theorem insertEntities_run (agree : Agree normalizers) (rows : List MemoryItemV3) :
    ∃ entities, insertEntities normalizers rows = .ok entities ∧
      entities.map (fun entity => (normalizers.normalizeAlias entity.label,entity.id)) =
        (groupKeys normalizers rows).zipIdx 1 := by
  have each (slot : String × Nat) (member : slot ∈ (groupKeys normalizers rows).zipIdx 1) :
      ∃ entity, insertEntity normalizers rows slot = .ok entity ∧
        (normalizers.normalizeAlias entity.label,entity.id) = id slot :=
    insertEntity_run agree (List.fst_mem_of_mem_zipIdx member)
  obtain ⟨entities,ran,viewed⟩ := Outcome.mapM_view _ id each
  rw [List.map_id] at viewed
  exact ⟨entities,ran,viewed⟩

structure Complete (normalizers : MemoryNormalizers) (rows : List MemoryItemV3) (entities : List EntityV4) :
    Prop where
  keys : entities.map (fun entity => normalizers.normalizeAlias entity.label) = groupKeys normalizers rows
  ids : (entities.map EntityV4.id).Nodup

theorem insertEntities_complete (agree : Agree normalizers) (rows : List MemoryItemV3) :
    ∃ entities, insertEntities normalizers rows = .ok entities ∧ Complete normalizers rows entities := by
  obtain ⟨entities,ran,viewed⟩ := insertEntities_run agree rows
  have keys := congrArg (List.map Prod.fst) viewed
  have ids := congrArg (List.map Prod.snd) viewed
  rw [List.map_map,List.zipIdx_map_fst] at keys
  rw [List.map_map,List.zipIdx_map_snd] at ids
  refine ⟨entities,ran,keys,?_⟩
  change (entities.map (Prod.snd ∘ fun entity => (normalizers.normalizeAlias entity.label,entity.id))).Nodup
  rw [ids]
  exact List.nodup_range'

variable {entities : List EntityV4}

theorem aliasSource_some (present : row ∈ rows) (keyed : aliasKey normalizers row = some key) :
    ∃ source, aliasSource normalizers rows key = some source := by
  unfold aliasSource
  cases ordered : (group normalizers rows key).mergeSort (fun first second => decide (first.id ≤ second.id)) with
  | nil =>
    have grouped : row ∈ group normalizers rows key := mem_group.mpr ⟨present,keyed⟩
    rw [← List.mem_mergeSort,ordered] at grouped
    cases grouped
  | cons first rest => exact ⟨first.source,rfl⟩

theorem alias_keys_nodup (complete : Complete normalizers rows entities) {aliases : List EntityAliasV4}
    (paired : aliases.map (fun other => (other.aliasNorm,other.entityId)) =
      entities.map (fun entity => (normalizers.normalizeAlias entity.label,entity.id))) :
    (aliases.map EntityAliasV4.aliasNorm).Nodup := by
  have keys := congrArg (List.map Prod.fst) paired
  rw [List.map_map,List.map_map] at keys
  change (aliases.map (Prod.fst ∘ fun other => (other.aliasNorm,other.entityId))).Nodup
  rw [keys]
  change (entities.map (fun entity => normalizers.normalizeAlias entity.label)).Nodup
  rw [complete.keys]
  exact groupKeys_nodup

theorem insertAliases_run (complete : Complete normalizers rows entities) :
    ∃ aliases, insertAliases normalizers rows entities = .ok aliases ∧
      aliases.map (fun other => (other.aliasNorm,other.entityId)) =
        entities.map (fun entity => (normalizers.normalizeAlias entity.label,entity.id)) := by
  have each (slot : EntityV4 × Nat) (member : slot ∈ entities.zipIdx 1) :
      ∃ other, insertAlias normalizers rows slot = .ok other ∧ (other.aliasNorm,other.entityId) =
        ((fun entity : EntityV4 => (normalizers.normalizeAlias entity.label,entity.id)) ∘ Prod.fst) slot := by
    have listed : normalizers.normalizeAlias slot.1.label ∈ groupKeys normalizers rows := by
      rw [← complete.keys]
      exact List.mem_map_of_mem (List.fst_mem_of_mem_zipIdx member)
    obtain ⟨row,present,keyed⟩ := mem_groupKeys.mp listed
    obtain ⟨source,found⟩ := aliasSource_some present keyed
    refine ⟨⟨slot.2,slot.1.id,slot.1.label,normalizers.normalizeAlias slot.1.label,source,slot.1.createdAt⟩,?_,rfl⟩
    unfold insertAlias
    rw [found]
    rfl
  obtain ⟨aliases,ran,viewed⟩ := Outcome.mapM_view _ _ each
  rw [← List.map_map,List.zipIdx_map_fst] at viewed
  refine ⟨aliases,?_,viewed⟩
  unfold insertAliases
  rw [ran]
  exact if_pos (alias_keys_nodup complete viewed)

def entityOf (normalizers : MemoryNormalizers) (entities : List EntityV4) (row : MemoryItemV3) : Option EntityV4 :=
  entities.find? (fun entity => aliasKey normalizers row == some (normalizers.normalizeAlias entity.label))

theorem joined_entityOf (complete : Complete normalizers rows entities) (row : MemoryItemV3) :
    joined normalizers entities row = [entityOf normalizers entities row] := by
  unfold joined entityOf
  rw [← List.head?_filter]
  cases filtered : entities.filter
      (fun entity => aliasKey normalizers row == some (normalizers.normalizeAlias entity.label)) with
  | nil => rfl
  | cons first rest =>
    have keyed (entity : EntityV4) (member : entity ∈ first::rest) :
        entity ∈ entities ∧ aliasKey normalizers row = some (normalizers.normalizeAlias entity.label) := by
      rw [← filtered,List.mem_filter,beq_iff_eq] at member
      exact member
    have distinct : ((first::rest).map (fun entity => normalizers.normalizeAlias entity.label)).Nodup := by
      rw [← filtered]
      refine List.Nodup.sublist (List.filter_sublist.map _) ?_
      rw [complete.keys]
      exact groupKeys_nodup
    cases rest with
    | nil => rfl
    | cons second rest =>
      have one := (keyed first List.mem_cons_self).2
      have two := (keyed second (List.mem_cons_of_mem first List.mem_cons_self)).2
      rw [List.map_cons,List.map_cons,List.nodup_cons] at distinct
      refine absurd ?_ distinct.1
      rw [Option.some.inj (one.symm.trans two)]
      exact List.mem_cons_self

theorem entityOf_none (blank : aliasKey normalizers row = none) : entityOf normalizers entities row = none := by
  apply List.find?_eq_none.mpr
  intro entity _ same
  rw [blank] at same
  cases same

theorem entityOf_some (complete : Complete normalizers rows entities) (present : row ∈ rows)
    (keyed : aliasKey normalizers row = some key) :
    ∃ entity ∈ entities, entityOf normalizers entities row = some entity ∧
      normalizers.normalizeAlias entity.label = key := by
  have listed : key ∈ groupKeys normalizers rows := mem_groupKeys.mpr ⟨row,present,keyed⟩
  rw [← complete.keys] at listed
  obtain ⟨entity,member,labelled⟩ := List.mem_map.mp listed
  cases found : entityOf normalizers entities row with
  | none =>
    refine absurd ?_ (List.find?_eq_none.mp found entity member)
    rw [keyed,labelled,beq_iff_eq]
  | some entity =>
    have same := List.find?_some found
    rw [beq_iff_eq,keyed] at same
    exact ⟨entity,List.mem_of_find?_eq_some found,rfl,(Option.some.inj same).symm⟩

theorem insertItems_run (complete : Complete normalizers rows entities)
    (distinct : (rows.map MemoryItemV3.id).Nodup)
    (valid : ∀ row ∈ rows, row.kind ∈ ["person_fact","fact","commitment","preference","note"]) :
    insertItems normalizers rows entities =
      .ok (rows.map (fun row => itemOf (row,entityOf normalizers entities row))) := by
  have slots : rows.flatMap (fun row =>
      (joined normalizers entities row).map (fun entity => (row,entity))) =
        rows.map (fun row => (row,entityOf normalizers entities row)) := by
    rw [List.map_eq_flatMap]
    apply List.flatMap_congr
    intro row _
    rw [joined_entityOf complete,List.map_singleton]
  have each : ∀ slot ∈ rows.map (fun row => (row,entityOf normalizers entities row)),
      insertItem slot = .ok (itemOf slot) := by
    intro slot member
    obtain ⟨row,present,rfl⟩ := List.mem_map.mp member
    apply if_pos
    have kinds := valid row present
    simp only [List.mem_cons,List.not_mem_nil,or_false] at kinds
    rcases kinds with kind | kind | kind | kind | kind <;> rw [kind] <;> decide
  unfold insertItems
  rw [slots]
  dsimp only
  rw [Outcome.mapM_map each,List.map_map]
  apply if_pos
  rw [List.map_map]
  exact distinct

/-- What a row keeps: all of its columns but the name, and the kind but for the one that is renamed. -/
structure Kept (before : MemoryItemV3) (after : MemoryItemV4) : Prop where
  id : after.id = before.id
  kind : after.kind = if before.kind = "person_fact" then "fact" else before.kind
  content : after.content = before.content
  dateAnchor : after.dateAnchor = before.dateAnchor
  recurrence : after.recurrence = before.recurrence
  leadDays : after.leadDays = before.leadDays
  source : after.source = before.source
  createdAt : after.createdAt = before.createdAt
  updatedAt : after.updatedAt = before.updatedAt
  archived : after.archived = before.archived

theorem itemOf_kept (row : MemoryItemV3) (entity : Option EntityV4) : Kept row (itemOf (row,entity)) :=
  ⟨rfl,rfl,rfl,rfl,rfl,rfl,rfl,rfl,rfl,rfl⟩

structure Carried (normalizers : MemoryNormalizers) (schema : MemorySchemaV4) (before : MemoryItemV3)
    (after : MemoryItemV4) : Prop where
  kept : Kept before after
  free : after.memoryAttribute = "free" ∧ after.supersedesId = none
  named : ∀ key, aliasKey normalizers before = some key →
    ∃! entity, entity ∈ schema.entities ∧ after.entityId = some entity.id
  blank : aliasKey normalizers before = none → after.entityId = none
  resolved : ∀ key, aliasKey normalizers before = some key →
    ∃ other ∈ schema.aliases, other.aliasNorm = key ∧ after.entityId = some other.entityId

theorem entity_unique (complete : Complete normalizers rows entities) {first second : EntityV4}
    (one : first ∈ entities) (two : second ∈ entities) (same : first.id = second.id) : first = second :=
  List.inj_on_of_nodup_map complete.ids one two same

theorem carried (complete : Complete normalizers rows entities) {aliases : List EntityAliasV4}
    (paired : aliases.map (fun other => (other.aliasNorm,other.entityId)) =
      entities.map (fun entity => (normalizers.normalizeAlias entity.label,entity.id)))
    (items : List MemoryItemV4) (present : row ∈ rows) :
    Carried normalizers ⟨entities,aliases,items⟩ row (itemOf (row,entityOf normalizers entities row)) where
  kept := itemOf_kept row _
  free := ⟨rfl,rfl⟩
  named key keyed := by
    obtain ⟨entity,member,found,_⟩ := entityOf_some complete present keyed
    have refers : (itemOf (row,entityOf normalizers entities row)).entityId = some entity.id := by
      rw [found]
      rfl
    refine ⟨entity,⟨member,refers⟩,fun other ⟨among,same⟩ => ?_⟩
    exact entity_unique complete among member (Option.some.inj (same.symm.trans refers))
  blank unnamed := by
    rw [entityOf_none unnamed]
    rfl
  resolved key keyed := by
    obtain ⟨entity,member,found,labelled⟩ := entityOf_some complete present keyed
    have listed := List.mem_map_of_mem
      (f := fun entity : EntityV4 => (normalizers.normalizeAlias entity.label,entity.id)) member
    rw [← paired] at listed
    obtain ⟨other,among,same⟩ := List.mem_map.mp listed
    obtain ⟨named,refers⟩ := Prod.mk.inj same
    refine ⟨other,among,named.trans labelled,?_⟩
    rw [found,refers]
    rfl

/-- Rows are joined to one entity exactly if their names have one key. -/
theorem entityOf_shared (complete : Complete normalizers rows entities) {other : MemoryItemV3}
    (present : row ∈ rows) :
    (∃ id, (entityOf normalizers entities row).map EntityV4.id = some id ∧
      (entityOf normalizers entities other).map EntityV4.id = some id) ↔
    ∃ key, aliasKey normalizers row = some key ∧ aliasKey normalizers other = some key := by
  constructor
  · intro ⟨id,one,two⟩
    obtain ⟨first,found,named⟩ := Option.map_eq_some_iff.mp one
    obtain ⟨second,found',named'⟩ := Option.map_eq_some_iff.mp two
    have same : first = second := entity_unique complete (List.mem_of_find?_eq_some found)
      (List.mem_of_find?_eq_some found') (named.trans named'.symm)
    have keyed := List.find?_some found
    have keyed' := List.find?_some found'
    rw [beq_iff_eq] at keyed keyed'
    exact ⟨_,keyed,same ▸ keyed'⟩
  · intro ⟨key,keyed,keyed'⟩
    obtain ⟨entity,_,found,_⟩ := entityOf_some complete present keyed
    have joint : entityOf normalizers entities other = entityOf normalizers entities row := by
      unfold entityOf
      rw [keyed,keyed']
    refine ⟨entity.id,?_,?_⟩
    · rw [found,Option.map_some]
    · rw [joint,found,Option.map_some]

theorem createIndex_run (slots : List (MemoryItemV3 × Option EntityV4)) :
    createIndex (slots.map itemOf) = .ok () := by
  apply if_pos
  have unkeyed : (slots.map itemOf).filterMap datedFactKey = [] := by
    rw [List.filterMap_eq_nil_iff]
    intro item member
    obtain ⟨slot,_,rfl⟩ := List.mem_map.mp member
    apply if_neg
    rw [Bool.and_eq_true,bne_iff_ne]
    exact fun both => both.2 rfl
  rw [UniqueIndex.Unique,unkeyed]
  exact List.nodup_nil

theorem memory_model_v2 (agree : Agree normalizers) (table : MemoryTableV3)
    (valid : ∀ row ∈ table.rows, row.kind ∈ ["person_fact","fact","commitment","preference","note"]) :
    ∃ after, migrate normalizers table.rows = .ok after ∧
      List.Forall₂ (Carried normalizers after) table.rows after.items ∧
      (∀ first ∈ table.rows.zip after.items, ∀ second ∈ table.rows.zip after.items,
        (∃ id, first.2.entityId = some id ∧ second.2.entityId = some id) ↔
          ∃ key, aliasKey normalizers first.1 = some key ∧ aliasKey normalizers second.1 = some key) ∧
      (after.aliases.map EntityAliasV4.aliasNorm).Nodup ∧
      ∀ other ∈ after.aliases, ∃! entity, entity ∈ after.entities ∧ entity.id = other.entityId ∧
        normalizers.normalizeAlias entity.label = other.aliasNorm := by
  obtain ⟨entities,ran,complete⟩ := insertEntities_complete agree table.rows
  obtain ⟨aliases,ran',paired⟩ := insertAliases_run complete
  have items := insertItems_run complete table.distinct valid
  have indexed := createIndex_run (table.rows.map (fun row => (row,entityOf normalizers entities row)))
  rw [List.map_map] at indexed
  refine ⟨⟨entities,aliases,table.rows.map (fun row => itemOf (row,entityOf normalizers entities row))⟩,
    ?_,?_,?_,?_,?_⟩
  · unfold migrate
    rw [ran]
    change (insertAliases normalizers table.rows entities >>= fun _ => _) = _
    rw [ran']
    change (insertItems normalizers table.rows entities >>= fun _ => _) = _
    rw [items]
    change (createIndex (table.rows.map (itemOf ∘ fun row => (row,entityOf normalizers entities row))) >>=
      fun _ => _) = _
    rw [indexed]
    rfl
  · rw [List.forall₂_map_right_iff,List.forall₂_same]
    exact fun row present => carried complete paired _ present
  · have zipped : ∀ pair ∈ table.rows.zip
        (table.rows.map (fun row => itemOf (row,entityOf normalizers entities row))),
        ∃ row ∈ table.rows, (row,itemOf (row,entityOf normalizers entities row)) = pair := by
      intro pair member
      rw [List.zip_map_right,List.zip_eq_zipWith,List.zipWith_self,List.map_map] at member
      exact List.mem_map.mp member
    intro first one second two
    obtain ⟨row,present,rfl⟩ := zipped first one
    obtain ⟨other,_,rfl⟩ := zipped second two
    exact entityOf_shared complete present
  · exact alias_keys_nodup complete paired
  · intro other member
    have listed := List.mem_map_of_mem
      (f := fun other : EntityAliasV4 => (other.aliasNorm,other.entityId)) member
    rw [paired] at listed
    obtain ⟨entity,among,same⟩ := List.mem_map.mp listed
    obtain ⟨named,refers⟩ := Prod.mk.inj same
    exact ⟨entity,⟨among,refers,named⟩,fun entity' ⟨among',refers',_⟩ =>
      entity_unique complete among' among (refers'.trans refers.symm)⟩

end

def plain : MemoryNormalizers where
  stripped text := text
  normalizeAlias text := String.ofList ((text.toList.filter (fun c => c != ' ')).map Char.toLower)
  normalizeContent text := text

def spellings : MemoryTableV3 where
  rows := [⟨1,"person_fact",some "Mia Lee","birthday","1990-05-01","yearly",some 7,"manual","a","a",false⟩,
    ⟨2,"note",some "mia lee","plants",none,"none",none,"manual","b","b",false⟩,
    ⟨3,"note",none,"door",none,"none",none,"manual","c","c",true⟩]
  distinct := by decide

theorem memory_model_v2_spellings :
    ∃ after, migrate plain spellings.rows = .ok after ∧
      List.Forall₂ (Carried plain after) spellings.rows after.items := by
  have agree : Agree plain := ⟨fun _ => rfl,by decide⟩
  obtain ⟨after,ran,carries,_⟩ := memory_model_v2 agree spellings (by decide)
  exact ⟨after,ran,carries⟩

end MemoryModelV2
end Proactive.Store
