import Mathlib.Data.String.Basic
import Proactive.Library.Outcome
import Proactive.Library.UniqueIndex

/-! Migration 012: the canonical content of memories, and one active row for each identity of a
free dated memory. -/
namespace Proactive.Store
open Proactive.Library

/-- A row of `memory_items` from version 4 to version 11. -/
structure MemoryItemV4 where
  id : Nat
  kind : String
  entityId : Option Nat
  memoryAttribute : String
  supersedesId : Option Nat
  content : String
  dateAnchor : Option String
  recurrence : String
  leadDays : Option Int
  source : String
  createdAt : String
  updatedAt : String
  archived : Bool
deriving DecidableEq, Repr

structure MemoryItemV12 extends MemoryItemV4 where
  contentNorm : Option String
deriving DecidableEq, Repr

/-- The table before the migration. SQLite draws row ids from 1 on, so that no entity has the id 0. -/
structure MemoryTableV11 where
  rows : List MemoryItemV4
  distinct : (rows.map MemoryItemV4.id).Nodup
  positive : ∀ row ∈ rows, ∀ id, row.entityId = some id → 0 < id

inductive MigrationError
  | notNull (column : String)
  | check (column : String)
  | notUnique (index : String)
  /-- A function of the application raised inside a statement. -/
  | raised
deriving DecidableEq, Repr

namespace FreeDatedDedupe

def addContentNorm (contentNorm : String → String) (row : MemoryItemV4) : MemoryItemV12 :=
  ⟨row,some (contentNorm row.content)⟩

/-- The rows that all three statements select from. -/
def freeDated (row : MemoryItemV12) : Bool :=
  !row.archived && row.memoryAttribute == "free" && row.dateAnchor.isSome

/-- `member` in a subquery about `keeper`. A null equals nothing. -/
def sameGroup (keeper member : MemoryItemV12) : Bool :=
  freeDated member && member.kind == keeper.kind && member.entityId.getD 0 == keeper.entityId.getD 0 &&
    member.dateAnchor == keeper.dateAnchor && member.recurrence == keeper.recurrence &&
    member.contentNorm.isSome && member.contentNorm == keeper.contentNorm

/-- `MIN(member.id)`. -/
def leastId (rows : List MemoryItemV12) (row : MemoryItemV12) : Option Nat :=
  ((rows.filter (sameGroup row)).map (fun member => member.id)).min?

/-- `MAX(member.updated_at)`. -/
def latest (rows : List MemoryItemV12) (row : MemoryItemV12) : Option String :=
  ((rows.filter (sameGroup row)).map (fun member => member.updatedAt)).max?

/-- The statement reads the table as it stood: no group holds two keepers. -/
def raiseKeeper (rows : List MemoryItemV12) (keeper : MemoryItemV12) : Except MigrationError MemoryItemV12 :=
  if freeDated keeper && some keeper.id == leastId rows keeper then
    match latest rows keeper with
    | none => .error (.notNull "memory_items.updated_at")
    | some updatedAt => .ok {keeper with updatedAt := updatedAt}
  else .ok keeper

/-- The statement reads the table as it stood: it never archives the least row of a group. -/
def archiveLoser (rows : List MemoryItemV12) (loser : MemoryItemV12) : MemoryItemV12 :=
  if freeDated loser && (leastId rows loser).any (fun least => loser.id != least) then
    {loser with archived := true}
  else loser

/-- `uq_memory_free_dated`. -/
def indexKey (row : MemoryItemV12) : Option (String × Nat × String × String × String) :=
  if freeDated row then
    row.dateAnchor.bind (fun date => row.contentNorm.map (fun content =>
      (row.kind,row.entityId.getD 0,date,row.recurrence,content)))
  else none

def createIndex (rows : List MemoryItemV12) : Except MigrationError Unit :=
  if UniqueIndex.Unique indexKey rows then .ok () else .error (.notUnique "uq_memory_free_dated")

/-- `012_free_dated_dedupe`. -/
def migrate (contentNorm : String → String) (rows : List MemoryItemV4) :
    Except MigrationError (List MemoryItemV12) := do
  let normalized := rows.map (addContentNorm contentNorm)
  let raised ← normalized.mapM (raiseKeeper normalized)
  let deduped := raised.map (archiveLoser raised)
  createIndex deduped
  return deduped

/-- The identity that an active free dated memory claims. -/
def identity (contentNorm : String → String) (row : MemoryItemV4) :
    Option (String × Option Nat × String × String × String) :=
  if row.archived = true ∨ row.memoryAttribute ≠ "free" then none
  else row.dateAnchor.map (fun date => (row.kind,row.entityId,date,row.recurrence,contentNorm row.content))

variable {contentNorm : String → String} {table : MemoryTableV11} {row other : MemoryItemV4}
  {key : String × Option Nat × String × String × String}

theorem identity_eq_some {kind : String} {entityId : Option Nat} {date recurrence content : String} :
    identity contentNorm row = some (kind,entityId,date,recurrence,content) ↔
      row.archived = false ∧ row.memoryAttribute = "free" ∧ row.dateAnchor = some date ∧ row.kind = kind ∧
        row.entityId = entityId ∧ row.recurrence = recurrence ∧ contentNorm row.content = content := by
  unfold identity
  rw [Option.ite_none_left_eq_some,not_or,Bool.not_eq_true,not_not]
  simp only [Option.map_eq_some_iff,Prod.mk.injEq]
  constructor
  · intro ⟨⟨active,free⟩,_,dated,kind,entity,date,recurrence,content⟩
    exact ⟨active,free,date ▸ dated,kind,entity,recurrence,content⟩
  · intro ⟨active,free,dated,kind,entity,recurrence,content⟩
    exact ⟨⟨active,free⟩,date,dated,kind,entity,rfl,recurrence,content⟩

theorem freeDated_iff :
    freeDated (addContentNorm contentNorm row) = true ↔ (identity contentNorm row).isSome = true := by
  unfold freeDated identity addContentNorm
  by_cases out : row.archived = true ∨ row.memoryAttribute ≠ "free"
  · rw [if_pos out]
    rcases out with archived | kept
    · simp [archived]
    · simp [kept]
  · rw [if_neg out]
    rw [not_or,Bool.not_eq_true,not_not] at out
    simp [out.1,out.2]

theorem sameGroup_iff (one : row ∈ table.rows) (two : other ∈ table.rows)
    (keyed : identity contentNorm row = some key) :
    sameGroup (addContentNorm contentNorm row) (addContentNorm contentNorm other) = true ↔
      identity contentNorm other = some key := by
  obtain ⟨kind,entityId,date,recurrence,content⟩ := key
  obtain ⟨_,_,dated,kinded,entity,recurring,named⟩ := identity_eq_some.mp keyed
  rw [identity_eq_some]
  simp only [sameGroup,freeDated,addContentNorm,Bool.and_eq_true,beq_iff_eq,Bool.not_eq_true',Option.isSome_some,
    Option.some.injEq,and_true]
  constructor
  · intro ⟨⟨⟨⟨⟨⟨⟨active,free⟩,_⟩,sameKind⟩,sameEntity⟩,sameDate⟩,sameRecurrence⟩,sameContent⟩
    exact ⟨active,free,sameDate.trans dated,sameKind.trans kinded,
      (UniqueIndex.coalesce_inj (table.positive other two) (table.positive row one) sameEntity).trans entity,
      sameRecurrence.trans recurring,sameContent.trans named⟩
  · intro ⟨active,free,dated',kinded',entity',recurring',named'⟩
    exact ⟨⟨⟨⟨⟨⟨⟨active,free⟩,by rw [dated',Option.isSome_some]⟩,kinded'.trans kinded.symm⟩,
      by rw [entity',entity]⟩,dated'.trans dated.symm⟩,recurring'.trans recurring.symm⟩,named'.trans named.symm⟩

def Keeper (contentNorm : String → String) (rows : List MemoryItemV4) (row : MemoryItemV4) : Prop :=
  ∀ other ∈ rows, identity contentNorm other = identity contentNorm row → row.id ≤ other.id

theorem mem_group (one : row ∈ table.rows) (keyed : identity contentNorm row = some key) (member : MemoryItemV12) :
    member ∈ (table.rows.map (addContentNorm contentNorm)).filter (sameGroup (addContentNorm contentNorm row)) ↔
      ∃ other ∈ table.rows, identity contentNorm other = some key ∧ member = addContentNorm contentNorm other := by
  rw [List.mem_filter,List.mem_map]
  constructor
  · intro ⟨⟨other,two,same⟩,grouped⟩
    subst same
    exact ⟨other,two,(sameGroup_iff one two keyed).mp grouped,rfl⟩
  · intro ⟨other,two,identical,same⟩
    subst same
    exact ⟨⟨other,two,rfl⟩,(sameGroup_iff one two keyed).mpr identical⟩

theorem leastId_eq (one : row ∈ table.rows) (keyed : identity contentNorm row = some key) {least : Nat} :
    leastId (table.rows.map (addContentNorm contentNorm)) (addContentNorm contentNorm row) = some least ↔
      (∃ other ∈ table.rows, identity contentNorm other = some key ∧ other.id = least) ∧
        ∀ other ∈ table.rows, identity contentNorm other = some key → least ≤ other.id := by
  unfold leastId
  rw [List.min?_eq_some_iff]
  simp only [List.mem_map,mem_group one keyed]
  constructor
  · intro ⟨⟨member,⟨other,two,identical,same⟩,named⟩,below⟩
    subst same
    exact ⟨⟨other,two,identical,named⟩,fun other two identical => below _ ⟨_,⟨other,two,identical,rfl⟩,rfl⟩⟩
  · intro ⟨⟨other,two,identical,named⟩,below⟩
    refine ⟨⟨_,⟨other,two,identical,rfl⟩,named⟩,fun id listed => ?_⟩
    obtain ⟨member,⟨other,two,identical,same⟩,rfl⟩ := listed
    subst same
    exact below other two identical

theorem leastId_some (one : row ∈ table.rows) (keyed : identity contentNorm row = some key) :
    ∃ least, leastId (table.rows.map (addContentNorm contentNorm)) (addContentNorm contentNorm row) = some least := by
  cases found : leastId (table.rows.map (addContentNorm contentNorm)) (addContentNorm contentNorm row) with
  | some least => exact ⟨least,rfl⟩
  | none =>
    unfold leastId at found
    rw [List.min?_eq_none_iff,List.map_eq_nil_iff] at found
    have member := (mem_group one keyed (addContentNorm contentNorm row)).mpr ⟨row,one,keyed,rfl⟩
    rw [found] at member
    cases member

theorem leastId_keeper (one : row ∈ table.rows) (keyed : identity contentNorm row = some key) :
    leastId (table.rows.map (addContentNorm contentNorm)) (addContentNorm contentNorm row) = some row.id ↔
      Keeper contentNorm table.rows row := by
  rw [leastId_eq one keyed]
  unfold Keeper
  rw [keyed]
  exact ⟨fun least => least.2,fun least => ⟨⟨row,one,keyed,rfl⟩,least⟩⟩

theorem latest_eq (one : row ∈ table.rows) (keyed : identity contentNorm row = some key) :
    ∃ updatedAt,
      latest (table.rows.map (addContentNorm contentNorm)) (addContentNorm contentNorm row) = some updatedAt ∧
      (∃ other ∈ table.rows, identity contentNorm other = some key ∧ other.updatedAt = updatedAt) ∧
      ∀ other ∈ table.rows, identity contentNorm other = some key → other.updatedAt ≤ updatedAt := by
  cases found : latest (table.rows.map (addContentNorm contentNorm)) (addContentNorm contentNorm row) with
  | none =>
    unfold latest at found
    rw [List.max?_eq_none_iff,List.map_eq_nil_iff] at found
    have member := (mem_group one keyed (addContentNorm contentNorm row)).mpr ⟨row,one,keyed,rfl⟩
    rw [found] at member
    cases member
  | some updatedAt =>
    unfold latest at found
    rw [List.max?_eq_some_iff] at found
    simp only [List.mem_map,mem_group one keyed] at found
    obtain ⟨⟨member,⟨other,two,identical,same⟩,named⟩,above⟩ := found
    subst same
    refine ⟨updatedAt,rfl,⟨other,two,identical,named⟩,fun other two identical => ?_⟩
    exact above _ ⟨_,⟨other,two,identical,rfl⟩,rfl⟩

def raised (rows : List MemoryItemV12) (row : MemoryItemV12) : MemoryItemV12 :=
  if freeDated row && some row.id == leastId rows row then
    {row with updatedAt := (latest rows row).getD row.updatedAt}
  else row

theorem raiseKeeper_raised (one : row ∈ table.rows) :
    raiseKeeper (table.rows.map (addContentNorm contentNorm)) (addContentNorm contentNorm row) =
      .ok (raised (table.rows.map (addContentNorm contentNorm)) (addContentNorm contentNorm row)) := by
  unfold raiseKeeper raised
  split
  · rename_i chosen
    rw [Bool.and_eq_true,freeDated_iff,Option.isSome_iff_exists] at chosen
    obtain ⟨⟨key,keyed⟩,_⟩ := chosen
    obtain ⟨updatedAt,found,_⟩ := latest_eq one keyed
    rw [found]
    rfl
  · rfl

theorem mapM_raiseKeeper :
    (table.rows.map (addContentNorm contentNorm)).mapM
        (raiseKeeper (table.rows.map (addContentNorm contentNorm))) =
      .ok ((table.rows.map (addContentNorm contentNorm)).map
        (raised (table.rows.map (addContentNorm contentNorm)))) := by
  apply Outcome.mapM_map
  intro row member
  obtain ⟨before,one,rfl⟩ := List.mem_map.mp member
  exact raiseKeeper_raised one

theorem raised_sameGroup (rows : List MemoryItemV12) (first second : MemoryItemV12) :
    sameGroup (raised rows first) (raised rows second) = sameGroup first second := by
  unfold raised
  split <;> split <;> rfl

theorem raised_id (rows : List MemoryItemV12) (row : MemoryItemV12) : (raised rows row).id = row.id := by
  unfold raised
  split <;> rfl

theorem raised_leastId (rows : List MemoryItemV12) (row : MemoryItemV12) :
    leastId (rows.map (raised rows)) (raised rows row) = leastId rows row := by
  have ids : (fun member : MemoryItemV12 => member.id) ∘ raised rows = fun member => member.id :=
    funext (fun member => raised_id rows member)
  have groups : sameGroup (raised rows row) ∘ raised rows = sameGroup row :=
    funext (fun member => raised_sameGroup rows row member)
  unfold leastId
  rw [List.filter_map,List.map_map,ids,groups]

def deduped (contentNorm : String → String) (rows : List MemoryItemV4) (row : MemoryItemV4) : MemoryItemV12 :=
  let normalized := rows.map (addContentNorm contentNorm)
  archiveLoser (normalized.map (raised normalized)) (raised normalized (addContentNorm contentNorm row))

structure Deduped (contentNorm : String → String) (rows : List MemoryItemV4) (before : MemoryItemV4)
    (after : MemoryItemV12) : Prop where
  normalized : after.contentNorm = some (contentNorm before.content)
  untouched : identity contentNorm before = none → after.toMemoryItemV4 = before
  keeper : ∀ key, identity contentNorm before = some key → Keeper contentNorm rows before →
    ∃ latest, (∃ other ∈ rows, identity contentNorm other = some key ∧ other.updatedAt = latest) ∧
      (∀ other ∈ rows, identity contentNorm other = some key → other.updatedAt ≤ latest) ∧
      after.toMemoryItemV4 = {before with updatedAt := latest}
  loser : ∀ key, identity contentNorm before = some key → ¬Keeper contentNorm rows before →
    after.toMemoryItemV4 = {before with archived := true}

theorem deduped_spec (contentNorm : String → String) (one : row ∈ table.rows) :
    Deduped contentNorm table.rows row (deduped contentNorm table.rows row) := by
  have apart (unkeyed : identity contentNorm row = none) :
      freeDated (addContentNorm contentNorm row) = false := by
    rw [← Bool.not_eq_true,freeDated_iff,unkeyed]
    simp
  let normalized := table.rows.map (addContentNorm contentNorm)
  let start := addContentNorm contentNorm row
  have finished : deduped contentNorm table.rows row =
      if freeDated (raised normalized start) &&
          (leastId normalized start).any (fun least => (raised normalized start).id != least) then
        {raised normalized start with archived := true}
      else raised normalized start := by
    change archiveLoser (normalized.map (raised normalized)) (raised normalized start) = _
    unfold archiveLoser
    rw [raised_leastId]
  have unraised (other : freeDated start && some start.id == leastId normalized start → False) :
      raised normalized start = start := by
    unfold raised
    rw [if_neg other]
  cases keyed : identity contentNorm row with
  | none =>
    have same : raised normalized start = start := unraised (by rw [apart keyed]; exact Bool.false_ne_true)
    rw [same,apart keyed,Bool.false_and,if_neg Bool.false_ne_true] at finished
    rw [finished]
    exact ⟨rfl,fun _ => rfl,fun key other => absurd (keyed.symm.trans other) (by simp),
      fun key other => absurd (keyed.symm.trans other) (by simp)⟩
  | some key =>
    have dated : freeDated start = true := freeDated_iff.mpr (by rw [keyed,Option.isSome_some])
    have sameKey {other : String × Option Nat × String × String × String}
        (claimed : identity contentNorm row = some other) : key = other := Option.some.inj (keyed.symm.trans claimed)
    by_cases keeps : Keeper contentNorm table.rows row
    · obtain ⟨updatedAt,newest,among,above⟩ := latest_eq one keyed
      have least := (leastId_keeper one keyed).mpr keeps
      have chosen : raised normalized start = {start with updatedAt := updatedAt} := by
        unfold raised
        rw [if_pos (by rw [dated,Bool.true_and,beq_iff_eq]; exact least.symm),newest,Option.getD_some]
      have spared : (leastId normalized start).any (fun least => (raised normalized start).id != least) = false := by
        rw [least,Option.any_some,raised_id]
        exact bne_eq_false_iff_eq.mpr rfl
      rw [spared,Bool.and_false,if_neg Bool.false_ne_true,chosen] at finished
      rw [finished]
      refine ⟨rfl,fun unkeyed => absurd (keyed.symm.trans unkeyed) (by simp),fun other claimed _ => ?_,
        fun _ _ loses => absurd keeps loses⟩
      obtain rfl := sameKey claimed
      exact ⟨updatedAt,among,above,rfl⟩
    · obtain ⟨least,found⟩ := leastId_some one keyed
      have differs : start.id ≠ least := by
        intro same
        exact keeps ((leastId_keeper one keyed).mp (same ▸ found))
      have same : raised normalized start = start := by
        apply unraised
        rw [dated,Bool.true_and,beq_iff_eq,found]
        exact fun equal => differs (Option.some.inj equal)
      rw [same,dated,found,Option.any_some,Bool.true_and,if_pos (bne_iff_ne.mpr differs)] at finished
      rw [finished]
      exact ⟨rfl,fun unkeyed => absurd (keyed.symm.trans unkeyed) (by simp),fun _ _ wins => absurd wins keeps,
        fun _ _ _ => rfl⟩

theorem deduped_columns (contentNorm : String → String) (one : row ∈ table.rows) :
    ∃ updatedAt archived, (deduped contentNorm table.rows row).toMemoryItemV4 =
      {row with updatedAt := updatedAt, archived := archived} := by
  have spec := deduped_spec contentNorm one
  cases keyed : identity contentNorm row with
  | none => exact ⟨row.updatedAt,row.archived,spec.untouched keyed⟩
  | some key =>
    by_cases keeps : Keeper contentNorm table.rows row
    · obtain ⟨updatedAt,_,_,same⟩ := spec.keeper key keyed keeps
      exact ⟨updatedAt,row.archived,same⟩
    · exact ⟨row.updatedAt,true,spec.loser key keyed keeps⟩

theorem deduped_id (one : row ∈ table.rows) : (deduped contentNorm table.rows row).id = row.id := by
  obtain ⟨_,_,same⟩ := deduped_columns contentNorm one
  rw [same]

theorem deduped_identity (one : row ∈ table.rows) :
    identity contentNorm (deduped contentNorm table.rows row).toMemoryItemV4 = some key ↔
      identity contentNorm row = some key ∧ Keeper contentNorm table.rows row := by
  have spec := deduped_spec contentNorm one
  cases keyed : identity contentNorm row with
  | none => rw [spec.untouched keyed,keyed]; simp
  | some other =>
    by_cases keeps : Keeper contentNorm table.rows row
    · obtain ⟨_,_,_,same⟩ := spec.keeper other keyed keeps
      have kept (updatedAt : String) :
          identity contentNorm {row with updatedAt := updatedAt} = identity contentNorm row := rfl
      rw [same,kept,keyed]
      exact (and_iff_left keeps).symm
    · rw [spec.loser other keyed keeps]
      exact ⟨fun claimed => (nomatch (identity_eq_some.mp claimed).1),fun both => absurd both.2 keeps⟩

theorem deduped_unique (contentNorm : String → String) (table : MemoryTableV11) :
    UniqueIndex.Unique (fun row => identity contentNorm (deduped contentNorm table.rows row).toMemoryItemV4)
      table.rows := by
  apply UniqueIndex.unique_of_injective table.distinct.of_map
  intro first one second two key claimed claimed'
  obtain ⟨keyed,keeps⟩ := (deduped_identity one).mp claimed
  obtain ⟨keyed',keeps'⟩ := (deduped_identity two).mp claimed'
  have same : first.id = second.id :=
    Nat.le_antisymm (keeps second two (keyed'.trans keyed.symm)) (keeps' first one (keyed.trans keyed'.symm))
  exact List.inj_on_of_nodup_map table.distinct one two same

theorem indexKey_eq_some {row : MemoryItemV12} {kind : String} {entityId : Nat} {date recurrence content : String} :
    indexKey row = some (kind,entityId,date,recurrence,content) ↔
      freeDated row = true ∧ row.dateAnchor = some date ∧ row.contentNorm = some content ∧ row.kind = kind ∧
        row.entityId.getD 0 = entityId ∧ row.recurrence = recurrence := by
  unfold indexKey
  by_cases inside : freeDated row = true
  · rw [if_pos inside]
    simp only [inside,Option.bind_eq_some_iff,Option.map_eq_some_iff,Prod.mk.injEq,true_and]
    constructor
    · intro ⟨_,dated,_,named,kind,entity,sameDate,recurrence,sameContent⟩
      exact ⟨sameDate ▸ dated,sameContent ▸ named,kind,entity,recurrence⟩
    · intro ⟨dated,named,kind,entity,recurrence⟩
      exact ⟨date,dated,content,named,kind,entity,rfl,recurrence,rfl⟩
  · rw [if_neg inside]
    exact ⟨fun keyed => (nomatch keyed),fun keyed => absurd keyed.1 inside⟩

/-- The index takes no rows for one that claim different identities. -/
theorem indexKey_identity (one : row ∈ table.rows) {own : String × Nat × String × String × String}
    (keyed : indexKey (deduped contentNorm table.rows row) = some own) :
    ∃ entityId, entityId.getD 0 = own.2.1 ∧ row.entityId = entityId ∧
      identity contentNorm (deduped contentNorm table.rows row).toMemoryItemV4 =
        some (own.1,entityId,own.2.2.1,own.2.2.2.1,own.2.2.2.2) := by
  obtain ⟨kind,entityId,date,recurrence,content⟩ := own
  obtain ⟨inside,dated,named,kinded,entity,recurring⟩ := indexKey_eq_some.mp keyed
  obtain ⟨_,_,same⟩ := deduped_columns contentNorm one
  simp only [freeDated,Bool.and_eq_true,Bool.not_eq_true',beq_iff_eq] at inside
  have normalized : contentNorm row.content = content :=
    Option.some.inj ((deduped_spec contentNorm one).normalized.symm.trans named)
  have sameEntity : (deduped contentNorm table.rows row).entityId = row.entityId := by rw [same]
  have sameContent : (deduped contentNorm table.rows row).content = row.content := by rw [same]
  refine ⟨row.entityId,?_,rfl,?_⟩
  · rw [← sameEntity]
    exact entity
  · exact identity_eq_some.mpr ⟨inside.1.1,inside.1.2,dated,kinded,sameEntity,recurring,
      (congrArg contentNorm sameContent).trans normalized⟩

theorem createIndex_deduped (contentNorm : String → String) (table : MemoryTableV11) :
    UniqueIndex.Unique indexKey (table.rows.map (deduped contentNorm table.rows)) := by
  unfold UniqueIndex.Unique
  rw [List.filterMap_map]
  apply UniqueIndex.unique_of_injective table.distinct.of_map
  intro first one second two own keyed keyed'
  obtain ⟨entity,coalesced,referred,claimed⟩ := indexKey_identity one keyed
  obtain ⟨entity',coalesced',referred',claimed'⟩ := indexKey_identity two keyed'
  obtain rfl : entity = entity' := by
    rw [← referred,← referred']
    apply UniqueIndex.coalesce_inj (table.positive first one) (table.positive second two)
    rw [referred,referred',coalesced,coalesced']
  exact Table.filterMap_inj_on (deduped_unique contentNorm table) one two claimed claimed'

theorem migrate_run (contentNorm : String → String) (table : MemoryTableV11) :
    migrate contentNorm table.rows = .ok (table.rows.map (deduped contentNorm table.rows)) := by
  have shape : ((table.rows.map (addContentNorm contentNorm)).map
      (raised (table.rows.map (addContentNorm contentNorm)))).map
        (archiveLoser ((table.rows.map (addContentNorm contentNorm)).map
          (raised (table.rows.map (addContentNorm contentNorm))))) =
        table.rows.map (deduped contentNorm table.rows) := by
    rw [List.map_map,List.map_map]
    rfl
  unfold migrate
  dsimp only
  rw [mapM_raiseKeeper]
  change (createIndex (List.map _ _) >>= fun _ => _) = _
  rw [shape,createIndex,if_pos (createIndex_deduped contentNorm table)]
  rfl

theorem free_dated_dedupe (contentNorm : String → String) (table : MemoryTableV11) :
    ∃ after, migrate contentNorm table.rows = .ok after ∧
      List.Forall₂ (Deduped contentNorm table.rows) table.rows after ∧
      (∀ key, (∃ row ∈ table.rows, identity contentNorm row = some key) →
        after.countP (fun row => identity contentNorm row.toMemoryItemV4 == some key) = 1 ∧
        ∀ row ∈ after, identity contentNorm row.toMemoryItemV4 = some key →
          ∀ other ∈ table.rows, identity contentNorm other = some key → row.id ≤ other.id) ∧
      UniqueIndex.Unique indexKey after := by
  refine ⟨_,migrate_run contentNorm table,?_,?_,createIndex_deduped contentNorm table⟩
  · rw [List.forall₂_map_right_iff,List.forall₂_same]
    exact fun row one => deduped_spec contentNorm one
  · intro key ⟨row,one,keyed⟩
    constructor
    · apply Nat.le_antisymm
      · rw [List.countP_map]
        exact UniqueIndex.count_le_one (deduped_unique contentNorm table) key
      · obtain ⟨least,found⟩ := leastId_some one keyed
        obtain ⟨⟨first,two,keyed',named⟩,below⟩ := (leastId_eq one keyed).mp found
        have keeps : Keeper contentNorm table.rows first := by
          intro other three identical
          rw [named]
          exact below other three (identical.trans keyed')
        apply List.countP_pos_iff.mpr
        exact ⟨_,List.mem_map_of_mem two,beq_iff_eq.mpr ((deduped_identity two).mpr ⟨keyed',keeps⟩)⟩
    · intro after member claimed other two keyed'
      obtain ⟨before,three,rfl⟩ := List.mem_map.mp member
      obtain ⟨keyed'',keeps⟩ := (deduped_identity three).mp claimed
      rw [deduped_id three]
      exact keeps other two (keyed'.trans keyed''.symm)

/-- A note that stands twice without an entity, and the same note of an entity. -/
def threeNotes : MemoryTableV11 where
  rows := [⟨1,"note",none,"free",none,"Call",some "--05-01","yearly",some 7,"manual","a","a",false⟩,
    ⟨2,"note",none,"free",none,"Call",some "--05-01","yearly",some 7,"manual","b","b",false⟩,
    ⟨3,"note",some 1,"free",none,"Call",some "--05-01","yearly",some 7,"manual","c","c",false⟩]
  distinct := by decide
  positive := by simp

theorem free_dated_dedupe_notes :
    ∃ after, migrate id threeNotes.rows = .ok after ∧ after.map (fun row => row.archived) = [false,true,false] ∧
      UniqueIndex.Unique indexKey after := by
  obtain ⟨after,ran,_,_,unique⟩ := free_dated_dedupe id threeNotes
  refine ⟨after,ran,?_,unique⟩
  have archived : (migrate id threeNotes.rows).map (List.map (fun row => row.archived)) = .ok [false,true,false] := by
    decide +kernel
  rw [ran] at archived
  exact Except.ok.inj archived

end FreeDatedDedupe
end Proactive.Store
