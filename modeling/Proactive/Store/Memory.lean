import Proactive.Library.Table
import Proactive.Library.Run
import Proactive.Library.Triple
import Proactive.Library.UniqueIndex
import Proactive.Store.MemoryModels

/-! The memory store: entities behind their aliases, and memories that are remembered, updated
and archived under the unique indexes of the database. Foreign keys are enforced. -/
namespace Proactive.Store
open Proactive.Library

structure MemoryTables where
  items : List MemoryRow
  entities : List Entity
  aliases : List EntityAlias
deriving DecidableEq, Repr

abbrev MemorySql (α : Type) := Statement MemoryTables MemoryError α

/-- `uq_memory_dated_fact`. A null column keeps a row out: it equals no other null. -/
def MemoryRow.datedFactKey (row : MemoryRow) : Option (Nat × MemoryAttribute × String) :=
  if row.archived = true ∨ row.memoryAttribute = .free then none
  else row.entityId.bind (fun entity => row.dateAnchor.map (fun date => (entity,row.memoryAttribute,date)))

/-- `uq_memory_free_dated`, with `COALESCE(entity_id, 0)`. -/
def MemoryRow.freeDatedKey (row : MemoryRow) :
    Option (MemoryKind × Nat × String × MemoryRecurrence × String) :=
  if row.archived = true ∨ row.memoryAttribute ≠ .free then none
  else row.dateAnchor.map (fun date => (row.kind,row.entityId.getD 0,date,row.recurrence,row.contentNorm))

/-- `uq_entity_alias_norm`. -/
def EntityAlias.normKey (row : EntityAlias) : Option String := some row.aliasNorm

structure FreeDatedMemory where
  kind : MemoryKind
  content : String
  dateAnchor : Option String
  recurrence : MemoryRecurrence

def NewMemory.freeDated (memory : NewMemory) : FreeDatedMemory :=
  ⟨memory.kind,memory.content,memory.dateAnchor,memory.recurrence⟩

def MemoryItem.freeDated (item : MemoryItem) : FreeDatedMemory :=
  ⟨item.kind,item.content,item.dateAnchor,item.recurrence⟩

abbrev FreeDatedMemoryKey := MemoryKind × Option Nat × Option String × MemoryRecurrence × String

def freeDatedMemoryKey (normalizers : MemoryNormalizers) (memory : FreeDatedMemory) (entityId : Option Nat) :
    FreeDatedMemoryKey :=
  (memory.kind,entityId,memory.dateAnchor,memory.recurrence,normalizers.normalizeContent memory.content)

namespace MemoryTables

def empty : MemoryTables := ⟨[],[],[]⟩

def entityIdByAlias (aliasNorm : String) (tables : MemoryTables) : Option Nat :=
  (tables.aliases.find? (fun row => row.aliasNorm == aliasNorm)).map EntityAlias.entityId

def entityById (id : Nat) (tables : MemoryTables) : Option Entity :=
  tables.entities.find? (fun row => row.id == id)

/-- Another date on record for the same dated fact. -/
def isContradictory (tables : MemoryTables) (row : MemoryRow) : Bool :=
  tables.items.any (fun other =>
    row.entityId.isSome && other.entityId == row.entityId && other.memoryAttribute == row.memoryAttribute &&
      other.dateAnchor.isSome && row.dateAnchor.isSome && other.dateAnchor != row.dateAnchor &&
      !other.archived && other.memoryAttribute != .free)

/-- A row with the entity that the `LEFT JOIN` finds. -/
def item (tables : MemoryTables) (row : MemoryRow) : MemoryItem :=
  let entity := row.entityId.bind (fun id => tables.entityById id)
  {id := row.id
   kind := row.kind
   entityId := row.entityId
   entity := entity.map Entity.label
   entityKind := entity.map Entity.kind
   entityPath := entity.bind Entity.path
   memoryAttribute := row.memoryAttribute
   content := row.content
   dateAnchor := row.dateAnchor
   recurrence := row.recurrence
   leadDays := row.leadDays
   source := row.source
   createdAt := row.createdAt
   updatedAt := row.updatedAt
   archived := row.archived
   isContradictory := tables.isContradictory row}

def memoryById (id : Nat) (tables : MemoryTables) : Option MemoryItem :=
  (tables.items.find? (fun row => row.id == id)).map tables.item

/-- `SELECT_FREE_DATED_DUPLICATE`, and the same with `id != ?`. -/
def freeDatedDuplicate (identity : FreeDatedMemoryKey) (excludingId : Option Nat) (row : MemoryRow) : Bool :=
  let (kind,entityId,dateAnchor,recurrence,contentNorm) := identity
  row.kind == kind && row.entityId.getD 0 == entityId.getD 0 && dateAnchor.isSome &&
    row.dateAnchor == dateAnchor && row.recurrence == recurrence && row.contentNorm == contentNorm &&
    !row.archived && row.memoryAttribute == .free && some row.id != excludingId

/-- `SELECT_DATED_DUPLICATE`, and the same with `id != ?`. -/
def datedDuplicate (entityId : Nat) (memoryAttribute : MemoryAttribute) (dateAnchor : String)
    (excludingId : Option Nat) (row : MemoryRow) : Bool :=
  row.entityId == some entityId && row.memoryAttribute == memoryAttribute &&
    row.dateAnchor == some dateAnchor && !row.archived && some row.id != excludingId

def datedDuplicateId (normalizers : MemoryNormalizers) (memory : NewMemory) (entityId : Option Nat)
    (excludingId : Option Nat) (tables : MemoryTables) : Option Nat :=
  match memory.dateAnchor with
  | none => none
  | some dateAnchor =>
    if memory.memoryAttribute = .free then
      (tables.items.find? (freeDatedDuplicate (freeDatedMemoryKey normalizers memory.freeDated entityId)
        excludingId)).map MemoryRow.id
    else
      match entityId with
      | none => none
      | some entityId =>
        (tables.items.find? (datedDuplicate entityId memory.memoryAttribute dateAnchor excludingId)).map
          MemoryRow.id

def activeItems (tables : MemoryTables) : Nat := tables.items.countP (fun row => !row.archived)

def touched (id : Nat) (now : Int) (tables : MemoryTables) : MemoryTables :=
  {tables with
    items := Table.updateWhere (fun row => row.id == id) (fun row => {row with updatedAt := now}) tables.items}

/-- `ARCHIVE_MEMORY_ITEM`. -/
def shelved (id : Nat) (now : Int) (tables : MemoryTables) : MemoryTables :=
  {tables with
    items := Table.updateWhere (fun row => row.id == id && !row.archived)
      (fun row => {row with archived := true, updatedAt := now}) tables.items}

def others (id : Nat) (tables : MemoryTables) : List MemoryRow :=
  tables.items.filter (fun row => row.id != id)

def hasEntity (tables : MemoryTables) (id : Nat) : Bool := tables.entities.any (fun row => row.id == id)

/-- What the database checks of a row that is written among the others. -/
def admitRow (tables : MemoryTables) (others : List MemoryRow) (row : MemoryRow) : Except MemoryError Unit :=
  if row.leadDays < 0 ∨ row.leadDays > 366 ∨ row.dateAnchor = some "9999-12-31" then .error .outOfBounds
  else if UniqueIndex.taken MemoryRow.datedFactKey others row = true then .error (.notUnique .memoryDatedFact)
  else if UniqueIndex.taken MemoryRow.freeDatedKey others row = true then .error (.notUnique .memoryFreeDated)
  else if row.entityId.any (fun id => !tables.hasEntity id) then .error .noReference
  else .ok ()

def admitAlias (tables : MemoryTables) (row : EntityAlias) : Except MemoryError Unit :=
  if UniqueIndex.taken EntityAlias.normKey tables.aliases row = true then .error (.notUnique .entityAliasNorm)
  else if tables.hasEntity row.entityId then .ok ()
  else .error .noReference

end MemoryTables

open MemoryTables

def insertEntity (kind : EntityKind) (path : Option String) (label : String) (now : Int) : MemorySql Nat := do
  let id ← Statement.select (fun tables => UniqueIndex.nextId Entity.id tables.entities)
  Statement.update (fun tables =>
    {tables with entities := tables.entities ++ [⟨id,kind,path,label,.active,now,now⟩]})
  return id

def insertEntityAlias (row : EntityAlias) : MemorySql Unit := do
  let admitted ← Statement.select (fun tables => tables.admitAlias row)
  Statement.ofExcept admitted
  Statement.update (fun tables => {tables with aliases := tables.aliases ++ [row]})

def insertMemoryItem (fresh : Nat → MemoryRow) : MemorySql Nat := do
  let id ← Statement.select (fun tables => UniqueIndex.nextId MemoryRow.id tables.items)
  let admitted ← Statement.select (fun tables => tables.admitRow tables.items (fresh id))
  Statement.ofExcept admitted
  Statement.update (fun tables => {tables with items := tables.items ++ [fresh id]})
  return id

def updateMemoryItem (id : Nat) (change : MemoryRow → MemoryRow) : MemorySql Unit := do
  let found ← Statement.select (fun tables => tables.items.find? (fun row => row.id == id))
  match found with
  | none => return ()
  | some row => do
    let admitted ← Statement.select (fun tables => tables.admitRow (tables.others id) (change row))
    Statement.ofExcept admitted
    Statement.update (fun tables =>
      {tables with items := Table.updateWhere (fun row => row.id == id) change tables.items})

def readMemory (id : Nat) : MemorySql MemoryItem := do
  let found ← Statement.select (memoryById id)
  match found with
  | none => Statement.raise (.notFound id)
  | some item => return item

variable (normalizers : MemoryNormalizers)

/-- The first loop of `_create_entity`. -/
def requireFreeAliases : List String → MemorySql Unit
  | [] => return ()
  | text::rest => do
    let assigned ← Statement.select (entityIdByAlias (normalizers.normalizeAlias text))
    match assigned with
    | some _ => Statement.raise (.aliasConflict text)
    | none => requireFreeAliases rest

/-- The second loop of `_create_entity`. -/
def insertEntityAliases (entityId : Nat) (source : MemorySource) (now : Int) : List String → MemorySql Unit
  | [] => return ()
  | text::rest => do
    insertEntityAlias ⟨entityId,text,normalizers.normalizeAlias text,source,now⟩
    insertEntityAliases entityId source now rest

def createEntity (source : MemorySource) (kind : EntityKind) (label : String) (path : Option String)
    (now : Int) : MemorySql Entity := do
  requireFreeAliases normalizers (normalizers.entityAliases label path)
  let id ← insertEntity kind path label now
  insertEntityAliases normalizers id source now (normalizers.entityAliases label path)
  let created ← Statement.select (entityById id)
  match created with
  | none => Statement.raise (.validation "entity" "was not created")
  | some entity => return entity

/-- The entity behind an alias, which has to be of the kind that the memory names. -/
def aliasedEntity (id : Nat) (kind : EntityKind) : MemorySql Entity := do
  let found ← Statement.select (entityById id)
  match found with
  | none => Statement.raise (.validation "entity" "alias target does not exist")
  | some entity =>
    if entity.kind ≠ kind then Statement.raise (.validation "entity_kind" "does not match the alias entity")
    else return entity

def namedEntity (source : MemorySource) (kind : EntityKind) (label : String) (path : Option String)
    (now : Int) : MemorySql Entity := do
  let assigned ← Statement.select (entityIdByAlias (normalizers.normalizeAlias label))
  match assigned with
  | some id => aliasedEntity id kind
  | none => createEntity normalizers source kind label path now

def NewMemory.entityName (memory : NewMemory) :
    Except MemoryError (Option (String × EntityKind × Option String)) :=
  match memory.entity with
  | none =>
    if memory.entityKind.isSome ∨ memory.entityPath.isSome then
      .error (.validation "entity" "is required for entity metadata")
    else .ok none
  | some entity => do
    let label ← normalizers.normalizeLabel entity
    match memory.entityKind with
    | none => .error (.validation "entity_kind" "is required when entity is set")
    | some kind =>
      match memory.entityPath with
      | none => .ok (some (label,kind,none))
      | some path => do
        let path ← normalizers.normalizePath path
        .ok (some (label,kind,some path))

def resolveEntity (memory : NewMemory) (now : Int) : MemorySql (Option Entity) := do
  let name ← Statement.ofExcept (memory.entityName normalizers)
  match name with
  | none => return none
  | some (label,kind,path) => do
    let entity ← namedEntity normalizers memory.source kind label path now
    return some entity

def maxMemoryRows : Nat := 10000
def maxEntityRows : Nat := 5000
def maxEntityAliasRows : Nat := 15000

def requireEntityCapacity : MemorySql Unit := do
  let entities ← Statement.select (fun tables => tables.entities.length)
  if entities > maxEntityRows then
    Statement.raise (.validation "quota" s!"entity limit is {maxEntityRows}")
  else do
    let aliases ← Statement.select (fun tables => tables.aliases.length)
    if aliases > maxEntityAliasRows then
      Statement.raise (.validation "quota" s!"entity alias limit is {maxEntityAliasRows}")
    else return ()

def NewMemory.columns (memory : NewMemory) (entityId : Option Nat) (now : Int) (row : MemoryRow) : MemoryRow :=
  {row with
    kind := memory.kind
    entityId := entityId
    memoryAttribute := memory.memoryAttribute
    content := memory.content
    contentNorm := normalizers.normalizeContent memory.content
    dateAnchor := memory.dateAnchor
    recurrence := memory.recurrence
    leadDays := memory.leadDays
    source := memory.source
    updatedAt := now}

def NewMemory.row (memory : NewMemory) (entityId : Option Nat) (now : Int) (id : Nat) : MemoryRow :=
  {id := id
   kind := memory.kind
   entityId := entityId
   memoryAttribute := memory.memoryAttribute
   content := memory.content
   contentNorm := normalizers.normalizeContent memory.content
   dateAnchor := memory.dateAnchor
   recurrence := memory.recurrence
   leadDays := memory.leadDays
   source := memory.source
   createdAt := now
   updatedAt := now
   archived := false}

/-- The end of `remember`: the row that already holds the memory, or a new one. -/
def merge (memory : NewMemory) (entityId : Option Nat) (now : Int) : MemorySql MemoryItem := do
  let duplicate ← Statement.select (datedDuplicateId normalizers memory entityId none)
  match duplicate with
  | some id => do
    Statement.update (touched id now)
    readMemory id
  | none => do
    let active ← Statement.select activeItems
    if active ≥ maxMemoryRows then
      Statement.raise (.validation "quota" s!"memory item limit is {maxMemoryRows}")
    else do
      let id ← insertMemoryItem (memory.row normalizers entityId now)
      readMemory id

def remember (memory : NewMemory) (now : Int) : MemorySql MemoryItem := do
  Statement.ofExcept memory.validate
  Statement.immediate (do
    let entity ← resolveEntity normalizers memory now
    requireEntityCapacity
    merge normalizers memory (entity.map Entity.id) now)

/-- The end of `update`. -/
def replace (id : Nat) (memory : NewMemory) (entityId : Option Nat) (now : Int) : MemorySql MemoryItem := do
  let duplicate ← Statement.select (datedDuplicateId normalizers memory entityId (some id))
  match duplicate with
  | some _ => Statement.raise (.validation "date_anchor" "duplicates an active dated fact")
  | none => do
    updateMemoryItem id (memory.columns normalizers entityId now)
    readMemory id

def update (id : Nat) (memory : NewMemory) (now : Int) : MemorySql MemoryItem := do
  Statement.ofExcept memory.validate
  Statement.immediate (do
    let _ ← readMemory id
    let entity ← resolveEntity normalizers memory now
    requireEntityCapacity
    replace normalizers id memory (entity.map Entity.id) now)

def forget (id : Nat) (now : Int) : MemorySql MemoryItem := do
  let item ← readMemory id
  if item.archived then return item
  else do
    Statement.update (shelved id now)
    return {item with updatedAt := now, archived := true}

inductive MemoryCall
  | remember (memory : NewMemory)
  | update (id : Nat) (memory : NewMemory)
  | forget (id : Nat)
deriving DecidableEq, Repr

structure MemoryRequest where
  call : MemoryCall
  now : Int
deriving DecidableEq, Repr

def MemoryRequest.body (request : MemoryRequest) : MemorySql MemoryItem :=
  match request.call with
  | .remember memory => remember normalizers memory request.now
  | .update id memory => update normalizers id memory request.now
  | .forget id => forget id request.now

namespace MemoryTables

def step (tables : MemoryTables) (request : MemoryRequest) : MemoryTables :=
  ((request.body normalizers).run tables).2

/-- The tables after these calls on an empty database. -/
def reached (requests : List MemoryRequest) : MemoryTables := Run.run (step normalizers) empty requests

end MemoryTables
end Proactive.Store
