import Mathlib.Algebra.GroupWithZero.Nat
import Proactive.Store.IsoDate

/-! Memories, the rows that hold them and their entities, and what is checked before a memory
reaches the database. -/
namespace Proactive.Store

inductive EntityKind | person | place | org | thing | activity
deriving DecidableEq, Repr

inductive EntityStatus | active | merged | archived
deriving DecidableEq, Repr

inductive MemoryKind | fact | commitment | preference | note
deriving DecidableEq, Repr

inductive MemoryAttribute | birthday | anniversary | deadline | relationship | free
deriving DecidableEq, Repr

inductive MemoryRecurrence | none | yearly
deriving DecidableEq, Repr

inductive MemorySource | agentConversation | manual
deriving DecidableEq, Repr

def EntityKind.text : EntityKind → String
  | .person => "person" | .place => "place" | .org => "org" | .thing => "thing" | .activity => "activity"

def MemoryKind.text : MemoryKind → String
  | .fact => "fact" | .commitment => "commitment" | .preference => "preference" | .note => "note"

def MemoryAttribute.text : MemoryAttribute → String
  | .birthday => "birthday" | .anniversary => "anniversary" | .deadline => "deadline"
  | .relationship => "relationship" | .free => "free"

def MemoryRecurrence.text : MemoryRecurrence → String
  | .none => "none" | .yearly => "yearly"

def MemorySource.text : MemorySource → String
  | .agentConversation => "agent_conversation" | .manual => "manual"

structure NewMemory where
  kind : MemoryKind
  content : String
  entity : Option String := none
  entityKind : Option EntityKind := none
  entityPath : Option String := none
  memoryAttribute : MemoryAttribute := .free
  dateAnchor : Option String := none
  recurrence : MemoryRecurrence := .none
  leadDays : Int := 7
  source : MemorySource := .agentConversation
deriving DecidableEq, Repr

/-- A row of `entities`. Times are instants. -/
structure Entity where
  id : Nat
  kind : EntityKind
  path : Option String
  label : String
  status : EntityStatus
  createdAt : Int
  updatedAt : Int
deriving DecidableEq, Repr

structure EntityAlias where
  entityId : Nat
  aliasText : String
  aliasNorm : String
  source : MemorySource
  createdAt : Int
deriving DecidableEq, Repr

structure MemoryRow where
  id : Nat
  kind : MemoryKind
  entityId : Option Nat
  memoryAttribute : MemoryAttribute
  content : String
  contentNorm : String
  dateAnchor : Option String
  recurrence : MemoryRecurrence
  leadDays : Int
  source : MemorySource
  createdAt : Int
  updatedAt : Int
  archived : Bool
deriving DecidableEq, Repr

structure MemoryItem where
  id : Nat
  kind : MemoryKind
  entityId : Option Nat
  entity : Option String
  entityKind : Option EntityKind
  entityPath : Option String
  memoryAttribute : MemoryAttribute
  content : String
  dateAnchor : Option String
  recurrence : MemoryRecurrence
  leadDays : Int
  source : MemorySource
  createdAt : Int
  updatedAt : Int
  archived : Bool
  isContradictory : Bool
deriving DecidableEq, Repr

inductive MemoryIndex | entityAliasNorm | memoryDatedFact | memoryFreeDated
deriving DecidableEq, Repr

inductive MemoryError
  | validation (field reason : String)
  | notFound (id : Nat)
  | aliasConflict (aliasText : String)
  | notUnique (index : MemoryIndex)
  /-- A foreign key. -/
  | noReference
  /-- The trigger over lead days and dates. -/
  | outOfBounds
deriving DecidableEq, Repr

/-- `unicodedata` and the string methods that the normalizers are made of. -/
structure MemoryNormalizers where
  /-- NFC, stripped: a label, or one segment of a path. -/
  stripped : String → String
  normalizeAlias : String → String
  normalizeContent : String → String

namespace MemoryNormalizers
variable (normalizers : MemoryNormalizers)

def normalizeLabel (label : String) : Except MemoryError String :=
  if normalizers.stripped label = "" then .error (.validation "entity" "must not be empty")
  else .ok (normalizers.stripped label)

def segments (path : String) : List String := (path.toList.splitOn '/').map String.ofList

def normalizePath (path : String) : Except MemoryError String :=
  if (segments path).length > 3 then .error (.validation "entity_path" "must have between 1 and 3 segments")
  else if "" ∈ (segments path).map normalizers.stripped then
    .error (.validation "entity_path" "must not contain empty segments")
  else .ok ("/".intercalate ((segments path).map normalizers.stripped))

/-- The label, and the last segment of the path if its key is another. -/
def entityAliases (label : String) (path : Option String) : List String :=
  match path with
  | none => [label]
  | some path =>
    let leaf := (segments path).getLastD ""
    if normalizers.normalizeAlias label = normalizers.normalizeAlias leaf then [label] else [label,leaf]

end MemoryNormalizers

def maxMemoryContentBytes : Nat := 4096
def maxMemoryEntityBytes : Nat := 256
def maxMemoryEntityPathBytes : Nat := 512
def maxMemoryDateAnchorBytes : Nat := 10
def maxMemoryRecordBytes : Nat := 5120
def maxMemoryLeadDays : Nat := 366

namespace NewMemory

def yearless (anchor : String) : Bool := anchor.toList.take 2 == ['-','-']

def anchorDate (anchor : String) : Option Nat :=
  let normalized := if yearless anchor then "2000-" ++ String.ofList (anchor.toList.drop 2) else anchor
  (IsoDate.fromIsoFormat normalized).filter (· < IsoDate.maxOrdinal)

def checkDate (memory : NewMemory) : Except MemoryError Unit :=
  match memory.dateAnchor with
  | none =>
    if memory.recurrence = .yearly then
      .error (.validation "date_anchor" "yearly recurrence requires date_anchor")
    else .ok ()
  | some anchor =>
    if (anchorDate anchor).isNone then .error (.validation "date_anchor" "must be an ISO date or --MM-DD")
    else if yearless anchor ∧ memory.recurrence ≠ .yearly then
      .error (.validation "date_anchor" "yearless date_anchor requires yearly recurrence")
    else .ok ()

def checkBytes (field : String) (value : Option String) (maximum : Nat) : Except MemoryError Unit :=
  if (value.map String.utf8ByteSize).getD 0 > maximum then
    .error (.validation field s!"exceeds {maximum} UTF-8 bytes")
  else .ok ()

def recordBytes (memory : NewMemory) : Nat :=
  ([memory.kind.text,memory.content,memory.entity.getD "",(memory.entityKind.map EntityKind.text).getD "",
    memory.entityPath.getD "",memory.memoryAttribute.text,memory.dateAnchor.getD "",memory.recurrence.text,
    memory.source.text].map String.utf8ByteSize).sum

def checkRecord (memory : NewMemory) : Except MemoryError Unit :=
  if memory.recordBytes > maxMemoryRecordBytes then
    .error (.validation "record" s!"exceeds {maxMemoryRecordBytes} UTF-8 bytes")
  else .ok ()

def checkLeadDays (memory : NewMemory) : Except MemoryError Unit :=
  if memory.leadDays < 0 ∨ memory.leadDays > maxMemoryLeadDays then
    .error (.validation "lead_days" s!"must be between 0 and {maxMemoryLeadDays}")
  else .ok ()

def validate (memory : NewMemory) : Except MemoryError Unit := do
  memory.checkDate
  checkBytes "content" (some memory.content) maxMemoryContentBytes
  checkBytes "entity" memory.entity maxMemoryEntityBytes
  checkBytes "entity_path" memory.entityPath maxMemoryEntityPathBytes
  checkBytes "date_anchor" memory.dateAnchor maxMemoryDateAnchorBytes
  memory.checkRecord
  memory.checkLeadDays

example : (NewMemory.validate ⟨.fact,"born",none,none,none,.free,some "--02-29",.yearly,7,.manual⟩).isOk := by
  decide +kernel

end NewMemory
end Proactive.Store
