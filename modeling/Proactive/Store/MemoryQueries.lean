import Mathlib.Data.List.Sort
import Mathlib.Data.Prod.Lex
import Mathlib.Data.String.Basic
import Proactive.Library.Like
import Proactive.Store.MemoryIntegrity

/-! Reads of the memory store: literal recall and the listing of active entities, both behind an
optional path filter. Texts compare by code points, as their UTF-8 bytes do. -/
namespace Proactive.Store
open Proactive.Library

/-- `text.replace(character, replacement)`. -/
def replaceCharacter (character : Char) (replacement text : List Char) : List Char :=
  text.flatMap (fun other => if other = character then replacement else [other])

def escapeLike (query : String) : String :=
  String.ofList (replaceCharacter '_' ['\\','_'] (replaceCharacter '%' ['\\','%']
    (replaceCharacter '\\' ['\\','\\'] query.toList)))

/-- `text LIKE pattern ESCAPE '\'`, with the letters of ASCII alike in both cases. -/
def likeText (pattern text : String) : Bool := Like.like Char.toLower '\\' pattern.toList text.toList

/-- A normalized path and the pattern of its child paths. -/
structure PrefixFilter where
  normalizedPrefix : Option String
  prefixPattern : Option String
deriving DecidableEq, Repr

def prefixFilter (normalizers : MemoryNormalizers) (pathPrefix : Option String) : Except MemoryError PrefixFilter := do
  let normalizedPrefix ← pathPrefix.mapM normalizers.normalizePath
  return ⟨normalizedPrefix,normalizedPrefix.map (fun path => escapeLike path ++ "/%")⟩

/-- `? IS NULL OR path = ? OR path LIKE ? ESCAPE '\'`. -/
def PrefixFilter.accepts (filter : PrefixFilter) (path : Option String) : Bool :=
  filter.normalizedPrefix.isNone ||
    path.any (fun path => some path == filter.normalizedPrefix || filter.prefixPattern.any (likeText · path))

def maxMemoryPageSize : Nat := 100

def checkPage (afterId limit : Int) : Except MemoryError Unit :=
  if afterId < 0 then .error (.validation "after_id" "must be non-negative")
  else if 1 ≤ limit ∧ limit ≤ maxMemoryPageSize then .ok ()
  else .error (.validation "limit" s!"must be between 1 and {maxMemoryPageSize}")

namespace MemoryTables

/-- The text is found in the label, the path, the content or an alias. -/
def mentions (tables : MemoryTables) (pattern : String) (row : MemoryRow) : Bool :=
  let entity := row.entityId.bind (fun id => tables.entityById id)
  entity.any (fun entity => likeText pattern entity.label || entity.path.any (likeText pattern) ||
      tables.aliases.any (fun other => other.entityId == entity.id && likeText pattern other.aliasText)) ||
    likeText pattern row.content

/-- The `WHERE` of `SELECT_RECALL_MEMORY_ITEMS`. -/
def recalled (tables : MemoryTables) (pattern : String) (kind : Option MemoryKind) (entityKind : Option EntityKind)
    (filter : PrefixFilter) (row : MemoryRow) : Bool :=
  let entity := row.entityId.bind (fun id => tables.entityById id)
  !row.archived && tables.mentions pattern row && kind.all (fun kind => row.kind == kind) &&
    (entityKind.isNone || entity.any (fun entity => some entity.kind == entityKind)) &&
    filter.accepts (entity.bind Entity.path)

end MemoryTables

/-- `ORDER BY m.updated_at DESC, m.id DESC`. -/
def MemoryRow.newestFirst (first second : MemoryRow) : Prop :=
  second.updatedAt < first.updatedAt ∨ second.updatedAt = first.updatedAt ∧ second.id ≤ first.id

instance : DecidableRel MemoryRow.newestFirst := fun first second => by
  unfold MemoryRow.newestFirst
  infer_instance

/-- `recall`. -/
def recallItems (normalizers : MemoryNormalizers) (tables : MemoryTables) (query : String) (kind : Option MemoryKind)
    (entityKind : Option EntityKind) (pathPrefix : Option String) (limit : Int) : Except MemoryError (List MemoryItem) := do
  checkPage 0 limit
  let filter ← prefixFilter normalizers pathPrefix
  let pattern := "%" ++ escapeLike query ++ "%"
  return (((tables.items.filter (tables.recalled pattern kind entityKind filter)).insertionSort
    MemoryRow.newestFirst).take limit.toNat).map tables.item

abbrev EntityKey := String ×ₗ String ×ₗ String ×ₗ Nat

/-- `(kind, COALESCE(path, ''), label, id)`. -/
def Entity.key (entity : Entity) : EntityKey :=
  toLex (entity.kind.text,toLex (entity.path.getD "",toLex (entity.label,entity.id)))

def Entity.selected (kind : Option EntityKind) (filter : PrefixFilter) (entity : Entity) : Bool :=
  entity.status == .active && kind.all (fun kind => entity.kind == kind) && filter.accepts entity.path

/-- Past the row that the id names; before every row for the id 0. -/
def Entity.pastCursor (entities : List Entity) (afterId : Nat) (entity : Entity) : Bool :=
  afterId == 0 || (entities.find? (fun cursor => cursor.id == afterId)).any (fun cursor => cursor.key < entity.key)

/-- `SELECT_ACTIVE_ENTITIES`. -/
def listActiveEntities (kind : Option EntityKind) (filter : PrefixFilter) (afterId limit : Nat)
    (entities : List Entity) : List Entity :=
  ((entities.filter (fun entity => entity.selected kind filter && entity.pastCursor entities afterId)).insertionSort
    (fun first second => first.key ≤ second.key)).take limit

def listEntities (normalizers : MemoryNormalizers) (entities : List Entity) (kind : Option EntityKind)
    (pathPrefix : Option String) (afterId limit : Int) : Except MemoryError (List Entity) := do
  checkPage afterId limit
  let filter ← prefixFilter normalizers pathPrefix
  return listActiveEntities kind filter afterId.toNat limit.toNat entities

end Proactive.Store
