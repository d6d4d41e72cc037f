import Proactive.Library.Grouping
import Proactive.Situations.Anchors
import Proactive.Situations.DeadlineText
import Proactive.Store.Memory

/-! Deterministic memory-based occasion detection over dated memories. -/
namespace Proactive.Situations
open Proactive.Library Proactive.Store DeadlineText

def defaultLeadDays : Int := 7

/-- A memory as the detector reads it. The column of the lead days may be null. -/
structure DatedMemory where
  id : Nat
  kind : MemoryKind
  entityId : Option Nat
  entity : Option String
  entityPath : Option String
  memoryAttribute : MemoryAttribute
  content : String
  dateAnchor : Option String
  recurrence : MemoryRecurrence
  leadDays : Option Int
  source : MemorySource
deriving DecidableEq, Repr

def DatedMemory.freeDated (item : DatedMemory) : FreeDatedMemory :=
  ⟨item.kind,item.content,item.dateAnchor,item.recurrence⟩

/-- One dated memory row with its next occurrence. -/
structure Occurrence where
  item : DatedMemory
  occurrence : Int
deriving DecidableEq, Repr

inductive OccasionKey
  | free (identity : FreeDatedMemoryKey)
  | entity (id : Nat) (memoryAttribute : MemoryAttribute)
  | item (id : Nat)
deriving DecidableEq, Repr

def groupKey (normalizers : MemoryNormalizers) (item : DatedMemory) : OccasionKey :=
  if item.memoryAttribute = .free then .free (freeDatedMemoryKey normalizers item.freeDated item.entityId)
  else match item.entityId with
    | some id => .entity id item.memoryAttribute
    | none => .item item.id

/-- `date(year, month, day)`. -/
def dateOf (year month dayOfMonth : Nat) : Except Raised Int :=
  match safeDate year month dayOfMonth with
  | none => .error .valueError
  | some date => .ok date

def occurrenceInYear (year month dayOfMonth : Nat) : Except Raised Int :=
  if month = 2 ∧ dayOfMonth = 29 ∧ IsoDate.leapYear year = false then dateOf year 2 28
  else dateOf year month dayOfMonth

def yearlyOccurrenceOnOrAfter (today : Int) (month dayOfMonth : Nat) : Except Raised Int := do
  let occurrence ← occurrenceInYear (yearOf today) month dayOfMonth
  if today ≤ occurrence then return occurrence
  else occurrenceInYear (yearOf today + 1) month dayOfMonth

def nextOccurrence (characters : Characters) (item : DatedMemory) (today : Int) : Except Raised (Option Int) :=
  match item.dateAnchor.bind (parseAnchor characters) with
  | none => .ok none
  | some (year,month,dayOfMonth) =>
    match year,item.recurrence with
    | none,_ => (yearlyOccurrenceOnOrAfter today month dayOfMonth).map some
    | some _,.yearly => (yearlyOccurrenceOnOrAfter today month dayOfMonth).map some
    | some year,.none =>
      (dateOf year month dayOfMonth).map (fun occurrence => if today ≤ occurrence then some occurrence else none)

/-- The rows with a next occurrence. A row whose date raises is skipped, with a warning in the log. -/
def occurrences (characters : Characters) (items : List DatedMemory) (today : Int) : List Occurrence :=
  items.filterMap (fun item =>
    match nextOccurrence characters item today with
    | .ok (some occurrence) => some ⟨item,occurrence⟩
    | .ok none | .error _ => none)

/-- `local_day_end`. -/
def checkedLocalDayEnd (zone : TimeZone) (date : Int) : Except Raised Int := do
  let next ← checkedDate (date + 1)
  zone.checkedLocalDayStart next

def effectiveLeadDays (leadDays : Int) (row : Occurrence) : Int := row.item.leadDays.getD leadDays

def due (today leadDays : Int) (row : Occurrence) : Bool := row.occurrence - today ≤ effectiveLeadDays leadDays row

def occasionDedupeKey (item : DatedMemory) (occurrenceYear : Nat) : String :=
  match item.entityId with
  | some id =>
    if item.memoryAttribute = .free then "personal_occasion:item:" ++ toString item.id ++ ":" ++ toString occurrenceYear
    else "personal_occasion:entity:" ++ toString id ++ ":" ++ item.memoryAttribute.text ++ ":" ++ toString occurrenceYear
  | none => "personal_occasion:item:" ++ toString item.id ++ ":" ++ toString occurrenceYear

def memoryQuotes (item : DatedMemory) : List (String × String) :=
  [("content",item.content)] ++ (item.entity.map (fun entity => ("entity",entity))).toList ++
    (item.entityPath.map (fun path => ("entity_path",path))).toList

/-- The distinct anchors of the rows, in order. -/
def recordedAnchors (rows : List Occurrence) : List String :=
  (rows.filterMap (fun row => row.item.dateAnchor)).eraseDups.mergeSort (fun first second => decide (first ≤ second))

def memoryIds (rows : List Occurrence) : List Nat :=
  (rows.map (fun row => row.item.id)).mergeSort (fun first second => decide (first ≤ second))

def occasionLabel (item : DatedMemory) : String :=
  if item.memoryAttribute = .free then "saved date" else item.memoryAttribute.text

def occasionDetection (rows : List Occurrence) (trigger : Occurrence) (today leadDays expiresAt : Int) : Detection where
  situationType := .personalOccasion
  dedupeKey := occasionDedupeKey trigger.item (yearOf trigger.occurrence)
  priority := .high
  title := "Upcoming " ++ occasionLabel trigger.item
  whyNow := "D-" ++ toString (trigger.occurrence - today) ++ ": upcoming " ++ occasionLabel trigger.item ++ " on " ++
    isoDate trigger.occurrence ++
      (if 1 < (recordedAnchors rows).length then
        " - contradictory dates on record: " ++ ", ".intercalate (recordedAnchors rows) else "")
  evidence :=
    { facts := [("selected_memory_id",toString trigger.item.id),
        ("memory_ids",",".intercalate ((memoryIds rows).map toString)),
        ("occurrence",isoDate trigger.occurrence),("days_until",toString (trigger.occurrence - today)),
        ("lead_days",toString (effectiveLeadDays leadDays trigger)),("memory_source",trigger.item.source.text)]
      quotedExternal := []
      quotedMemory := memoryQuotes trigger.item
      contradictoryDates := if 1 < (recordedAnchors rows).length then recordedAnchors rows else [] }
  expiresAt := some expiresAt

/-- `(row.occurrence, row.item.id)` is the smaller key. -/
def comesBefore (row other : Occurrence) : Bool :=
  row.occurrence < other.occurrence || row.occurrence == other.occurrence && row.item.id < other.item.id

/-- The earliest due row, the one of the least id among these. -/
def triggerOf (rows : List Occurrence) (today leadDays : Int) : Option Occurrence :=
  match rows.filter (due today leadDays) with
  | [] => none
  | first::rest => some (rest.foldl (fun best row => if comesBefore row best then row else best) first)

def groupDetection (rows : List Occurrence) (today : Int) (zone : TimeZone) (leadDays : Int) :
    Except Raised (Option Detection) :=
  match triggerOf rows today leadDays with
  | none => .ok none
  | some trigger => do
    let expiresAt ← checkedLocalDayEnd zone trigger.occurrence
    return some (occasionDetection rows trigger today leadDays expiresAt)

/-- A group that raises is skipped, with a warning in the log. -/
def detectPersonalOccasions (characters : Characters) (normalizers : MemoryNormalizers) (items : List DatedMemory)
    (now : Int) (zone : TimeZone) (leadDays : Int) : Except Raised (List Detection) := do
  let wall ← zone.checkedLocalTime now
  let today := wall / day
  let groups := Grouping.group (fun row => groupKey normalizers row.item) (occurrences characters items today)
  return groups.filterMap (fun entry =>
    match groupDetection entry.2 today zone leadDays with
    | .ok detection => detection
    | .error _ => none)

end Proactive.Situations
