import Proactive.Library.Outcome
import Proactive.Sources.Transport
import Proactive.Situations.Dates

/-! Read-only Google Calendar events adapter. -/
namespace Proactive.Sources
open Proactive.Library Proactive.Store Proactive.Situations

abbrev CalendarErrorCode := ProviderErrorCode

inductive CalendarErrorKind | auth | parse
deriving DecidableEq, Repr

structure CalendarError where
  kind : CalendarErrorKind
  errorCode : CalendarErrorCode
  httpStatus : Option Int
deriving DecidableEq, Repr

structure CalendarReadResult where
  events : List CalendarEvent
  fetchedAt : Int
  pageCount : Nat
  skippedCount : Nat
deriving DecidableEq, Repr

structure WireEventTime where
  date : Option String
  dateTime : Option String
deriving DecidableEq, Repr

structure WireAttendee where
  isSelf : Bool
  responseStatus : Option String
deriving DecidableEq, Repr

structure WireOrganizer where
  isSelf : Bool
deriving DecidableEq, Repr

structure WireEvent where
  id : Option String
  status : Option String
  summary : Option String
  start : Option WireEventTime
  end_ : Option WireEventTime
  organizer : Option WireOrganizer
  attendees : List WireAttendee
  transparency : Option String
deriving DecidableEq, Repr

structure WireEventsPage where
  items : List WireEvent
  nextPageToken : Option String
deriving DecidableEq, Repr

/-- A parsed `datetime`: its wall clock in microseconds, and its offset unless it is naive. -/
structure ParsedTime where
  wall : Int
  offset : Option Int
deriving DecidableEq, Repr

/-- What the adapter is bound to, less its transport. `validatePage` is `none` on
a `ValidationError`, and the two parsers of the standard library are `none` on a
`ValueError`. -/
structure CalendarAdapter where
  validatePage : Body → Option WireEventsPage
  datetimeFromisoformat : String → Option ParsedTime
  dateFromisoformat : String → Option Int
  now : Int

def calendarMaxPages : Nat := 20

def CalendarParseError (errorCode : CalendarErrorCode) (httpStatus : Option Int) : CalendarError :=
  ⟨.parse,errorCode,httpStatus⟩

def acceptCalendarResponse (response : HttpResponse) : Except CalendarError Body :=
  if response.limitReason.isSome then .error (CalendarParseError .resourceLimit none)
  else if response.statusCode = httpOk then .ok response.body
  else if response.statusCode = 401 ∨ response.statusCode = 403 then
    .error ⟨.auth,.http4xx,some response.statusCode⟩
  else if httpServerErrorMin ≤ response.statusCode ∧ response.statusCode < httpServerErrorMax then
    .error (CalendarParseError .http5xx (some response.statusCode))
  else .error (CalendarParseError .unknown (some response.statusCode))

def parseStatus : Option String → Option EventStatus
  | none => some .confirmed
  | some raw =>
    if raw = "confirmed" then some .confirmed
    else if raw = "tentative" then some .tentative
    else if raw = "cancelled" then some .cancelled
    else none

def parseResponse : Option String → Option ResponseStatus
  | none => none
  | some raw =>
    if raw = "needsAction" then some .needsAction
    else if raw = "declined" then some .declined
    else if raw = "tentative" then some .tentative
    else if raw = "accepted" then some .accepted
    else none

def normalizeTime (raw : String) : String :=
  if raw.toList.getLast? = some 'Z' then String.ofList raw.toList.dropLast ++ "+00:00" else raw

/-- `astimezone(UTC)` of a wall clock time with its offset. -/
def astimezoneUtc (wall offset : Int) : Except Raised Int :=
  if representable (wall - offset) then .ok (wall - offset) else .error .overflowError

namespace CalendarAdapter
variable (adapter : CalendarAdapter)

def parseEventTime (wire : WireEventTime) : Except Raised (Option EventBound) :=
  match wire.dateTime with
  | some raw =>
    match adapter.datetimeFromisoformat (normalizeTime raw) with
    | some ⟨wall,some offset⟩ => (astimezoneUtc wall offset).map (fun instant => some (.timedInstant instant))
    | some ⟨_,none⟩ => .ok none
    | none => .ok none
  | none => .ok ((wire.date.bind adapter.dateFromisoformat).map .allDayDate)

/-- The bounds of an event, `none` when it has to be skipped for them. -/
def parseBounds (status : EventStatus) (startWire endWire : Option WireEventTime) :
    Except Raised (Option (Option EventBound × Option EventBound)) :=
  match startWire,endWire with
  | none,none => .ok (if status = .cancelled then some (none,none) else none)
  | some startWire,some endWire => do
    let start ← adapter.parseEventTime startWire
    let end_ ← adapter.parseEventTime endWire
    return if start = none ∨ end_ = none then none else some (start,end_)
  | _,_ => .ok none

def calendarEvent (wire : WireEvent) (id : String) (status : EventStatus)
    (bounds : Option EventBound × Option EventBound) : CalendarEvent where
  id := id
  status := status
  summary := wire.summary
  start := bounds.1
  end_ := bounds.2
  isOrganizer := wire.organizer.any WireOrganizer.isSelf
  selfResponseStatus :=
    (wire.attendees.find? WireAttendee.isSelf).bind (fun attendee => parseResponse attendee.responseStatus)
  transparency := if wire.transparency = some "transparent" then .transparentEvent else .opaqueEvent

def parseEvent (wire : WireEvent) : Except Raised (Option CalendarEvent) :=
  match wire.id.filter (fun id => id != ""),parseStatus wire.status with
  | some id,some status => do
    let bounds ← adapter.parseBounds status wire.start wire.end_
    return bounds.map (calendarEvent wire id status)
  | _,_ => .ok none

def parseItems : List WireEvent → Except Raised (List CalendarEvent × Nat)
  | [] => .ok ([],0)
  | item::rest => do
    let event ← adapter.parseEvent item
    let (events,skipped) ← parseItems rest
    match event with
    | none => return (events,skipped + 1)
    | some event => return (event::events,skipped)

/-- The page that the request after `index` others answers. -/
def readPage (transport : Transport) (index : Nat) : Read CalendarError WireEventsPage :=
  match transport index with
  | .error failure => .error (.transport failure)
  | .ok response =>
    match acceptCalendarResponse response with
    | .error error => .error (.provider error)
    | .ok body =>
      match adapter.validatePage body with
      | none => .error (.provider (CalendarParseError .unknown none))
      | some page => .ok page

/-- The loop of `list_events`; the first argument is the pages that it may still read. -/
def listPages (transport : Transport) : Nat → CalendarReadResult → Read CalendarError CalendarReadResult
  | 0,_ => .error (.provider (CalendarParseError .unknown none))
  | remaining + 1,result => do
    let page ← adapter.readPage transport result.pageCount
    let (events,skipped) ← (adapter.parseItems page.items).mapError .raised
    let result := {result with
      events := result.events ++ events
      pageCount := result.pageCount + 1
      skippedCount := result.skippedCount + skipped}
    match page.nextPageToken with
    | none => return result
    | some _ => listPages transport remaining result

def listEvents (transport : Transport) : Read CalendarError CalendarReadResult :=
  adapter.listPages transport calendarMaxPages ⟨[],adapter.now,0,0⟩

variable {adapter}

theorem parseItems_events {items : List WireEvent} {events : List CalendarEvent} {skipped : Nat}
    (parsed : adapter.parseItems items = .ok (events,skipped)) :
    ∀ event ∈ events, ∃ wire ∈ items, adapter.parseEvent wire = .ok (some event) := by
  induction items generalizing events skipped with
  | nil =>
    obtain ⟨rfl,_⟩ := Prod.mk.inj (Except.ok.inj parsed)
    exact fun _ absent => nomatch absent
  | cons item rest ih =>
    obtain ⟨head,first,parsed⟩ := (Outcome.bind_ok_iff _ _ _).mp parsed
    obtain ⟨⟨others,dropped⟩,later,parsed⟩ := (Outcome.bind_ok_iff _ _ _).mp parsed
    have tail : ∀ event ∈ others, ∃ wire ∈ item::rest, adapter.parseEvent wire = .ok (some event) := by
      intro event member
      obtain ⟨wire,listed,read⟩ := ih later event member
      exact ⟨wire,List.mem_cons_of_mem item listed,read⟩
    cases head with
    | none =>
      obtain ⟨rfl,_⟩ := Prod.mk.inj (Except.ok.inj parsed)
      exact tail
    | some event =>
      obtain ⟨rfl,_⟩ := Prod.mk.inj (Except.ok.inj parsed)
      exact List.forall_mem_cons.mpr ⟨⟨item,List.mem_cons_self,first⟩,tail⟩

theorem listPages_events {transport : Transport} {remaining : Nat} {result final : CalendarReadResult}
    (before : ∀ event ∈ result.events, ∃ wire, adapter.parseEvent wire = .ok (some event))
    (listed : adapter.listPages transport remaining result = .ok final) :
    ∀ event ∈ final.events, ∃ wire, adapter.parseEvent wire = .ok (some event) := by
  induction remaining generalizing result with
  | zero => cases listed
  | succ remaining ih =>
    obtain ⟨page,_,listed⟩ := (Outcome.bind_ok_iff _ _ _).mp listed
    obtain ⟨⟨events,skipped⟩,parsed,listed⟩ := (Outcome.bind_ok_iff _ _ _).mp listed
    have added := parseItems_events ((Outcome.mapError_ok_iff _ _ _).mp parsed)
    have grown : ∀ event ∈ result.events ++ events,
        ∃ wire, adapter.parseEvent wire = .ok (some event) := by
      intro event member
      rcases List.mem_append.mp member with old | new
      · exact before event old
      · obtain ⟨wire,_,read⟩ := added event new
        exact ⟨wire,read⟩
    cases token : page.nextPageToken with
    | none =>
      simp only [token] at listed
      rw [← Except.ok.inj listed]
      exact grown
    | some next =>
      simp only [token] at listed
      exact ih grown listed

theorem listEvents_events {transport : Transport} {result : CalendarReadResult}
    (listed : adapter.listEvents transport = .ok result) :
    ∀ event ∈ result.events, ∃ wire, adapter.parseEvent wire = .ok (some event) :=
  listPages_events (by simp) listed

theorem parseEventTime_representable {wire : WireEventTime} {instant : Int}
    (parsed : adapter.parseEventTime wire = .ok (some (.timedInstant instant))) :
    representable instant = true := by
  unfold parseEventTime at parsed
  cases timed : wire.dateTime with
  | none =>
    rw [timed] at parsed
    obtain ⟨date,_,impossible⟩ := Option.map_eq_some_iff.mp (Except.ok.inj parsed)
    cases impossible
  | some raw =>
    simp only [timed] at parsed
    cases read : adapter.datetimeFromisoformat (normalizeTime raw) with
    | none => simp [read] at parsed
    | some time =>
      obtain ⟨wall,offset⟩ := time
      cases offset with
      | none => simp [read] at parsed
      | some offset =>
        simp only [read] at parsed
        obtain ⟨found,converted,same⟩ := (Outcome.map_ok_iff _ _ _).mp parsed
        obtain rfl : found = instant := by simpa using same
        unfold astimezoneUtc at converted
        split at converted
        · rename_i fine
          rwa [← Except.ok.inj converted]
        · cases converted

/-- The timed bounds of a parsed event are instants that UTC can name. -/
theorem parseEvent_representable {wire : WireEvent} {event : CalendarEvent}
    (parsed : adapter.parseEvent wire = .ok (some event)) (instant : Int)
    (bound : event.start = some (.timedInstant instant) ∨ event.end_ = some (.timedInstant instant)) :
    representable instant = true := by
  unfold parseEvent at parsed
  split at parsed
  · obtain ⟨bounds,read,same⟩ := (Outcome.bind_ok_iff _ _ _).mp parsed
    obtain ⟨pair,rfl,rfl⟩ := Option.map_eq_some_iff.mp (Except.ok.inj same)
    unfold parseBounds at read
    split at read
    · split at read
      · obtain rfl : (none,none) = pair := by simpa using read
        rcases bound with timed | timed <;> cases timed
      · simp at read
    · obtain ⟨start,first,read⟩ := (Outcome.bind_ok_iff _ _ _).mp read
      obtain ⟨end_,second,read⟩ := (Outcome.bind_ok_iff _ _ _).mp read
      have kept := Except.ok.inj read
      split at kept
      · cases kept
      · obtain rfl := Option.some.inj kept
        rcases bound with timed | timed
        · obtain rfl : start = _ := timed
          exact parseEventTime_representable first
        · obtain rfl : end_ = _ := timed
          exact parseEventTime_representable second
    · simp at read
  · simp at parsed

end CalendarAdapter
end Proactive.Sources
