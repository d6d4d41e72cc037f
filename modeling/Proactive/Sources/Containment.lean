import Proactive.Situations.CalendarConflict
import Proactive.Sources.GoogleEvaluation
import Proactive.Sources.MimeWalk

/-! Which responses of the provider end a read in an exception that nothing names. -/
namespace Proactive.Sources
open Proactive.Library Proactive.Store Proactive.Situations

/-- The read returns a result or raises its adapter's own error. -/
def Contained {ε α : Type} (outcome : Read ε α) : Prop :=
  (∃ result, outcome = .ok result) ∨ ∃ error, outcome = .error (.provider error)

theorem contained_ok {ε α : Type} (result : α) : Contained (.ok result : Read ε α) := Or.inl ⟨result,rfl⟩

theorem contained_provider {ε α : Type} (error : ε) : Contained (.error (.provider error) : Read ε α) :=
  Or.inr ⟨error,rfl⟩

theorem not_contained_raised {ε α : Type} (error : Raised) :
    ¬Contained (.error (.raised error) : Read ε α) := by
  rintro (⟨_,failed⟩ | ⟨_,failed⟩)
  · cases failed
  · cases failed

theorem contained_bind {ε α β : Type} {first : Read ε α} {next : α → Read ε β}
    (head : Contained first) :
    Contained (first >>= next) ↔ ∀ value, first = .ok value → Contained (next value) := by
  rcases head with ⟨value,rfl⟩ | ⟨error,rfl⟩
  · exact ⟨fun fine other same => Except.ok.inj same ▸ fine,fun fine => fine value rfl⟩
  · exact ⟨fun _ _ failed => (nomatch failed),fun _ => contained_provider error⟩

theorem contained_bind_ok {ε α β : Type} (first : Read ε α) (next : α → β) :
    Contained (first >>= fun value => .ok (next value)) ↔ Contained first := by
  cases first with
  | ok value => exact ⟨fun _ => contained_ok value,fun _ => contained_ok (next value)⟩
  | error failure =>
    constructor
    · rintro (⟨_,failed⟩ | ⟨error,failed⟩)
      · cases failed
      · exact Or.inr ⟨error,congrArg Except.error (Except.error.inj failed)⟩
    · rintro (⟨_,failed⟩ | ⟨error,failed⟩)
      · cases failed
      · exact Or.inr ⟨error,congrArg Except.error (Except.error.inj failed)⟩

section gmail
variable (responses : Nat → HttpResponse)

theorem getGmail_contained (index : Nat) : Contained (getGmail (.answers responses) index) := by
  change Contained ((acceptGmailResponse (responses index)).mapError .provider)
  cases acceptGmailResponse (responses index) with
  | error error => exact contained_provider error
  | ok body => exact contained_ok body

theorem parseGmail_contained {α : Type} (validate : Body → Option α) (body : Body) :
    Contained (parseGmail validate body) := by
  unfold parseGmail
  cases validate body with
  | none => exact contained_provider _
  | some value => exact contained_ok value

variable (adapter : GmailAdapter)

theorem readProfile_contained : Contained (adapter.readProfile (.answers responses)) :=
  (contained_bind (getGmail_contained responses 0)).mpr (fun body _ =>
    parseGmail_contained adapter.json.profile body)

theorem listPages_contained (remaining : Nat) (listing : Listing) :
    Contained (adapter.listPages (.answers responses) remaining listing) := by
  induction remaining generalizing listing with
  | zero => exact contained_ok _
  | succ remaining ih =>
    unfold GmailAdapter.listPages
    rw [contained_bind (getGmail_contained responses _)]
    intro body _
    rw [contained_bind (parseGmail_contained _ body)]
    intro page _
    dsimp only
    split
    · exact contained_ok _
    · split
      · exact contained_provider _
      · exact ih _

theorem readDetail_contained (index : Nat) :
    Contained (adapter.readDetail (.answers responses) index) := by
  have got := getGmail_contained responses index
  unfold GmailAdapter.readDetail
  split
  · exact contained_ok none
  · rename_i failure _ ran
    rw [ran] at got
    rcases got with ⟨_,failed⟩ | ⟨error,failed⟩
    · cases failed
    · rw [Except.error.inj failed]
      exact contained_provider error
  · split
    · exact contained_ok none
    · rcases parseGmail_contained adapter.json.threadDetail _ with ⟨detail,ran⟩ | ⟨error,ran⟩
      · rw [ran]
        exact contained_ok (some detail)
      · rw [ran]
        exact contained_provider error

/-- Of `count` details, the first of them requested after `first` others, those
that the loop reaches decode: no earlier one ended the read. -/
def DetailsDecodable (adapter : GmailAdapter) (transport : Transport) (first count : Nat) : Prop :=
  ∀ k < count, (∀ j < k, ∃ found, adapter.readDetail transport (first + j) = .ok found) →
    ∀ detail, adapter.readDetail transport (first + k) = .ok (some detail) →
      ThreadDecodable adapter.library detail

theorem detailsDecodable_succ (transport : Transport) (first count : Nat) :
    DetailsDecodable adapter transport first (count + 1) ↔
      (∀ detail, adapter.readDetail transport first = .ok (some detail) →
        ThreadDecodable adapter.library detail) ∧
      ((∃ found, adapter.readDetail transport first = .ok found) →
        DetailsDecodable adapter transport (first + 1) count) := by
  have shift (j : Nat) : adapter.readDetail transport (first + (j + 1)) =
      adapter.readDetail transport (first + 1 + j) := by
    rw [Nat.add_right_comm,Nat.add_assoc]
  unfold DetailsDecodable
  rw [Outcome.forall_reached_succ (fun j => ∃ found, adapter.readDetail transport (first + j) = .ok found)
    (fun k => ∀ detail, adapter.readDetail transport (first + k) = .ok (some detail) →
      ThreadDecodable adapter.library detail)]
  simp only [shift,Nat.add_zero]

/-- The loop raises only at a thread that it reaches and whose latest message
does not decode. -/
theorem projectThreads_contained_iff (profile : GmailProfile) (projected : List GmailThread)
    (before : Nat) (rest : List GmailThread) (projection : Projection) :
    Contained (adapter.projectThreads (.answers responses) profile projected before rest projection) ↔
      DetailsDecodable adapter (.answers responses) (before + projection.detailRequestCount)
        rest.length := by
  induction rest generalizing projection with
  | nil => exact ⟨fun _ k bound => absurd bound (Nat.not_lt_zero k),fun _ => contained_ok projection⟩
  | cons thread rest ih =>
    rw [List.length_cons,detailsDecodable_succ]
    unfold GmailAdapter.projectThreads
    have answered := readDetail_contained responses adapter (before + projection.detailRequestCount)
    cases ran : adapter.readDetail (.answers responses) (before + projection.detailRequestCount) with
    | error failure =>
      rw [ran] at answered
      obtain ⟨error,rfl⟩ : ∃ error, failure = .provider error := by
        rcases answered with ⟨_,failed⟩ | ⟨error,failed⟩
        · cases failed
        · exact ⟨error,Except.error.inj failed⟩
      refine ⟨fun _ => ⟨fun _ failed => (nomatch failed),fun ⟨_,failed⟩ => (nomatch failed)⟩,fun _ => ?_⟩
      split
      · exact contained_ok _
      · rename_i same
        rw [← Except.error.inj same]
        exact contained_provider error
      · rename_i same
        cases same
      · rename_i same
        cases same
    | ok found =>
      rw [forall_prop_of_true ⟨found,rfl⟩]
      cases found with
      | none =>
        have skipped : ∀ detail, (Except.ok none : Read GmailError (Option WireThreadDetail)) =
            .ok (some detail) → ThreadDecodable adapter.library detail := by
          intro detail same
          cases same
        rw [and_iff_right skipped]
        exact ih (projection.requested.tooLarge thread.id)
      | some detail =>
        have projects := projectThread_ok_iff adapter.library thread.id detail profile.historyId
        have only : (∀ other, (Except.ok (some detail) : Read GmailError _) = .ok (some other) →
            ThreadDecodable adapter.library other) ↔ ThreadDecodable adapter.library detail :=
          ⟨fun all => all detail rfl,fun one other same => Option.some.inj (Except.ok.inj same) ▸ one⟩
        rw [only]
        dsimp only
        cases ended : projectThread adapter.library thread.id detail profile.historyId with
        | error error =>
          rw [ended] at projects
          refine ⟨fun contained => absurd contained (not_contained_raised error),fun both => ?_⟩
          obtain ⟨_,failed⟩ := projects.mpr both.1
          cases failed
        | ok snapshot =>
          rw [and_iff_right (projects.mp ⟨snapshot,ended⟩)]
          have next := ih (projection.requested.add thread.id snapshot)
          cases snapshot <;> exact next

def MailDecodable (adapter : GmailAdapter) (transport : Transport) : Prop :=
  ∀ profile listed, adapter.readProfile transport = .ok profile →
    adapter.listThreads transport = .ok listed →
      DetailsDecodable adapter transport (1 + listed.pageCount)
        (GmailAdapter.sliceThreads adapter.maxProjectedThreads listed.threads).length

theorem readInboxThreads_contained_iff :
    Contained (adapter.readInboxThreads (.answers responses)) ↔
      MailDecodable adapter (.answers responses) := by
  have projects (profile : GmailProfile) (listed : GmailReadResult) (projected : List GmailThread) :=
    projectThreads_contained_iff responses adapter profile projected (1 + listed.pageCount) projected
      (GmailAdapter.openProjection listed projected)
  unfold GmailAdapter.readInboxThreads MailDecodable
  rw [contained_bind (readProfile_contained responses adapter)]
  have listing := listPages_contained responses adapter gmailMaxPages .empty
  constructor
  · intro fine profile listed read page
    have looped := (contained_bind listing).mp (fine profile read) listed page
    exact (projects profile listed _).mp ((contained_bind_ok _ _).mp looped)
  · intro decodable profile read
    refine (contained_bind listing).mpr (fun listed page => ?_)
    exact (contained_bind_ok _ _).mpr ((projects profile listed _).mpr
      (decodable profile listed read page))

end gmail

section calendar
variable (adapter : CalendarAdapter)

def TimeRepresentable (wire : WireEventTime) : Prop :=
  ∀ raw wall offset, wire.dateTime = some raw →
    adapter.datetimeFromisoformat (normalizeTime raw) = some ⟨wall,some offset⟩ →
      representable (wall - offset) = true

def ItemRepresentable (wire : WireEvent) : Prop :=
  ∀ id status start end_, wire.id.filter (fun id => id != "") = some id →
    parseStatus wire.status = some status → wire.start = some start → wire.end_ = some end_ →
      TimeRepresentable adapter start ∧ TimeRepresentable adapter end_

theorem parseEventTime_ok_iff (wire : WireEventTime) :
    (∃ bound, adapter.parseEventTime wire = .ok bound) ↔ TimeRepresentable adapter wire := by
  unfold CalendarAdapter.parseEventTime TimeRepresentable
  cases wire.dateTime with
  | none => exact ⟨fun _ _ _ _ same => (nomatch same),fun _ => ⟨_,rfl⟩⟩
  | some raw =>
    dsimp only
    cases parsed : adapter.datetimeFromisoformat (normalizeTime raw) with
    | none =>
      refine ⟨fun _ other wall offset same found => ?_,fun _ => ⟨_,rfl⟩⟩
      obtain rfl := Option.some.inj same
      rw [parsed] at found
      cases found
    | some time =>
      obtain ⟨wall,offset⟩ := time
      cases offset with
      | none =>
        refine ⟨fun _ other _ offset same found => ?_,fun _ => ⟨_,rfl⟩⟩
        obtain rfl := Option.some.inj same
        rw [parsed] at found
        cases found
      | some offset =>
        have only : (∀ other wall' offset', some raw = some other →
            adapter.datetimeFromisoformat (normalizeTime other) = some ⟨wall',some offset'⟩ →
              representable (wall' - offset') = true) ↔ representable (wall - offset) = true := by
          refine ⟨fun all => all raw wall offset rfl parsed,fun fine other wall' offset' same found => ?_⟩
          obtain rfl := Option.some.inj same
          rw [parsed] at found
          cases found
          exact fine
        rw [only]
        dsimp only
        unfold astimezoneUtc
        by_cases fine : representable (wall - offset) = true
        · rw [if_pos fine]
          exact ⟨fun _ => fine,fun _ => ⟨_,rfl⟩⟩
        · rw [if_neg fine]
          exact ⟨fun ⟨_,failed⟩ => (nomatch failed),fun other => absurd other fine⟩

theorem parseBounds_ok_iff (status : EventStatus) (startWire endWire : Option WireEventTime) :
    (∃ bounds, adapter.parseBounds status startWire endWire = .ok bounds) ↔
      ∀ start end_, startWire = some start → endWire = some end_ →
        TimeRepresentable adapter start ∧ TimeRepresentable adapter end_ := by
  unfold CalendarAdapter.parseBounds
  cases startWire with
  | none => cases endWire <;> exact ⟨fun _ _ _ same => (nomatch same),fun _ => ⟨_,rfl⟩⟩
  | some start =>
    cases endWire with
    | none => exact ⟨fun _ _ _ _ same => (nomatch same),fun _ => ⟨_,rfl⟩⟩
    | some end_ =>
      have only : (∀ first last, some start = some first → some end_ = some last →
          TimeRepresentable adapter first ∧ TimeRepresentable adapter last) ↔
            (∃ bound, adapter.parseEventTime start = .ok bound) ∧
              ∃ bound, adapter.parseEventTime end_ = .ok bound := by
        rw [parseEventTime_ok_iff,parseEventTime_ok_iff]
        refine ⟨fun all => all start end_ rfl rfl,fun both first last same other => ?_⟩
        rwa [← Option.some.inj same,← Option.some.inj other]
      rw [only]
      constructor
      · rintro ⟨bounds,ran⟩
        obtain ⟨first,started,ran⟩ := (Outcome.bind_ok_iff _ _ _).mp ran
        obtain ⟨last,ended,_⟩ := (Outcome.bind_ok_iff _ _ _).mp ran
        exact ⟨⟨first,started⟩,last,ended⟩
      · rintro ⟨⟨first,started⟩,last,ended⟩
        exact ⟨_,(Outcome.bind_ok_iff _ _ _).mpr ⟨first,started,
          (Outcome.bind_ok_iff _ _ _).mpr ⟨last,ended,rfl⟩⟩⟩

theorem parseEvent_ok_iff (wire : WireEvent) :
    (∃ event, adapter.parseEvent wire = .ok event) ↔ ItemRepresentable adapter wire := by
  unfold CalendarAdapter.parseEvent ItemRepresentable
  cases wire.id.filter (fun id => id != "") with
  | none => exact ⟨fun _ _ _ _ _ same => (nomatch same),fun _ => ⟨_,rfl⟩⟩
  | some id =>
    cases parseStatus wire.status with
    | none => exact ⟨fun _ _ _ _ _ _ same => (nomatch same),fun _ => ⟨_,rfl⟩⟩
    | some status =>
      have bounds := parseBounds_ok_iff adapter status wire.start wire.end_
      constructor
      · rintro ⟨event,ran⟩ _ _ start end_ _ _
        obtain ⟨found,parsed,_⟩ := (Outcome.bind_ok_iff _ _ _).mp ran
        exact bounds.mp ⟨found,parsed⟩ start end_
      · intro fine
        obtain ⟨found,parsed⟩ := bounds.mpr (fun start end_ => fine id status start end_ rfl rfl)
        exact ⟨_,(Outcome.bind_ok_iff _ _ _).mpr ⟨found,parsed,rfl⟩⟩

theorem parseItems_ok_iff (items : List WireEvent) :
    (∃ parsed, adapter.parseItems items = .ok parsed) ↔ ∀ item ∈ items, ItemRepresentable adapter item := by
  induction items with
  | nil => exact ⟨fun _ _ member => (nomatch member),fun _ => ⟨_,rfl⟩⟩
  | cons item rest ih =>
    rw [List.forall_mem_cons,← ih,← parseEvent_ok_iff,CalendarAdapter.parseItems]
    constructor
    · rintro ⟨parsed,ran⟩
      obtain ⟨event,first,ran⟩ := (Outcome.bind_ok_iff _ _ _).mp ran
      obtain ⟨others,later,_⟩ := (Outcome.bind_ok_iff _ _ _).mp ran
      exact ⟨⟨event,first⟩,others,later⟩
    · rintro ⟨⟨event,first⟩,others,later⟩
      rw [first]
      change ∃ parsed, (adapter.parseItems rest >>= _) = _
      rw [later]
      cases event <;> exact ⟨_,rfl⟩

variable (responses : Nat → HttpResponse)

theorem readPage_contained (index : Nat) : Contained (adapter.readPage (.answers responses) index) := by
  unfold CalendarAdapter.readPage Transport.answers
  dsimp only
  cases acceptCalendarResponse (responses index) with
  | error error => exact contained_provider error
  | ok body =>
    dsimp only
    cases adapter.validatePage body with
    | none => exact contained_provider _
    | some page => exact contained_ok page

/-- Of `count` pages, the first of them requested after `first` others, those that
the loop reaches hold only representable items: every earlier one named a next page. -/
def PagesRepresentable (transport : Transport) (first count : Nat) : Prop :=
  ∀ k < count, (∀ j < k, ∃ page token, adapter.readPage transport (first + j) = .ok page ∧
      page.nextPageToken = some token) →
    ∀ page, adapter.readPage transport (first + k) = .ok page →
      ∀ item ∈ page.items, ItemRepresentable adapter item

theorem pagesRepresentable_succ (transport : Transport) (first count : Nat) :
    PagesRepresentable adapter transport first (count + 1) ↔
      (∀ page, adapter.readPage transport first = .ok page →
        ∀ item ∈ page.items, ItemRepresentable adapter item) ∧
      ((∃ page token, adapter.readPage transport first = .ok page ∧ page.nextPageToken = some token) →
        PagesRepresentable adapter transport (first + 1) count) := by
  have shift (j : Nat) : adapter.readPage transport (first + (j + 1)) =
      adapter.readPage transport (first + 1 + j) := by
    rw [Nat.add_right_comm,Nat.add_assoc]
  unfold PagesRepresentable
  rw [Outcome.forall_reached_succ (fun j => ∃ page token, adapter.readPage transport (first + j) = .ok page ∧
      page.nextPageToken = some token)
    (fun k => ∀ page, adapter.readPage transport (first + k) = .ok page →
      ∀ item ∈ page.items, ItemRepresentable adapter item)]
  simp only [shift,Nat.add_zero]

theorem calendarPages_contained_iff (remaining : Nat) (result : CalendarReadResult) :
    Contained (adapter.listPages (.answers responses) remaining result) ↔
      PagesRepresentable adapter (.answers responses) result.pageCount remaining := by
  induction remaining generalizing result with
  | zero => exact ⟨fun _ k bound => absurd bound (Nat.not_lt_zero k),fun _ => contained_provider _⟩
  | succ remaining ih =>
    rw [pagesRepresentable_succ]
    unfold CalendarAdapter.listPages
    rcases readPage_contained adapter responses result.pageCount with ⟨page,ran⟩ | ⟨error,ran⟩
    · have parses := parseItems_ok_iff adapter page.items
      have only : (∀ other, adapter.readPage (.answers responses) result.pageCount = .ok other →
          ∀ item ∈ other.items, ItemRepresentable adapter item) ↔
            ∃ parsed, adapter.parseItems page.items = .ok parsed := by
        rw [parses,ran]
        exact ⟨fun all => all page rfl,fun one other same => Except.ok.inj same ▸ one⟩
      have goesOn : (∃ other token, adapter.readPage (.answers responses) result.pageCount = .ok other ∧
          other.nextPageToken = some token) ↔ ∃ token, page.nextPageToken = some token := by
        rw [ran]
        constructor
        · intro goes
          obtain ⟨_,token,same,named⟩ := goes
          exact ⟨token,Except.ok.inj same ▸ named⟩
        · intro goes
          obtain ⟨token,named⟩ := goes
          exact ⟨page,token,rfl,named⟩
      rw [only,goesOn,ran]
      change Contained ((adapter.parseItems page.items).mapError .raised >>= _) ↔ _
      cases parsed : adapter.parseItems page.items with
      | error error =>
        refine ⟨fun contained => absurd contained (not_contained_raised error),fun both => ?_⟩
        obtain ⟨_,failed⟩ := both.1
        cases failed
      | ok found =>
        obtain ⟨events,skipped⟩ := found
        rw [and_iff_right ⟨_,rfl⟩]
        cases page.nextPageToken with
        | none =>
          refine ⟨fun _ goes => ?_,fun _ => contained_ok _⟩
          obtain ⟨_,named⟩ := goes
          cases named
        | some token =>
          rw [forall_prop_of_true ⟨token,rfl⟩]
          exact ih _
    · rw [ran]
      refine ⟨fun _ => ⟨fun _ same => ?_,fun goes => ?_⟩,fun _ => contained_provider error⟩
      · cases same
      · obtain ⟨_,_,same,_⟩ := goes
        cases same

theorem listEvents_contained_iff :
    Contained (adapter.listEvents (.answers responses)) ↔
      PagesRepresentable adapter (.answers responses) 0 calendarMaxPages :=
  calendarPages_contained_iff adapter responses calendarMaxPages _

end calendar

/-- Both snapshots are there, for the generations that were reserved. -/
def HandsOn (inputs : EngineInputs) (gmail calendar : SourceGeneration) : Prop :=
  inputs.gmailThreads.map SourceSnapshot.generation = some gmail ∧
    inputs.calendarEvents.map SourceSnapshot.generation = some calendar

theorem readSources_contained (dependencies : EvaluationDependencies)
    (gmail : Contained dependencies.gmail) (calendar : Contained dependencies.calendar)
    (gmailGeneration calendarGeneration : SourceGeneration) :
    ∃ inputs, dependencies.readSources gmailGeneration calendarGeneration = .ok inputs ∧
      HandsOn inputs gmailGeneration calendarGeneration := by
  unfold EvaluationDependencies.readSources EvaluationDependencies.gmailReading
    EvaluationDependencies.calendarReading
  rcases gmail with ⟨result,read⟩ | ⟨error,read⟩ <;> rcases calendar with ⟨events,listed⟩ | ⟨failed,listed⟩
  all_goals
    rw [read,listed]
    exact ⟨_,rfl,rfl,rfl⟩

/-- Whatever the provider sends, each read ends in a result or in its adapter's
error, the detection over the events returns, and both reserved generations reach
the evaluation. -/
structure ReadsContained (gmail : GmailAdapter) (calendar : CalendarAdapter)
    (mail events : Nat → HttpResponse) (settings : ConflictSettings) : Prop where
  gmailRead : Contained (gmail.readInboxThreads (.answers mail))
  calendarRead : Contained (calendar.listEvents (.answers events))
  detection : ∀ result, calendar.listEvents (.answers events) = .ok result →
    ∃ run, runCalendarConflictDetection settings result.events = .ok run
  prepared : ∀ gmailReservedAt calendarReservedAt db, ∃ inputs,
    ((EvaluationDependencies.prepareEvaluation ⟨gmail.readInboxThreads (.answers mail),
      calendar.listEvents (.answers events),gmailReservedAt,calendarReservedAt⟩).run db).1 = .ok inputs ∧
        HandsOn inputs (nextGeneration .gmail db)
          (nextGeneration .calendar (db.issue .gmail gmailReservedAt))

/-- The responses stay inside what the conversions of the readers and of the
detection can represent. -/
structure Convertible (gmail : GmailAdapter) (calendar : CalendarAdapter)
    (mail events : Nat → HttpResponse) (settings : ConflictSettings) : Prop where
  bodies : MailDecodable gmail (.answers mail)
  times : PagesRepresentable calendar (.answers events) 0 calendarMaxPages
  conflicts : ∀ result, calendar.listEvents (.answers events) = .ok result →
    DaysRepresentable settings.zone result.events ∧
      ∀ pair ∈ reportedPairs settings result.events, Localizable settings.zone pair

theorem reads_contained_iff (gmail : GmailAdapter) (calendar : CalendarAdapter)
    (mail events : Nat → HttpResponse) (settings : ConflictSettings) :
    ReadsContained gmail calendar mail events settings ↔
      Convertible gmail calendar mail events settings := by
  constructor
  · intro contained
    refine ⟨(readInboxThreads_contained_iff mail gmail).mp contained.gmailRead,
      (listEvents_contained_iff calendar events).mp contained.calendarRead,fun result listed => ?_⟩
    exact (runCalendarConflictDetection_ok_iff settings result.events).mp
      (contained.detection result listed)
  · intro convertible
    have read := (readInboxThreads_contained_iff mail gmail).mpr convertible.bodies
    have listed := (listEvents_contained_iff calendar events).mpr convertible.times
    refine ⟨read,listed,fun result same => ?_,fun gmailReservedAt calendarReservedAt db => ?_⟩
    · exact (runCalendarConflictDetection_ok_iff settings result.events).mpr
        (convertible.conflicts result same)
    · obtain ⟨inputs,ran,handed⟩ := readSources_contained
        ⟨gmail.readInboxThreads (.answers mail),calendar.listEvents (.answers events),
          gmailReservedAt,calendarReservedAt⟩ read listed (nextGeneration .gmail db)
        (nextGeneration .calendar (db.issue .gmail gmailReservedAt))
      refine ⟨inputs,?_,handed⟩
      rw [EvaluationDependencies.prepareEvaluation_run]
      dsimp only
      rw [ran]
      rfl

def garbledBody : Body :=
  textBody ("\x7b\"messages\":[\x7b\"id\":\"m\",\"internalDate\":\"1783760400000\",\"labelIds\":[\"INBOX\"]," ++
    "\"payload\":\x7b\"mimeType\":\"text/plain\",\"body\":\x7b\"data\":\"é\"\x7d\x7d\x7d]\x7d")

def garbledAdapter : GmailAdapter where
  json := {
    profile := fun body => if body = profileBody then some ⟨"me@example.com",1,1,"7"⟩ else none
    threadsPage := fun body => if body = threadsBody then some ⟨[⟨some "t",none⟩],none⟩ else none
    threadDetail := fun body =>
      if body = garbledBody then some ⟨[⟨some "m",some 1783760400000,none,some ["INBOX"],
        some (.part (some "text/plain") [] (some ⟨some "é"⟩) [])⟩]⟩
      else none}
  library := {
    casefold := fun text => text
    parseaddr := fun _ => ("","")
    b64decode := fun _ => none
    feedHtml := fun _ => []
    fromTimestamp := fun milliseconds => some (milliseconds * 1000)}
  now := 1783760400 * second
  maxProjectedThreads := defaultMaxProjectedThreads

/-- An event that starts in the first hour of the calendar, east of Greenwich. -/
def firstHourBody : Body :=
  textBody ("\x7b\"items\":[\x7b\"id\":\"e\",\"start\":\x7b\"dateTime\":\"0001-01-01T00:00:00+01:00\"\x7d," ++
    "\"end\":\x7b\"dateTime\":\"0001-01-01T02:00:00+01:00\"\x7d\x7d]\x7d")

def firstHourAdapter : CalendarAdapter where
  validatePage := fun body =>
    if body = firstHourBody then
      some ⟨[⟨some "e",none,none,some ⟨none,some "0001-01-01T00:00:00+01:00"⟩,
        some ⟨none,some "0001-01-01T02:00:00+01:00"⟩,none,[],none⟩],none⟩
    else none
  datetimeFromisoformat := fun text =>
    if text = "0001-01-01T00:00:00+01:00" then some ⟨firstInstant,some (3600 * second)⟩
    else if text = "0001-01-01T02:00:00+01:00" then some ⟨firstInstant + 7200 * second,some (3600 * second)⟩
    else none
  dateFromisoformat := fun _ => none
  now := 1783760400 * second

def utcConflicts : ConflictSettings := ⟨1783760400 * second,.utc,7200 * second,day⟩

/-- Either reader alone lets an exception through. -/
theorem garbled_reads_escape :
    garbledAdapter.readInboxThreads (.answers (inboxResponses threadsBody garbledBody)) =
        .error (.raised .valueError) ∧
      firstHourAdapter.listEvents (.answers (fun _ => ⟨httpOk,firstHourBody,none⟩)) =
        .error (.raised .overflowError) ∧
      ¬ReadsContained garbledAdapter firstHourAdapter (inboxResponses threadsBody garbledBody)
        (fun _ => ⟨httpOk,firstHourBody,none⟩) utcConflicts := by
  have mail : garbledAdapter.readInboxThreads (.answers (inboxResponses threadsBody garbledBody)) =
      .error (.raised .valueError) := by decide +kernel
  refine ⟨mail,by decide +kernel,fun contained => ?_⟩
  have read := contained.gmailRead
  rw [mail] at read
  exact not_contained_raised _ read

end Proactive.Sources
