import Proactive.Situations.DeadlineText
import Proactive.Situations.Inputs

/-! Deterministic reply-deadline detection over inbox thread snapshots. -/
namespace Proactive.Situations
open Proactive.Library Proactive.Store DeadlineText

namespace ReplyDeadline

def defaultReplyThreshold : Int := 48 * 3600 * second
def highPriorityMaxDays : Int := 1
def secondsPerHour : Int := 3600

def hours (duration : Int) : Int := duration / (secondsPerHour * second)

def awaiting (thread : InboxThreadSnapshot) : Bool := !thread.latestFromUser && thread.userIsRecipient

def parts (thread : InboxThreadSnapshot) : List (List Char) :=
  ([thread.subject,thread.bodyText,thread.snippet].filterMap id).map String.toList

def messageText (thread : InboxThreadSnapshot) : List Char := ['\n'].intercalate (parts thread)

def priorityOf (scan : DeadlineScan) (today : Int) : SituationPriority :=
  match scan.deadlineDate with
  | none => .routine
  | some date => if date - today ≤ highPriorityMaxDays then .high else .routine

/-- `str.capitalize`, of ASCII text. -/
def capitalize (text : String) : String :=
  match text.toList with
  | [] => ""
  | first::rest => String.ofList (first.toUpper::rest.map Char.toLower)

def reasons (scan : DeadlineScan) (age threshold : Int) : List String :=
  (if threshold ≤ age then
    ["no reply for " ++ toString (hours age) ++ "h (threshold " ++ toString (hours threshold) ++ "h)"] else []) ++
  (if scan.matchedMarker.isSome then
    ["deadline language detected" ++ scan.deadlineDate.elim "" (fun date => " for " ++ isoDate date)] else [])

def replyDetection (thread : InboxThreadSnapshot) (age threshold : Int) (scan : DeadlineScan) (today : Int) :
    Detection where
  situationType := .replyDeadline
  dedupeKey := "reply_deadline:" ++ thread.threadId ++ ":" ++ thread.latestMessageId
  priority := priorityOf scan today
  title := scan.deadlineDate.elim ("Reply pending for " ++ toString (hours age) ++ "h")
    (fun date => "Reply needed by " ++ isoDate date)
  whyNow := capitalize ("; ".intercalate (reasons scan age threshold))
  evidence :=
    { facts := [("thread_id",thread.threadId),("latest_message_id",thread.latestMessageId),
        ("age_hours",toString (hours age))] ++
          (scan.deadlineDate.map (fun date => ("deadline_date",isoDate date))).toList
      quotedExternal := (thread.subject.map (fun subject => ("subject",subject))).toList ++
        (thread.senderDisplay.map (fun sender => ("sender",sender))).toList ++
        (scan.matchedMarker.map (fun marker => ("matched_deadline_text",marker))).toList
      quotedMemory := []
      contradictoryDates := [] }
  expiresAt := none

section
variable (characters : Characters)

def detectThread (now today threshold : Int) (thread : InboxThreadSnapshot) : Except Raised (Option Detection) :=
  if awaiting thread then do
    let scan ← scanDeadlineText characters (messageText thread) today
    let age := now - thread.latestMessageAt
    return if age < threshold ∧ scan.matchedMarker = none then none
      else some (replyDetection thread age threshold scan today)
  else .ok none

def detectReplyDeadlines (zone : TimeZone) (threshold : Int) (threads : List InboxThreadSnapshot) (now : Int) :
    Except Raised (List Detection) := do
  let wall ← zone.checkedLocalTime now
  let found ← threads.mapM (detectThread characters now (wall / day) threshold)
  return found.filterMap id

/-- What the scan of a thread reads of its message. -/
def scanned (thread : InboxThreadSnapshot) : List Char := (messageText thread).take maxScanLength

def HasMarker (text : List Char) : Prop := ∃ pattern ∈ markers characters, (search characters pattern text).isSome = true

variable {characters} {zone : TimeZone} {threshold now : Int} {threads : List InboxThreadSnapshot}
  {thread : InboxThreadSnapshot}

theorem hasMarker_iff {text : List Char} : HasMarker characters text ↔ firstMarker characters text ≠ none := by
  unfold HasMarker firstMarker
  rw [ne_eq,Option.map_eq_none_iff,List.findSome?_eq_none_iff]
  simp only [not_forall,exists_prop,Option.isSome_iff_ne_none]

theorem inside_representable (inside : Inside (zone.localDate now)) : representable (zone.localTime now) = true := by
  unfold Inside firstDate lastDate TimeZone.localDate day second at inside
  unfold representable firstInstant lastInstant day second
  rw [Bool.and_eq_true,decide_eq_true_eq,decide_eq_true_eq]
  omega

theorem detectReplyDeadlines_ok {detections : List Detection} :
    detectReplyDeadlines characters zone threshold threads now = .ok detections ↔
      representable (zone.localTime now) = true ∧
        ∃ found, threads.mapM (detectThread characters now (zone.localDate now) threshold) = .ok found ∧
          found.filterMap id = detections := by
  unfold detectReplyDeadlines TimeZone.checkedLocalTime
  by_cases named : representable (zone.localTime now) = true
  · rw [if_pos named]
    change (threads.mapM (detectThread characters now (zone.localDate now) threshold) >>= _) = _ ↔ _
    rw [Outcome.bind_ok_iff,and_iff_right named]
    refine exists_congr (fun found => and_congr_right (fun _ => ?_))
    exact ⟨fun same => Except.ok.inj same,fun same => congrArg _ same⟩
  · rw [if_neg named]
    exact ⟨fun ran => (nomatch ran),fun both => absurd both.1 named⟩

theorem detectThread_returns {today : Int} :
    (∃ found, detectThread characters now today threshold thread = .ok found) ↔
      (awaiting thread = true → ∃ scan, scanDeadlineText characters (messageText thread) today = .ok scan) := by
  unfold detectThread
  by_cases awaits : awaiting thread = true
  · rw [if_pos awaits]
    constructor
    · intro ⟨found,ran⟩ _
      obtain ⟨scan,scans,_⟩ := (Outcome.bind_ok_iff _ _ _).mp ran
      exact ⟨scan,scans⟩
    · intro scans
      obtain ⟨scan,scans⟩ := scans awaits
      rw [scans]
      exact ⟨_,rfl⟩
  · rw [if_neg awaits]
    exact ⟨fun _ awaits' => absurd awaits' awaits,fun _ => ⟨none,rfl⟩⟩

theorem reply_detector_returns_iff (characters : Characters) (zone : TimeZone) (threshold now : Int)
    (threads : List InboxThreadSnapshot) (inside : Inside (zone.localDate now)) :
    (∃ detections, detectReplyDeadlines characters zone threshold threads now = .ok detections) ↔
      ∀ thread ∈ threads, awaiting thread = true → HasMarker characters (scanned thread) →
        ¬LongS characters (scanned thread) := by
  simp only [detectReplyDeadlines_ok,and_iff_right (inside_representable inside)]
  rw [exists_comm]
  simp only [exists_and_left,exists_eq',and_true]
  rw [Outcome.mapM_succeeds_iff]
  refine forall_congr' (fun thread => forall_congr' (fun _ => ?_))
  rw [detectThread_returns,scanDeadlineText_iff inside,hasMarker_iff]
  refine forall_congr' (fun _ => ?_)
  rw [ne_eq,imp_iff_not_or,not_not]
  rfl

theorem newline_apart (characters : Characters) : word characters '\n' = false := by
  unfold word
  rw [characters.alphanumeric_ascii '\n' (by decide)]
  decide

theorem hasMarker_occurs {text : List Char} :
    HasMarker characters text ↔
      ∃ pattern ∈ markers characters, ∃ consumed groups,
        Regex.Occurs (word characters) pattern [] text consumed groups := by
  unfold HasMarker search
  refine exists_congr (fun pattern => and_congr_right (fun _ => ?_))
  constructor
  · intro found
    obtain ⟨hit,found⟩ := Option.isSome_iff_exists.mp found
    exact ⟨hit.consumed,hit.groups,Regex.search_occurs found⟩
  · intro ⟨_,_,occurs⟩
    exact Regex.search_isSome occurs

/-- The newline between the parts cuts no match and no word boundary off. -/
theorem hasMarker_joined {part : List Char} (member : part ∈ parts thread) (marked : HasMarker characters part) :
    HasMarker characters (messageText thread) := by
  rw [hasMarker_occurs] at marked ⊢
  obtain ⟨pattern,listed,consumed,groups,occurs⟩ := marked
  exact ⟨pattern,listed,consumed,groups,occurs.joined (newline_apart characters) member⟩

def Emits (characters : Characters) (zone : TimeZone) (threshold now : Int) (threads : List InboxThreadSnapshot)
    (thread : InboxThreadSnapshot) : Prop :=
  ∃ detections detection,
    detectReplyDeadlines characters zone threshold threads now = .ok detections ∧
      detectThread characters now (zone.localDate now) threshold thread = .ok (some detection) ∧
      detection ∈ detections

theorem detectThread_run {today : Int} (awaits : awaiting thread = true) {scan : DeadlineScan}
    (scans : scanDeadlineText characters (messageText thread) today = .ok scan) :
    detectThread characters now today threshold thread =
      .ok (if now - thread.latestMessageAt < threshold ∧ scan.matchedMarker = none then none
        else some (replyDetection thread (now - thread.latestMessageAt) threshold scan today)) := by
  rw [detectThread,if_pos awaits,scans]
  rfl

theorem detectThread_some {today : Int} (awaits : awaiting thread = true) {scan : DeadlineScan}
    (scans : scanDeadlineText characters (messageText thread) today = .ok scan) :
    (∃ detection, detectThread characters now today threshold thread = .ok (some detection)) ↔
      threshold ≤ now - thread.latestMessageAt ∨ HasMarker characters (scanned thread) := by
  have marker : HasMarker characters (scanned thread) ↔ scan.matchedMarker ≠ none := by
    rw [hasMarker_iff,scanDeadlineText_marker scans,ne_eq,ne_eq,Option.map_eq_none_iff]
    rfl
  rw [marker,detectThread_run awaits scans]
  by_cases quiet : now - thread.latestMessageAt < threshold ∧ scan.matchedMarker = none
  · rw [if_pos quiet]
    constructor
    · intro ⟨_,ran⟩
      cases ran
    · intro either
      rcases either with aged | marked
      · exact absurd quiet.1 (Int.not_lt.mpr aged)
      · exact absurd quiet.2 marked
  · rw [if_neg quiet]
    refine ⟨fun _ => ?_,fun _ => ⟨_,rfl⟩⟩
    by_cases aged : threshold ≤ now - thread.latestMessageAt
    · exact Or.inl aged
    · exact Or.inr (fun unmarked => quiet ⟨Int.not_le.mp aged,unmarked⟩)

theorem emits_iff (member : thread ∈ threads) (awaits : awaiting thread = true) :
    Emits characters zone threshold now threads thread ↔
      representable (zone.localTime now) = true ∧
      (∀ other ∈ threads, awaiting other = true →
        ∃ scan, scanDeadlineText characters (messageText other) (zone.localDate now) = .ok scan) ∧
      (threshold ≤ now - thread.latestMessageAt ∨ HasMarker characters (scanned thread)) := by
  constructor
  · intro ⟨detections,detection,ran,found,_⟩
    obtain ⟨named,outputs,ran,_⟩ := detectReplyDeadlines_ok.mp ran
    have scans (other : InboxThreadSnapshot) (present : other ∈ threads) :=
      detectThread_returns.mp ((Outcome.mapM_succeeds_iff _ _).mp ⟨outputs,ran⟩ other present)
    obtain ⟨scan,scanned⟩ := scans thread member awaits
    exact ⟨named,scans,(detectThread_some awaits scanned).mp ⟨detection,found⟩⟩
  · intro ⟨named,scans,triggers⟩
    obtain ⟨outputs,ran⟩ := (Outcome.mapM_succeeds_iff _ _).mpr (fun other present =>
      detectThread_returns.mpr (scans other present))
    obtain ⟨scan,scanned⟩ := scans thread member awaits
    obtain ⟨detection,found⟩ := (detectThread_some awaits scanned).mpr triggers
    obtain ⟨output,listed,same⟩ := Outcome.mem_mapM ran member
    obtain rfl : some detection = output := Except.ok.inj (found.symm.trans same)
    exact ⟨_,detection,detectReplyDeadlines_ok.mpr ⟨named,outputs,ran,rfl⟩,found,
      List.mem_filterMap.mpr ⟨some detection,listed,rfl⟩⟩

/-- A marker anywhere in the message triggers, unless it lies beyond the cut of the joined text. -/
theorem marker_triggers_iff (characters : Characters) (zone : TimeZone) (threshold now : Int)
    (threads : List InboxThreadSnapshot) (thread : InboxThreadSnapshot) (member : thread ∈ threads)
    (awaits : awaiting thread = true) (part : List Char) (inMessage : part ∈ parts thread)
    (marked : HasMarker characters part) :
    (Emits characters zone threshold now threads thread ↔
      representable (zone.localTime now) = true ∧
      (∀ other ∈ threads, awaiting other = true →
        ∃ scan, scanDeadlineText characters (messageText other) (zone.localDate now) = .ok scan) ∧
      (threshold ≤ now - thread.latestMessageAt ∨ HasMarker characters (scanned thread))) ∧
    ((messageText thread).length ≤ maxScanLength → HasMarker characters (scanned thread)) := by
  refine ⟨emits_iff member awaits,fun short => ?_⟩
  rw [scanned,List.take_of_length_le short]
  exact hasMarker_joined inMessage marked

end

/-- A thread from the counterpart, by its subject, body and snippet. -/
def letter (subject bodyText snippet : Option String) : InboxThreadSnapshot where
  threadId := "t"
  latestMessageId := "m"
  latestFromUser := false
  userIsRecipient := true
  latestMessageAt := 20700 * day
  subject := subject
  senderDisplay := none
  snippet := snippet
  bodyText := bodyText
  resolutionSafe := true
  degradationReasons := []
  providerHistoryCursor := none

theorem reply_detector_returns_plain :
    ∃ detections, detectReplyDeadlines .ascii .utc defaultReplyThreshold [letter (some "due Sep 5") none none]
      (20700 * day) = .ok detections := by
  refine (reply_detector_returns_iff .ascii .utc defaultReplyThreshold (20700 * day) _ (by decide)).mpr ?_
  have plain : ∀ hit ∈ finditer .ascii (englishPattern .ascii) (scanned (letter (some "due Sep 5") none none)),
      (matchGroup hit 1).head? ≠ some 'ſ' := by decide +kernel
  intro thread member _ _ ⟨hit,found,long⟩
  obtain rfl := List.mem_singleton.mp member
  exact plain hit found long

def withLongS : Characters where
  decimal := Characters.ascii.decimal
  alphanumeric c := Characters.ascii.alphanumeric c || c == 'ſ'
  space := Characters.ascii.space
  decimal_ascii := Characters.ascii.decimal_ascii
  alphanumeric_ascii c small := by
    have apart : c ≠ 'ſ' := by
      intro same
      subst same
      revert small
      decide
    rw [Characters.ascii.alphanumeric_ascii c small,beq_false_of_ne apart,Bool.or_false]
  space_ascii := Characters.ascii.space_ascii
  decimal_alphanumeric c value digit := by
    rw [Characters.ascii.decimal_alphanumeric c value digit,Bool.true_or]

theorem long_s_raises :
    Inside (TimeZone.utc.localDate (20700 * day)) ∧
      detectReplyDeadlines withLongS .utc defaultReplyThreshold [letter (some "due ſep 5") none none]
        (20700 * day) = .error .keyError := by
  decide +kernel

theorem marker_triggers_body :
    Emits .ascii .utc defaultReplyThreshold (20700 * day) [letter (some "Report") (some "This is due.") none]
      (letter (some "Report") (some "This is due.") none) := by
  have marked : HasMarker .ascii "This is due.".toList := hasMarker_iff.mpr (by decide +kernel)
  obtain ⟨triggers,short⟩ := marker_triggers_iff .ascii .utc defaultReplyThreshold (20700 * day)
    [letter (some "Report") (some "This is due.") none] (letter (some "Report") (some "This is due.") none)
    List.mem_cons_self rfl "This is due.".toList (by decide) marked
  refine triggers.mpr ⟨by decide,?_,Or.inr (short (by decide))⟩
  intro other member _
  obtain rfl := List.mem_singleton.mp member
  have undated : finditer .ascii (englishPattern .ascii)
      ((messageText (letter (some "Report") (some "This is due.") none)).take maxScanLength) = [] := by
    decide +kernel
  refine (scanDeadlineText_iff (by decide)).mpr (Or.inr (fun ⟨hit,found,_⟩ => ?_))
  rw [undated] at found
  cases found

/-- A subject of 4000 letters keeps the scan from the body. -/
theorem marker_beyond_cut :
    let thread := letter (some (String.ofList (List.replicate 4000 'a'))) (some "due") none
    awaiting thread = true ∧ "due".toList ∈ parts thread ∧ HasMarker .ascii "due".toList ∧
      ¬Emits .ascii .utc defaultReplyThreshold (20700 * day) [thread] thread := by
  intro thread
  have shape : parts thread = [(String.ofList (List.replicate 4000 'a')).toList,"due".toList] := rfl
  refine ⟨rfl,?_,hasMarker_iff.mpr (by decide +kernel),?_⟩
  · rw [shape]
    exact List.mem_cons_of_mem _ List.mem_cons_self
  · rw [emits_iff List.mem_cons_self rfl]
    intro ⟨_,_,triggers⟩
    rcases triggers with aged | marked
    · revert aged
      decide
    · have cut : scanned thread = List.replicate 4000 'a' := by
        rw [scanned,messageText,shape,List.intercalate_cons_cons,String.toList_ofList,List.append_assoc]
        exact List.take_left' List.length_replicate
      rw [cut,hasMarker_occurs] at marked
      obtain ⟨pattern,listed,consumed,groups,front,right,split,matched⟩ := marked
      have feasible := matched.feasible (c := 'a') (fun other among => by
        have among' : other ∈ List.replicate 4000 'a' := by
          rw [split]
          exact List.mem_append_right front (List.mem_append_left right among)
        exact (List.mem_replicate.mp among').2)
      have none : ∀ pattern ∈ markers .ascii, pattern.feasible 'a' = false := by decide
      rw [none pattern listed] at feasible
      cases feasible

end ReplyDeadline
end Proactive.Situations
