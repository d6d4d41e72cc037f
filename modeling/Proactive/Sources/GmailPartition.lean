import Proactive.Sources.GmailReads
import Proactive.Sources.GmailRequests

/-! How a Gmail read divides the threads that it lists into those safe to resolve and those excluded,
and what its flags and counts say of the responses. -/
namespace Proactive.Sources
open Proactive.Library Proactive.Store Proactive.Situations GmailAdapter

/-- A snapshot names the thread that it projects, and gives each reason once. -/
theorem projectThread_snapshot {library : TextLibrary} {threadId cursor : String} {wire : WireThreadDetail}
    {snapshot : InboxThreadSnapshot} (projected : projectThread library threadId wire cursor = .ok (some snapshot)) :
    snapshot.threadId = threadId ∧ snapshot.degradationReasons.Nodup := by
  unfold projectThread at projected
  split at projected
  · cases projected
  · obtain ⟨candidate,built,same⟩ := (Outcome.map_ok_iff _ _ _).mp projected
    obtain rfl := Option.some.inj same
    obtain ⟨body,_,made⟩ := (Outcome.bind_ok_iff _ _ _).mp built
    rw [← Except.ok.inj made]
    exact ⟨rfl,Grouping.nodup_eraseDups _⟩

def SafeAs (id : String) (snapshot : InboxThreadSnapshot) : Prop :=
  snapshot.resolutionSafe = true ∧ snapshot.threadId = id

/-- What a projection made of the threads `done`, when the threads `left` are beyond its limit. -/
structure Divided (left done : List GmailThread) (projection : Projection) : Prop where
  cover : ∀ thread ∈ done ++ left,
    (∃ snapshot ∈ projection.snapshots, SafeAs thread.id snapshot) ∨ thread.id ∈ projection.excluded
  listed : ∀ snapshot ∈ projection.snapshots, snapshot.threadId ∈ done.map GmailThread.id
  excluded : ∀ id ∈ projection.excluded, id ∈ (done ++ left).map GmailThread.id
  apart : ((done ++ left).map GmailThread.id).Nodup →
    ∀ id ∈ projection.excluded, ∀ snapshot ∈ projection.snapshots, ¬SafeAs id snapshot

namespace Divided
variable {left done : List GmailThread} {projection : Projection}

/-- However the loop handles some more threads, it suffices to look at what it adds. -/
theorem extend {handled : List GmailThread} {next : Projection} {fresh : List InboxThreadSnapshot}
    {barred : List String} (divided : Divided left done projection)
    (snapshots : next.snapshots = projection.snapshots ++ fresh)
    (excluded : next.excluded = projection.excluded ++ barred)
    (named : ∀ snapshot ∈ fresh, snapshot.threadId ∈ handled.map GmailThread.id)
    (covered : ∀ thread ∈ handled, (∃ snapshot ∈ fresh, SafeAs thread.id snapshot) ∨ thread.id ∈ barred)
    (inside : ∀ id ∈ barred, id ∈ (done ++ handled).map GmailThread.id)
    (new : ((done ++ handled).map GmailThread.id).Nodup → ∀ id ∈ barred,
      id ∉ done.map GmailThread.id ∧ ∀ snapshot ∈ fresh, ¬SafeAs id snapshot) :
    Divided left (done ++ handled) next where
  cover := by
    intro thread member
    rw [snapshots,excluded]
    rw [List.append_assoc,List.mem_append,List.mem_append] at member
    have before (earlier : thread ∈ done ++ left) : (∃ snapshot ∈ projection.snapshots ++ fresh,
        SafeAs thread.id snapshot) ∨ thread.id ∈ projection.excluded ++ barred := by
      rcases divided.cover thread earlier with ⟨snapshot,kept,safe⟩ | out
      · exact Or.inl ⟨snapshot,List.mem_append_left _ kept,safe⟩
      · exact Or.inr (List.mem_append_left _ out)
    rcases member with earlier | now | beyond
    · exact before (List.mem_append_left _ earlier)
    · rcases covered thread now with ⟨snapshot,kept,safe⟩ | out
      · exact Or.inl ⟨snapshot,List.mem_append_right _ kept,safe⟩
      · exact Or.inr (List.mem_append_right _ out)
    · exact before (List.mem_append_right _ beyond)
  listed := by
    intro snapshot member
    rw [snapshots] at member
    rw [List.map_append]
    rcases List.mem_append.mp member with earlier | now
    · exact List.mem_append_left _ (divided.listed snapshot earlier)
    · exact List.mem_append_right _ (named snapshot now)
  excluded := by
    intro id member
    rw [excluded] at member
    rw [List.map_append,List.mem_append]
    rcases List.mem_append.mp member with earlier | now
    · have known := divided.excluded id earlier
      rw [List.map_append,List.mem_append] at known
      rw [List.map_append,List.mem_append]
      exact known.imp_left Or.inl
    · exact Or.inl (inside id now)
  apart := by
    intro distinct id member snapshot kept safe
    rw [snapshots] at kept
    rw [excluded] at member
    have apartLeft : ((done ++ handled).map GmailThread.id).Nodup := by
      rw [List.map_append] at distinct
      exact (List.nodup_append.mp distinct).1
    have skipped : ((done ++ left).map GmailThread.id).Nodup :=
      distinct.sublist (((List.sublist_append_left done handled).append (List.Sublist.refl left)).map _)
    rcases List.mem_append.mp member with earlier | now
    · rcases List.mem_append.mp kept with old | added
      · exact divided.apart skipped id earlier snapshot old safe
      · -- the id is of a thread that was handled before or is beyond the limit
        have known := divided.excluded id earlier
        have here := named snapshot added
        rw [safe.2] at here
        rw [List.append_assoc,List.map_append,List.nodup_append] at distinct
        rw [List.map_append,List.mem_append] at known
        have later := distinct.2.1
        rw [List.map_append,List.nodup_append] at later
        rcases known with first | beyond
        · exact distinct.2.2 id first id (by rw [List.map_append]; exact List.mem_append_left _ here) rfl
        · exact later.2.2 id here id beyond rfl
    · obtain ⟨unknown,unsafe_⟩ := new apartLeft id now
      rcases List.mem_append.mp kept with old | added
      · refine unknown ?_
        rw [← safe.2]
        exact divided.listed snapshot old
      · exact unsafe_ snapshot added safe

theorem barred_alone {thread : GmailThread} (done : List GmailThread) (barred : List String)
    (fresh : List InboxThreadSnapshot) (only : ∀ id ∈ barred, id = thread.id)
    (unsafe_ : barred ≠ [] → ∀ snapshot ∈ fresh, snapshot.resolutionSafe = false) :
    (∀ id ∈ barred, id ∈ (done ++ [thread]).map GmailThread.id) ∧
      (((done ++ [thread]).map GmailThread.id).Nodup → ∀ id ∈ barred,
        id ∉ done.map GmailThread.id ∧ ∀ snapshot ∈ fresh, ¬SafeAs id snapshot) := by
  constructor
  · intro id member
    rw [only id member]
    simp
  · intro distinct id member
    rw [List.map_append,List.nodup_append] at distinct
    refine ⟨fun earlier => distinct.2.2 id earlier thread.id (by simp) (only id member),?_⟩
    intro snapshot added safe
    have blocked := unsafe_ (List.ne_nil_of_mem member) snapshot added
    rw [safe.1] at blocked
    contradiction

theorem tooLarge (divided : Divided left done projection) (thread : GmailThread) :
    Divided left (done ++ [thread]) (projection.requested.tooLarge thread.id) := by
  obtain ⟨inside,new⟩ := barred_alone done [thread.id] [] (fun id member => List.mem_singleton.mp member)
    (fun _ _ none => absurd none List.not_mem_nil)
  refine divided.extend (List.append_nil _).symm rfl ?_ ?_ inside new
  · exact fun _ none => absurd none List.not_mem_nil
  · intro other member
    obtain rfl := List.mem_singleton.mp member
    exact Or.inr (List.mem_singleton.mpr rfl)

theorem added (divided : Divided left done projection) (thread : GmailThread) {snapshot : Option InboxThreadSnapshot}
    (named : ∀ found, snapshot = some found → found.threadId = thread.id) :
    Divided left (done ++ [thread]) (projection.requested.add thread.id snapshot) := by
  cases snapshot with
  | none =>
    -- without a projectable message the thread is excluded as if it were too large
    have excluded := divided.tooLarge thread
    exact ⟨excluded.cover,excluded.listed,excluded.excluded,excluded.apart⟩
  | some snapshot =>
    have same := named snapshot rfl
    have only : ∀ id ∈ (if snapshot.resolutionSafe then [] else [thread.id]), id = thread.id := by
      intro id member
      split at member
      · contradiction
      · exact List.mem_singleton.mp member
    obtain ⟨inside,new⟩ := barred_alone done _ [snapshot] only (by
      intro barred other member
      obtain rfl := List.mem_singleton.mp member
      by_contra safe
      rw [Bool.not_eq_false] at safe
      exact barred (if_pos safe))
    refine divided.extend rfl ?_ ?_ ?_ inside new
    · rw [Projection.add]
      dsimp only
      split
      · exact (List.append_nil _).symm
      · rfl
    · intro other member
      obtain rfl := List.mem_singleton.mp member
      exact List.mem_singleton.mpr same
    · intro other member
      obtain rfl := List.mem_singleton.mp member
      by_cases safe : snapshot.resolutionSafe = true
      · exact Or.inl ⟨snapshot,List.mem_singleton.mpr rfl,safe,same⟩
      · exact Or.inr (by rw [if_neg safe]; exact List.mem_singleton.mpr rfl)

theorem exhausted (divided : Divided left done projection) {projected rest : List GmailThread} {thread : GmailThread}
    (split : projected = done ++ thread::rest) :
    Divided left projected (projection.requested.exhausted (projected.drop (projected.idxOf thread))) := by
  have first : projected.idxOf thread ≤ done.length := by
    rw [split,List.idxOf_append]
    split
    · exact List.idxOf_le_length
    · simp
  have dropped : projected.drop (projected.idxOf thread) = done.drop (projected.idxOf thread) ++ thread::rest := by
    conv_lhs => rw [split,List.drop_append_of_le_length (by rw [← split]; exact first)]
    rw [← split]
  have extended : Divided left (done ++ thread::rest)
      (projection.requested.exhausted (projected.drop (projected.idxOf thread))) := by
    refine divided.extend (List.append_nil _).symm rfl ?_ ?_ ?_ ?_
    · exact fun _ none => absurd none List.not_mem_nil
    · intro other member
      refine Or.inr (List.mem_map_of_mem ?_)
      rw [dropped]
      exact List.mem_append_right _ member
    · intro id member
      rw [← split]
      exact ((List.drop_sublist _ _).map _).subset member
    · intro distinct id member
      refine ⟨?_,fun _ none => absurd none List.not_mem_nil⟩
      have apart := distinct
      rw [List.map_append,List.nodup_append] at apart
      have absent : thread ∉ done := fun earlier =>
        apart.2.2 thread.id (List.mem_map_of_mem earlier) thread.id (by simp) rfl
      rw [split,List.idxOf_append_of_notMem absent,List.idxOf_cons_self,Nat.add_zero,List.drop_left] at member
      exact fun earlier => apart.2.2 id earlier id member rfl
  rwa [← split] at extended

end Divided

/-- Until a detail is left out, the responses to the threads done are details in full. -/
structure Covered (adapter : GmailAdapter) (transport : Transport) (before : Nat) (opened : Bool)
    (done : List GmailThread) (projection : Projection) : Prop where
  requests : projection.detailRequestCount = done.length
  complete : projection.coverageComplete = true → opened = true ∧
    ∀ position < done.length, ∃ detail, adapter.readDetail transport (before + position) = .ok (some detail)

theorem Covered.added {adapter : GmailAdapter} {transport : Transport} {before : Nat} {opened : Bool}
    {done : List GmailThread} {projection : Projection} (covered : Covered adapter transport before opened done projection)
    (thread : GmailThread) {detail : WireThreadDetail} {snapshot : Option InboxThreadSnapshot}
    (answer : adapter.readDetail transport (before + projection.detailRequestCount) = .ok (some detail)) :
    Covered adapter transport before opened (done ++ [thread]) (projection.requested.add thread.id snapshot) where
  requests := by
    rw [List.length_append,List.length_singleton,← covered.requests]
    cases snapshot <;> rfl
  complete := by
    intro complete
    obtain ⟨start,read⟩ := covered.complete (by cases snapshot <;> exact complete)
    refine ⟨start,fun position inside => ?_⟩
    rw [List.length_append,List.length_singleton] at inside
    by_cases earlier : position < done.length
    · exact read position earlier
    · rw [covered.requests] at answer
      obtain rfl : position = done.length := by omega
      exact ⟨detail,answer⟩

/-- The projection claims complete coverage only of responses in full. -/
def CoverageTruthful (adapter : GmailAdapter) (transport : Transport) (before : Nat) (opened : Bool)
    (projected : List GmailThread) (projection : Projection) : Prop :=
  projection.coverageComplete = true → Covered adapter transport before opened projected projection

variable {adapter : GmailAdapter} {transport : Transport}

theorem projectThreads_divided {profile : GmailProfile} {left projected : List GmailThread} {before : Nat}
    {opened final : Projection} (start : Divided left [] opened)
    (returned : adapter.projectThreads transport profile projected before projected opened = .ok final) :
    Divided left projected final := by
  refine projectThreads_rule ?_ ?_ ?_ ?_ (List.nil_append projected).symm start returned
  · exact fun done thread rest projection _ kept => kept.tooLarge thread
  · exact fun done thread rest projection detail snapshot _ kept _ projecting =>
      kept.added thread (fun found same => (projectThread_snapshot (by rw [← same]; exact projecting)).1)
  · exact fun done thread rest projection split kept => kept.exhausted split
  · exact fun projection kept => kept

theorem projectThreads_truthful {profile : GmailProfile} {projected : List GmailThread} {before : Nat}
    {opened final : Projection} (unasked : opened.detailRequestCount = 0)
    (returned : adapter.projectThreads transport profile projected before projected opened = .ok final) :
    CoverageTruthful adapter transport before opened.coverageComplete projected final := by
  have start : Covered adapter transport before opened.coverageComplete [] opened :=
    ⟨unasked,fun complete => ⟨complete,fun _ inside => absurd inside (Nat.not_lt_zero _)⟩⟩
  refine projectThreads_rule ?_ ?_ ?_ ?_ (List.nil_append projected).symm start returned
  · intro done thread rest projection _ kept
    refine ⟨?_,fun complete => ?_⟩
    · rw [List.length_append,List.length_singleton,← kept.requests]
      rfl
    · cases complete
  · exact fun done thread rest projection detail snapshot _ kept answer _ => kept.added thread answer
  · intro done thread rest projection _ _ complete
    cases complete
  · exact fun projection kept _ => kept

/-- The detail of the listed thread at this position was requested and read in full. -/
def DetailRead (adapter : GmailAdapter) (transport : Transport) (pages : List WireThreadsPage)
    (result : GmailInboxReadResult) (position : Nat) : Prop :=
  1 + pages.length + position < result.requestCount ∧
    ∃ detail, adapter.readDetail transport (1 + pages.length + position) = .ok (some detail)

/-- A read result against the pages of the listing and the answers of the transport. -/
structure ReadPartition (adapter : GmailAdapter) (transport : Transport) (pages : List WireThreadsPage)
    (threads : List GmailThread) (result : GmailInboxReadResult) : Prop where
  cover : ∀ thread ∈ threads,
    thread.id ∈ result.resolutionSafeThreadIds ∨ thread.id ∈ result.resolutionExcludedThreadIds
  apart : (threads.map GmailThread.id).Nodup → ∀ thread ∈ threads,
    ¬(thread.id ∈ result.resolutionSafeThreadIds ∧ thread.id ∈ result.resolutionExcludedThreadIds)
  listed : ∀ snapshot ∈ result.threads, ∃ thread ∈ threads, snapshot.threadId = thread.id
  absent : result.allowsAbsentResolution = true →
    (∃ last, pages.getLast? = some last ∧ last.nextPageToken = none) ∧
      (∀ page ∈ pages, ∀ wire ∈ page.threads, (listThread wire).isSome = true) ∧
      sliceThreads adapter.maxProjectedThreads threads = threads
  coverage : ∀ position < threads.length, ¬DetailRead adapter transport pages result position →
    result.coverageComplete = false
  excludedCount : result.excludedThreadCount = result.resolutionExcludedThreadIds.length
  excludedOnce : result.resolutionExcludedThreadIds.Nodup
  projectedCount : result.projectedThreadCount = result.threads.length
  requests : (adapter.countedRead transport).run 0 = (.ok result,result.requestCount)

theorem sliceThreads_append (limit : Int) (threads : List GmailThread) :
    sliceThreads limit threads ++ threads.drop (sliceThreads limit threads).length = threads := by
  unfold sliceThreads
  generalize (if 0 ≤ limit then limit.toNat else threads.length - limit.natAbs) = size
  rw [List.length_take]
  rcases Nat.le_total size threads.length with short | long
  · rw [Nat.min_eq_left short,List.take_append_drop]
  · rw [Nat.min_eq_right long,List.take_of_length_le long,List.drop_length,List.append_nil]

theorem openProjection_divided (listed : GmailReadResult) (projected : List GmailThread) :
    Divided (listed.threads.drop projected.length) [] (openProjection listed projected) where
  cover := fun _ member => Or.inr (List.mem_map_of_mem member)
  listed := fun _ none => absurd none List.not_mem_nil
  excluded := fun _ member => member
  apart := fun _ _ _ _ none => absurd none List.not_mem_nil

theorem mem_resolutionSafe {profile : GmailProfile} {listed : GmailReadResult} {projected : List GmailThread}
    {projection : Projection} {id : String} :
    id ∈ (inboxResult profile listed projected projection).resolutionSafeThreadIds ↔
      ∃ snapshot ∈ projection.snapshots, SafeAs id snapshot := by
  rw [inboxResult,List.mem_eraseDups,List.mem_map]
  simp only [List.mem_filter,SafeAs,and_assoc]

theorem GmailAdapter.PagesRead.none_skipped {pages : List WireThreadsPage} {listed : GmailReadResult}
    (read : PagesRead adapter transport .empty pages listed) (none : listed.skippedCount = 0) :
    ∀ page ∈ pages, ∀ wire ∈ page.threads, (listThread wire).isSome = true := by
  intro page member wire entry
  have counted := read.skipped
  rw [none,Listing.empty,Nat.zero_add] at counted
  have whole := List.sum_eq_zero_iff_forall_eq_nat.mp counted.symm _ (List.mem_map_of_mem member)
  have kept := List.countP_eq_zero.mp whole wire entry
  cases found : listThread wire with
  | none => rw [found] at kept; exact absurd rfl kept
  | some thread => rfl

/-- Every listed thread is on one side of the division, and the flags and counts of the read are
those of the responses. -/
theorem read_partition (adapter : GmailAdapter) (transport : Transport) (result : GmailInboxReadResult)
    (returned : adapter.readInboxThreads transport = .ok result) :
    ∃ pages listed, PagesRead adapter transport .empty pages listed ∧
      ReadPartition adapter transport pages listed.threads result := by
  have counted := @countedRead_counts adapter transport
  have parts := returned
  unfold readInboxThreads at parts
  obtain ⟨profile,_,parts⟩ := (Outcome.bind_ok_iff _ _ _).mp parts
  obtain ⟨listed,listing,parts⟩ := (Outcome.bind_ok_iff _ _ _).mp parts
  obtain ⟨projection,projecting,parts⟩ := (Outcome.bind_ok_iff _ _ _).mp parts
  obtain ⟨pages,_,read⟩ := listPages_pages gmailMaxPages listing
  have divided := projectThreads_divided (openProjection_divided listed _) projecting
  have truthful := projectThreads_truthful rfl projecting
  have whole := sliceThreads_append adapter.maxProjectedThreads listed.threads
  obtain rfl := Except.ok.inj parts
  rw [read.pageCount,Listing.empty,Nat.zero_add] at truthful
  refine ⟨pages,listed,read,?_⟩
  constructor
  case cover =>
    intro thread member
    rw [← whole] at member
    rw [mem_resolutionSafe]
    exact (divided.cover thread member).imp_right List.mem_eraseDups.mpr
  case apart =>
    intro distinct thread _ ⟨safe,out⟩
    obtain ⟨snapshot,kept,safe⟩ := mem_resolutionSafe.mp safe
    exact divided.apart (by rwa [whole]) thread.id (List.mem_eraseDups.mp out) snapshot kept safe
  case listed =>
    intro snapshot kept
    obtain ⟨thread,member,same⟩ := List.mem_map.mp (divided.listed snapshot kept)
    exact ⟨thread,List.mem_of_mem_take member,same.symm⟩
  case absent =>
    intro allowed
    unfold inboxResult at allowed
    dsimp only at allowed
    rw [Bool.and_eq_true,Bool.and_eq_true,beq_iff_eq,beq_iff_eq] at allowed
    obtain ⟨⟨complete,none⟩,size⟩ := allowed
    refine ⟨?_,PagesRead.none_skipped read none,?_⟩
    · rw [read.complete,Option.any_eq_true] at complete
      obtain ⟨last,same,isLast⟩ := complete
      exact ⟨last,same,Option.isNone_iff_eq_none.mp isLast⟩
    · rw [size,List.drop_length,List.append_nil] at whole
      exact whole
  case coverage =>
    intro position inside unread
    by_contra complete
    rw [Bool.not_eq_false] at complete
    have covered := truthful complete
    obtain ⟨opened,details⟩ := covered.complete complete
    unfold openProjection at opened
    dsimp only at opened
    rw [Bool.and_eq_true,Bool.not_eq_true',decide_eq_false_iff_not,Nat.not_lt] at opened
    rw [List.drop_eq_nil_of_le opened.2,List.append_nil] at whole
    rw [whole] at covered details
    refine unread ⟨?_,details position inside⟩
    unfold inboxResult
    dsimp only
    rw [read.pageCount,covered.requests,Listing.empty]
    omega
  case excludedCount => rfl
  case excludedOnce => exact Grouping.nodup_eraseDups _
  case projectedCount => rfl
  case requests => exact Prod.ext (counted.outcome.trans returned) (counted.requests _ returned)

def twoThreadsBody : Body := textBody "\x7b\"threads\":[\x7b\"id\":\"t\"\x7d,\x7b\"id\":\"u\"\x7d]\x7d"

def plainBody : Body :=
  textBody ("\x7b\"messages\":[\x7b\"id\":\"m\",\"internalDate\":\"1\",\"labelIds\":[\"INBOX\"]," ++
    "\"payload\":\x7b\"mimeType\":\"text/plain\",\"body\":\x7b\"data\":\"aGk\"\x7d\x7d\x7d]\x7d")

def twoThreadsAdapter : GmailAdapter where
  json := {
    profile := fun body => if body = profileBody then some ⟨"me@example.com",1,1,"7"⟩ else none
    threadsPage := fun body => if body = twoThreadsBody then some ⟨[⟨some "t",none⟩,⟨some "u",none⟩],none⟩ else none
    threadDetail := fun body =>
      if body = plainBody then
        some ⟨[⟨some "m",some 1,none,some ["INBOX"],some (.part (some "text/plain") [] (some ⟨some "aGk"⟩) [])⟩]⟩
      else none}
  library := {
    casefold := fun text => text
    parseaddr := fun _ => ("","")
    b64decode := fun encoded => if encoded = "aGk=" then some "hi" else none
    feedHtml := fun _ => []
    fromTimestamp := fun milliseconds => some (milliseconds * 1000)}
  now := 0
  maxProjectedThreads := defaultMaxProjectedThreads

/-- The second thread is over the limit of a response. -/
def twoThreadsTransport : Transport := .answers (fun index =>
  if index = 3 then ⟨httpOk,[],some .response⟩ else inboxResponses twoThreadsBody plainBody index)

def twoThreadsResult : GmailInboxReadResult where
  threads := [⟨"t","m",false,true,1000,none,none,none,some "hi",true,[],some "7"⟩]
  fetchedAt := 0
  providerHistoryCursor := "7"
  pageCount := 1
  coverageComplete := false
  degradationReasons := [.threadResponseTooLarge]
  requestCount := 4
  projectedThreadCount := 1
  excludedThreadCount := 1
  allowsAbsentResolution := true
  resolutionSafeThreadIds := ["t"]
  resolutionExcludedThreadIds := ["u"]
  degradationReasonCounts := [(.threadResponseTooLarge,1)]

theorem twoThreads_read : twoThreadsAdapter.readInboxThreads twoThreadsTransport = .ok twoThreadsResult := by
  decide +kernel

theorem read_partition_twoThreads :
    ∃ pages listed, PagesRead twoThreadsAdapter twoThreadsTransport .empty pages listed ∧
      ReadPartition twoThreadsAdapter twoThreadsTransport pages listed.threads twoThreadsResult :=
  read_partition twoThreadsAdapter twoThreadsTransport twoThreadsResult twoThreads_read

end Proactive.Sources
