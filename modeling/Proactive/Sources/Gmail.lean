import Proactive.Sources.GmailProjection

/-! Read-only Gmail profile and inbox-thread adapter. -/
namespace Proactive.Sources
open Proactive.Store Proactive.Situations

def gmailMaxPages : Nat := 20

def defaultMaxProjectedThreads : Int := 200

def maxThreadResponseBytes : Nat := 1000000

/-- What the adapter is bound to, less its transport. -/
structure GmailAdapter where
  json : GmailJson
  library : TextLibrary
  now : Int
  maxProjectedThreads : Int

def GmailParseError (errorCode : GmailErrorCode) (httpStatus : Option Int) : GmailError :=
  ⟨.parse,errorCode,httpStatus⟩

def acceptGmailResponse (response : HttpResponse) : Except GmailError Body :=
  match response.limitReason with
  | some limitReason => .error ⟨.bodyLimit limitReason,.resourceLimit,none⟩
  | none =>
    if response.statusCode = httpOk then .ok response.body
    else if response.statusCode = 401 ∨ response.statusCode = 403 then
      .error ⟨.auth,.http4xx,some response.statusCode⟩
    else if httpServerErrorMin ≤ response.statusCode ∧ response.statusCode < httpServerErrorMax then
      .error (GmailParseError .http5xx (some response.statusCode))
    else .error (GmailParseError .unknown (some response.statusCode))

/-- `_get`: the request made after `index` others. -/
def getGmail (transport : Transport) (index : Nat) : Read GmailError Body :=
  match transport index with
  | .error failure => .error (.transport failure)
  | .ok response => (acceptGmailResponse response).mapError .provider

def parseGmail {α : Type} (validate : Body → Option α) (body : Body) : Read GmailError α :=
  match validate body with
  | none => .error (.provider (GmailParseError .unknown none))
  | some value => .ok value

/-- The entries of a page, `none` for those without an id. -/
def listThread (wire : WireThread) : Option GmailThread :=
  (wire.id.filter (fun id => id != "")).map (fun id => ⟨id,wire.historyId⟩)

structure Listing where
  threads : List GmailThread
  skippedCount : Nat
  pageCount : Nat
  seenTokens : List String
deriving DecidableEq, Repr

namespace Listing

def empty : Listing := ⟨[],0,0,[]⟩

def add (listing : Listing) (page : WireThreadsPage) : Listing where
  threads := listing.threads ++ page.threads.filterMap listThread
  skippedCount := listing.skippedCount + page.threads.countP (fun wire => (listThread wire).isNone)
  pageCount := listing.pageCount + 1
  seenTokens := listing.seenTokens

def result (listing : Listing) (fetchedAt : Int) (isComplete : Bool)
    (degradationReasons : List GmailDegradationReason) : GmailReadResult :=
  ⟨listing.threads,fetchedAt,listing.pageCount,listing.skippedCount,isComplete,degradationReasons⟩

end Listing

/-- What a read projected so far: `coverageComplete` is `source_is_complete`. -/
structure Projection where
  snapshots : List InboxThreadSnapshot
  detailRequestCount : Nat
  reasons : List GmailDegradationReason
  coverageComplete : Bool
  excluded : List String
deriving DecidableEq, Repr

namespace Projection

def tooLarge (projection : Projection) (threadId : String) : Projection := {projection with
  reasons := projection.reasons ++ [.threadResponseTooLarge]
  coverageComplete := false
  excluded := projection.excluded ++ [threadId]}

def exhausted (projection : Projection) (threads : List GmailThread) : Projection := {projection with
  reasons := projection.reasons ++ [.syncBudgetExhausted]
  coverageComplete := false
  excluded := projection.excluded ++ threads.map GmailThread.id}

def add (projection : Projection) (threadId : String) : Option InboxThreadSnapshot → Projection
  | none => {projection with
      reasons := projection.reasons ++ [.threadWithoutProjectableMessage]
      excluded := projection.excluded ++ [threadId]}
  | some snapshot => {projection with
      snapshots := projection.snapshots ++ [snapshot]
      reasons := projection.reasons ++ snapshot.degradationReasons.map .projection
      excluded := if snapshot.resolutionSafe then projection.excluded
        else projection.excluded ++ [threadId]}

def requested (projection : Projection) : Projection :=
  {projection with detailRequestCount := projection.detailRequestCount + 1}

end Projection

namespace GmailAdapter
variable (adapter : GmailAdapter) (transport : Transport)

def readProfile : Read GmailError GmailProfile := do
  let body ← getGmail transport 0
  parseGmail adapter.json.profile body

/-- The loop of `list_threads`; the first argument is the pages that it may still read. -/
def listPages : Nat → Listing → Read GmailError GmailReadResult
  | 0,listing => .ok (listing.result adapter.now false [.paginationLimit])
  | remaining + 1,listing => do
    let body ← getGmail transport (1 + listing.pageCount)
    let page ← parseGmail adapter.json.threadsPage body
    let listing := listing.add page
    match page.nextPageToken with
    | none => return listing.result adapter.now true []
    | some token =>
      if listing.seenTokens.contains token then
        .error (.provider (GmailParseError .unknown none))
      else listPages remaining {listing with seenTokens := token::listing.seenTokens}

def listThreads : Read GmailError GmailReadResult := listPages adapter transport gmailMaxPages .empty

def sliceThreads (limit : Int) (threads : List GmailThread) : List GmailThread :=
  threads.take (if 0 ≤ limit then limit.toNat else threads.length - limit.natAbs)

/-- One thread's body, `none` when it is too large to read. -/
def readDetail (index : Nat) : Read GmailError (Option WireThreadDetail) :=
  match getGmail transport index with
  | .error (.provider ⟨.bodyLimit .response,_,_⟩) => .ok none
  | .error failure => .error failure
  | .ok body =>
    if maxThreadResponseBytes < body.length then .ok none
    else (parseGmail adapter.json.threadDetail body).map some

/-- The loop over the threads to project, the first of them requested after `before` others. -/
def projectThreads (profile : GmailProfile) (projected : List GmailThread) (before : Nat) :
    List GmailThread → Projection → Read GmailError Projection
  | [],projection => .ok projection
  | thread::rest,projection =>
    match adapter.readDetail transport (before + projection.detailRequestCount) with
    | .error (.provider ⟨.bodyLimit .sync,_,_⟩) =>
      .ok (projection.requested.exhausted (projected.drop (projected.idxOf thread)))
    | .error failure => .error failure
    | .ok none => projectThreads profile projected before rest (projection.requested.tooLarge thread.id)
    | .ok (some detail) =>
      match projectThread adapter.library thread.id detail profile.historyId with
      | .error error => .error (.raised error)
      | .ok snapshot =>
        projectThreads profile projected before rest (projection.requested.add thread.id snapshot)

def openProjection (listed : GmailReadResult) (projected : List GmailThread) : Projection where
  snapshots := []
  detailRequestCount := 0
  reasons := listed.degradationReasons ++
    (if listed.skippedCount = 0 then [] else [.threadListEntrySkipped]) ++
    (if projected.length < listed.threads.length then [.threadProjectionLimit] else [])
  coverageComplete := listed.isComplete && listed.skippedCount == 0 &&
    !(projected.length < listed.threads.length)
  excluded := (listed.threads.drop projected.length).map GmailThread.id

def inboxResult (profile : GmailProfile) (listed : GmailReadResult) (projected : List GmailThread)
    (projection : Projection) : GmailInboxReadResult where
  threads := projection.snapshots
  fetchedAt := listed.fetchedAt
  providerHistoryCursor := profile.historyId
  pageCount := listed.pageCount
  coverageComplete := projection.coverageComplete
  degradationReasons := projection.reasons.eraseDups
  requestCount := 1 + listed.pageCount + projection.detailRequestCount
  projectedThreadCount := projection.snapshots.length
  excludedThreadCount := projection.excluded.eraseDups.length
  allowsAbsentResolution := listed.isComplete && listed.skippedCount == 0 &&
    projected.length == listed.threads.length
  resolutionSafeThreadIds :=
    ((projection.snapshots.filter InboxThreadSnapshot.resolutionSafe).map
      InboxThreadSnapshot.threadId).eraseDups
  resolutionExcludedThreadIds := projection.excluded.eraseDups
  degradationReasonCounts :=
    projection.reasons.eraseDups.map (fun reason => (reason,projection.reasons.count reason))

def readInboxThreads : Read GmailError GmailInboxReadResult := do
  let profile ← adapter.readProfile transport
  let listed ← adapter.listThreads transport
  let projected := sliceThreads adapter.maxProjectedThreads listed.threads
  let projection ← adapter.projectThreads transport profile projected (1 + listed.pageCount) projected
    (openProjection listed projected)
  return inboxResult profile listed projected projection

end GmailAdapter

def profileBody : Body :=
  textBody "\x7b\"emailAddress\":\"me@example.com\",\"messagesTotal\":1,\"threadsTotal\":1,\"historyId\":\"7\"\x7d"

def threadsBody : Body := textBody "\x7b\"threads\":[\x7b\"id\":\"t\"\x7d]\x7d"

def inboxResponses (threads thread : Body) (index : Nat) : HttpResponse :=
  ⟨httpOk,if index = 0 then profileBody else if index = 1 then threads else thread,none⟩

end Proactive.Sources
