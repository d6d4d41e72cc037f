import Proactive.Sources.GmailModels

/-! Bounded Gmail wire projection for deterministic reply detection. -/
namespace Proactive.Sources
open Proactive.Store Proactive.Situations

/-- One callback of the standard HTML parser. -/
inductive HtmlToken
  | data (text : String)
  | startTag (tag : String)
  | endTag (tag : String)
deriving DecidableEq, Repr

/-- The text functions of the standard library that a projection calls.
`b64decode` is the strict URL-safe decoding of an ASCII text, read as UTF-8 with
bad bytes dropped, and `none` where it raises `binascii.Error`; `fromTimestamp`
takes milliseconds and is `none` where it raises. -/
structure TextLibrary where
  casefold : String → String
  parseaddr : String → String × String
  b64decode : String → Option String
  feedHtml : String → List HtmlToken
  fromTimestamp : Int → Option Int

def maxBodyChars : Nat := 4000

def maxMimeDepth : Nat := 8

def maxMimeParts : Nat := 64

def htmlBreakTags : List String :=
  ["address","article","aside","blockquote","br","dd","div","dl","dt","figcaption","figure",
    "footer","form","h1","h2","h3","h4","h5","h6","header","hr","li","main","nav","ol","p","pre",
    "section","table","tbody","td","tfoot","th","thead","tr","ul"]

/-- A space at a block boundary, unless the text so far ends in one. -/
def appendBreak (pieces : List String) : List String :=
  match pieces.getLast? with
  | none => pieces
  | some last =>
    if last.toList.getLast?.any (fun char => [' ','\t','\n','\r'].contains char) then pieces
    else pieces ++ [" "]

def handleToken (pieces : List String) : HtmlToken → List String
  | .data text => pieces ++ [text]
  | .startTag tag | .endTag tag => if htmlBreakTags.contains tag then appendBreak pieces else pieces

def isSpace (char : Char) : Bool :=
  let code := char.toNat
  (9 ≤ code && code ≤ 13) || (28 ≤ code && code ≤ 32) || code == 0x85 || code == 0xa0 ||
    code == 0x1680 || (0x2000 ≤ code && code ≤ 0x200a) || code == 0x2028 || code == 0x2029 ||
    code == 0x202f || code == 0x205f || code == 0x3000

def strip (text : String) : String :=
  String.ofList (((text.toList.dropWhile isSpace).reverse.dropWhile isSpace).reverse)

def extractHtmlText (library : TextLibrary) (html : String) (maxChars : Nat) : String × Bool :=
  let pieces := (library.feedHtml html).foldl handleToken []
  let extracted := strip (String.join pieces)
  (sliceTo maxChars extracted,maxChars < extracted.length)

def maximumEncoded : Nat := (maxBodyChars * 4 / 3 + 8) / 4 * 4

def isAscii (text : String) : Bool := text.toList.all (fun char => char.toNat < 128)

def padded (bounded : String) : String :=
  bounded ++ String.ofList (List.replicate ((4 - bounded.length % 4) % 4) '=')

def decodeBody (library : TextLibrary) (part : WirePart) : Except Raised (Option String × Bool) :=
  match part.body.bind WireBody.data with
  | none => .ok (none,false)
  | some encoded =>
    let bounded := sliceTo maximumEncoded encoded
    -- the encoding of a text argument raises before the decoder sees it
    if isAscii (padded bounded) then
      match library.b64decode (padded bounded) with
      | none => .ok (none,false)
      | some decoded =>
        .ok (some (sliceTo maxBodyChars decoded),
          bounded.length < encoded.length || maxBodyChars < decoded.length)
    else .error .valueError

structure BodyProjection where
  text : Option String
  truncated : Bool
  structureTruncated : Bool
deriving DecidableEq, Repr

def BodyProjection.empty : BodyProjection := ⟨none,false,false⟩

def BodyProjection.add (body : BodyProjection) (library : TextLibrary) (mimeType : String)
    (decoded : Option String) (truncated : Bool) : BodyProjection :=
  let body := {body with truncated := body.truncated || truncated}
  match decoded with
  | some html =>
    if mimeType = "text/html" ∧ body.text = none then
      let extracted := extractHtmlText library html maxBodyChars
      {body with
        text := some extracted.1
        truncated := body.truncated || extracted.2}
    else body
  | none => body

/-- The loop over the stack of parts, its top first, with the number of parts
that it may still look into. -/
def projectParts (library : TextLibrary) :
    Nat → List (WirePart × Nat) → BodyProjection → Except Raised BodyProjection
  | _,[],body => .ok body
  -- nothing is pushed any more, and the rest of the stack is dropped
  | 0,_::_,body => .ok {body with structureTruncated := true}
  | budget + 1,(current,depth)::stack,body =>
    if maxMimeDepth < depth then
      projectParts library budget stack {body with structureTruncated := true}
    else do
      let mimeType := library.casefold (current.mimeType.getD "")
      let (decoded,truncated) ← decodeBody library current
      if decoded.isSome ∧ mimeType = "text/plain" then
        return ⟨decoded,body.truncated || truncated,body.structureTruncated⟩
      projectParts library budget (current.parts.map (fun child => (child,depth + 1)) ++ stack)
        (body.add library mimeType decoded truncated)

def projectBody (library : TextLibrary) : Option WirePart → Except Raised BodyProjection
  | none => .ok .empty
  | some part => projectParts library maxMimeParts [(part,0)] .empty

/-- The headers by name, the last one of a name first, and whether one of the
names that identify the correspondents came twice. -/
def readHeaders (library : TextLibrary) : Option WirePart → List (String × String) × Bool
  | none => ([],false)
  | some payload => payload.headers.foldl (fun (values,ambiguous) header =>
      let name := library.casefold header.name
      ((name,header.value)::values,
        ambiguous || (["from","to","cc","bcc"].contains name && (values.lookup name).isSome))) ([],false)

def trustedDirection (labelIds : Option (List String)) :
    Bool × Bool × List InboxThreadDegradationReason :=
  let labels := labelIds.getD []
  let sent := labels.contains "SENT"
  let inbox := labels.contains "INBOX"
  (sent,inbox,
    if labels = [] then [.directionMetadataMissing]
    else if (sent && inbox) || !(sent || inbox) then [.directionMetadataAmbiguous]
    else [])

structure Candidate where
  sentAt : Int
  id : String
  message : WireMessage

def candidates (library : TextLibrary) (wire : WireThreadDetail) : List Candidate :=
  wire.messages.filterMap (fun message =>
    match message.id,message.internalDate with
    | some id,some internalDate =>
      (library.fromTimestamp internalDate).map (fun sentAt => ⟨sentAt,id,message⟩)
    | _,_ => none)

def Candidate.before (first second : Candidate) : Bool :=
  first.sentAt < second.sentAt || (first.sentAt == second.sentAt && first.id < second.id)

/-- `max` by time and id: the first of the greatest. -/
def latestCandidate : List Candidate → Option Candidate
  | [] => none
  | first::rest =>
    some (rest.foldl (fun latest other => if latest.before other then other else latest) first)

/-- `value or None` on texts. -/
def orNone (text : Option String) : Option String := text.filter (fun value => value != "")

def bodyReasons (body : BodyProjection) : List InboxThreadDegradationReason :=
  if body.text = none then [.bodySnippetFallback]
  else if body.truncated then [.bodyTruncated]
  else if body.structureTruncated then [.mimeStructureTruncated]
  else []

def projectCandidate (library : TextLibrary) (threadId profileHistoryCursor : String)
    (latest : Candidate) : Except Raised InboxThreadSnapshot := do
  let (headers,identityHeadersAmbiguous) := readHeaders library latest.message.payload
  let (senderName,senderAddress) := library.parseaddr ((headers.lookup "from").getD "")
  let (sent,inbox,directionReasons) := trustedDirection latest.message.labelIds
  let body ← projectBody library latest.message.payload
  let reasons : List InboxThreadDegradationReason := directionReasons ++
    (if identityHeadersAmbiguous then [.identityHeadersAmbiguous] else []) ++ bodyReasons body
  let degradationReasons := reasons.eraseDups
  return {
    threadId := threadId
    latestMessageId := latest.id
    latestFromUser := sent
    userIsRecipient := inbox
    latestMessageAt := latest.sentAt
    subject := orNone (headers.lookup "subject")
    senderDisplay := (orNone (some senderName)).or (orNone (some senderAddress))
    snippet := latest.message.snippet
    bodyText := body.text.or latest.message.snippet
    resolutionSafe := degradationReasons.isEmpty
    degradationReasons := degradationReasons
    providerHistoryCursor := some profileHistoryCursor}

def projectThread (library : TextLibrary) (threadId : String) (wire : WireThreadDetail)
    (profileHistoryCursor : String) : Except Raised (Option InboxThreadSnapshot) :=
  match latestCandidate (candidates library wire) with
  | none => .ok none
  | some latest => (projectCandidate library threadId profileHistoryCursor latest).map some

end Proactive.Sources
