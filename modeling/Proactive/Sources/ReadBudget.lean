import Mathlib.Algebra.GroupWithZero.Nat
import Mathlib.Data.List.Infix
import Proactive.Sources.Transport

/-! Bounded reads: one streamed response under a limit of bytes, and the requests of one source pass
under a common budget. -/
namespace Proactive.Sources

/-- What the session or its stream raises. -/
inductive RawError
  | refresh (text : String)
  | timeout
  | connection
  | other
deriving DecidableEq, Repr

/-- A streamed response: its chunks, and what the stream raises after them. -/
structure StreamingHttpResponse where
  statusCode : Int
  contentLength : Option String
  chunks : List Body
  failure : Option RawError
deriving DecidableEq, Repr

structure GoogleHttpResponse where
  statusCode : Int
  body : Body
  tooLarge : Bool
deriving DecidableEq, Repr

def tooLargeResponse (statusCode : Int) : GoogleHttpResponse := ⟨statusCode,[],true⟩

/-- The loop over the chunks, or none when the body outgrows the limit. -/
def streamBody (maxBytes : Nat) : Body → List Body → Option Body
  | body,[] => some body
  | body,chunk::chunks =>
    if chunk.isEmpty then streamBody maxBytes body chunks
    else
      let longer := body ++ chunk.take (maxBytes + 1 - body.length)
      if maxBytes < longer.length then none else streamBody maxBytes longer chunks

/-- `int(text)`, none where it raises `ValueError`. -/
abbrev ParseInt := String → Option Int

def StreamingHttpResponse.declaresMore (int : ParseInt) (maxBytes : Nat) (response : StreamingHttpResponse) : Bool :=
  response.contentLength.any (fun declared => (int declared).any (fun length => decide ((maxBytes : Int) < length)))

/-- `_GoogleAuthorizedSession.get`. -/
def sessionGet (int : ParseInt) (maxBytes : Nat) (response : StreamingHttpResponse) :
    Except RawError GoogleHttpResponse :=
  if response.declaresMore int maxBytes then .ok (tooLargeResponse response.statusCode)
  else match streamBody maxBytes [] response.chunks with
    | none => .ok (tooLargeResponse response.statusCode)
    | some body =>
      match response.failure with
      | some error => .error error
      | none => .ok ⟨response.statusCode,body,false⟩

inductive GetError
  | google (failure : TransportFailure)
  | raised
deriving DecidableEq, Repr

def RawError.mapped : RawError → GetError
  | .refresh text =>
    if "invalid_grant".toList <:+: text.toList then .google .invalidGrant else .google (.transport .unknown)
  | .timeout => .google (.transport .timeout)
  | .connection => .google (.transport .network)
  | .other => .raised

/-- `GoogleAuthenticatedGetTransport.get` of what the session opens. -/
def authenticatedGet (int : ParseInt) (maxBytes : Nat) (opened : Except RawError StreamingHttpResponse) :
    Except GetError GoogleHttpResponse :=
  if maxBytes < 1 then .error (.google (.transport .unknown))
  else match opened with
    | .error error => .error error.mapped
    | .ok response => (sessionGet int maxBytes response).mapError RawError.mapped

def maxSourceSyncBytes : Nat := 8000000
def maxSourceSyncRequests : Nat := 64
def maxGmailSyncRequests : Nat := 1 + 20 + 200
def maxGmailProfileBytes : Nat := 64 * 1024
def maxGmailPageBytes : Nat := 1000000
def maxGmailThreadBytes : Nat := 1000000
def maxCalendarPageBytes : Nat := 2000000

structure SourceReadBudget where
  bytesRemaining : Nat
  requestsRemaining : Nat
deriving DecidableEq, Repr

namespace SourceReadBudget

def exhausted (budget : SourceReadBudget) : Bool := budget.requestsRemaining == 0 || budget.bytesRemaining == 0

def requestLimit (endpointLimit : Nat) (budget : SourceReadBudget) : Nat × SourceReadBudget :=
  if budget.exhausted then (0,budget)
  else (min endpointLimit budget.bytesRemaining,{budget with requestsRemaining := budget.requestsRemaining - 1})

def consume (size : Nat) (budget : SourceReadBudget) : SourceReadBudget :=
  {budget with bytesRemaining := budget.bytesRemaining - size}

end SourceReadBudget

/-- The limits of one source: bytes by address, and requests. -/
structure SourcePass where
  endpointLimit : String → Nat
  capacity : Nat
  positive : ∀ url, 0 < endpointLimit url

/-- `_GmailReadTransport`. -/
def gmailPass : SourcePass where
  endpointLimit url :=
    if "/profile".toList <:+ url.toList then maxGmailProfileBytes
    else if "/threads/".toList <:+: url.toList then maxGmailThreadBytes
    else maxGmailPageBytes
  capacity := maxGmailSyncRequests
  positive url := by
    unfold maxGmailProfileBytes maxGmailThreadBytes maxGmailPageBytes
    split
    · decide
    · split <;> decide

/-- `_CalendarReadTransport`. -/
def calendarPass : SourcePass where
  endpointLimit _ := maxCalendarPageBytes
  capacity := maxSourceSyncRequests
  positive _ := by decide

/-- A request of a pass, with what the session would answer to it. -/
structure Exchange where
  url : String
  opened : Except RawError StreamingHttpResponse
deriving DecidableEq

structure Reply where
  sent : Bool
  allowed : Nat
  response : Except GetError HttpResponse
deriving DecidableEq

def refusedReply : Reply := ⟨false,0,.ok ⟨200,[],some .sync⟩⟩

namespace SourcePass
variable (pass : SourcePass) (int : ParseInt)

def start : SourceReadBudget := ⟨maxSourceSyncBytes,pass.capacity⟩

/-- One request: its reply, and the budget that it leaves. -/
def request (exchange : Exchange) (budget : SourceReadBudget) : Reply × SourceReadBudget :=
  let endpointLimit := pass.endpointLimit exchange.url
  let (allowed,counted) := budget.requestLimit endpointLimit
  if allowed = 0 then (refusedReply,counted)
  else match authenticatedGet int allowed exchange.opened with
    | .error error => (⟨true,allowed,.error error⟩,counted)
    | .ok response =>
      if response.tooLarge then
        (⟨true,allowed,.ok ⟨response.statusCode,response.body,some (if allowed < endpointLimit then .sync else .response)⟩⟩,
          counted.consume allowed)
      else (⟨true,allowed,.ok ⟨response.statusCode,response.body,none⟩⟩,counted.consume response.body.length)

def run : List Exchange → SourceReadBudget → List Reply
  | [],_ => []
  | exchange::rest,budget => (pass.request int exchange budget).1::run rest (pass.request int exchange budget).2

/-- The budget that these requests leave. -/
def left : List Exchange → SourceReadBudget → SourceReadBudget
  | [],budget => budget
  | exchange::rest,budget => left rest (pass.request int exchange budget).2

end SourcePass

namespace Reply

/-- The bytes of a body that the reader gets to see. -/
def acceptedBytes (reply : Reply) : Nat :=
  match reply.response with
  | .ok ⟨_,body,none⟩ => body.length
  | _ => 0

/-- The bytes that the budget is charged: those of an accepted body, or all that were allowed. -/
def charge (reply : Reply) : Nat :=
  match reply.response with
  | .ok ⟨_,body,none⟩ => body.length
  | .ok ⟨_,_,some _⟩ => reply.allowed
  | .error _ => 0

def requests (reply : Reply) : Nat := if reply.sent then 1 else 0

end Reply

theorem streamBody_eq {maxBytes : Nat} {body : Body} (short : body.length ≤ maxBytes) (chunks : List Body) :
    streamBody maxBytes body chunks =
      if maxBytes < (body ++ chunks.flatten).length then none else some (body ++ chunks.flatten) := by
  induction chunks generalizing body with
  | nil =>
    rw [List.flatten_nil,List.append_nil,if_neg (Nat.not_lt.mpr short)]
    rfl
  | cons chunk chunks ih =>
    rw [streamBody,List.flatten_cons,← List.append_assoc]
    by_cases empty : chunk.isEmpty = true
    · rw [if_pos empty,ih short,List.isEmpty_iff.mp empty,List.append_nil]
    · rw [if_neg empty]
      dsimp only
      by_cases fits : body.length + chunk.length ≤ maxBytes
      · have whole : chunk.take (maxBytes + 1 - body.length) = chunk := List.take_of_length_le (by omega)
        rw [whole,if_neg (by rw [List.length_append]; omega)]
        exact ih (by rw [List.length_append]; exact fits)
      · have beyond : (body ++ chunk.take (maxBytes + 1 - body.length)).length = maxBytes + 1 := by
          rw [List.length_append,List.length_take]
          omega
        rw [if_pos (by omega),if_pos (by simp only [List.length_append]; omega)]

/-- A bounded read is whole, or it reports that the response is too large. -/
theorem sessionGet_ok {int : ParseInt} {maxBytes : Nat} {response : StreamingHttpResponse}
    {answer : GoogleHttpResponse} (answered : sessionGet int maxBytes response = .ok answer) :
    (answer = tooLargeResponse response.statusCode ∧
      (response.declaresMore int maxBytes = true ∨ maxBytes < response.chunks.flatten.length)) ∨
    (answer = ⟨response.statusCode,response.chunks.flatten,false⟩ ∧ response.chunks.flatten.length ≤ maxBytes) := by
  unfold sessionGet at answered
  by_cases declared : response.declaresMore int maxBytes = true
  · rw [if_pos declared] at answered
    exact Or.inl ⟨(Except.ok.inj answered).symm,Or.inl declared⟩
  · rw [if_neg declared,streamBody_eq (Nat.zero_le _),List.nil_append] at answered
    by_cases beyond : maxBytes < response.chunks.flatten.length
    · rw [if_pos beyond] at answered
      exact Or.inl ⟨(Except.ok.inj answered).symm,Or.inr beyond⟩
    · rw [if_neg beyond] at answered
      dsimp only at answered
      cases failed : response.failure with
      | some error =>
        rw [failed] at answered
        cases answered
      | none =>
        rw [failed] at answered
        exact Or.inr ⟨(Except.ok.inj answered).symm,Nat.not_lt.mp beyond⟩

theorem authenticatedGet_ok {int : ParseInt} {maxBytes : Nat} {opened : Except RawError StreamingHttpResponse}
    {answer : GoogleHttpResponse} (answered : authenticatedGet int maxBytes opened = .ok answer) :
    ∃ response, opened = .ok response ∧ sessionGet int maxBytes response = .ok answer := by
  unfold authenticatedGet at answered
  by_cases none : maxBytes < 1
  · rw [if_pos none] at answered
    cases answered
  · rw [if_neg none] at answered
    cases opened with
    | error error => cases answered
    | ok response =>
      refine ⟨response,rfl,?_⟩
      dsimp only at answered
      cases read : sessionGet int maxBytes response with
      | error error =>
        rw [read] at answered
        cases answered
      | ok found =>
        rw [read] at answered
        exact congrArg Except.ok (Except.ok.inj answered)

namespace SourcePass
variable (pass : SourcePass) (int : ParseInt) {budget : SourceReadBudget}

theorem request_refused (spent : budget.exhausted = true) (exchange : Exchange) :
    pass.request int exchange budget = (refusedReply,budget) := by
  have none : budget.requestLimit (pass.endpointLimit exchange.url) = (0,budget) := if_pos spent
  unfold request
  dsimp only
  rw [none]
  rfl

/-- What a request that is sent costs, and that what it returns is whole. -/
structure Sent (pass : SourcePass) (exchange : Exchange) (budget : SourceReadBudget) (reply : Reply)
    (left : SourceReadBudget) : Prop where
  sent : reply.sent = true
  allowed : reply.allowed ≤ pass.endpointLimit exchange.url ∧ reply.allowed ≤ budget.bytesRemaining
  counted : 1 + left.requestsRemaining = budget.requestsRemaining
  charged : reply.charge + left.bytesRemaining = budget.bytesRemaining
  whole : ∀ statusCode body, reply.response = .ok ⟨statusCode,body,none⟩ →
    ∃ response, exchange.opened = .ok response ∧ body = response.chunks.flatten ∧ body.length ≤ reply.allowed

theorem request_sent (open_ : budget.exhausted = false) (exchange : Exchange) :
    Sent pass exchange budget (pass.request int exchange budget).1 (pass.request int exchange budget).2 := by
  have rest := open_
  unfold SourceReadBudget.exhausted at rest
  rw [Bool.or_eq_false_iff,beq_eq_false_iff_ne,beq_eq_false_iff_ne] at rest
  have positive := pass.positive exchange.url
  have limit : budget.requestLimit (pass.endpointLimit exchange.url) =
      (min (pass.endpointLimit exchange.url) budget.bytesRemaining,
        {budget with requestsRemaining := budget.requestsRemaining - 1}) := if_neg (Bool.eq_false_iff.mp open_)
  unfold request
  dsimp only
  rw [limit]
  generalize granted : min (pass.endpointLimit exchange.url) budget.bytesRemaining = allowed
  dsimp only
  rw [if_neg (by omega)]
  cases got : authenticatedGet int allowed exchange.opened with
  | error error =>
    refine ⟨rfl,by dsimp only; omega,by dsimp only; omega,Nat.zero_add _,?_⟩
    intro statusCode body answered
    cases answered
  | ok answer =>
    obtain ⟨response,opened,read⟩ := authenticatedGet_ok got
    rcases sessionGet_ok read with ⟨rfl,_⟩ | ⟨rfl,short⟩
    · have limited : (tooLargeResponse response.statusCode).tooLarge = true := rfl
      dsimp only
      rw [if_pos limited]
      refine ⟨rfl,by dsimp only; omega,by unfold SourceReadBudget.consume; dsimp only; omega,?_,?_⟩
      · unfold SourceReadBudget.consume Reply.charge
        dsimp only
        omega
      · intro statusCode body answered
        cases answered
    · dsimp only
      rw [if_neg Bool.false_ne_true]
      refine ⟨rfl,by dsimp only; omega,by unfold SourceReadBudget.consume; dsimp only; omega,?_,?_⟩
      · unfold SourceReadBudget.consume Reply.charge
        dsimp only
        omega
      · intro statusCode body answered
        have same : response.chunks.flatten = body := congrArg HttpResponse.body (Except.ok.inj answered)
        exact ⟨response,opened,same.symm,same ▸ short⟩

/-- The budget shrinks by what the replies are charged. -/
theorem run_left (exchanges : List Exchange) (budget : SourceReadBudget) :
    ((pass.run int exchanges budget).map Reply.charge).sum + (pass.left int exchanges budget).bytesRemaining =
        budget.bytesRemaining ∧
      ((pass.run int exchanges budget).map Reply.requests).sum + (pass.left int exchanges budget).requestsRemaining =
        budget.requestsRemaining := by
  induction exchanges generalizing budget with
  | nil => exact ⟨Nat.zero_add _,Nat.zero_add _⟩
  | cons exchange rest ih =>
    rw [run,left,List.map_cons,List.sum_cons,List.map_cons,List.sum_cons]
    obtain ⟨bytes,requests⟩ := ih (pass.request int exchange budget).2
    cases spent : budget.exhausted with
    | true =>
      rw [request_refused pass int spent] at bytes requests ⊢
      have free : refusedReply.charge = 0 ∧ refusedReply.requests = 0 := ⟨rfl,rfl⟩
      dsimp only at bytes requests ⊢
      omega
    | false =>
      have step := request_sent pass int spent exchange
      have charged := step.charged
      have counted := step.counted
      have one : (pass.request int exchange budget).1.requests = 1 := by rw [Reply.requests,if_pos step.sent]
      omega

theorem run_append (front back : List Exchange) (budget : SourceReadBudget) :
    pass.run int (front ++ back) budget =
      pass.run int front budget ++ pass.run int back (pass.left int front budget) := by
  induction front generalizing budget with
  | nil => rfl
  | cons exchange rest ih =>
    rw [List.cons_append,run,run,left,ih,List.cons_append]

theorem run_exhausted (spent : budget.exhausted = true) (exchanges : List Exchange) :
    pass.run int exchanges budget = exchanges.map (fun _ => refusedReply) := by
  induction exchanges with
  | nil => rfl
  | cons exchange rest ih =>
    rw [run,request_refused pass int spent,ih]
    rfl

end SourcePass

theorem Reply.accepted_charged (replies : List Reply) :
    (replies.map acceptedBytes).sum ≤ (replies.map charge).sum := by
  induction replies with
  | nil => exact Nat.le_refl 0
  | cons reply rest ih =>
    rw [List.map_cons,List.map_cons,List.sum_cons,List.sum_cons]
    have each : reply.acceptedBytes ≤ reply.charge := by
      obtain ⟨sent,allowed,response⟩ := reply
      rcases response with error | ⟨statusCode,body,limitReason⟩
      · exact Nat.zero_le _
      · cases limitReason with
        | none => exact Nat.le_refl _
        | some reason => exact Nat.zero_le _
    omega

/-- Bodies are whole or refused, a pass stays within its bytes and its requests, and a pass that has
used up either sends nothing more. -/
theorem read_budget (int : ParseInt) :
    (∀ maxBytes response answer, sessionGet int maxBytes response = .ok answer →
      (answer.tooLarge = true ∧ answer.body = [] ∧
        (response.declaresMore int maxBytes = true ∨ maxBytes < response.chunks.flatten.length)) ∨
      (answer.tooLarge = false ∧ answer.body = response.chunks.flatten ∧ answer.body.length ≤ maxBytes)) ∧
    (∀ (pass : SourcePass) exchange budget statusCode body,
      (pass.request int exchange budget).1.response = .ok ⟨statusCode,body,none⟩ →
      (pass.request int exchange budget).1.allowed ≤ pass.endpointLimit exchange.url ∧
        ∃ response, exchange.opened = .ok response ∧ body = response.chunks.flatten ∧
          body.length ≤ (pass.request int exchange budget).1.allowed) ∧
    ∀ (pass : SourcePass) (exchanges later : List Exchange) (exchange : Exchange),
      let replies := pass.run int exchanges pass.start
      (replies.map Reply.acceptedBytes).sum ≤ (replies.map Reply.charge).sum ∧
      (replies.map Reply.charge).sum ≤ maxSourceSyncBytes ∧
      (replies.map Reply.requests).sum ≤ pass.capacity ∧
      ((replies.map Reply.charge).sum = maxSourceSyncBytes ∨ (replies.map Reply.requests).sum = pass.capacity →
        pass.run int (exchanges ++ later) pass.start = replies ++ later.map (fun _ => refusedReply)) ∧
      ((replies.map Reply.charge).sum < maxSourceSyncBytes → (replies.map Reply.requests).sum < pass.capacity →
        (pass.request int exchange (pass.left int exchanges pass.start)).1.sent = true) := by
  refine ⟨?_,?_,?_⟩
  · intro maxBytes response answer answered
    rcases sessionGet_ok answered with ⟨rfl,beyond⟩ | ⟨rfl,short⟩
    · exact Or.inl ⟨rfl,rfl,beyond⟩
    · exact Or.inr ⟨rfl,rfl,short⟩
  · intro pass exchange budget statusCode body replied
    cases spent : budget.exhausted with
    | true =>
      rw [SourcePass.request_refused pass int spent] at replied
      cases replied
    | false =>
      have step := SourcePass.request_sent pass int spent exchange
      exact ⟨step.allowed.1,step.whole statusCode body replied⟩
  · intro pass exchanges later exchange replies
    obtain ⟨bytes,requests⟩ := SourcePass.run_left pass int exchanges pass.start
    change (replies.map Reply.charge).sum + _ = maxSourceSyncBytes at bytes
    change (replies.map Reply.requests).sum + _ = pass.capacity at requests
    refine ⟨Reply.accepted_charged replies,by omega,by omega,fun spent => ?_,fun fewer less => ?_⟩
    · have used : (pass.left int exchanges pass.start).exhausted = true := by
        unfold SourceReadBudget.exhausted
        rw [Bool.or_eq_true,beq_iff_eq,beq_iff_eq]
        omega
      rw [SourcePass.run_append,SourcePass.run_exhausted pass int used]
    · have open_ : (pass.left int exchanges pass.start).exhausted = false := by
        unfold SourceReadBudget.exhausted
        rw [Bool.or_eq_false_iff,beq_eq_false_iff_ne,beq_eq_false_iff_ne]
        omega
      exact (SourcePass.request_sent pass int open_ exchange).sent

/-- `int` on the one header below. -/
def parseThree : ParseInt := fun text => if text = "3" then some 3 else none

/-- A body of exactly the limit is returned whole, in spite of an empty chunk. -/
theorem read_budget_exact :
    ∃ answer, sessionGet parseThree 3 ⟨200,some "3",[[1,2],[],[3]],none⟩ = .ok answer ∧
      answer.body = [1,2,3] ∧ answer.body.length ≤ 3 := by
  have read : sessionGet parseThree 3 ⟨200,some "3",[[1,2],[],[3]],none⟩ = .ok ⟨200,[1,2,3],false⟩ := by
    decide +kernel
  rcases (read_budget parseThree).1 3 _ _ read with ⟨beyond,_⟩ | ⟨_,whole,short⟩
  · cases beyond
  · exact ⟨_,read,whole,short⟩

end Proactive.Sources
