import Proactive.Library.Triple
import Proactive.Sources.Gmail

/-! The Gmail adapter on a transport that counts its requests: the reads are those of the adapter, and
the count that a result reports is the count of the transport. -/
namespace Proactive.Sources
open Proactive.Library

/-- A part of a read, over the number of requests made before it. -/
abbrev Counted (α : Type) := Statement Nat (ReadFailure GmailError) α

namespace GmailAdapter
variable (adapter : GmailAdapter) (transport : Transport)

def requested : Counted Body := fun made => (getGmail transport made,made + 1)

def requestedDetail : Counted (Option WireThreadDetail) := fun made => (adapter.readDetail transport made,made + 1)

def countedProfile : Counted GmailProfile := do
  let body ← requested transport
  Statement.ofExcept (parseGmail adapter.json.profile body)

def countedPages : Nat → Listing → Counted GmailReadResult
  | 0,listing => return listing.result adapter.now false [.paginationLimit]
  | remaining + 1,listing => do
    let body ← requested transport
    let page ← Statement.ofExcept (parseGmail adapter.json.threadsPage body)
    match page.nextPageToken with
    | none => return (listing.add page).result adapter.now true []
    | some token =>
      if (listing.add page).seenTokens.contains token then
        Statement.raise (.provider (GmailParseError .unknown none))
      else countedPages remaining {listing.add page with seenTokens := token::(listing.add page).seenTokens}

def countedProjection (profile : GmailProfile) (projected : List GmailThread) :
    List GmailThread → Projection → Counted Projection
  | [],projection => return projection
  | thread::rest,projection => do
    let answer ← Statement.attempt (adapter.requestedDetail transport)
    match answer with
    | .error (.provider ⟨.bodyLimit .sync,_,_⟩) =>
      return projection.requested.exhausted (projected.drop (projected.idxOf thread))
    | .error failure => Statement.raise failure
    | .ok none => countedProjection profile projected rest (projection.requested.tooLarge thread.id)
    | .ok (some detail) =>
      match projectThread adapter.library thread.id detail profile.historyId with
      | .error error => Statement.raise (.raised error)
      | .ok snapshot => countedProjection profile projected rest (projection.requested.add thread.id snapshot)

/-- `read_inbox_threads`, request by request. -/
def countedRead : Counted GmailInboxReadResult := do
  let profile ← adapter.countedProfile transport
  let listed ← adapter.countedPages transport gmailMaxPages .empty
  let projected := sliceThreads adapter.maxProjectedThreads listed.threads
  let projection ← adapter.countedProjection transport profile projected projected (openProjection listed projected)
  return inboxResult profile listed projected projection

end GmailAdapter

/-- The program ends as the read does, with this many requests when it returns. -/
structure Counts {α : Type} (program : Counted α) (made : Nat) (read : Read GmailError α) (count : α → Nat) : Prop where
  outcome : (program.run made).1 = read
  requests : ∀ value, read = .ok value → (program.run made).2 = count value

namespace Counts
variable {α β : Type} {made : Nat}

theorem ofExcept (read : Read GmailError α) : Counts (Statement.ofExcept read) made read (fun _ => made) := by
  cases read with
  | error failure => exact ⟨rfl,fun _ returned => by cases returned⟩
  | ok value => exact ⟨rfl,fun _ _ => rfl⟩

theorem raise (failure : ReadFailure GmailError) (count : α → Nat) :
    Counts (Statement.raise failure : Counted α) made (.error failure) count :=
  ⟨rfl,fun _ returned => by cases returned⟩

theorem pure {value : α} {count : α → Nat} (same : made = count value) :
    Counts (Pure.pure value : Counted α) made (.ok value) count := by
  refine ⟨rfl,fun other returned => ?_⟩
  rw [← Except.ok.inj returned]
  exact same

theorem bind {first : Counted α} {next : α → Counted β} {read : Read GmailError α}
    {later : α → Read GmailError β} {count : α → Nat} {total : β → Nat} (one : Counts first made read count)
    (two : ∀ value, read = .ok value → Counts (next value) (count value) (later value) total) :
    Counts (first >>= next) made (read >>= later) total := by
  have run := Statement.run_bind first next made
  cases ran : first.run made with
  | mk outcome left =>
    have same := one.outcome
    rw [ran] at same run
    dsimp only at same
    cases outcome with
    | error failure =>
      rw [← same]
      exact ⟨by rw [run]; rfl,fun _ returned => by cases returned⟩
    | ok value =>
      have counted := one.requests value same.symm
      rw [ran] at counted
      dsimp only at counted run
      have rest := two value same.symm
      rw [← same]
      refine ⟨?_,fun result returned => ?_⟩
      · rw [run,counted]
        exact rest.outcome
      · rw [run,counted]
        exact rest.requests result returned

end Counts

namespace GmailAdapter
variable {adapter : GmailAdapter} {transport : Transport}

theorem requested_counts (made : Nat) :
    Counts (requested transport) made (getGmail transport made) (fun _ => made + 1) :=
  ⟨rfl,fun _ _ => rfl⟩

theorem countedPages_counts (remaining : Nat) (listing : Listing) :
    Counts (adapter.countedPages transport remaining listing) (1 + listing.pageCount)
      (adapter.listPages transport remaining listing) (fun listed => 1 + listed.pageCount) := by
  induction remaining generalizing listing with
  | zero => exact Counts.pure rfl
  | succ remaining ih =>
    unfold countedPages listPages
    apply Counts.bind (requested_counts _)
    intro body _
    apply Counts.bind (Counts.ofExcept _)
    intro page _
    dsimp only
    cases page.nextPageToken with
    | none => exact Counts.pure rfl
    | some token =>
      dsimp only
      by_cases seen : (listing.add page).seenTokens.contains token = true
      · rw [if_pos seen,if_pos seen]
        exact Counts.raise _ _
      · rw [if_neg seen,if_neg seen]
        exact ih _

theorem countedProjection_counts (profile : GmailProfile) (projected : List GmailThread) (before : Nat)
    (rest : List GmailThread) (projection : Projection) :
    Counts (adapter.countedProjection transport profile projected rest projection)
      (before + projection.detailRequestCount)
      (adapter.projectThreads transport profile projected before rest projection)
      (fun final => before + final.detailRequestCount) := by
  induction rest generalizing projection with
  | nil => exact Counts.pure rfl
  | cons thread rest ih =>
    unfold countedProjection projectThreads
    have asked : ∀ next : Except (ReadFailure GmailError) (Option WireThreadDetail) → Counted Projection,
        (Statement.attempt (adapter.requestedDetail transport) >>= next).run (before + projection.detailRequestCount) =
          (next (adapter.readDetail transport (before + projection.detailRequestCount))).run
            (before + (projection.detailRequestCount + 1)) := fun _ => rfl
    have through {next : Except (ReadFailure GmailError) (Option WireThreadDetail) → Counted Projection}
        {read : Read GmailError Projection} {count : Projection → Nat}
        (later : Counts (next (adapter.readDetail transport (before + projection.detailRequestCount)))
          (before + (projection.detailRequestCount + 1)) read count) :
        Counts (Statement.attempt (adapter.requestedDetail transport) >>= next)
          (before + projection.detailRequestCount) read count :=
      ⟨(congrArg Prod.fst (asked next)).trans later.outcome,
        fun value returned => (congrArg Prod.snd (asked next)).trans (later.requests value returned)⟩
    apply through
    generalize adapter.readDetail transport (before + projection.detailRequestCount) = answer
    rcases answer with failure | detail
    · rcases failure with ⟨kind,errorCode,httpStatus⟩ | failure | error
      · rcases kind with _ | _ | limitReason
        · exact Counts.raise _ _
        · exact Counts.raise _ _
        · cases limitReason with
          | response => exact Counts.raise _ _
          | sync => exact Counts.pure rfl
      · exact Counts.raise _ _
      · exact Counts.raise _ _
    · cases detail with
      | none => exact ih _
      | some detail =>
        dsimp only
        cases projectThread adapter.library thread.id detail profile.historyId with
        | error error => exact Counts.raise _ _
        | ok snapshot =>
          cases snapshot with
          | none => exact ih (projection.requested.add thread.id none)
          | some snapshot => exact ih (projection.requested.add thread.id (some snapshot))

/-- The transport has answered as many requests as the result says. -/
theorem countedRead_counts :
    Counts (adapter.countedRead transport) 0 (adapter.readInboxThreads transport)
      GmailInboxReadResult.requestCount := by
  have profiled : Counts (adapter.countedProfile transport) 0 (adapter.readProfile transport) (fun _ => 1) := by
    unfold countedProfile readProfile
    apply Counts.bind (requested_counts 0)
    intro body _
    exact Counts.ofExcept _
  unfold countedRead readInboxThreads
  apply Counts.bind profiled
  · intro profile _
    apply Counts.bind (countedPages_counts gmailMaxPages .empty)
    intro listed _
    apply Counts.bind (countedProjection_counts profile _ (1 + listed.pageCount) _ _)
    intro projection _
    exact Counts.pure rfl

end GmailAdapter
end Proactive.Sources
