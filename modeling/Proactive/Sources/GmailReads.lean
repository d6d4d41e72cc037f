import Mathlib.Algebra.GroupWithZero.Nat
import Mathlib.Data.List.Nodup
import Proactive.Library.Grouping
import Proactive.Library.Outcome
import Proactive.Sources.Gmail

/-! What the two loops of a Gmail read establish: the pages that a listing is made of, and one rule
for the loop over the threads to project. -/
namespace Proactive.Sources
open Proactive.Library Proactive.Store Proactive.Situations

namespace GmailAdapter
variable (adapter : GmailAdapter) (transport : Transport)

/-- The page that the response carries. -/
def readThreadsPage (index : Nat) : Read GmailError WireThreadsPage := do
  let body ← getGmail transport index
  parseGmail adapter.json.threadsPage body

/-- The listing ended with this result after reading the pages on top of what it had. -/
structure PagesRead (listing : Listing) (pages : List WireThreadsPage) (listed : GmailReadResult) : Prop where
  responses : ∀ position (inside : position < pages.length),
    adapter.readThreadsPage transport (1 + listing.pageCount + position) = .ok pages[position]
  pageCount : listed.pageCount = listing.pageCount + pages.length
  threads : listed.threads = listing.threads ++ pages.flatMap (fun page => page.threads.filterMap listThread)
  skipped : listed.skippedCount = listing.skippedCount +
    (pages.map (fun page => page.threads.countP (fun wire => (listThread wire).isNone))).sum
  complete : listed.isComplete = pages.getLast?.any (fun last => last.nextPageToken.isNone)
  reasons : listed.degradationReasons = if listed.isComplete then [] else [.paginationLimit]

variable {adapter transport}

theorem PagesRead.cons {listing : Listing} {seenTokens : List String} {page : WireThreadsPage}
    {pages : List WireThreadsPage} {listed : GmailReadResult}
    (response : adapter.readThreadsPage transport (1 + listing.pageCount) = .ok page)
    (more : page.nextPageToken.isNone = false)
    (rest : PagesRead adapter transport {listing.add page with seenTokens := seenTokens} pages listed) :
    PagesRead adapter transport listing (page::pages) listed where
  responses := by
    intro position inside
    cases position with
    | zero => exact response
    | succ position =>
      have later := rest.responses position (Nat.lt_of_succ_lt_succ inside)
      rw [List.getElem_cons_succ,← later]
      dsimp only [Listing.add]
      congr 1
      omega
  pageCount := by
    rw [rest.pageCount,List.length_cons]
    dsimp only [Listing.add]
    omega
  threads := by rw [rest.threads,Listing.add,List.flatMap_cons,List.append_assoc]
  skipped := by rw [rest.skipped,Listing.add,List.map_cons,List.sum_cons,Nat.add_assoc]
  complete := by
    rw [rest.complete,List.getLast?_cons]
    cases pages.getLast? with
    | none => exact more.symm
    | some last => rfl
  reasons := rest.reasons

theorem PagesRead.last {listing : Listing} {page : WireThreadsPage}
    (response : adapter.readThreadsPage transport (1 + listing.pageCount) = .ok page)
    (last : page.nextPageToken.isNone = true) :
    PagesRead adapter transport listing [page] ((listing.add page).result adapter.now true []) where
  responses := by
    intro position inside
    obtain rfl : position = 0 := by simpa using inside
    exact response
  pageCount := rfl
  threads := by simp [Listing.result,Listing.add]
  skipped := by simp [Listing.result,Listing.add]
  complete := last.symm
  reasons := rfl

theorem PagesRead.stopped (listing : Listing) :
    PagesRead adapter transport listing [] (listing.result adapter.now false [.paginationLimit]) where
  responses := fun _ inside => absurd inside (Nat.not_lt_zero _)
  pageCount := rfl
  threads := by simp [Listing.result]
  skipped := rfl
  complete := rfl
  reasons := rfl

theorem listPages_pages (remaining : Nat) {listing : Listing} {listed : GmailReadResult}
    (returned : adapter.listPages transport remaining listing = .ok listed) :
    ∃ pages, pages.length ≤ remaining ∧ PagesRead adapter transport listing pages listed := by
  induction remaining generalizing listing with
  | zero =>
    obtain rfl := Except.ok.inj returned
    exact ⟨[],Nat.le_refl _,.stopped listing⟩
  | succ remaining ih =>
    unfold listPages at returned
    obtain ⟨body,got,returned⟩ := (Outcome.bind_ok_iff _ _ _).mp returned
    obtain ⟨page,parsed,returned⟩ := (Outcome.bind_ok_iff _ _ _).mp returned
    have response : adapter.readThreadsPage transport (1 + listing.pageCount) = .ok page := by
      rw [readThreadsPage,got]
      exact parsed
    cases following : page.nextPageToken with
    | none =>
      rw [following] at returned
      obtain rfl := Except.ok.inj returned
      exact ⟨[page],by simp,.last response (by rw [following]; rfl)⟩
    | some token =>
      rw [following] at returned
      dsimp only at returned
      split at returned
      · cases returned
      · obtain ⟨pages,short,rest⟩ := ih returned
        exact ⟨page::pages,Nat.succ_le_succ short,.cons response (by rw [following]; rfl) rest⟩

/-- Induction over the loop: `keeps` holds of the threads done and of what they came to, whichever
way each of them leaves the loop, and `ends` of what the loop returns. -/
theorem projectThreads_rule {profile : GmailProfile} {projected : List GmailThread} {before : Nat}
    {keeps : List GmailThread → Projection → Prop} {ends : Projection → Prop}
    (tooLarge : ∀ done thread rest projection, projected = done ++ thread::rest → keeps done projection →
      keeps (done ++ [thread]) (projection.requested.tooLarge thread.id))
    (added : ∀ done thread rest projection detail snapshot, projected = done ++ thread::rest → keeps done projection →
      adapter.readDetail transport (before + projection.detailRequestCount) = .ok (some detail) →
      projectThread adapter.library thread.id detail profile.historyId = .ok snapshot →
      keeps (done ++ [thread]) (projection.requested.add thread.id snapshot))
    (exhausted : ∀ done thread rest projection, projected = done ++ thread::rest → keeps done projection →
      ends (projection.requested.exhausted (projected.drop (projected.idxOf thread))))
    (finished : ∀ projection, keeps projected projection → ends projection)
    {done rest : List GmailThread} {projection final : Projection} (split : projected = done ++ rest)
    (kept : keeps done projection)
    (returned : adapter.projectThreads transport profile projected before rest projection = .ok final) :
    ends final := by
  induction rest generalizing done projection with
  | nil =>
    obtain rfl := Except.ok.inj returned
    rw [List.append_nil] at split
    subst split
    exact finished _ kept
  | cons thread rest ih =>
    have onward : projected = done ++ [thread] ++ rest := by rw [split,List.append_assoc]; rfl
    unfold projectThreads at returned
    cases answer : adapter.readDetail transport (before + projection.detailRequestCount) with
    | error failure =>
      rw [answer] at returned
      split at returned
      · obtain rfl := Except.ok.inj returned
        exact exhausted done thread rest projection split kept
      · cases returned
      · cases ‹Except.error _ = Except.ok none›
      · cases ‹Except.error _ = Except.ok (some _)›
    | ok detail =>
      rw [answer] at returned
      cases detail with
      | none => exact ih onward (tooLarge done thread rest projection split kept) returned
      | some detail =>
        dsimp only at returned
        cases projecting : projectThread adapter.library thread.id detail profile.historyId with
        | error error =>
          rw [projecting] at returned
          cases returned
        | ok snapshot =>
          rw [projecting] at returned
          exact ih onward (added done thread rest projection detail snapshot split kept answer projecting) returned

end GmailAdapter
end Proactive.Sources
