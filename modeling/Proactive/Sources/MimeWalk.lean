import Proactive.Library.Outcome
import Proactive.Sources.GmailProjection

/-! The order in which a projection looks into the parts of a message, and the
messages whose projection raises. -/
namespace Proactive.Sources
open Proactive.Library Proactive.Store Proactive.Situations

/-- A part and the parts below it, each before its own, down to `levels` levels. -/
def outline : Nat → WirePart × Nat → List (WirePart × Nat)
  | 0,entry => [entry]
  | levels + 1,(part,depth) =>
    (part,depth)::part.parts.flatMap (fun child => outline levels (child,depth + 1))

/-- What the stack grows an entry into: nothing below the parts that are too deep. -/
def expand (entry : WirePart × Nat) : List (WirePart × Nat) := outline (maxMimeDepth + 1 - entry.2) entry

theorem expand_shallow {part : WirePart} {depth : Nat} (shallow : depth ≤ maxMimeDepth) :
    expand (part,depth) =
      (part,depth)::(part.parts.map (fun child => (child,depth + 1))).flatMap expand := by
  have levels : maxMimeDepth + 1 - depth = (maxMimeDepth + 1 - (depth + 1)) + 1 := by omega
  unfold expand
  rw [levels,outline,List.flatMap_map]

theorem expand_deep {part : WirePart} {depth : Nat} (deep : maxMimeDepth < depth) :
    expand (part,depth) = [(part,depth)] := by
  have levels : maxMimeDepth + 1 - depth = 0 := by omega
  unfold expand
  rw [levels,outline]

/-- The part's text, as far as it is decoded, is in the alphabet's character set. -/
def Decodable (part : WirePart) : Prop :=
  ∀ encoded, part.body.bind WireBody.data = some encoded → isAscii (sliceTo maximumEncoded encoded) = true

theorem isAscii_padded (bounded : String) : isAscii (padded bounded) = isAscii bounded := by
  unfold isAscii padded
  rw [String.toList_append,List.all_append,String.toList_ofList,List.all_replicate]
  simp

theorem decodeBody_ok_iff (library : TextLibrary) (part : WirePart) :
    (∃ decoded, decodeBody library part = .ok decoded) ↔ Decodable part := by
  unfold decodeBody Decodable
  cases part.body.bind WireBody.data with
  | none => exact ⟨fun _ _ found => (nomatch found),fun _ => ⟨_,rfl⟩⟩
  | some encoded =>
    dsimp only
    rw [isAscii_padded]
    by_cases ascii : isAscii (sliceTo maximumEncoded encoded) = true
    · rw [if_pos ascii]
      refine ⟨fun _ other same => Option.some.inj same ▸ ascii,fun _ => ?_⟩
      cases library.b64decode (padded (sliceTo maximumEncoded encoded)) <;> exact ⟨_,rfl⟩
    · rw [if_neg ascii]
      exact ⟨fun ⟨_,failed⟩ => (nomatch failed),fun fine => absurd (fine encoded rfl) ascii⟩

/-- The walk ends at the part: it is plain text that decodes. -/
def Settles (library : TextLibrary) (entry : WirePart × Nat) : Prop :=
  entry.2 ≤ maxMimeDepth ∧ library.casefold (entry.1.mimeType.getD "") = "text/plain" ∧
    ∃ text truncated, decodeBody library entry.1 = .ok (some text,truncated)

def WalkDecodable (library : TextLibrary) (entries : List (WirePart × Nat)) : Prop :=
  ∀ front entry back, entries = front ++ entry::back → (∀ earlier ∈ front, ¬Settles library earlier) →
    entry.2 ≤ maxMimeDepth → Decodable entry.1

theorem walkDecodable_cons (library : TextLibrary) (entry : WirePart × Nat)
    (rest : List (WirePart × Nat)) :
    WalkDecodable library (entry::rest) ↔ (entry.2 ≤ maxMimeDepth → Decodable entry.1) ∧
      (¬Settles library entry → WalkDecodable library rest) := by
  constructor
  · intro walk
    refine ⟨walk [] entry rest rfl (by simp),fun unsettled front next back shape silent => ?_⟩
    refine walk (entry::front) next back (by rw [shape]; rfl) ?_
    exact List.forall_mem_cons.mpr ⟨unsettled,silent⟩
  · intro ⟨head,tail⟩ front next back shape silent
    cases front with
    | nil =>
      obtain ⟨same,_⟩ := List.cons.inj shape
      exact same ▸ head
    | cons first front =>
      obtain ⟨same,later⟩ := List.cons.inj shape
      obtain ⟨unsettled,silent⟩ := List.forall_mem_cons.mp silent
      exact tail (same ▸ unsettled) front next back later silent

/-- The walk raises only at a part that it decodes: it meets the entries in
preorder, as many as its budget allows. -/
theorem projectParts_ok_iff (library : TextLibrary) (budget : Nat) (stack : List (WirePart × Nat))
    (body : BodyProjection) :
    (∃ projected, projectParts library budget stack body = .ok projected) ↔
      WalkDecodable library ((stack.flatMap expand).take budget) := by
  induction budget generalizing stack body with
  | zero =>
    have nothing : WalkDecodable library [] := by
      intro front entry back shape
      cases front <;> cases shape
    rw [List.take_zero]
    cases stack <;> exact ⟨fun _ => nothing,fun _ => ⟨_,rfl⟩⟩
  | succ budget ih =>
    cases stack with
    | nil =>
      refine ⟨fun _ front entry back shape => ?_,fun _ => ⟨_,rfl⟩⟩
      cases front <;> cases shape
    | cons first stack =>
      obtain ⟨current,depth⟩ := first
      unfold projectParts
      rw [List.flatMap_cons]
      by_cases deep : maxMimeDepth < depth
      · have unsettled : ¬Settles library (current,depth) := fun settled => by
          have shallow := settled.1
          dsimp only at shallow
          omega
        have skipped : depth ≤ maxMimeDepth → Decodable current := by omega
        rw [if_pos deep,ih,expand_deep deep,List.singleton_append,List.take_succ_cons,
          walkDecodable_cons]
        exact ⟨fun walk => ⟨skipped,fun _ => walk⟩,fun walk => walk.2 unsettled⟩
      · have shallow : depth ≤ maxMimeDepth := by omega
        have decodes := decodeBody_ok_iff library current
        rw [if_neg deep,expand_shallow shallow,List.cons_append,← List.flatMap_append,
          List.take_succ_cons,walkDecodable_cons]
        cases ran : decodeBody library current with
        | error error =>
          rw [ran] at decodes
          refine ⟨fun ⟨_,failed⟩ => (nomatch failed),fun walk => ?_⟩
          obtain ⟨_,impossible⟩ := decodes.mpr (walk.1 shallow)
          cases impossible
        | ok found =>
          obtain ⟨decoded,truncated⟩ := found
          have fine : depth ≤ maxMimeDepth → Decodable current := fun _ => decodes.mp ⟨_,ran⟩
          rw [and_iff_right fine]
          change (∃ projected, (if decoded.isSome = true ∧
            library.casefold (current.mimeType.getD "") = "text/plain" then _ else _) = _) ↔ _
          by_cases plain : decoded.isSome = true ∧
              library.casefold (current.mimeType.getD "") = "text/plain"
          · obtain ⟨text,rfl⟩ := Option.isSome_iff_exists.mp plain.1
            rw [if_pos plain]
            exact ⟨fun _ unsettled => absurd ⟨shallow,plain.2,text,truncated,ran⟩ unsettled,
              fun _ => ⟨_,rfl⟩⟩
          · have unsettled : ¬Settles library (current,depth) := by
              intro ⟨_,named,text,_,other⟩
              obtain ⟨rfl,_⟩ := Prod.mk.inj (Except.ok.inj (ran.symm.trans other))
              exact plain ⟨rfl,named⟩
            rw [if_neg plain,forall_prop_of_true unsettled]
            exact ih _ _

def ThreadDecodable (library : TextLibrary) (wire : WireThreadDetail) : Prop :=
  ∀ latest, latestCandidate (candidates library wire) = some latest →
    ∀ part, latest.message.payload = some part →
      WalkDecodable library ((expand (part,0)).take maxMimeParts)

theorem projectBody_ok_iff (library : TextLibrary) (payload : Option WirePart) :
    (∃ body, projectBody library payload = .ok body) ↔
      ∀ part, payload = some part → WalkDecodable library ((expand (part,0)).take maxMimeParts) := by
  cases payload with
  | none => exact ⟨fun _ _ found => (nomatch found),fun _ => ⟨_,rfl⟩⟩
  | some part =>
    have walked := projectParts_ok_iff library maxMimeParts [(part,0)] .empty
    rw [List.flatMap_singleton] at walked
    refine walked.trans ⟨fun walk other same => ?_,fun walk => walk part rfl⟩
    rwa [← Option.some.inj same]

theorem projectThread_ok_iff (library : TextLibrary) (threadId : String) (wire : WireThreadDetail)
    (profileHistoryCursor : String) :
    (∃ snapshot, projectThread library threadId wire profileHistoryCursor = .ok snapshot) ↔
      ThreadDecodable library wire := by
  unfold projectThread ThreadDecodable
  cases latestCandidate (candidates library wire) with
  | none => exact ⟨fun _ _ found => (nomatch found),fun _ => ⟨_,rfl⟩⟩
  | some latest =>
    have only : (∀ other, some latest = some other → ∀ part, other.message.payload = some part →
        WalkDecodable library ((expand (part,0)).take maxMimeParts)) ↔
          ∃ body, projectBody library latest.message.payload = .ok body := by
      rw [projectBody_ok_iff]
      exact ⟨fun all => all latest rfl,fun one other same => Option.some.inj same ▸ one⟩
    rw [only]
    dsimp only
    simp only [Outcome.map_ok_iff]
    constructor
    · rintro ⟨_,snapshot,ran,_⟩
      obtain ⟨body,read,_⟩ := (Outcome.bind_ok_iff _ _ _).mp ran
      exact ⟨body,read⟩
    · rintro ⟨body,read⟩
      exact ⟨_,_,(Outcome.bind_ok_iff _ _ _).mpr ⟨body,read,rfl⟩,rfl⟩

end Proactive.Sources
