import Mathlib.Data.List.Basic
import Proactive.Sources.MimeWalk

/-! The loop over the parts of a message: it ends, and unless it flags a truncation its text is the
whole text of the first part that the preferences name. -/
namespace Proactive.Sources
open Proactive.Library Proactive.Store Proactive.Situations

inductive WalkEvent
  | skipped (part : WirePart) (depth : Nat)
  | decoded (part : WirePart) (depth : Nat)

def decodedParts : List WalkEvent → List WirePart
  | [] => []
  | .skipped _ _::events => decodedParts events
  | .decoded part _::events => part::decodedParts events

/-- The runs of the loop from its stack, the number of parts seen and the text and flags so far,
with the parts that it skips and decodes on the way. Each rule is a path through the body of the loop. -/
inductive Walk (library : TextLibrary) : List (WirePart × Nat) → Nat → BodyProjection → List WalkEvent →
    Except Raised BodyProjection → Prop
  | finished {seen : Nat} {body : BodyProjection} : Walk library [] seen body [] (.ok body)
  | skipped {current : WirePart} {depth seen : Nat} {stack : List (WirePart × Nat)} {body : BodyProjection}
    {events : List WalkEvent} {outcome : Except Raised BodyProjection}
    (beyond : maxMimeParts < seen + 1 ∨ maxMimeDepth < depth)
    (rest : Walk library stack (seen + 1) {body with structureTruncated := true} events outcome) :
    Walk library ((current,depth)::stack) seen body (.skipped current depth::events) outcome
  | raised {current : WirePart} {depth seen : Nat} {stack : List (WirePart × Nat)} {body : BodyProjection}
    {error : Raised} (within : ¬(maxMimeParts < seen + 1 ∨ maxMimeDepth < depth))
    (failed : decodeBody library current = .error error) :
    Walk library ((current,depth)::stack) seen body [.decoded current depth] (.error error)
  | chosen {current : WirePart} {depth seen : Nat} {stack : List (WirePart × Nat)} {body : BodyProjection}
    {text : String} {truncated : Bool} (within : ¬(maxMimeParts < seen + 1 ∨ maxMimeDepth < depth))
    (read : decodeBody library current = .ok (some text,truncated))
    (plain : library.casefold (current.mimeType.getD "") = "text/plain") :
    Walk library ((current,depth)::stack) seen body [.decoded current depth]
      (.ok ⟨some text,body.truncated || truncated,body.structureTruncated⟩)
  | continued {current : WirePart} {depth seen : Nat} {stack : List (WirePart × Nat)} {body : BodyProjection}
    {decoded : Option String} {truncated : Bool} {events : List WalkEvent}
    {outcome : Except Raised BodyProjection} (within : ¬(maxMimeParts < seen + 1 ∨ maxMimeDepth < depth))
    (read : decodeBody library current = .ok (decoded,truncated))
    (other : ¬(decoded.isSome ∧ library.casefold (current.mimeType.getD "") = "text/plain"))
    (rest : Walk library (current.parts.map (fun child => (child,depth + 1)) ++ stack) (seen + 1)
      (body.add library (library.casefold (current.mimeType.getD "")) decoded truncated) events outcome) :
    Walk library ((current,depth)::stack) seen body (.decoded current depth::events) outcome

mutual

/-- The part and all parts below it, each before its own. -/
def preorder : WirePart → List WirePart
  | .part mimeType headers body parts => .part mimeType headers body parts::preorders parts

def preorders : List WirePart → List WirePart
  | [] => []
  | part::rest => preorder part ++ preorders rest

end

theorem preorders_eq (parts : List WirePart) : preorders parts = parts.flatMap preorder := by
  induction parts with
  | nil => rfl
  | cons part rest ih => rw [preorders,ih,List.flatMap_cons]

theorem preorder_eq (part : WirePart) : preorder part = part::part.parts.flatMap preorder := by
  cases part with
  | part mimeType headers body parts => rw [preorder,preorders_eq]; rfl

/-- What the stack still stands for. -/
def remaining (stack : List (WirePart × Nat)) : List WirePart := stack.flatMap (fun entry => preorder entry.1)

theorem remaining_cons (current : WirePart) (depth : Nat) (stack : List (WirePart × Nat)) :
    remaining ((current,depth)::stack) =
      current::remaining (current.parts.map (fun child => (child,depth + 1)) ++ stack) := by
  unfold remaining
  rw [List.flatMap_cons,List.flatMap_append,List.flatMap_map,preorder_eq,List.cons_append]

/-- The loop ends on every stack: it takes a part off what the stack stands for in each round. -/
theorem walk_total (library : TextLibrary) (stack : List (WirePart × Nat)) (seen : Nat) (body : BodyProjection) :
    ∃ events outcome, Walk library stack seen body events outcome := by
  induction measured : (remaining stack).length using Nat.strongRecOn generalizing stack seen body with
  | ind size ih =>
    cases stack with
    | nil => exact ⟨[],.ok body,.finished⟩
    | cons entry stack =>
      obtain ⟨current,depth⟩ := entry
      have shorter := measured
      rw [remaining_cons,List.length_cons] at shorter
      by_cases beyond : maxMimeParts < seen + 1 ∨ maxMimeDepth < depth
      · have popped : (remaining stack).length < size := by
          unfold remaining at shorter ⊢
          rw [List.flatMap_append,List.length_append] at shorter
          omega
        obtain ⟨events,outcome,rest⟩ := ih _ popped stack (seen + 1) {body with structureTruncated := true} rfl
        exact ⟨_,_,.skipped beyond rest⟩
      · cases read : decodeBody library current with
        | error error => exact ⟨_,_,.raised beyond read⟩
        | ok found =>
          obtain ⟨decoded,truncated⟩ := found
          by_cases plain : decoded.isSome ∧ library.casefold (current.mimeType.getD "") = "text/plain"
          · obtain ⟨text,rfl⟩ := Option.isSome_iff_exists.mp plain.1
            exact ⟨_,_,.chosen beyond read plain.2⟩
          · have popped : (remaining (current.parts.map (fun child => (child,depth + 1)) ++ stack)).length < size := by
              omega
            obtain ⟨events,outcome,rest⟩ := ih _ popped _ (seen + 1)
              (body.add library (library.casefold (current.mimeType.getD "")) decoded truncated) rfl
            exact ⟨_,_,.continued beyond read plain rest⟩

theorem add_eq (body : BodyProjection) (library : TextLibrary) (mimeType : String) (decoded : Option String)
    (truncated : Bool) :
    (∃ html, decoded = some html ∧ mimeType = "text/html" ∧ body.text = none ∧
      body.add library mimeType decoded truncated = ⟨some (extractHtmlText library html maxBodyChars).1,
        body.truncated || truncated || (extractHtmlText library html maxBodyChars).2,body.structureTruncated⟩) ∨
    (¬(decoded.isSome ∧ mimeType = "text/html" ∧ body.text = none) ∧
      body.add library mimeType decoded truncated =
        ⟨body.text,body.truncated || truncated,body.structureTruncated⟩) := by
  cases decoded with
  | none => exact Or.inr ⟨fun found => absurd found.1 Bool.false_ne_true,rfl⟩
  | some html =>
    by_cases taken : mimeType = "text/html" ∧ body.text = none
    · exact Or.inl ⟨html,rfl,taken.1,taken.2,if_pos taken⟩
    · exact Or.inr ⟨fun found => taken found.2,if_neg taken⟩

section walk
variable {library : TextLibrary} {stack : List (WirePart × Nat)} {seen : Nat} {body : BodyProjection}
  {events : List WalkEvent} {outcome : Except Raised BodyProjection}

private theorem budget_left {depth : Nat} (within : ¬(maxMimeParts < seen + 1 ∨ maxMimeDepth < depth)) :
    maxMimeParts - seen = (maxMimeParts - (seen + 1)) + 1 ∧ ¬maxMimeDepth < depth := by
  constructor
  · omega
  · omega

/-- A run of the loop ends with the projection. -/
theorem Walk.projects (walk : Walk library stack seen body events outcome) :
    projectParts library (maxMimeParts - seen) stack body = outcome := by
  induction walk with
  | finished => rw [projectParts]
  | @skipped current depth seen stack body events outcome beyond rest ih =>
    by_cases exhausted : maxMimeParts ≤ seen
    · rw [Nat.sub_eq_zero_of_le (by omega)] at ih
      rw [Nat.sub_eq_zero_of_le exhausted,projectParts,← ih]
      cases stack <;> rw [projectParts]
    · have deep : maxMimeDepth < depth := by omega
      have budget : maxMimeParts - seen = (maxMimeParts - (seen + 1)) + 1 := by omega
      rw [budget,projectParts,if_pos deep]
      exact ih
  | @raised current depth seen stack body error within failed =>
    obtain ⟨budget,shallow⟩ := budget_left within
    rw [budget,projectParts,if_neg shallow,failed]
    rfl
  | @chosen current depth seen stack body text truncated within read plain =>
    obtain ⟨budget,shallow⟩ := budget_left within
    rw [budget,projectParts,if_neg shallow,read]
    exact if_pos ⟨rfl,plain⟩
  | @continued current depth seen stack body decoded truncated events outcome within read other rest ih =>
    obtain ⟨budget,shallow⟩ := budget_left within
    rw [budget,projectParts,if_neg shallow,read]
    exact (if_neg other).trans ih

theorem Walk.decodes_few (walk : Walk library stack seen body events outcome) :
    (decodedParts events).length ≤ maxMimeParts - seen := by
  induction walk with
  | finished => exact Nat.zero_le _
  | skipped beyond rest ih =>
    rw [decodedParts]
    omega
  | raised within failed =>
    change 1 ≤ _
    omega
  | chosen within read plain =>
    change 1 ≤ _
    omega
  | continued within read other rest ih =>
    rw [decodedParts,List.length_cons]
    omega

theorem Walk.decodes_shallow (walk : Walk library stack seen body events outcome) :
    ∀ part depth, .decoded part depth ∈ events → depth ≤ maxMimeDepth := by
  induction walk with
  | finished => exact fun _ _ none => absurd none List.not_mem_nil
  | skipped beyond rest ih =>
    intro part depth member
    rcases List.mem_cons.mp member with same | later
    · cases same
    · exact ih part depth later
  | raised within failed =>
    intro part depth member
    cases List.mem_singleton.mp member
    omega
  | chosen within read plain =>
    intro part depth member
    cases List.mem_singleton.mp member
    omega
  | continued within read other rest ih =>
    intro part depth member
    rcases List.mem_cons.mp member with same | later
    · cases same
      omega
    · exact ih part depth later

/-- No round takes a flag back, and a skipped part leaves its flag. -/
theorem Walk.structure_flag {result : BodyProjection} (walk : Walk library stack seen body events outcome)
    (returned : outcome = .ok result)
    (flagged : body.structureTruncated = true ∨ ∃ part depth, .skipped part depth ∈ events) :
    result.structureTruncated = true := by
  induction walk with
  | finished =>
    obtain rfl := Except.ok.inj returned
    rcases flagged with flagged | ⟨_,_,none⟩
    · exact flagged
    · exact absurd none List.not_mem_nil
  | skipped beyond rest ih => exact ih returned (Or.inl rfl)
  | raised within failed => cases returned
  | chosen within read plain =>
    obtain rfl := Except.ok.inj returned
    rcases flagged with flagged | ⟨_,_,member⟩
    · exact flagged
    · cases List.mem_singleton.mp member
  | @continued current depth seen stack body decoded truncated events outcome within read other rest ih =>
    refine ih returned ?_
    rcases flagged with flagged | ⟨part,depth,member⟩
    · refine Or.inl ?_
      rcases add_eq body library _ decoded truncated with ⟨html,_,_,_,same⟩ | ⟨_,same⟩ <;>
        exact (congrArg BodyProjection.structureTruncated same).trans flagged
    · rcases List.mem_cons.mp member with same | later
      · cases same
      · exact Or.inr ⟨part,depth,later⟩

theorem Walk.truncated_flag {result : BodyProjection} (walk : Walk library stack seen body events outcome)
    (returned : outcome = .ok result) (whole : result.truncated = false) : body.truncated = false := by
  induction walk with
  | finished =>
    obtain rfl := Except.ok.inj returned
    exact whole
  | skipped beyond rest ih => exact ih returned
  | raised within failed => cases returned
  | chosen within read plain =>
    obtain rfl := Except.ok.inj returned
    exact (Bool.or_eq_false_iff.mp whole).1
  | @continued current depth seen stack body decoded truncated events outcome within read other rest ih =>
    have later := ih returned
    rcases add_eq body library (library.casefold (current.mimeType.getD "")) decoded truncated with
      ⟨html,_,_,_,same⟩ | ⟨_,same⟩
    · rw [same,Bool.or_eq_false_iff,Bool.or_eq_false_iff] at later
      exact later.1.1
    · rw [same,Bool.or_eq_false_iff] at later
      exact later.1

end walk

/-- The part is of the type and its body decodes. -/
def Decodes (library : TextLibrary) (mimeType : String) (part : WirePart) : Prop :=
  library.casefold (part.mimeType.getD "") = mimeType ∧
    ∃ text truncated, decodeBody library part = .ok (some text,truncated)

def FirstDecodes (library : TextLibrary) (mimeType : String) (parts : List WirePart) (part : WirePart) : Prop :=
  ∃ front back, parts = front ++ part::back ∧ Decodes library mimeType part ∧
    ∀ earlier ∈ front, ¬Decodes library mimeType earlier

/-- The text is what all of the part's data decodes to. -/
def CompleteText (library : TextLibrary) (part : WirePart) (text : String) : Prop :=
  ∃ encoded, part.body.bind WireBody.data = some encoded ∧ library.b64decode (padded encoded) = some text

/-- The text of the first HTML part that decodes, if there is one. -/
def HtmlChoice (library : TextLibrary) (parts : List WirePart) : Option String → Prop
  | none => ∀ part ∈ parts, ¬Decodes library "text/html" part
  | some text => ∃ part html, FirstDecodes library "text/html" parts part ∧ CompleteText library part html ∧
      extractHtmlText library html maxBodyChars = (text,false)

/-- All of the first plain text that decodes, or else the text of the first HTML part that does. -/
def Chosen (library : TextLibrary) (parts : List WirePart) (text : Option String) : Prop :=
  (∃ part plain, FirstDecodes library "text/plain" parts part ∧ CompleteText library part plain ∧ text = some plain) ∨
  ((∀ part ∈ parts, ¬Decodes library "text/plain" part) ∧ HtmlChoice library parts text)

theorem sliceTo_length (size : Nat) (text : String) : (sliceTo size text).length = min size text.length := by
  rw [sliceTo,String.length_ofList,List.length_take,String.length_toList]

theorem sliceTo_whole {size : Nat} {text : String} (short : text.length ≤ size) : sliceTo size text = text := by
  rw [sliceTo,List.take_of_length_le (by rw [String.length_toList]; exact short),String.ofList_toList]

theorem decodeBody_complete {library : TextLibrary} {part : WirePart} {text : String}
    (read : decodeBody library part = .ok (some text,false)) : CompleteText library part text := by
  unfold decodeBody at read
  cases carried : part.body.bind WireBody.data with
  | none =>
    rw [carried] at read
    cases read
  | some encoded =>
    rw [carried] at read
    dsimp only at read
    split at read
    · split at read
      · cases read
      · rename_i decoded found
        obtain ⟨same,uncut⟩ := Prod.mk.inj (Except.ok.inj read)
        rw [Bool.or_eq_false_iff,decide_eq_false_iff_not,decide_eq_false_iff_not] at uncut
        have all : encoded.length ≤ maximumEncoded := by
          have length := sliceTo_length maximumEncoded encoded
          omega
        rw [sliceTo_whole all] at found
        rw [sliceTo_whole (Nat.le_of_not_lt uncut.2)] at same
        exact ⟨encoded,carried,by rw [found,same]⟩
    · cases read

theorem decodeBody_length {library : TextLibrary} {part : WirePart} {text : String} {truncated : Bool}
    (read : decodeBody library part = .ok (some text,truncated)) : text.length ≤ maxBodyChars := by
  unfold decodeBody at read
  split at read
  · cases read
  · dsimp only at read
    split at read
    · split at read
      · cases read
      · obtain ⟨same,_⟩ := Prod.mk.inj (Except.ok.inj read)
        rw [← Option.some.inj same,sliceTo_length]
        exact Nat.min_le_left _ _
    · cases read

theorem FirstDecodes.append {library : TextLibrary} {mimeType : String} {parts : List WirePart} {part : WirePart}
    (first : FirstDecodes library mimeType parts part) (more : List WirePart) :
    FirstDecodes library mimeType (parts ++ more) part := by
  obtain ⟨front,back,shape,decodes,none⟩ := first
  exact ⟨front,back ++ more,by rw [shape,List.append_assoc]; rfl,decodes,none⟩

theorem HtmlChoice.add {library : TextLibrary} {before : List WirePart} {current : WirePart} {body : BodyProjection}
    {decoded : Option String} {truncated : Bool} (html : HtmlChoice library before body.text)
    (read : decodeBody library current = .ok (decoded,truncated))
    (whole : (body.add library (library.casefold (current.mimeType.getD "")) decoded truncated).truncated = false) :
    HtmlChoice library (before ++ [current])
      (body.add library (library.casefold (current.mimeType.getD "")) decoded truncated).text := by
  rcases add_eq body library (library.casefold (current.mimeType.getD "")) decoded truncated with
    ⟨source,rfl,named,none,same⟩ | ⟨passed,same⟩
  · rw [same,Bool.or_eq_false_iff,Bool.or_eq_false_iff] at whole
    obtain ⟨⟨_,rfl⟩,uncut⟩ := whole
    rw [none] at html
    rw [same]
    refine ⟨current,source,⟨before,[],rfl,⟨named,source,false,read⟩,html⟩,decodeBody_complete read,?_⟩
    rw [← uncut]
  · rw [same]
    cases text : body.text with
    | some earlier =>
      rw [text] at html
      obtain ⟨part,source,first,complete,extracted⟩ := html
      exact ⟨part,source,first.append [current],complete,extracted⟩
    | none =>
      rw [text] at html passed
      intro part member
      rcases List.mem_append.mp member with earlier | now
      · exact html part earlier
      · obtain rfl := List.mem_singleton.mp now
        intro ⟨named,found,cut,again⟩
        obtain ⟨rfl,_⟩ := Prod.mk.inj (Except.ok.inj (read.symm.trans again))
        exact passed ⟨rfl,named,rfl⟩

section walk
variable {library : TextLibrary} {stack : List (WirePart × Nat)} {seen : Nat} {body : BodyProjection}
  {events : List WalkEvent} {outcome : Except Raised BodyProjection}

/-- Without a cut, the text is the choice among the parts that the loop decodes, after those decoded before. -/
theorem Walk.chooses {result : BodyProjection} (walk : Walk library stack seen body events outcome)
    (returned : outcome = .ok result) (whole : result.truncated = false) (before : List WirePart)
    (unsettled : ∀ part ∈ before, ¬Decodes library "text/plain" part) (html : HtmlChoice library before body.text) :
    Chosen library (before ++ decodedParts events) result.text := by
  induction walk generalizing before with
  | finished =>
    obtain rfl := Except.ok.inj returned
    rw [decodedParts,List.append_nil]
    exact Or.inr ⟨unsettled,html⟩
  | skipped beyond rest ih =>
    rw [decodedParts]
    exact ih returned before unsettled html
  | raised within failed => cases returned
  | @chosen current depth seen stack body text truncated within read plain =>
    obtain rfl := Except.ok.inj returned
    obtain ⟨_,rfl⟩ := Bool.or_eq_false_iff.mp whole
    exact Or.inl ⟨current,text,⟨before,[],rfl,⟨plain,text,false,read⟩,unsettled⟩,decodeBody_complete read,rfl⟩
  | @continued current depth seen stack body decoded truncated events outcome within read other rest ih =>
    have later := rest.truncated_flag returned whole
    rw [decodedParts,← List.singleton_append,← List.append_assoc]
    refine ih returned (before ++ [current]) ?_ ?_
    · intro part member
      rcases List.mem_append.mp member with earlier | now
      · exact unsettled part earlier
      · obtain rfl := List.mem_singleton.mp now
        intro ⟨plain,text,cut,again⟩
        obtain ⟨rfl,_⟩ := Prod.mk.inj (Except.ok.inj (read.symm.trans again))
        exact other ⟨rfl,plain⟩
    · exact html.add read later

/-- Without a skip, the loop decodes what the stack stands for, in its order, up to the part that settles it. -/
theorem Walk.in_order {result : BodyProjection} (walk : Walk library stack seen body events outcome)
    (returned : outcome = .ok result) (unskipped : ∀ part depth, .skipped part depth ∉ events) :
    ∃ rest, remaining stack = decodedParts events ++ rest ∧
      (rest = [] ∨ ∃ part ∈ decodedParts events, Decodes library "text/plain" part) := by
  induction walk with
  | finished => exact ⟨[],rfl,Or.inl rfl⟩
  | skipped beyond rest ih => exact absurd List.mem_cons_self (unskipped _ _)
  | raised within failed => cases returned
  | @chosen current depth seen stack body text truncated within read plain =>
    rw [remaining_cons]
    exact ⟨_,rfl,Or.inr ⟨current,List.mem_singleton.mpr rfl,plain,text,truncated,read⟩⟩
  | @continued current depth seen stack body decoded truncated events outcome within read other rest ih =>
    obtain ⟨tail,shape,ends⟩ := ih returned (fun part depth member => unskipped part depth (List.mem_cons_of_mem _ member))
    rw [remaining_cons,shape]
    refine ⟨tail,rfl,ends.imp_right ?_⟩
    rintro ⟨part,member,decodes⟩
    exact ⟨part,List.mem_cons_of_mem _ member,decodes⟩

theorem extractHtmlText_length (html : String) (maxChars : Nat) :
    (extractHtmlText library html maxChars).1.length ≤ maxChars := by
  unfold extractHtmlText
  rw [sliceTo_length]
  exact Nat.min_le_left _ _

theorem Walk.short {result : BodyProjection} (walk : Walk library stack seen body events outcome)
    (returned : outcome = .ok result) (start : ∀ text, body.text = some text → text.length ≤ maxBodyChars) :
    ∀ text, result.text = some text → text.length ≤ maxBodyChars := by
  induction walk with
  | finished =>
    obtain rfl := Except.ok.inj returned
    exact start
  | skipped beyond rest ih => exact ih returned start
  | raised within failed => cases returned
  | chosen within read plain =>
    obtain rfl := Except.ok.inj returned
    intro other same
    rw [← Option.some.inj same]
    exact decodeBody_length read
  | @continued current depth seen stack body decoded truncated events outcome within read other rest ih =>
    refine ih returned ?_
    rcases add_eq body library (library.casefold (current.mimeType.getD "")) decoded truncated with
      ⟨html,_,_,_,same⟩ | ⟨_,same⟩
    · rw [same]
      intro text taken
      rw [← Option.some.inj taken]
      exact extractHtmlText_length html maxBodyChars
    · rw [same]
      exact start

end walk

/-- What a returned projection says of the message, from the events of its run. -/
structure FaithfulBody (library : TextLibrary) (part : WirePart) (events : List WalkEvent) (body : BodyProjection) :
    Prop where
  short : ∀ text, body.text = some text → text.length ≤ maxBodyChars
  skips : (∃ part depth, .skipped part depth ∈ events) → body.structureTruncated = true
  cuts : body.truncated = false → Chosen library (decodedParts events) body.text
  whole : body.truncated = false → body.structureTruncated = false → Chosen library (preorder part) body.text

theorem Chosen.append {library : TextLibrary} {parts : List WirePart} {text : Option String}
    (chosen : Chosen library parts text) {more : List WirePart}
    (ends : more = [] ∨ ∃ part ∈ parts, Decodes library "text/plain" part) : Chosen library (parts ++ more) text := by
  rcases chosen with ⟨part,plain,first,complete,same⟩ | ⟨unsettled,html⟩
  · exact Or.inl ⟨part,plain,first.append more,complete,same⟩
  · rcases ends with rfl | ⟨part,member,decodes⟩
    · rw [List.append_nil]
      exact Or.inr ⟨unsettled,html⟩
    · exact absurd decodes (unsettled part member)

/-- The loop over the parts of any message ends within its limits, and the projection it returns is faithful. -/
theorem body_projection (library : TextLibrary) (part : WirePart) :
    ∃ events, Walk library [(part,0)] 0 .empty events (projectBody library (some part)) ∧
      (decodedParts events).length ≤ maxMimeParts ∧
      (∀ decoded depth, .decoded decoded depth ∈ events → depth ≤ maxMimeDepth) ∧
      ∀ body, projectBody library (some part) = .ok body → FaithfulBody library part events body := by
  obtain ⟨events,outcome,walk⟩ := walk_total library [(part,0)] 0 .empty
  have projected : projectBody library (some part) = outcome := walk.projects
  rw [projected]
  refine ⟨events,walk,walk.decodes_few,walk.decodes_shallow,fun body returned => ?_⟩
  have cuts : body.truncated = false → Chosen library (decodedParts events) body.text := fun whole =>
    walk.chooses returned whole [] (fun _ none => absurd none List.not_mem_nil)
      (fun _ none => absurd none List.not_mem_nil)
  refine ⟨walk.short returned (fun _ none => by cases none),
    fun skipped => walk.structure_flag returned (Or.inr skipped),cuts,fun whole complete => ?_⟩
  have unskipped : ∀ part depth, .skipped part depth ∉ events := by
    intro other depth member
    have flagged := walk.structure_flag returned (Or.inr ⟨other,depth,member⟩)
    rw [complete] at flagged
    cases flagged
  obtain ⟨rest,shape,ends⟩ := walk.in_order returned unskipped
  have order : preorder part = decodedParts events ++ rest := by
    rw [← shape,remaining,List.flatMap_singleton]
  rw [order]
  exact (cuts whole).append ends

end Proactive.Sources
