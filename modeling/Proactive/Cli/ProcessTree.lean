import Mathlib.Data.Finset.Dedup
import Mathlib.Data.List.Induction
import Mathlib.Logic.Function.Basic
import Proactive.Library.Walk

/-! The ancestor walk of the Task Scheduler scripts: whether a process descends from an engine of the task. -/
namespace Proactive.Cli
open Proactive.Library Walk Relation

structure Win32Process where
  processId : Int
  parentProcessId : Int
  executablePath : Option String
deriving DecidableEq, Repr

/-- `$parents`, which keeps the last process of an id. -/
def parentTable (processes : List Win32Process) : Int → Option Int :=
  processes.foldl (fun parents process => Function.update parents process.processId (some process.parentProcessId))
    (fun _ => none)

/-- One turn of the loop with `$cursor`: it is left, with or without a hit, or goes on with the parent. -/
def ancestorTurn (roots : List Int) (parents : Int → Option Int) (cursor : Int) : Bool ⊕ Int :=
  match parents cursor with
  | none => .inl false
  | some next =>
    if roots.contains cursor then .inl true
    else if next = cursor then .inl false
    else .inr next

/-- The walk from a candidate, after the scripts have left where the task has no engine. -/
def ancestorWalk (roots : List Int) (processes : List Win32Process) (fuel : Nat) (candidate : Int) : Option Bool :=
  if roots.isEmpty then some false else walk (ancestorTurn roots (parentTable processes)) fuel candidate

def expectedPidScript (roots : List Int) (processes : List Win32Process) (expectedPid : Int) (fuel : Nat) :
    Option (Option Int) :=
  (ancestorWalk roots processes fuel expectedPid).map (fun hit => if hit then some expectedPid else none)

def onlyMatch : List Int → Option Int
  | [pid] => some pid
  | _ => none

/-- `_MAIN_PID_SCRIPT`, where `expected` compares a process with the path of the task's definition. -/
def mainPidScript (expected : Win32Process → Bool) (roots : List Int) (processes : List Win32Process) (fuel : Nat) :
    Option (Option Int) :=
  let candidates := (processes.filter expected).map Win32Process.processId
  (candidates.mapM (ancestorWalk roots processes fuel)).map (fun hits =>
    onlyMatch (((candidates.zip hits).filter Prod.snd).map Prod.fst))

variable {roots : List Int} {parents : Int → Option Int} {processes : List Win32Process} {candidate cursor id : Int}

def DescendsFromEngine (roots : List Int) (parents : Int → Option Int) (candidate : Int) : Prop :=
  ∃ id, ReflTransGen (fun child parent => parents child = some parent) candidate id ∧ id ∈ roots

/-- The parent of a process that is no engine, where that is another process. -/
def Climbs (roots : List Int) (parents : Int → Option Int) (child parent : Int) : Prop :=
  parents child = some parent ∧ child ∉ roots ∧ parent ≠ child

/-- The ancestors below any engine come to a cycle of at least two processes. -/
def CircularAncestors (roots : List Int) (parents : Int → Option Int) (candidate : Int) : Prop :=
  roots ≠ [] ∧ ∃ id, ReflTransGen (Climbs roots parents) candidate id ∧ TransGen (Climbs roots parents) id id

def EngineUnlisted (roots : List Int) (parents : Int → Option Int) (candidate : Int) : Prop :=
  ∃ id, ReflTransGen (Climbs roots parents) candidate id ∧ id ∈ roots ∧ parents id = none

theorem moves_eq_climbs : Moves (ancestorTurn roots parents) = Climbs roots parents := by
  funext child parent
  unfold Moves ancestorTurn Climbs
  apply propext
  cases parents child with
  | none => exact iff_of_false (fun moved => nomatch moved) (fun climbs => nomatch climbs.1)
  | some next =>
    dsimp only
    rw [Option.some.injEq]
    split
    · rename_i engine
      exact iff_of_false (fun moved => nomatch moved) (fun climbs => climbs.2.1 (List.contains_iff_mem.mp engine))
    · rename_i other
      rw [List.contains_iff_mem] at other
      split
      · rename_i self
        refine iff_of_false (fun moved => nomatch moved) ?_
        rintro ⟨rfl,_,apart⟩
        exact apart self
      · rename_i apart
        rw [Sum.inr.injEq]
        constructor
        · rintro rfl
          exact ⟨rfl,other,apart⟩
        · exact fun climbs => climbs.1

theorem parentTable_listed {parent : Int} (listed : parentTable processes id = some parent) :
    id ∈ processes.map Win32Process.processId := by
  induction processes using List.reverseRecOn with
  | nil => cases listed
  | append_singleton earlier process ih =>
    rw [List.map_append,List.mem_append]
    unfold parentTable at listed ih
    rw [List.foldl_append] at listed
    by_cases same : id = process.processId
    · exact Or.inr (List.mem_singleton.mpr same)
    · exact Or.inl (ih ((Function.update_of_ne same _ _).symm.trans listed))

/-- An engine that the candidate climbs to ends the walk, with a hit where the table lists it. -/
theorem engine_ends (path : ReflTransGen (Climbs roots parents) candidate id) (engine : id ∈ roots) :
    EndsAt (ancestorTurn roots parents) candidate id (parents id).isSome := by
  refine ⟨moves_eq_climbs ▸ path,?_⟩
  unfold ancestorTurn
  cases parents id with
  | none => rfl
  | some next => exact if_pos (List.contains_iff_mem.mpr engine)

theorem hit_engine (turned : ancestorTurn roots parents cursor = .inl true) : cursor ∈ roots := by
  unfold ancestorTurn at turned
  split at turned
  · cases turned
  · split at turned
    · rename_i engine
      exact List.contains_iff_mem.mp engine
    · split at turned
      · cases turned
      · cases turned

theorem first_engine (descends : DescendsFromEngine roots parents candidate) :
    ∃ id, ReflTransGen (Climbs roots parents) candidate id ∧ id ∈ roots := by
  obtain ⟨engine,path,member⟩ := descends
  induction path using ReflTransGen.head_induction_on with
  | refl => exact ⟨engine,.refl,member⟩
  | @head child parent step _ ih =>
    by_cases here : child ∈ roots
    · exact ⟨child,.refl,here⟩
    · obtain ⟨id,path,found⟩ := ih
      by_cases self : parent = child
      · exact ⟨id,self ▸ path,found⟩
      · exact ⟨id,.head ⟨step,here,self⟩ path,found⟩

theorem climbs_descends (path : ReflTransGen (Climbs roots parents) candidate id) (engine : id ∈ roots) :
    DescendsFromEngine roots parents candidate :=
  ⟨id,ReflTransGen.mono (fun _ _ climbs => climbs.1) _ _ path,engine⟩

theorem hit_iff {hit : Bool} (ends : EndsAt (ancestorTurn roots parents) candidate cursor hit) :
    (hit = true ↔ DescendsFromEngine roots parents candidate) ↔ ¬EngineUnlisted roots parents candidate := by
  constructor
  · rintro right ⟨id,path,engine,unlisted⟩
    have missed := ends.result_unique (engine_ends path engine)
    rw [unlisted] at missed
    cases missed.symm.trans (right.mpr (climbs_descends path engine))
  · intro listed
    constructor
    · rintro rfl
      exact climbs_descends (moves_eq_climbs ▸ ends.1) (hit_engine ends.2)
    · intro descends
      obtain ⟨id,path,engine⟩ := first_engine descends
      rw [ends.result_unique (engine_ends path engine),Option.isSome_iff_ne_none]
      exact fun unlisted => listed ⟨id,path,engine,unlisted⟩

theorem ancestorWalk_more {fuel more : Nat} {hit : Bool} (order : fuel ≤ more)
    (ran : ancestorWalk roots processes fuel candidate = some hit) :
    ancestorWalk roots processes more candidate = some hit := by
  unfold ancestorWalk at ran ⊢
  split
  · rename_i empty
    rwa [if_pos empty] at ran
  · rename_i some_
    rw [if_neg some_] at ran
    exact walk_more order ran

theorem ancestorWalk_hit {fuel : Nat} (ran : ancestorWalk roots processes fuel candidate = some true) :
    DescendsFromEngine roots (parentTable processes) candidate := by
  unfold ancestorWalk at ran
  split at ran
  · cases ran
  · obtain ⟨cursor,path,turned⟩ := walk_ends ran
    exact climbs_descends (moves_eq_climbs ▸ path) (hit_engine turned)

theorem expectedPidScript_written {fuel : Nat} {expectedPid pid : Int}
    (wrote : expectedPidScript roots processes expectedPid fuel = some (some pid)) :
    pid = expectedPid ∧ DescendsFromEngine roots (parentTable processes) pid := by
  obtain ⟨hit,ran,same⟩ := Option.map_eq_some_iff.mp wrote
  cases hit with
  | false => cases same
  | true =>
    obtain rfl := Option.some.inj same
    exact ⟨rfl,ancestorWalk_hit ran⟩

theorem walks_end {candidates : List Int}
    (each : ∀ candidate ∈ candidates, ∃ fuel hit, ancestorWalk roots processes fuel candidate = some hit) :
    ∃ fuel, ∀ more, fuel ≤ more → ∃ hits, candidates.mapM (ancestorWalk roots processes more) = some hits := by
  induction candidates with
  | nil => exact ⟨0,fun _ _ => ⟨[],rfl⟩⟩
  | cons candidate rest ih =>
    obtain ⟨first,hit,ran⟩ := each candidate List.mem_cons_self
    obtain ⟨fuel,later⟩ := ih (fun other member => each other (List.mem_cons_of_mem _ member))
    refine ⟨max first fuel,fun more enough => ?_⟩
    obtain ⟨hits,rans⟩ := later more (Nat.le_trans (Nat.le_max_right first fuel) enough)
    refine ⟨hit::hits,?_⟩
    rw [List.mapM_cons,ancestorWalk_more (Nat.le_trans (Nat.le_max_left first fuel) enough) ran,rans]
    rfl

theorem walks_ended {fuel : Nat} {candidates : List Int} {hits : List Bool}
    (ran : candidates.mapM (ancestorWalk roots processes fuel) = some hits) :
    List.Forall₂ (fun candidate hit => ancestorWalk roots processes fuel candidate = some hit) candidates hits := by
  induction candidates generalizing hits with
  | nil =>
    obtain rfl := Option.some.inj ran
    exact .nil
  | cons candidate rest ih =>
    rw [List.mapM_cons] at ran
    obtain ⟨hit,head,ran⟩ := Option.bind_eq_some_iff.mp ran
    obtain ⟨others,tail,same⟩ := Option.bind_eq_some_iff.mp ran
    obtain rfl := Option.some.inj same
    exact .cons head (ih tail)

theorem mainPidScript_ends_iff (expected : Win32Process → Bool) (roots : List Int) (processes : List Win32Process) :
    (∃ fuel written, mainPidScript expected roots processes fuel = some written) ↔
      ∀ candidate ∈ (processes.filter expected).map Win32Process.processId,
        ∃ fuel hit, ancestorWalk roots processes fuel candidate = some hit := by
  constructor
  · rintro ⟨fuel,written,ran⟩ candidate member
    obtain ⟨hits,walked,_⟩ := Option.map_eq_some_iff.mp ran
    obtain ⟨index,within,rfl⟩ := List.mem_iff_getElem.mp member
    have each := List.forall₂_iff_get.mp (walks_ended walked)
    exact ⟨fuel,_,each.2 index within (each.1 ▸ within)⟩
  · intro each
    obtain ⟨fuel,later⟩ := walks_end each
    obtain ⟨hits,walked⟩ := later fuel (Nat.le_refl fuel)
    exact ⟨fuel,_,Option.map_eq_some_iff.mpr ⟨hits,walked,rfl⟩⟩

theorem mainPidScript_written {expected : Win32Process → Bool} {fuel : Nat} {pid : Int}
    (wrote : mainPidScript expected roots processes fuel = some (some pid)) :
    (∃ process ∈ processes, expected process = true ∧ process.processId = pid) ∧
      DescendsFromEngine roots (parentTable processes) pid := by
  obtain ⟨hits,walked,only⟩ := Option.map_eq_some_iff.mp wrote
  have matched : pid ∈ ((((processes.filter expected).map Win32Process.processId).zip hits).filter Prod.snd).map Prod.fst := by
    unfold onlyMatch at only
    split at only
    · rename_i found
      rw [found,Option.some.inj only]
      exact List.mem_singleton_self _
    · cases only
  obtain ⟨⟨_,hit⟩,kept,rfl⟩ := List.mem_map.mp matched
  obtain ⟨paired,rfl⟩ := List.mem_filter.mp kept
  have ran := (List.forall₂_iff_zip.mp (walks_ended walked)).2 paired
  obtain ⟨process,selected,rfl⟩ := List.mem_map.mp (List.of_mem_zip paired).1
  obtain ⟨member,fits⟩ := List.mem_filter.mp selected
  exact ⟨⟨process,member,fits,rfl⟩,ancestorWalk_hit ran⟩

/-- The walk ends and reports rightly, but for circular ancestors and for an engine that has left the table. -/
theorem ancestorWalk_right_iff (roots : List Int) (processes : List Win32Process) (candidate : Int) :
    (∃ fuel hit, ancestorWalk roots processes fuel candidate = some hit ∧
      (hit = true ↔ DescendsFromEngine roots (parentTable processes) candidate)) ↔
      ¬CircularAncestors roots (parentTable processes) candidate ∧
        ¬EngineUnlisted roots (parentTable processes) candidate := by
  cases roots with
  | nil =>
    refine iff_of_true ⟨0,false,rfl,iff_of_false Bool.false_ne_true ?_⟩ ⟨fun circular => circular.1 rfl,?_⟩
    · rintro ⟨_,_,engine⟩
      cases engine
    · rintro ⟨_,_,engine,_⟩
      cases engine
  | cons root others =>
    have walks (fuel : Nat) : ancestorWalk (root::others) processes fuel candidate =
        walk (ancestorTurn (root::others) (parentTable processes)) fuel candidate := rfl
    have circular : CircularAncestors (root::others) (parentTable processes) candidate ↔
        Circles (ancestorTurn (root::others) (parentTable processes)) candidate := by
      unfold CircularAncestors Circles
      rw [moves_eq_climbs]
      exact and_iff_right (List.cons_ne_nil _ _)
    simp only [walks]
    rw [circular]
    have moving (cursor next : Int) (_ : ReflTransGen (Moves (ancestorTurn (root::others) (parentTable processes))) candidate cursor)
        (moved : Moves (ancestorTurn (root::others) (parentTable processes)) cursor next) :
        cursor ∈ (processes.map Win32Process.processId).toFinset := by
      rw [moves_eq_climbs] at moved
      exact List.mem_toFinset.mpr (parentTable_listed moved.1)
    rcases ends_or_circles _ moving with ⟨cursor,hit,ends⟩ | circles
    · obtain ⟨fuel,ran⟩ := ends.walk
      refine Iff.trans ?_ (and_iff_right (fun circles => circles.endless ends)).symm
      rw [← hit_iff ends]
      constructor
      · rintro ⟨_,other,ran',right⟩
        obtain ⟨_,ends'⟩ := walk_ends ran'
        exact ends'.result_unique ends ▸ right
      · exact fun right => ⟨fuel,hit,ran,right⟩
    · refine iff_of_false ?_ (fun fine => fine.1 circles)
      rintro ⟨fuel,hit,ran,_⟩
      obtain ⟨_,ends⟩ := walk_ends ran
      exact circles.endless ends

/-- Two processes, each named as the parent of the other, and an engine elsewhere. -/
theorem ancestorWalk_endless : ¬∃ fuel hit, ancestorWalk [5] [⟨1,2,none⟩,⟨2,1,none⟩,⟨5,0,none⟩] fuel 1 = some hit ∧
    (hit = true ↔ DescendsFromEngine [5] (parentTable [⟨1,2,none⟩,⟨2,1,none⟩,⟨5,0,none⟩]) 1) := by
  rintro ⟨fuel,hit,ran,_⟩
  obtain ⟨_,ends⟩ := walk_ends ran
  have circle : TransGen (Moves (ancestorTurn [5] (parentTable [⟨1,2,none⟩,⟨2,1,none⟩,⟨5,0,none⟩]))) 1 1 :=
    .head rfl (.single rfl)
  exact Circles.endless ⟨1,.refl,circle⟩ ends

end Proactive.Cli
