import Proactive.Library.Keyset
import Proactive.Server.Responses
import Proactive.Store.MemoryIdentity
import Proactive.Store.MemoryQueries

/-! The listing tools: pages of entities and of situations, and the cursor that each page hands on. -/
namespace Proactive.Server
open Proactive.Library Proactive.Store Keyset

/-- `items[-1].id if len(items) == limit and items else None`. -/
def nextAfterId {ρ : Type} (id : ρ → Nat) (limit : Int) (items : List ρ) : Option Nat :=
  if (items.length : Int) = limit then items.getLast?.map id else none

structure ListEntitiesResponse where
  items : List Entity
  nextAfterId : Option Nat
deriving DecidableEq, Repr

def listEntities (normalizers : MemoryNormalizers) (entities : List Entity) (kind : Option EntityKind)
    (pathPrefix : Option String) (afterId limit : Int) : Except MemoryError ListEntitiesResponse := do
  let page ← Store.listEntities normalizers entities kind pathPrefix afterId limit
  return ⟨page,nextAfterId Entity.id limit page⟩

structure SituationValidationError where
  field : String
  reason : String
deriving DecidableEq, Repr

def maxSituationPageSize : Nat := 100

/-- `SELECT_SITUATIONS`. -/
def selectSituations (state : Option SituationState) (afterId limit : Nat) (situations : List Situation) : List Situation :=
  ((situations.filter (fun row => state.all (fun wanted => row.state == wanted) && decide (afterId < row.id))).insertionSort
    (fun first second => first.id ≤ second.id)).take limit

def storedSituations (situations : List Situation) (state : Option SituationState) (afterId limit : Int) :
    Except SituationValidationError (List Situation) :=
  if afterId < 0 ∨ ¬ (1 ≤ limit ∧ limit ≤ maxSituationPageSize) then
    .error ⟨"pagination","after_id must be nonnegative and limit must be 1..100"⟩
  else .ok (selectSituations state afterId.toNat limit.toNat situations)

structure ListSituationsResponse where
  items : List SituationResponse
  nextAfterId : Option Nat
deriving DecidableEq, Repr

/-- Each item is shown with the end of its lease. -/
def listSituations (leases : Nat → Option Int) (situations : List Situation) (state : Option SituationState)
    (afterId limit : Int) : Except SituationValidationError ListSituationsResponse := do
  let page ← storedSituations situations state afterId limit
  return ⟨page.map (fun item => situationResponse item (leases item.id)),nextAfterId Situation.id limit page⟩

/-- The pages of a client that keeps its filter and its limit. -/
def entityPages (normalizers : MemoryNormalizers) (entities : List Entity) (kind : Option EntityKind)
    (pathPrefix : Option String) (limit : Nat) (afterId : Nat) : Except MemoryError (List Entity × Option Nat) :=
  (listEntities normalizers entities kind pathPrefix afterId limit).map (fun page => (page.items,page.nextAfterId))

def situationPages (leases : Nat → Option Int) (situations : List Situation) (state : Option SituationState)
    (limit : Nat) (afterId : Nat) : Except SituationValidationError (List SituationResponse × Option Nat) :=
  (listSituations leases situations state afterId limit).map (fun page => (page.items,page.nextAfterId))

theorem nextAfterId_next {ρ : Type} (id : ρ → Nat) (limit : Nat) (items : List ρ) :
    nextAfterId id limit items = next id limit items := by
  unfold nextAfterId next
  simp only [Int.natCast_inj]

theorem entityPages_ok {normalizers : MemoryNormalizers} {pathPrefix : Option String} {filter : PrefixFilter}
    {limit : Nat} (accepted : prefixFilter normalizers pathPrefix = .ok filter) (low : 1 ≤ limit) (high : limit ≤ 100)
    (entities : List Entity) (kind : Option EntityKind) (afterId : Nat) :
    entityPages normalizers entities kind pathPrefix limit afterId =
      .ok (listActiveEntities kind filter afterId limit entities,
        next Entity.id limit (listActiveEntities kind filter afterId limit entities)) := by
  have checked : checkPage afterId limit = .ok () := by
    unfold checkPage
    rw [if_neg (by omega),if_pos ⟨by omega,by exact_mod_cast high⟩]
  have listed : Store.listEntities normalizers entities kind pathPrefix afterId limit =
      .ok (listActiveEntities kind filter afterId limit entities) := by
    unfold Store.listEntities
    rw [checked,accepted]
    rfl
  unfold entityPages listEntities
  rw [listed,← nextAfterId_next]
  rfl

theorem storedSituations_ok {limit : Nat} (low : 1 ≤ limit) (high : limit ≤ 100) (situations : List Situation)
    (state : Option SituationState) (afterId : Nat) :
    storedSituations situations state afterId limit = .ok (selectSituations state afterId limit situations) := by
  unfold storedSituations
  rw [if_neg]
  · rfl
  · rw [not_or,not_not]
    exact ⟨by omega,by omega,by exact_mod_cast high⟩

/-- The pages before their rows are shown. -/
def rowPages (situations : List Situation) (state : Option SituationState) (limit : Nat) (afterId : Nat) :
    Except SituationValidationError (List Situation × Option Nat) :=
  (storedSituations situations state afterId limit).map (fun page => (page,next Situation.id limit page))

theorem situationPages_rows (leases : Nat → Option Int) (situations : List Situation) (state : Option SituationState)
    (limit : Nat) (afterId : Nat) :
    situationPages leases situations state limit afterId = (rowPages situations state limit afterId).map
      (fun page => (page.1.map (fun item => situationResponse item (leases item.id)),page.2)) := by
  unfold situationPages listSituations rowPages
  cases storedSituations situations state afterId limit with
  | error refusal => rfl
  | ok page =>
    change Except.ok (_,nextAfterId Situation.id limit page) = _
    rw [nextAfterId_next]
    rfl

section Cursors
variable {kind : Option EntityKind} {filter : PrefixFilter} {limit : Nat}

theorem entity_keys (entities : Keyed Entity.id) : (entities.rows.map Entity.key).Nodup := by
  have ids := entities.distinct
  rw [List.Nodup,List.pairwise_map] at ids ⊢
  apply ids.imp
  intro first second apart same
  exact apart (congrArg (fun key : EntityKey => (ofLex (ofLex (ofLex key).2).2).2) same)

theorem listActiveEntities_first (entities : List Entity) :
    listActiveEntities kind filter 0 limit entities =
      (sorted Entity.key (entities.filter (Entity.selected kind filter))).take limit := by
  unfold listActiveEntities sorted
  congr 2
  apply List.filter_congr
  intro entity _
  rw [Entity.pastCursor,beq_self_eq_true,Bool.true_or,Bool.and_true]

/-- Behind the id of a listed row stands what the listing has behind the row. -/
theorem listActiveEntities_later (entities : Keyed Entity.id) {front back : List Entity} {row : Entity}
    (listing : sorted Entity.key (entities.rows.filter (Entity.selected kind filter)) = front ++ row::back) :
    listActiveEntities kind filter row.id limit entities.rows = back.take limit := by
  have listed : row ∈ sorted Entity.key (entities.rows.filter (Entity.selected kind filter)) := by
    rw [listing]
    exact List.mem_append_right _ List.mem_cons_self
  have member := List.mem_of_mem_filter ((sorted_perm Entity.key _).mem_iff.mp listed)
  have cursor := Table.find?_key entities.distinct member rfl
  have past (entity : Entity) : entity.pastCursor entities.rows row.id = decide (row.key < entity.key) := by
    rw [Entity.pastCursor,cursor,beq_false_of_ne (entities.positive row member).ne',Bool.false_or,Option.any_some]
  unfold listActiveEntities
  simp only [past]
  exact congrArg (List.take limit) (sorted_after (entity_keys entities) listing)

theorem selectSituations_first {state : Option SituationState} (situations : Keyed Situation.id) :
    selectSituations state 0 limit situations.rows =
      (sorted Situation.id (situations.rows.filter
        (fun row => state.all (fun wanted => row.state == wanted)))).take limit := by
  unfold selectSituations sorted
  congr 2
  apply List.filter_congr
  intro row member
  rw [decide_eq_true (situations.positive row member),Bool.and_true]

end Cursors

/-- Following the cursors from 0 shows every matching row once, in the order of the listing. -/
theorem keyset_pagination (normalizers : MemoryNormalizers) (leases : Nat → Option Int) (entities : Keyed Entity.id)
    (situations : Keyed Situation.id) (limit : Nat) (low : 1 ≤ limit) (high : limit ≤ 100) :
    (∀ kind pathPrefix filter, prefixFilter normalizers pathPrefix = .ok filter →
      ∃ listing pages, listing.Perm (entities.rows.filter (Entity.selected kind filter)) ∧
        listing.Pairwise (fun first second => first.key < second.key) ∧
        Walk (entityPages normalizers entities.rows kind pathPrefix limit) 0 pages ∧ pages.flatten = listing ∧
        pages.length = listing.length / limit + 1 ∧
        ∀ other, Walk (entityPages normalizers entities.rows kind pathPrefix limit) 0 other → other = pages) ∧
    ∀ state : Option SituationState, ∃ (listing : List Situation) (pages : List (List SituationResponse)),
      listing.Perm (situations.rows.filter (fun row => state.all (fun wanted => row.state == wanted))) ∧
      listing.Pairwise (fun first second => first.id < second.id) ∧
      Walk (situationPages leases situations.rows state limit) 0 pages ∧
      pages.flatten = listing.map (fun item => situationResponse item (leases item.id)) ∧
      pages.length = listing.length / limit + 1 ∧
      ∀ other, Walk (situationPages leases situations.rows state limit) 0 other → other = pages := by
  constructor
  · intro kind pathPrefix filter accepted
    let listing := sorted Entity.key (entities.rows.filter (Entity.selected kind filter))
    have keys := (entity_keys entities).sublist
      ((List.filter_sublist (p := Entity.selected kind filter) (l := entities.rows)).map Entity.key)
    have respond := entityPages_ok accepted low high entities.rows kind
    obtain ⟨pages,walk,flat,count⟩ := walk_complete
      (entityPages normalizers entities.rows kind pathPrefix limit) Entity.id 0 listing low
      (by rw [respond,listActiveEntities_first])
      (fun front row back split => by rw [respond,listActiveEntities_later entities split])
    exact ⟨listing,pages,sorted_perm _ _,sorted_strict keys,walk,flat,count,fun other again => again.unique walk⟩
  · intro state
    let matching : Situation → Bool := fun row => state.all (fun wanted => row.state == wanted)
    let listing := sorted Situation.id (situations.rows.filter matching)
    have keys := situations.distinct.sublist
      ((List.filter_sublist (p := matching) (l := situations.rows)).map Situation.id)
    have respond (afterId : Nat) : rowPages situations.rows state limit afterId =
        .ok (selectSituations state afterId limit situations.rows,
          next Situation.id limit (selectSituations state afterId limit situations.rows)) := by
      unfold rowPages
      rw [storedSituations_ok low high]
      rfl
    obtain ⟨pages,walk,flat,count⟩ := walk_complete (rowPages situations.rows state limit) Situation.id 0 listing low
      (by rw [respond,selectSituations_first])
      (fun front row back split => by
        have behind : selectSituations state row.id limit situations.rows = back.take limit :=
          congrArg (List.take limit) (sorted_after situations.distinct split)
        rw [respond,behind])
    have shown := walk.shown (situationPages_rows leases situations.rows state limit)
    refine ⟨listing,_,sorted_perm _ _,sorted_strict keys,shown,?_,?_,fun other again => again.unique shown⟩
    · rw [← flat,List.map_flatten]
    · rw [List.length_map,count]

def twoEntities : Keyed Entity.id where
  rows := [⟨1,.person,none,"Anna",.active,0,0⟩,⟨2,.activity,some "work","work",.active,0,0⟩]
  distinct := by decide
  positive := by decide

def noSituations : Keyed Situation.id := ⟨[],by decide,by decide⟩

/-- A last page that is full hands on a cursor to an empty page. -/
theorem keyset_pagination_full :
    ∃ pages, Walk (entityPages asciiNormalizers twoEntities.rows none none 1) 0 pages ∧ pages.length = 3 := by
  obtain ⟨listing,pages,perm,_,walk,_,count,_⟩ := (keyset_pagination asciiNormalizers (fun _ => none) twoEntities
    noSituations 1 (by decide) (by decide)).1 none none ⟨none,none⟩ rfl
  refine ⟨pages,walk,?_⟩
  rw [count,perm.length_eq]
  rfl

end Proactive.Server
