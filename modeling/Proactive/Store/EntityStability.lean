import Proactive.Store.MemoryIdentity

/-! Entities behind their alias keys: a key that is registered keeps its entity through every later
call, and a call under that key reaches the entity or is refused for its kind. -/
namespace Proactive.Store
open Proactive.Library MemoryTables

/-- The memory that a call writes. -/
def MemoryCall.memory? : MemoryCall → Option NewMemory
  | .remember memory => some memory
  | .update _ memory => some memory
  | .forget _ => none

def MemoryNormalizers.leaf (path : String) : String := (MemoryNormalizers.segments path).getLastD ""

namespace MemoryTables

/-- Entities and aliases are only added. -/
structure Extends (before after : MemoryTables) : Prop where
  entities : ∃ fresh, after.entities = before.entities ++ fresh
  aliases : ∃ fresh, after.aliases = before.aliases ++ fresh

theorem Grows.extends {before after : MemoryTables} (grows : Grows before after) : Extends before after :=
  ⟨grows.entities,grows.aliases⟩

theorem Extends.of_eq {before after : MemoryTables} (entities : after.entities = before.entities)
    (aliases : after.aliases = before.aliases) : Extends before after :=
  ⟨⟨[],entities.trans (List.append_nil _).symm⟩,⟨[],aliases.trans (List.append_nil _).symm⟩⟩

theorem Extends.trans {first second third : MemoryTables} (one : Extends first second)
    (two : Extends second third) : Extends first third := by
  obtain ⟨entities,grown⟩ := one.entities
  obtain ⟨entities',grown'⟩ := two.entities
  obtain ⟨aliases,longer⟩ := one.aliases
  obtain ⟨aliases',longer'⟩ := two.aliases
  exact ⟨⟨entities ++ entities',by rw [grown',grown,List.append_assoc]⟩,
    ⟨aliases ++ aliases',by rw [longer',longer,List.append_assoc]⟩⟩

theorem Extends.entityIdByAlias {before after : MemoryTables} (extended : Extends before after)
    {key : String} {id : Nat} (registered : before.entityIdByAlias key = some id) :
    after.entityIdByAlias key = some id := by
  obtain ⟨fresh,longer⟩ := extended.aliases
  obtain ⟨row,found,owned⟩ := Option.map_eq_some_iff.mp registered
  unfold MemoryTables.entityIdByAlias
  rw [longer,List.find?_append,found]
  exact congrArg some owned

theorem Extends.entityById {before after : MemoryTables} (extended : Extends before after) {id : Nat}
    {entity : Entity} (stored : before.entityById id = some entity) : after.entityById id = some entity := by
  obtain ⟨fresh,longer⟩ := extended.entities
  unfold MemoryTables.entityById at stored ⊢
  rw [longer,List.find?_append,stored]
  rfl

variable {normalizers : MemoryNormalizers} {tables : MemoryTables}

/-- Aliases of one entity that are written under free keys. -/
theorem entityIdByAlias_written {fresh : List EntityAlias} {key : String} {id : Nat}
    (unused : ∀ row ∈ tables.aliases, row.aliasNorm ≠ key) (owned : ∀ row ∈ fresh, row.entityId = id)
    (written : ∃ row ∈ fresh, row.aliasNorm = key) {after : MemoryTables}
    (longer : after.aliases = tables.aliases ++ fresh) : after.entityIdByAlias key = some id := by
  unfold entityIdByAlias
  rw [longer,List.find?_append]
  have missed : tables.aliases.find? (fun row => row.aliasNorm == key) = none := by
    apply List.find?_eq_none.mpr
    intro row member same
    exact unused row member (beq_iff_eq.mp same)
  rw [missed,Option.none_or]
  cases found : fresh.find? (fun row => row.aliasNorm == key) with
  | none =>
    obtain ⟨row,member,keyed⟩ := written
    exact absurd (beq_iff_eq.mpr keyed) (List.find?_eq_none.mp found row member)
  | some row => exact congrArg some (owned row (List.mem_of_find?_eq_some found))

theorem Sound.registered (sound : Sound normalizers tables) {key : String} {id : Nat}
    (registered : tables.entityIdByAlias key = some id) :
    ∃ entity, tables.entityById id = some entity ∧ entity.id = id := by
  obtain ⟨row,found,rfl⟩ := Option.map_eq_some_iff.mp registered
  obtain ⟨entity,member,named⟩ :=
    hasEntity_iff.mp (sound.targets row (List.mem_of_find?_eq_some found))
  exact ⟨entity,named ▸ sound.toConsistent.entityById member,named⟩

end MemoryTables

section Calls
variable {normalizers : MemoryNormalizers} {tables : MemoryTables} {memory : NewMemory} {now : Int}
  {entityId : Option Nat}

theorem insertEntityAliases_written (id : Nat) (source : MemorySource) (texts : List String) :
    (insertEntityAliases normalizers id source now texts).Meets tables
      (fun _ left => left.aliases = tables.aliases ++
        texts.map (fun text => ⟨id,text,normalizers.normalizeAlias text,source,now⟩))
      (fun _ => True) := by
  induction texts generalizing tables with
  | nil => exact (List.append_nil _).symm
  | cons text rest ih =>
    unfold insertEntityAliases
    apply Statement.meets_bind
    refine insertEntityAlias_rule (fun _ _ => trivial) ?_
    apply Statement.meets_mono ih _ (fun _ failed => failed)
    intro _ left written
    rw [written,List.map_cons,List.append_assoc]
    rfl

/-- A new entity owns the keys of its label and of its leaf. -/
theorem createEntity_written (source : MemorySource) (kind : EntityKind) (label : String)
    (path : Option String) :
    (createEntity normalizers source kind label path now).Meets tables
      (fun entity left => ∀ text ∈ normalizers.entityAliases label path,
        left.entityIdByAlias (normalizers.normalizeAlias text) = some entity.id)
      (fun _ => True) := by
  refine createEntity_rule (fun _ _ => trivial) (fun free => ?_)
  apply Statement.meets_mono (insertEntityAliases_written _ source _) _ (fun _ failed => failed)
  intro _ left written
  refine ⟨fun _ => trivial,fun entity found => ?_⟩
  intro text listed
  have named := List.find?_some found
  rw [beq_iff_eq] at named
  rw [named]
  refine entityIdByAlias_written (free text listed) (fun row member => ?_) ?_ written
  · obtain ⟨other,_,rfl⟩ := List.mem_map.mp member
    rfl
  · exact ⟨_,List.mem_map.mpr ⟨text,listed,rfl⟩,rfl⟩

theorem entityAliases_cover (label : String) (path : Option String) :
    label ∈ normalizers.entityAliases label path ∧
      ∀ named, path = some named → ∃ text ∈ normalizers.entityAliases label path,
        normalizers.normalizeAlias text = normalizers.normalizeAlias (MemoryNormalizers.leaf named) := by
  cases path with
  | none =>
    refine ⟨List.mem_singleton_self _,fun _ absent => ?_⟩
    cases absent
  | some named =>
    have aliases : normalizers.entityAliases label (some named) =
        if normalizers.normalizeAlias label = normalizers.normalizeAlias (MemoryNormalizers.leaf named)
        then [label] else [label,MemoryNormalizers.leaf named] := rfl
    rw [aliases]
    by_cases same : normalizers.normalizeAlias label = normalizers.normalizeAlias (MemoryNormalizers.leaf named)
    · rw [if_pos same]
      refine ⟨List.mem_singleton_self _,fun other equal => ?_⟩
      rw [← Option.some.inj equal]
      exact ⟨label,List.mem_singleton_self _,same⟩
    · rw [if_neg same]
      refine ⟨List.mem_cons_self,fun other equal => ?_⟩
      rw [← Option.some.inj equal]
      exact ⟨_,List.mem_cons_of_mem _ (List.mem_singleton_self _),rfl⟩

def kindMismatch : MemoryError := .validation "entity_kind" "does not match the alias entity"

/-- Under a registered key there is one answer for each kind, and nothing is written. -/
theorem resolveEntity_registered {label : String} {kind : EntityKind} {path : Option String}
    (named : memory.entityName normalizers = .ok (some (label,kind,path))) {id : Nat}
    (registered : tables.entityIdByAlias (normalizers.normalizeAlias label) = some id) {entity : Entity}
    (stored : tables.entityById id = some entity) :
    (resolveEntity normalizers memory now).run tables =
      (if entity.kind = kind then .ok (some entity) else .error kindMismatch,tables) := by
  unfold resolveEntity
  rw [named]
  change (namedEntity normalizers memory.source kind label path now >>= _).run tables = _
  unfold namedEntity
  rw [Statement.run_bind,Statement.run_select_bind,registered]
  unfold aliasedEntity
  rw [Statement.run_select_bind,stored]
  dsimp only
  by_cases same : entity.kind = kind
  · rw [if_neg (not_not.mpr same),if_pos same]
    rfl
  · rw [if_pos same,if_neg same]
    rfl

/-- What a resolved name leaves: its key belongs to the entity, and so does the key of the leaf when
the entity is new. -/
structure Names (normalizers : MemoryNormalizers) (memory : NewMemory) (before : MemoryTables)
    (entityId : Option Nat) (after : MemoryTables) : Prop where
  extended : Extends before after
  named : ∀ label kind path, memory.entityName normalizers = .ok (some (label,kind,path)) →
    ∃ id, entityId = some id ∧ after.entityIdByAlias (normalizers.normalizeAlias label) = some id ∧
      (before.entityIdByAlias (normalizers.normalizeAlias label) = none → ∀ named, path = some named →
        after.entityIdByAlias (normalizers.normalizeAlias (MemoryNormalizers.leaf named)) = some id)

theorem Names.later {before middle after : MemoryTables} (names : Names normalizers memory before entityId middle)
    (extended : Extends middle after) : Names normalizers memory before entityId after := by
  refine ⟨names.extended.trans extended,fun label kind path named => ?_⟩
  obtain ⟨id,known,owned,leaf⟩ := names.named label kind path named
  exact ⟨id,known,extended.entityIdByAlias owned,
    fun fresh named same => extended.entityIdByAlias (leaf fresh named same)⟩

theorem resolveEntity_names (sound : Sound normalizers tables) :
    (resolveEntity normalizers memory now).Meets tables
      (fun entity left => Names normalizers memory tables (entity.map Entity.id) left) (fun _ => True) := by
  cases resolved : memory.entityName normalizers with
  | error refusal =>
    unfold resolveEntity
    rw [resolved]
    exact Statement.meets_raise trivial
  | ok name =>
    cases name with
    | none =>
      unfold resolveEntity
      rw [resolved]
      refine Statement.meets_pure ⟨Extends.of_eq rfl rfl,fun label kind path named => ?_⟩
      rw [resolved] at named
      cases named
    | some name =>
      obtain ⟨label,kind,path⟩ := name
      have only {other : String} {kind' : EntityKind} {path' : Option String}
          (named : memory.entityName normalizers = .ok (some (other,kind',path'))) :
          label = other ∧ path = path' := by
        rw [resolved] at named
        cases named
        exact ⟨rfl,rfl⟩
      cases assigned : tables.entityIdByAlias (normalizers.normalizeAlias label) with
      | some id =>
        obtain ⟨entity,stored,same⟩ := sound.registered assigned
        unfold Statement.Meets
        rw [resolveEntity_registered resolved assigned stored]
        by_cases kept : entity.kind = kind
        · rw [if_pos kept]
          refine ⟨Extends.of_eq rfl rfl,fun other kind' path' named => ?_⟩
          obtain ⟨rfl,rfl⟩ := only named
          refine ⟨id,congrArg some same,assigned,fun missed => ?_⟩
          rw [assigned] at missed
          cases missed
        · rw [if_neg kept]
          trivial
      | none =>
        unfold resolveEntity
        rw [resolved]
        change (namedEntity normalizers memory.source kind label path now >>= _).Meets tables _ _
        unfold namedEntity
        apply Statement.meets_bind
        apply Statement.meets_bind
        apply Statement.meets_select
        rw [assigned]
        have created : (createEntity normalizers memory.source kind label path now).Meets tables _ _ :=
          createEntity_meets sound.toConsistent memory.source kind label path
        have written : (createEntity normalizers memory.source kind label path now).Meets tables _ _ :=
          createEntity_written memory.source kind label path
        unfold Statement.Meets at created written ⊢
        dsimp only at created written ⊢
        cases ran : (createEntity normalizers memory.source kind label path now).run tables with
        | mk outcome left =>
          rw [ran] at created written
          cases outcome with
          | error refusal => trivial
          | ok entity =>
            refine ⟨created.2.1.extends,fun other kind' path' named => ?_⟩
            obtain ⟨rfl,rfl⟩ := only named
            obtain ⟨own,leaves⟩ := @entityAliases_cover normalizers label path
            refine ⟨entity.id,rfl,written label own,fun _ named same => ?_⟩
            obtain ⟨text,listed,keyed⟩ := leaves named same
            rw [← keyed]
            exact written text listed

/-- The item that a call answers with is about the entity, and the call leaves the names alone. -/
abbrev About (before : MemoryTables) (entityId : Option Nat) (item : MemoryItem) (after : MemoryTables) : Prop :=
  item.entityId = entityId ∧ Extends before after

theorem readMemory_about {id : Nat} {before : MemoryTables} (extended : Extends before tables)
    (written : ∀ row ∈ tables.items, row.id = id → row.entityId = entityId) :
    (readMemory id).Meets tables (About before entityId) (fun _ => True) := by
  apply Statement.meets_mono (readMemory_meets _) (fun _ _ about => about) (fun _ _ => trivial)
  intro item found
  obtain ⟨row,hit,rfl⟩ := Option.map_eq_some_iff.mp found
  have named := List.find?_some hit
  rw [beq_iff_eq] at named
  exact ⟨written row (List.mem_of_find?_eq_some hit) named,extended⟩

theorem shared_entity (sound : Sound normalizers tables) {row own : MemoryRow} (member : row ∈ tables.items)
    (reference : ∀ id, own.entityId = some id → tables.hasEntity id = true) (shares : row.SharesKey own) :
    row.entityId = own.entityId := by
  rcases shares with ⟨⟨entity,attr,date⟩,first,second⟩ | ⟨⟨kind,entity,date,recurrence,content⟩,first,second⟩
  · exact (MemoryRow.datedFactKey_eq_some.mp first).2.2.2.1.trans
      (MemoryRow.datedFactKey_eq_some.mp second).2.2.2.1.symm
  · have same := (MemoryRow.freeDatedKey_eq_some.mp first).2.2.2.2.1.trans
      (MemoryRow.freeDatedKey_eq_some.mp second).2.2.2.2.1.symm
    refine UniqueIndex.coalesce_inj (fun _ => positive_entity sound member) (fun id named => ?_) same
    obtain ⟨found,stored,rfl⟩ := hasEntity_iff.mp (reference id named)
    exact sound.positive found stored

theorem merge_about (sound : Sound normalizers tables)
    (reference : ∀ id, entityId = some id → tables.hasEntity id = true) :
    (merge normalizers memory entityId now).Meets tables (About tables entityId) (fun _ => True) := by
  have carries : (memory.row normalizers entityId 0 0).Carries normalizers memory entityId :=
    ⟨rfl,rfl,rfl,rfl,rfl,rfl⟩
  obtain ⟨duplicates,lookup,agrees⟩ := datedDuplicateId_eq tables none carries rfl
  unfold merge
  apply Statement.meets_bind
  apply Statement.meets_select
  cases duplicate : tables.datedDuplicateId normalizers memory entityId none with
  | some id =>
    rw [lookup] at duplicate
    obtain ⟨row,hit,rfl⟩ := Option.map_eq_some_iff.mp duplicate
    have member := List.mem_of_find?_eq_some hit
    have entity := shared_entity sound member reference ((agrees row).mp (List.find?_some hit)).2
    apply Statement.meets_bind
    apply Statement.meets_update
    refine readMemory_about ?_ ?_
    · exact Extends.of_eq rfl rfl
    · intro other listed named
      rcases (Table.mem_updateWhere _ _ _ _).mp listed with ⟨old,known,_,rfl⟩ | ⟨known,_⟩
      · rw [sound.same_id known member named]
        exact entity
      · rw [sound.same_id known member named]
        exact entity
  | none =>
    apply Statement.meets_bind
    apply Statement.meets_select
    by_cases crowded : tables.activeItems ≥ maxMemoryRows
    · simp only [if_pos crowded]
      exact Statement.meets_raise trivial
    · simp only [if_neg crowded]
      apply Statement.meets_bind
      refine insertMemoryItem_rule (fun _ _ => trivial) (readMemory_about ?_ ?_)
      · exact Extends.of_eq rfl rfl
      · intro other listed named
        rcases List.mem_append.mp listed with known | last
        · exact absurd named (Nat.ne_of_lt (UniqueIndex.lt_nextId MemoryRow.id known))
        · rw [List.mem_singleton.mp last]
          rfl

theorem replace_about (id : Nat) :
    (replace normalizers id memory entityId now).Meets tables (About tables entityId) (fun _ => True) := by
  unfold replace
  apply Statement.meets_bind
  apply Statement.meets_select
  cases duplicate : tables.datedDuplicateId normalizers memory entityId (some id) with
  | some other => exact Statement.meets_raise trivial
  | none =>
    apply Statement.meets_bind
    refine updateMemoryItem_rule (fun missing => ?_) (fun _ _ _ _ _ => trivial) (fun row _ _ => ?_)
    · refine readMemory_about ?_ ?_
      · exact Extends.of_eq rfl rfl
      · exact fun row member named => absurd named (missing row member)
    · refine readMemory_about ?_ ?_
      · exact Extends.of_eq rfl rfl
      · intro other listed named
        rcases (Table.mem_updateWhere _ _ _ _).mp listed with ⟨old,_,_,rfl⟩ | ⟨_,missed⟩
        · rfl
        · exact absurd named (beq_eq_false_iff_ne.mp missed)

/-- What an accepted call has done under its name. -/
abbrev Accepted (normalizers : MemoryNormalizers) (memory : NewMemory) (before : MemoryTables) (item : MemoryItem)
    (after : MemoryTables) : Prop :=
  Names normalizers memory before item.entityId after

theorem resolved_accepted (sound : Sound normalizers tables) (finish : Option Nat → MemorySql MemoryItem)
    (finishes : ∀ middle : MemoryTables, Sound normalizers middle → ∀ entityId : Option Nat,
      (∀ id, entityId = some id → middle.hasEntity id = true) →
      (finish entityId).Meets middle (About middle entityId) (fun _ => True)) :
    Statement.Meets (do
        let entity ← resolveEntity normalizers memory now
        requireEntityCapacity
        finish (entity.map Entity.id))
      tables (Accepted normalizers memory tables) (fun _ => True) := by
  apply Statement.meets_bind
  unfold Statement.Meets
  cases ran : (resolveEntity normalizers memory now).run tables with
  | mk outcome middle =>
    cases outcome with
    | error refusal => trivial
    | ok entity =>
      have resolved := Statement.meets_ok (resolveEntity_meets sound.toConsistent memory) ran
      have names := Statement.meets_ok (resolveEntity_names sound) ran
      apply Statement.meets_bind
      apply Statement.meets_mono (requireEntityCapacity_meets resolved.consistent) _ (fun _ _ => trivial)
      intro _ same kept
      obtain ⟨rfl,bounded⟩ := kept
      have reference (id : Nat) (named : entity.map Entity.id = some id) : same.hasEntity id = true := by
        obtain ⟨found,rfl,rfl⟩ := Option.map_eq_some_iff.mp named
        exact hasEntity_iff.mpr ⟨found,resolved.stored found rfl,rfl⟩
      apply Statement.meets_mono (finishes same bounded _ reference) _ (fun _ failed => failed)
      intro item left about
      unfold Accepted
      rw [about.1]
      exact names.later about.2

theorem body_accepted (sound : Sound normalizers tables) {request : MemoryRequest}
    (writes : request.call.memory? = some memory) :
    (request.body normalizers).Meets tables (Accepted normalizers memory tables) (fun _ => True) := by
  unfold MemoryRequest.body
  cases called : request.call with
  | remember written =>
    rw [called] at writes
    cases writes
    apply Statement.meets_bind
    apply Statement.meets_ofExcept
    · intro _ _
      apply Statement.meets_immediate
      exact resolved_accepted sound (fun entityId => merge normalizers memory entityId request.now)
        (fun middle kept entityId reference => merge_about kept reference)
    · exact fun _ _ => trivial
  | update id written =>
    rw [called] at writes
    cases writes
    apply Statement.meets_bind
    apply Statement.meets_ofExcept
    · intro _ _
      apply Statement.meets_immediate
      apply Statement.meets_bind
      apply Statement.meets_mono (readMemory_meets _) (fun _ _ met => met) (fun _ _ => trivial)
      intro _ _
      exact resolved_accepted sound (fun entityId => replace normalizers id memory entityId request.now)
        (fun middle _ entityId _ => replace_about id)
    · exact fun _ _ => trivial
  | forget id =>
    rw [called] at writes
    cases writes

theorem step_extends (sound : Sound normalizers tables) (request : MemoryRequest) :
    Extends tables (step normalizers tables request) := by
  unfold MemoryTables.step
  cases ran : (request.body normalizers).run tables with
  | mk outcome left =>
    cases outcome with
    | error error =>
      rw [rejected_unchanged request ran]
      exact Extends.of_eq rfl rfl
    | ok item =>
      cases writes : request.call.memory? with
      | some memory => exact (Statement.meets_ok (body_accepted sound writes) ran).extended
      | none =>
        unfold MemoryRequest.body at ran
        cases called : request.call with
        | remember memory =>
          rw [called] at writes
          cases writes
        | update id memory =>
          rw [called] at writes
          cases writes
        | forget id =>
          rw [called] at ran
          have kept : (forget id request.now).Meets tables (fun _ left => Extends tables left) (fun _ => True) := by
            unfold forget
            apply Statement.meets_bind
            apply Statement.meets_mono (readMemory_meets _) (fun _ _ met => met) (fun _ _ => trivial)
            intro item _
            by_cases archived : item.archived = true
            · rw [if_pos archived]
              exact Statement.meets_pure (Extends.of_eq rfl rfl)
            · rw [if_neg archived]
              apply Statement.meets_bind
              apply Statement.meets_update
              exact Statement.meets_pure (Extends.of_eq rfl rfl)
          exact Statement.meets_ok kept ran

theorem reached_extends (normalizers : MemoryNormalizers) (earlier later : List MemoryRequest) :
    Extends (reached normalizers earlier) (reached normalizers (earlier ++ later)) := by
  unfold reached
  rw [Run.run_append]
  have kept := Run.run_invariant (step normalizers)
    (fun tables => Sound normalizers tables ∧ Extends (reached normalizers earlier) tables)
    (fun _ request held => ⟨step_sound request held.1,held.2.trans (step_extends held.1 request)⟩)
    (reached normalizers earlier) later ⟨reached_sound normalizers earlier,Extends.of_eq rfl rfl⟩
  exact kept.2

theorem body_refused (sound : Sound normalizers tables) {request : MemoryRequest} {error : MemoryError}
    {left : MemoryTables} (rejected : (request.body normalizers).run tables = (.error error,left)) :
    error.integrity = false ∧ left = tables :=
  ⟨Statement.meets_error (body_meets sound request) rejected,rejected_unchanged request rejected⟩

end Calls

/-- A registered key keeps its entity: every later call under it reaches this entity or is refused for
another kind. Keys are never shared, no call runs into a constraint, and a refused call writes nothing. -/
theorem entity_resolution_stable (normalizers : MemoryNormalizers) (earlier later : List MemoryRequest) :
    let before := reached normalizers earlier
    let tables := reached normalizers (earlier ++ later)
    (∀ key id, before.entityIdByAlias key = some id →
      tables.entityIdByAlias key = some id ∧
      ∃ entity, entity.id = id ∧ before.entityById id = some entity ∧ tables.entityById id = some entity ∧
        ∀ (memory : NewMemory) label kind path, memory.entityName normalizers = .ok (some (label,kind,path)) →
          normalizers.normalizeAlias label = key →
          (∀ now, (resolveEntity normalizers memory now).run tables =
            (if entity.kind = kind then .ok (some entity) else .error kindMismatch,tables)) ∧
          ∀ (request : MemoryRequest) item left, request.call.memory? = some memory →
            (request.body normalizers).run tables = (.ok item,left) → item.entityId = some id) ∧
    (∀ (request : MemoryRequest) memory item left, request.call.memory? = some memory →
      (request.body normalizers).run tables = (.ok item,left) →
      ∀ label kind path, memory.entityName normalizers = .ok (some (label,kind,path)) →
        ∃ id, item.entityId = some id ∧ left.entityIdByAlias (normalizers.normalizeAlias label) = some id ∧
          (tables.entityIdByAlias (normalizers.normalizeAlias label) = none → ∀ named, path = some named →
            left.entityIdByAlias (normalizers.normalizeAlias (MemoryNormalizers.leaf named)) = some id)) ∧
    (tables.aliases.map EntityAlias.aliasNorm).Nodup ∧
    ∀ (request : MemoryRequest) error left, (request.body normalizers).run tables = (.error error,left) →
      error.integrity = false ∧ left = tables := by
  intro before tables
  have sound : Sound normalizers tables := reached_sound normalizers (earlier ++ later)
  have extended : Extends before tables := reached_extends normalizers earlier later
  refine ⟨?_,?_,?_,?_⟩
  · intro key id registered
    obtain ⟨entity,stored,named⟩ := (reached_sound normalizers earlier).registered registered
    have owned := extended.entityIdByAlias registered
    have kept := extended.entityById stored
    refine ⟨owned,entity,named,stored,kept,fun memory label kind path resolved keyed => ⟨fun now => ?_,?_⟩⟩
    · subst keyed
      exact resolveEntity_registered resolved owned kept
    · intro request item left writes accepted
      have names := Statement.meets_ok (body_accepted sound writes) accepted
      obtain ⟨other,about,after,_⟩ := names.named label kind path resolved
      rw [keyed,names.extended.entityIdByAlias owned] at after
      exact about.trans after.symm
  · intro request memory item left writes accepted
    exact (Statement.meets_ok (body_accepted sound writes) accepted).named
  · have unique := sound.aliasNorms
    unfold UniqueIndex.Unique EntityAlias.normKey at unique
    rw [List.filterMap_eq_map'] at unique
    exact unique
  · exact fun request error left rejected => body_refused sound rejected

def anna : NewMemory :=
  ⟨.fact,"Anna",some "Anna",some .person,some "family/Sis",.birthday,some "1990-05-01",.yearly,7,.manual⟩

/-- The leaf of a path names a person, so no place of that name can follow. -/
theorem entity_resolution_stable_leaf :
    (resolveEntity asciiNormalizers {anna with entity := some "SIS", entityKind := some .place} 2).run
        (reached asciiNormalizers [⟨.remember anna,1⟩]) =
      (.error kindMismatch,reached asciiNormalizers [⟨.remember anna,1⟩]) := by
  obtain ⟨_,entity,_,_,stored,called⟩ := (entity_resolution_stable asciiNormalizers [⟨.remember anna,1⟩] []).1
    "sis" 1 (by decide +kernel)
  have person : (reached asciiNormalizers [⟨.remember anna,1⟩]).entityById 1 =
      some ⟨1,.person,some "family/Sis","Anna",.active,1,1⟩ := by decide +kernel
  rw [List.append_nil] at stored called
  have same := Option.some.inj (stored.symm.trans person)
  have refused := (called {anna with entity := some "SIS", entityKind := some .place} "SIS" .place
    (some "family/Sis") (by decide +kernel) (by decide +kernel)).1 2
  rw [same] at refused
  exact refused

end Proactive.Store
