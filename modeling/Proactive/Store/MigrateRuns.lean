import Proactive.Store.Migrate

/-! Whatever the order of the statements and wherever processes die, each opening migrates the
database in one step, and no opening ends before the erased receipts are out of the files. -/
namespace Proactive.Store
open Proactive.Library

namespace Schema
variable {τ : Type} {before after : Schema τ}

def executeAll (schema : Schema τ) : Script τ → Option (Schema τ)
  | [] => some schema
  | statement::rest => (schema.execute statement).bind (fun left => left.executeAll rest)

/-- The scripts after the version, and their numbers. -/
def upgradeFrom : List (Nat × Script τ) → Nat → Schema τ → Option (Schema τ)
  | [],_,schema => some schema
  | (version,script)::rest,current,schema =>
    if version ≤ current then upgradeFrom rest current schema
    else ((schema.executeAll script).bind (fun left => left.insertVersion version)).bind (upgradeFrom rest version)

/-- All that a package does to a database, in one step. -/
def upgraded (scripts : List (Nat × Script τ)) (schema : Schema τ) : Option (Schema τ) :=
  upgradeFrom scripts schema.version schema

structure Grows (before after : Schema τ) : Prop where
  version : before.version ≤ after.version
  maintenance : before.maintenance = true → after.maintenance = true

theorem Grows.refl (schema : Schema τ) : Grows schema schema := ⟨Nat.le_refl _,id⟩

theorem Grows.trans {first second third : Schema τ} (one : Grows first second) (two : Grows second third) :
    Grows first third := ⟨Nat.le_trans one.version two.version,fun held => two.maintenance (one.maintenance held)⟩

theorem execute_grows {statement : SchemaStatement τ} (ran : before.execute statement = some after) : Grows before after := by
  cases statement with
  | createVersions =>
    cases ran
    exact ⟨by simp [version,recorded],id⟩
  | markErasure =>
    simp only [execute,Option.ite_none_left_eq_some] at ran
    obtain ⟨_,ran⟩ := ran
    cases ran
    exact ⟨Nat.le_refl _,fun _ => rfl⟩
  | other apply =>
    obtain ⟨tables,_,rfl⟩ := Option.map_eq_some_iff.mp ran
    exact ⟨Nat.le_refl _,id⟩

theorem executeAll_grows {script : Script τ} (ran : before.executeAll script = some after) : Grows before after := by
  induction script generalizing before with
  | nil =>
    cases ran
    exact .refl _
  | cons statement rest ih =>
    obtain ⟨middle,first,later⟩ := Option.bind_eq_some_iff.mp ran
    exact (execute_grows first).trans (ih later)

theorem insertVersion_some {version : Nat} (ran : before.insertVersion version = some after) :
    before.versions.isSome = true ∧ version ∉ before.recorded ∧
      after = {before with versions := some (before.recorded ++ [version])} := by
  obtain ⟨rows,stored,ran⟩ := Option.bind_eq_some_iff.mp ran
  rw [Option.ite_none_left_eq_some] at ran
  obtain ⟨fresh,ran⟩ := ran
  cases ran
  simp [recorded,stored,fresh]

theorem foldr_max_append (rows : List Nat) (version : Nat) :
    (rows ++ [version]).foldr max 0 = max (rows.foldr max 0) version := by
  induction rows with
  | nil => simp
  | cons row rest ih => simp [ih,Nat.max_assoc]

theorem insertVersion_version {version : Nat} (ran : before.insertVersion version = some after) :
    after.version = max before.version version := by
  obtain ⟨_,_,rfl⟩ := insertVersion_some ran
  exact foldr_max_append _ _

theorem insertVersion_grows {version : Nat} (ran : before.insertVersion version = some after) : Grows before after := by
  refine ⟨?_,fun held => ?_⟩
  · rw [insertVersion_version ran]
    exact Nat.le_max_left _ _
  · obtain ⟨_,_,rfl⟩ := insertVersion_some ran
    exact held

/-- Once the scripts have run, the database has every number of theirs behind it. -/
theorem upgradeFrom_reaches {scripts : List (Nat × Script τ)} {current : Nat} (known : current ≤ before.version)
    (ran : upgradeFrom scripts current before = some after) :
    Grows before after ∧ ∀ entry ∈ scripts, entry.1 ≤ after.version := by
  induction scripts generalizing before current with
  | nil =>
    cases ran
    exact ⟨.refl _,fun _ member => by simp at member⟩
  | cons entry rest ih =>
    obtain ⟨version,script⟩ := entry
    unfold upgradeFrom at ran
    split at ran
    · rename_i old
      obtain ⟨grows,reaches⟩ := ih known ran
      refine ⟨grows,fun entry member => ?_⟩
      rcases List.mem_cons.mp member with rfl | later
      · exact Nat.le_trans (Nat.le_trans old known) grows.version
      · exact reaches entry later
    · obtain ⟨recorded,inner,ran⟩ := Option.bind_eq_some_iff.mp ran
      obtain ⟨middle,executed,inserted⟩ := Option.bind_eq_some_iff.mp inner
      have reached : version ≤ recorded.version := by
        rw [insertVersion_version inserted]
        exact Nat.le_max_right _ _
      obtain ⟨grows,reaches⟩ := ih reached ran
      refine ⟨((executeAll_grows executed).trans (insertVersion_grows inserted)).trans grows,fun entry member => ?_⟩
      rcases List.mem_cons.mp member with rfl | later
      · exact Nat.le_trans reached grows.version
      · exact reaches entry later

theorem execute_recorded {statement : SchemaStatement τ} (ran : before.execute statement = some after) :
    after.recorded = before.recorded := by
  cases statement with
  | createVersions =>
    cases ran
    rfl
  | markErasure =>
    simp only [execute,Option.ite_none_left_eq_some] at ran
    obtain ⟨_,ran⟩ := ran
    cases ran
    rfl
  | other apply =>
    obtain ⟨tables,_,rfl⟩ := Option.map_eq_some_iff.mp ran
    rfl

theorem executeAll_recorded {script : Script τ} (ran : before.executeAll script = some after) :
    after.recorded = before.recorded := by
  induction script generalizing before with
  | nil =>
    cases ran
    rfl
  | cons statement rest ih =>
    obtain ⟨middle,first,later⟩ := Option.bind_eq_some_iff.mp ran
    exact (ih later).trans (execute_recorded first)

theorem foldr_max_range (count : Nat) : (List.range' 1 count).foldr max 0 = count := by
  induction count with
  | zero => rfl
  | succ count ih =>
    rw [List.range'_1_concat,foldr_max_append,ih]
    omega

/-- Each script runs once, in the order of the numbers. -/
theorem upgradeFrom_recorded {scripts : List (Script τ)} {passed known : Nat} (behind : passed ≤ known)
    (stored : before.recorded = List.range' 1 known)
    (ran : upgradeFrom (numbered (passed + 1) scripts) known before = some after) :
    after.recorded = List.range' 1 (max known (passed + scripts.length)) := by
  induction scripts generalizing before passed known with
  | nil =>
    cases ran
    rw [List.length_nil,Nat.add_zero,Nat.max_eq_left behind]
    exact stored
  | cons script rest ih =>
    unfold numbered upgradeFrom at ran
    split at ran
    · rename_i old
      rw [ih old stored ran,List.length_cons]
      congr 2
      omega
    · obtain rfl : passed = known := by omega
      obtain ⟨recorded,inner,ran⟩ := Option.bind_eq_some_iff.mp ran
      obtain ⟨middle,executed,inserted⟩ := Option.bind_eq_some_iff.mp inner
      obtain ⟨_,_,rfl⟩ := insertVersion_some inserted
      have next : List.range' 1 (passed + 1) = middle.recorded ++ [passed + 1] := by
        rw [executeAll_recorded executed,stored,List.range'_1_concat,Nat.add_comm 1]
      rw [ih (Nat.le_refl _) (next ▸ rfl) ran,List.length_cons]
      congr 1
      omega

theorem upgraded_reaches {scripts : List (Nat × Script τ)} (ran : before.upgraded scripts = some after) :
    Grows before after ∧ ∀ entry ∈ scripts, entry.1 ≤ after.version :=
  upgradeFrom_reaches (Nat.le_refl _) ran

end Schema

/-- A process opens the database with the scripts of its release, or makes one change to its tables. -/
inductive MigrationRole (τ : Type)
  | opens (release : Nat)
  | writes (change : τ → Option τ)

/-- Any number of processes. Each release ships the first of all the scripts there will ever be. -/
structure Migrations (ι τ : Type) where
  history : List (Script τ)
  role : ι → MigrationRole τ
  shipped : ∀ who release, role who = .opens release → release ≤ history.length

namespace Medium
variable {ι τ : Type} [DecidableEq ι]

/-- The deleted receipts are not in the files, and no migration will put them there again. -/
def Erased (medium : Medium ι τ) : Prop := medium.committed.maintenance = true ∧ medium.residue = false

/-- As long as the files hold deleted receipts, the database says so. -/
def Retryable (medium : Medium ι τ) : Prop :=
  medium.residue = true → medium.marked = true ∧ medium.committed.maintenance = true

/-- What a process may count on while the others act. -/
structure Trusts (who : ι) (before after : Medium ι τ) : Prop where
  mine : after.owns who = true → after.writer = before.writer ∧ after.committed = before.committed
  grows : Schema.Grows before.committed after.committed
  erased : Erased before → Erased after

/-- What a step of a process leaves to the others. -/
def Guaranteed (who : ι) (before after : Medium ι τ) : Prop :=
  Retryable after ∧ ∀ witness, witness ≠ who → Trusts witness before after

variable {who : ι} {medium before after : Medium ι τ}

theorem trusts_refl (who : ι) (medium : Medium ι τ) : Trusts who medium medium :=
  ⟨fun _ => ⟨rfl,rfl⟩,.refl _,id⟩

theorem Trusts.trans {first second third : Medium ι τ} (one : Trusts who first second) (two : Trusts who second third) :
    Trusts who first third := by
  refine ⟨fun owned => ?_,one.grows.trans two.grows,fun erased => two.erased (one.erased erased)⟩
  obtain ⟨writer,committed⟩ := two.mine owned
  have before : second.owns who = true := by
    rw [owns,← writer]
    exact owned
  obtain ⟨writer',committed'⟩ := one.mine before
  exact ⟨writer.trans writer',committed.trans committed'⟩

theorem Guaranteed.trans {third : Medium ι τ} (one : Guaranteed who before after) (two : Guaranteed who after third) :
    Guaranteed who before third :=
  ⟨two.1,fun witness other => (one.2 witness other).trans (two.2 witness other)⟩

theorem guaranteed_refl (retryable : Retryable medium) : Guaranteed who medium medium :=
  ⟨retryable,fun witness _ => trusts_refl witness medium⟩

theorem owns_iff : medium.owns who = true ↔ ∃ entry, medium.writer = some entry ∧ entry.1 = who := by
  unfold owns
  cases medium.writer with
  | none => simp
  | some entry => simp

/-- A step that changes nothing but who has a transaction open. -/
theorem guaranteed_writer {writer : Option (ι × Schema τ)} (retryable : Retryable medium)
    (mine : ∀ entry, writer = some entry → entry.1 = who ∨ medium.writer = some entry) :
    Guaranteed who medium {medium with writer} := by
  refine ⟨retryable,fun witness other => ⟨fun owned => ⟨?_,rfl⟩,.refl _,id⟩⟩
  obtain ⟨entry,stored,owner⟩ := owns_iff.mp owned
  rcases mine entry stored with same | kept
  · exact absurd (owner.symm.trans same) other
  · exact stored.trans kept.symm

theorem released_committed (medium : Medium ι τ) (who : ι) : (medium.released who).committed = medium.committed := by
  unfold released
  split <;> rfl

theorem reaped_committed (medium : Medium ι τ) (who : ι) (orphaned : Bool) :
    (medium.reaped who orphaned).committed = medium.committed := by
  unfold reaped
  split <;> rfl

theorem released_guaranteed (retryable : Retryable medium) : Guaranteed who medium (medium.released who) := by
  unfold released
  split
  · exact guaranteed_writer retryable (fun _ absent => (nomatch absent))
  · exact guaranteed_refl retryable

theorem reaped_guaranteed (who : ι) (retryable : Retryable medium) (orphaned : Bool) :
    Guaranteed who medium (medium.reaped who orphaned) := by
  unfold reaped
  split
  · exact guaranteed_writer retryable (fun _ absent => (nomatch absent))
  · exact guaranteed_refl retryable

theorem draft?_iff {draft : Schema τ} : medium.draft? who = some draft ↔ medium.writer = some (who,draft) := by
  unfold draft?
  cases stored : medium.writer with
  | none => simp
  | some entry =>
    obtain ⟨owner,held⟩ := entry
    by_cases same : owner = who <;> simp [same]

theorem rewrite_cases (medium : Medium ι τ) (who : ι) (change : Schema τ → Option (Schema τ)) :
    medium.rewrite who change = (.error .sqlite,medium) ∨ ∃ draft next, medium.writer = some (who,draft) ∧
      change draft = some next ∧ medium.rewrite who change = (.ok (),{medium with writer := some (who,next)}) := by
  unfold rewrite
  cases ran : (medium.draft? who).bind change with
  | none => exact Or.inl rfl
  | some next =>
    obtain ⟨draft,mine,changed⟩ := Option.bind_eq_some_iff.mp ran
    exact Or.inr ⟨draft,next,draft?_iff.mp mine,changed,rfl⟩

omit [DecidableEq ι] in
theorem autocommit_cases (medium : Medium ι τ) (change : Medium ι τ → Option (Medium ι τ)) :
    medium.autocommit change = (.error .sqlite,medium) ∨ ∃ left, medium.writer = none ∧ change medium = some left ∧
      medium.autocommit change = (.ok (),left) := by
  unfold autocommit
  split
  · exact Or.inl rfl
  · rename_i quiet
    rw [Bool.not_eq_true,Option.isSome_eq_false_iff,Option.isNone_iff_eq_none] at quiet
    cases changed : change medium with
    | none => exact Or.inl rfl
    | some left => exact Or.inr ⟨left,quiet,rfl,rfl⟩

theorem published_guaranteed (who : ι) {draft : Schema τ} (retryable : Retryable medium)
    (grows : Schema.Grows medium.committed draft) : Guaranteed who medium (medium.published draft) := by
  refine ⟨fun residue => ?_,fun witness _ => ⟨fun owned => ?_,grows,fun erased => ⟨grows.maintenance erased.1,?_⟩⟩⟩
  · rcases Bool.or_eq_true_iff.mp residue with held | erases
    · obtain ⟨marked,maintenance⟩ := retryable held
      exact ⟨by simp [published,marked],grows.maintenance maintenance⟩
    · exact ⟨Bool.or_eq_true_iff.mpr (Or.inr erases),(Bool.and_eq_true_iff.mp erases).1⟩
  · obtain ⟨_,absent,_⟩ := owns_iff.mp owned
    cases absent
  · simp [published,erased.1,erased.2]

end Medium

namespace Migrations
variable {ι τ : Type} (migrations : Migrations ι τ)

def package (release : Nat) : List (Nat × Script τ) := numbered 1 (migrations.history.take release)

def program (who : ι) : Migrating ι τ Unit :=
  match migrations.role who with
  | .opens release => openCollaborators who (migrations.package release)
  | .writes change => ask (.write who change)

/-- The call in one step. -/
def effect (who : ι) (before : Schema τ) (_ : Unit) (after : Schema τ) : Prop :=
  match migrations.role who with
  | .opens release => before.upgraded (migrations.package release) = some after
  | .writes change => ∃ tables, change before.tables = some tables ∧ after = {before with tables}

variable [DecidableEq ι]

def discipline : Discipline ι (MigrationCall ι τ) MigrationTurn (Medium ι τ) (Schema τ) Unit where
  machine := MigrationCall.machine
  kept := Medium.Retryable
  shown := Medium.committed
  effect := migrations.effect
  rely := Medium.Trusts
  rely_refl := Medium.trusts_refl
  rely_trans := fun _ _ _ _ one two => one.trans two

/-- Nothing is said of a call that raises. -/
def Returned {α : Type} (returns : α → Option Unit → Medium ι τ → Prop) :
    Except OpeningError α → Option Unit → Medium ι τ → Prop
  | .ok value,answered,medium => returns value answered medium
  | .error _,_,_ => True

variable {migrations} {who : ι} {given : Option Unit} {medium : Medium ι τ} {α γ : Type}
  {returns : α → Option Unit → Medium ι τ → Prop}

theorem bind_follows {after : γ → Option Unit → Medium ι τ → Prop} (returns : α → Option Unit → Medium ι τ → Prop)
    {body : Migrating ι τ α} {next : α → Migrating ι τ γ}
    (follows : migrations.discipline.Follows who (Returned returns) body given medium)
    (goesOn : ∀ value given medium, returns value given medium →
      migrations.discipline.Follows who (Returned after) (next value) given medium) :
    migrations.discipline.Follows who (Returned after) (body >>= next : Migrating ι τ γ) given medium :=
  Fallible.follows_bind follows goesOn (fun _ _ _ _ => trivial)

theorem ask_follows {call : MigrationCall ι τ (Except OpeningError α)} (caller : call.caller = who)
    (fails : call.failure = .error .sqlite)
    (serves : ∀ other turn, Medium.Retryable other → Medium.Trusts who medium other →
      Medium.Guaranteed who other (call.served turn other).2 ∧
      ∃ answered, migrations.discipline.Moves who other (call.served turn other).2 given answered ∧
        Returned returns (call.served turn other).1 answered (call.served turn other).2) :
    migrations.discipline.Follows who (Returned returns) (ask call) given medium := by
  intro other retryable trusts turn
  suffices steps : Medium.Guaranteed who other (MigrationCall.machine.perform turn call other).2 ∧ ∃ answered,
      migrations.discipline.Moves who other (MigrationCall.machine.perform turn call other).2 given answered ∧
      Returned returns (MigrationCall.machine.perform turn call other).1 answered
        (MigrationCall.machine.perform turn call other).2 from ⟨steps.1.1,steps.1.2,steps.2⟩
  unfold MigrationCall.machine
  dsimp only
  split
  · rw [fails,caller]
    refine ⟨?_,given,.unseen ?_,trivial⟩
    · split
      · exact Medium.released_guaranteed retryable
      · exact Medium.guaranteed_refl retryable
    · split
      · exact Medium.released_committed other who
      · rfl
  · exact serves other turn retryable trusts

/-- What holds of the committed database and of the draft, if the transaction is still the process's own. -/
def Holding (who : ι) (holds : Schema τ → Schema τ → Prop) (medium : Medium ι τ) : Prop :=
  ∀ draft, medium.writer = some (who,draft) → holds medium.committed draft

variable {holds : Schema τ → Schema τ → Prop} {other : Medium ι τ}

theorem Holding.stable (held : Holding who holds medium) (trusts : Medium.Trusts who medium other) :
    Holding who holds other := by
  intro draft mine
  obtain ⟨writer,committed⟩ := trusts.mine (Medium.owns_iff.mpr ⟨_,mine,rfl⟩)
  rw [committed]
  exact held draft (writer.symm.trans mine)

omit [DecidableEq ι] in
theorem Holding.mono {weaker : Schema τ → Schema τ → Prop} (held : Holding who holds medium)
    (implies : ∀ base draft, holds base draft → weaker base draft) : Holding who weaker medium :=
  fun draft mine => implies _ _ (held draft mine)

theorem beginImmediate_follows : migrations.discipline.Follows who (Returned (fun _ answered medium =>
    answered = given ∧ Holding who (fun base draft => draft = base) medium)) (ask (.beginImmediate who)) given medium := by
  refine ask_follows rfl rfl (fun other turn retryable _ => ?_)
  have reaped := Medium.reaped_guaranteed who retryable turn.orphaned
  have same := Medium.reaped_committed other who turn.orphaned
  dsimp only [MigrationCall.served]
  rcases Medium.autocommit_cases (other.reaped who turn.orphaned) (fun medium => some {medium with writer := some (who,medium.committed)})
    with ran | ⟨left,_,changed,ran⟩
  · rw [ran]
    exact ⟨reaped,given,.unseen same,trivial⟩
  · cases changed
    rw [ran]
    refine ⟨reaped.trans (Medium.guaranteed_writer reaped.1 (fun entry begun => ?_)),given,.unseen same,rfl,?_⟩
    · cases begun
      exact Or.inl rfl
    · intro draft begun
      cases begun
      rfl

/-- A query answers from the draft as long as the transaction is the process's own. -/
theorem query_follows {call : MigrationCall ι τ (Except OpeningError Nat)} (query : Schema τ → Nat)
    (caller : call.caller = who) (fails : call.failure = .error .sqlite)
    (asks : ∀ turn medium, call.served turn medium = (.ok (query ((medium.draft? who).getD medium.committed)),medium))
    (held : Holding who holds medium) : migrations.discipline.Follows who (Returned (fun value answered medium =>
      answered = given ∧ Holding who (fun base draft => holds base draft ∧ value = query draft) medium))
      (ask call) given medium := by
  refine ask_follows caller fails (fun other turn retryable trusts => ?_)
  rw [asks]
  refine ⟨Medium.guaranteed_refl retryable,given,.unseen rfl,rfl,fun draft mine => ?_⟩
  refine ⟨held.stable trusts draft mine,?_⟩
  rw [Medium.draft?_iff.mpr mine]
  rfl

theorem currentVersion_follows (held : Holding who (fun base draft => draft = base) medium) :
    migrations.discipline.Follows who (Returned (fun value answered medium => answered = given ∧
      Holding who (fun base draft => draft = base ∧ value = base.version) medium)) (currentVersion who) given medium := by
  unfold currentVersion
  refine bind_follows _ (query_follows (fun schema => if schema.versions.isSome then 1 else 0)
    rfl rfl (fun _ _ => rfl) held) ?_
  rintro tableCount answered medium ⟨rfl,held⟩
  split
  · rename_i absent
    refine ⟨rfl,held.mono (fun base draft facts => ?_)⟩
    obtain ⟨rfl,counted⟩ := facts
    refine ⟨rfl,?_⟩
    cases stored : draft.versions with
    | none => simp [Schema.version,Schema.recorded,stored]
    | some rows => simp [stored,absent] at counted
  · refine Discipline.follows_mono ?_ (query_follows Schema.version rfl rfl (fun _ _ => rfl) held)
    rintro (error | value) answered medium ends
    · trivial
    · refine ⟨ends.1,ends.2.mono (fun base draft facts => ?_)⟩
      obtain ⟨⟨rfl,_⟩,rfl⟩ := facts
      exact ⟨rfl,rfl⟩

theorem rewrite_follows {call : MigrationCall ι τ (Except OpeningError Unit)} {change : Schema τ → Option (Schema τ)}
    (caller : call.caller = who) (fails : call.failure = .error .sqlite)
    (rewrites : ∀ turn medium, call.served turn medium = medium.rewrite who change) (held : Holding who holds medium) :
    migrations.discipline.Follows who (Returned (fun _ answered medium => answered = given ∧
      Holding who (fun base next => ∃ draft, holds base draft ∧ change draft = some next) medium)) (ask call) given medium := by
  refine ask_follows caller fails (fun other turn retryable trusts => ?_)
  rw [rewrites]
  rcases Medium.rewrite_cases other who change with ran | ⟨draft,next,mine,changed,ran⟩
  · rw [ran]
    exact ⟨Medium.guaranteed_refl retryable,given,.unseen rfl,trivial⟩
  · rw [ran]
    refine ⟨Medium.guaranteed_writer retryable (fun entry begun => ?_),given,.unseen rfl,rfl,fun last begun => ?_⟩
    · cases begun
      exact Or.inl rfl
    · cases begun
      exact ⟨draft,held.stable trusts draft mine,changed⟩

theorem executeAll_follows (script : Script τ) (held : Holding who holds medium) :
    migrations.discipline.Follows who (Returned (fun _ answered medium => answered = given ∧
      Holding who (fun base next => ∃ draft, holds base draft ∧ draft.executeAll script = some next) medium))
      (executeAll who script) given medium := by
  induction script generalizing holds given medium with
  | nil => exact ⟨rfl,held.mono (fun base draft facts => ⟨draft,facts,rfl⟩)⟩
  | cons statement rest ih =>
    refine bind_follows _ (rewrite_follows rfl rfl (fun _ _ => rfl) held) ?_
    rintro _ answered medium ⟨rfl,held⟩
    refine Discipline.follows_mono ?_ (ih held)
    rintro (error | value) answered medium ends
    · trivial
    · refine ⟨ends.1,ends.2.mono (fun base next facts => ?_)⟩
      obtain ⟨middle,⟨draft,before,first⟩,later⟩ := facts
      exact ⟨draft,before,Option.bind_eq_some_iff.mpr ⟨middle,first,later⟩⟩

theorem applyPending_follows (target : Schema τ → Option (Schema τ)) (rest : List (Nat × Script τ)) (current : Nat)
    (held : Holding who (fun base draft => target base = Schema.upgradeFrom rest current draft) medium) :
    migrations.discipline.Follows who (Returned (fun _ answered medium => answered = given ∧
      Holding who (fun base draft => target base = some draft) medium)) (applyPending who rest current) given medium := by
  induction rest generalizing current given medium with
  | nil => exact ⟨rfl,held⟩
  | cons entry rest ih =>
    obtain ⟨version,script⟩ := entry
    unfold applyPending
    split
    · rename_i old
      refine ih current (held.mono (fun base draft facts => ?_))
      rw [facts,Schema.upgradeFrom,if_pos old]
    · rename_i pending
      refine bind_follows _ (executeAll_follows script held) ?_
      rintro _ answered medium ⟨rfl,held⟩
      refine bind_follows _ (rewrite_follows rfl rfl (fun _ _ => rfl) held) ?_
      rintro _ answered medium ⟨rfl,held⟩
      refine ih version (held.mono (fun base next facts => ?_))
      obtain ⟨middle,⟨draft,before,executed⟩,inserted⟩ := facts
      rw [before,Schema.upgradeFrom,if_neg pending,executed,Option.bind_some,inserted,Option.bind_some]

/-- The database has the scripts of the package behind it. -/
def Reached (scripts : List (Nat × Script τ)) (medium : Medium ι τ) : Prop :=
  ∀ entry ∈ scripts, entry.1 ≤ medium.committed.version

theorem Reached.stable {scripts : List (Nat × Script τ)} (reached : Reached scripts medium)
    (trusts : Medium.Trusts who medium other) : Reached scripts other :=
  fun entry member => Nat.le_trans (reached entry member) trusts.grows.version

theorem commit_follows {release : Nat} (opens : migrations.role who = .opens release)
    (held : Holding who (fun base draft => base.upgraded (migrations.package release) = some draft) medium) :
    migrations.discipline.Follows who (Returned (fun _ answered medium => answered = some () ∧
      Reached (migrations.package release) medium)) (ask (.commit who)) none medium := by
  refine ask_follows rfl rfl (fun other turn retryable trusts => ?_)
  dsimp only [MigrationCall.served]
  cases stored : other.draft? who with
  | none => exact ⟨Medium.guaranteed_refl retryable,none,.unseen rfl,trivial⟩
  | some draft =>
    have ran := held.stable trusts draft (Medium.draft?_iff.mp stored)
    obtain ⟨grows,reaches⟩ := Schema.upgraded_reaches ran
    refine ⟨Medium.published_guaranteed who retryable grows,some (),.takes ?_,rfl,reaches⟩
    change migrations.effect who other.committed () draft
    unfold effect
    rw [opens]
    exact ran

/-- A call that only gives up the process's own transaction, if anything. -/
theorem release_follows {call : MigrationCall ι τ (Except OpeningError α)} (caller : call.caller = who)
    (fails : call.failure = .error .sqlite) (releases : ∀ turn medium, (call.served turn medium).2 = medium ∨
      (call.served turn medium).2 = medium.released who) :
    migrations.discipline.Follows who (Returned (fun _ answered _ => answered = given)) (ask call) given medium := by
  refine ask_follows caller fails (fun other turn retryable _ => ?_)
  have returned : Returned (fun _ answered _ => answered = given) (call.served turn other).1 given (call.served turn other).2 := by
    cases (call.served turn other).1 with
    | error error => trivial
    | ok value => rfl
  refine ⟨?_,given,.unseen ?_,returned⟩
  · rcases releases turn other with same | same <;> rw [same]
    · exact Medium.guaranteed_refl retryable
    · exact Medium.released_guaranteed retryable
  · rcases releases turn other with same | same <;> rw [same]
    exact Medium.released_committed other who

theorem rollbackOpen_follows (error : OpeningError) :
    migrations.discipline.Follows who (Returned returns) (do
      rollbackOpen who (← ask (.inTransaction who))
      Fallible.raise error : Migrating ι τ α) given medium := by
  refine bind_follows _ (release_follows rfl rfl (fun _ _ => Or.inl rfl)) (fun active given medium _ => ?_)
  refine bind_follows (fun _ _ _ => True) ?_ (fun _ _ _ _ => Fallible.follows_raise trivial)
  unfold rollbackOpen
  split
  · refine Discipline.follows_mono ?_ (release_follows rfl rfl (fun _ _ => Or.inr rfl))
    rintro (error | value) answered medium ends <;> trivial
  · trivial

theorem applyMigrations_follows {release : Nat} (opens : migrations.role who = .opens release) :
    migrations.discipline.Follows who (Returned (fun _ answered medium => answered = some () ∧
      Reached (migrations.package release) medium)) (applyMigrations who (migrations.package release)) none medium := by
  unfold applyMigrations
  refine bind_follows _ beginImmediate_follows ?_
  rintro _ answered medium ⟨rfl,held⟩
  refine Fallible.follows_handle (Returned (fun _ answered medium => answered = some () ∧
    Reached (migrations.package release) medium)) ?_ (fun _ _ _ ends => ends) (fun error _ _ _ => rollbackOpen_follows error)
  refine bind_follows _ (currentVersion_follows held) ?_
  rintro current answered medium ⟨rfl,held⟩
  refine bind_follows _ (applyPending_follows (fun base => base.upgraded (migrations.package release)) _ current
    (held.mono (fun base draft facts => ?_))) ?_
  · obtain ⟨rfl,rfl⟩ := facts
    rfl
  · rintro _ answered medium ⟨rfl,held⟩
    exact commit_follows opens held

theorem countPending_follows {scripts : List (Nat × Script τ)} (reached : Reached scripts medium) :
    migrations.discipline.Follows who (Returned (fun pending answered medium => answered = given ∧
      Reached scripts medium ∧ medium.committed.maintenance = true ∧ (pending = 0 → Medium.Erased medium)))
      (ask (.countPending who)) given medium := by
  refine ask_follows rfl rfl (fun other turn retryable trusts => ⟨Medium.guaranteed_refl retryable,given,.unseen rfl,?_⟩)
  dsimp only [MigrationCall.served]
  cases exists_ : other.committed.maintenance with
  | false => trivial
  | true =>
    refine ⟨rfl,reached.stable trusts,exists_,fun none => ⟨exists_,?_⟩⟩
    cases residue : other.residue with
    | false => rfl
    | true => simp [(retryable residue).1] at none

theorem checkpoint_follows {scripts : List (Nat × Script τ)} (reached : Reached scripts medium)
    (exists_ : medium.committed.maintenance = true) :
    migrations.discipline.Follows who (Returned (fun report answered medium => answered = given ∧
      Reached scripts medium ∧ (report = some (0,0,0) → Medium.Erased medium))) (ask (.checkpoint who)) given medium := by
  refine ask_follows rfl rfl (fun other turn retryable trusts => ?_)
  dsimp only [MigrationCall.served]
  split
  · refine ⟨⟨fun held => (nomatch held),fun witness _ => ⟨fun _ => ⟨rfl,rfl⟩,.refl _,fun erased => ⟨erased.1,rfl⟩⟩⟩,
      given,.unseen rfl,rfl,?_,fun _ => ⟨trusts.grows.maintenance exists_,rfl⟩⟩
    have still : Reached scripts other := reached.stable trusts
    exact still
  · rename_i partly
    exact ⟨Medium.guaranteed_refl retryable,given,.unseen rfl,rfl,reached.stable trusts,fun whole => absurd whole partly⟩

variable (ι τ) in
omit [DecidableEq ι] in
/-- Only a checkpoint that reports zeros goes on. -/
theorem checkpointed_pure (report : Option (Nat × Nat × Nat)) :
    checkpointed report = (Fallible.raise .receiptErasurePending : Migrating ι τ Unit) ∨
      report = some (0,0,0) ∧ checkpointed report = (pure () : Migrating ι τ Unit) := by
  rcases report with _ | ⟨busy,logFrames,checkpointedFrames⟩
  · exact Or.inl rfl
  · by_cases zero : busy = 0 ∧ logFrames = 0 ∧ checkpointedFrames = 0
    · obtain ⟨rfl,rfl,rfl⟩ := zero
      exact Or.inr ⟨rfl,rfl⟩
    · exact Or.inl (if_pos (by omega))

theorem deletePending_follows {scripts : List (Nat × Script τ)} (reached : Reached scripts medium)
    (erased : Medium.Erased medium) :
    migrations.discipline.Follows who (Returned (fun _ answered medium => answered = given ∧
      Reached scripts medium ∧ Medium.Erased medium)) (ask (.deletePending who)) given medium := by
  refine ask_follows rfl rfl (fun other turn retryable trusts => ?_)
  have reaped := Medium.reaped_guaranteed who retryable turn.orphaned
  have same := Medium.reaped_committed other who turn.orphaned
  have clean : Medium.Erased (other.reaped who turn.orphaned) := by
    have held := trusts.erased erased
    refine ⟨same ▸ held.1,?_⟩
    unfold Medium.reaped
    split <;> exact held.2
  have still : Reached scripts (other.reaped who turn.orphaned) := by
    intro entry member
    rw [same]
    exact reached.stable trusts entry member
  dsimp only [MigrationCall.served]
  rcases Medium.autocommit_cases (other.reaped who turn.orphaned)
    (fun medium => if medium.committed.maintenance then some {medium with marked := false} else none)
    with ran | ⟨left,_,changed,ran⟩
  · rw [ran]
    exact ⟨reaped,given,.unseen same,trivial⟩
  · rw [ran]
    rw [if_pos clean.1] at changed
    cases changed
    refine ⟨reaped.trans ⟨fun residue => ?_,fun witness _ => ⟨fun _ => ⟨rfl,rfl⟩,.refl _,id⟩⟩,given,.unseen same,rfl,still,clean⟩
    exact absurd residue (by simp [clean.2])

theorem completePendingReceiptErasure_follows {scripts : List (Nat × Script τ)} (reached : Reached scripts medium) :
    migrations.discipline.Follows who (Returned (fun _ answered medium => answered = given ∧
      Reached scripts medium ∧ Medium.Erased medium)) (_completePendingReceiptErasure who) given medium := by
  unfold _completePendingReceiptErasure
  refine bind_follows _ (countPending_follows reached) ?_
  rintro pending answered medium ⟨rfl,reached,exists_,none⟩
  split
  · rename_i zero
    exact Fallible.follows_pure ⟨rfl,reached,none zero⟩
  · refine bind_follows _ (checkpoint_follows reached exists_) ?_
    rintro report answered medium ⟨rfl,reached,whole⟩
    refine bind_follows (fun _ after medium => after = answered ∧ Reached scripts medium ∧ Medium.Erased medium) ?_ ?_
    · rcases checkpointed_pure ι τ report with raises | ⟨zero,returns⟩
      · rw [raises]
        exact Fallible.follows_raise trivial
      · rw [returns]
        exact Fallible.follows_pure ⟨rfl,reached,whole zero⟩
    · rintro _ answered medium ⟨rfl,reached,erased⟩
      exact deletePending_follows reached erased

/-- What an opening can count on for good once it has returned. -/
def Opened (migrations : Migrations ι τ) (who : ι) (medium : Medium ι τ) : Prop :=
  ∀ release, migrations.role who = .opens release → Reached (migrations.package release) medium ∧ Medium.Erased medium

abbrev Ends (migrations : Migrations ι τ) (who : ι) : Except OpeningError Unit → Option Unit → Medium ι τ → Prop :=
  Returned (fun _ answered medium => answered = some () ∧ Opened migrations who medium)

theorem openCollaborators_follows {release : Nat} (opens : migrations.role who = .opens release) :
    migrations.discipline.Follows who (Returned (fun _ answered medium => answered = some () ∧
      Reached (migrations.package release) medium ∧ Medium.Erased medium))
      (openCollaborators who (migrations.package release)) none medium := by
  unfold openCollaborators
  refine Fallible.follows_handle (Returned (fun _ answered medium => answered = some () ∧
    Reached (migrations.package release) medium ∧ Medium.Erased medium)) ?_ (fun _ _ _ ends => ends) (fun error _ _ _ => ?_)
  · unfold initializeConnection
    refine bind_follows _ (applyMigrations_follows opens) ?_
    rintro _ answered medium ⟨rfl,reached⟩
    exact completePendingReceiptErasure_follows reached
  · refine bind_follows _ (release_follows rfl rfl (fun _ _ => Or.inr rfl)) (fun _ _ _ _ => ?_)
    exact Fallible.follows_raise trivial

theorem write_follows {change : τ → Option τ} (writes : migrations.role who = .writes change) :
    migrations.discipline.Follows who (Returned (fun _ answered _ => answered = some ())) (ask (.write who change)) none
      medium := by
  refine ask_follows rfl rfl (fun other turn retryable _ => ?_)
  have reaped := Medium.reaped_guaranteed who retryable turn.orphaned
  have same := Medium.reaped_committed other who turn.orphaned
  dsimp only [MigrationCall.served]
  rcases Medium.autocommit_cases (other.reaped who turn.orphaned) (fun medium =>
    (change medium.committed.tables).map (fun tables => {medium with committed := {medium.committed with tables}}))
    with ran | ⟨left,quiet,changed,ran⟩
  · rw [ran]
    exact ⟨reaped,none,.unseen same,trivial⟩
  · rw [ran]
    obtain ⟨tables,written,rfl⟩ := Option.map_eq_some_iff.mp changed
    refine ⟨reaped.trans ⟨reaped.1,fun witness _ => ⟨fun owned => ?_,⟨Nat.le_refl _,id⟩,id⟩⟩,some (),.takes ?_,rfl⟩
    · obtain ⟨_,begun,_⟩ := Medium.owns_iff.mp owned
      rw [show (other.reaped who turn.orphaned).writer = some _ from begun] at quiet
      cases quiet
    · change migrations.effect who other.committed () _
      unfold effect
      rw [writes]
      rw [same] at written ⊢
      exact ⟨tables,written,rfl⟩

theorem program_follows :
    migrations.discipline.Follows who (Ends migrations who) (migrations.program who) none medium := by
  unfold program
  split
  · rename_i release opens
    refine Discipline.follows_mono ?_ (openCollaborators_follows opens)
    rintro (error | value) answered medium ends
    · trivial
    · refine ⟨ends.1,fun other again => ?_⟩
      obtain rfl : release = other := by simpa [opens] using again
      exact ends.2
  · rename_i change writes
    refine Discipline.follows_mono ?_ (write_follows writes)
    rintro (error | value) answered medium ends
    · trivial
    · exact ⟨ends,fun _ opens => by simp [writes] at opens⟩

omit [DecidableEq ι] in
theorem numbered_mem (scripts : List (Script τ)) (first : Nat) {index : Nat} (within : index < scripts.length) :
    ∃ script, (first + index,script) ∈ numbered first scripts := by
  induction scripts generalizing first index with
  | nil => simp at within
  | cons script rest ih =>
    cases index with
    | zero => exact ⟨script,List.mem_cons_self⟩
    | succ index =>
      obtain ⟨later,member⟩ := ih (first + 1) (Nat.lt_of_succ_lt_succ within)
      refine ⟨later,List.mem_cons_of_mem _ ?_⟩
      rwa [Nat.add_comm index 1,← Nat.add_assoc]

/-- The versions stay without a gap, and none is taken back. -/
def Grows (migrations : Migrations ι τ) (before after : Schema τ) : Prop :=
  ∀ known, before.recorded = List.range' 1 known → known ≤ migrations.history.length →
    ∃ reached, after.recorded = List.range' 1 reached ∧ known ≤ reached ∧ reached ≤ migrations.history.length

omit [DecidableEq ι] in
theorem Grows.refl (schema : Schema τ) : migrations.Grows schema schema :=
  fun known stored bounded => ⟨known,stored,Nat.le_refl _,bounded⟩

omit [DecidableEq ι] in
theorem Grows.trans {first second third : Schema τ} (one : migrations.Grows first second)
    (two : migrations.Grows second third) : migrations.Grows first third := by
  intro known stored bounded
  obtain ⟨middle,stored,later,bounded⟩ := one known stored bounded
  obtain ⟨reached,stored,latest,bounded⟩ := two middle stored bounded
  exact ⟨reached,stored,Nat.le_trans later latest,bounded⟩

omit [DecidableEq ι] in
theorem effect_grows {before after : Schema τ} (does : migrations.effect who before () after) :
    migrations.Grows before after := by
  intro known stored bounded
  unfold effect at does
  split at does
  · rename_i release opens
    have shipped := migrations.shipped who release opens
    unfold Schema.upgraded package at does
    rw [Schema.version,stored,Schema.foldr_max_range] at does
    refine ⟨_,Schema.upgradeFrom_recorded (Nat.zero_le known) stored does,Nat.le_max_left _ _,?_⟩
    rw [List.length_take]
    omega
  · obtain ⟨tables,_,rfl⟩ := does
    exact ⟨known,stored,Nat.le_refl _,bounded⟩

theorem atomic_grows {before after : Schema τ} {turns : List ι} {answered : ι → Option Unit}
    (atomic : Atomic migrations.effect before turns answered after) : migrations.Grows before after := by
  induction atomic with
  | start => exact .refl before
  | pass who before ih => exact ih
  | take before first does ih => exact ih.trans (effect_grows does)

theorem ends_stable (who : ι) (outcome : Except OpeningError Unit) (given : Option Unit) (medium other : Medium ι τ)
    (trusts : Medium.Trusts who medium other) (ends : Ends migrations who outcome given medium) :
    Ends migrations who outcome given other := by
  cases outcome with
  | error error => trivial
  | ok value =>
    refine ⟨ends.1,fun release opens => ?_⟩
    obtain ⟨reached,erased⟩ := ends.2 release opens
    exact ⟨reached.stable trusts,trusts.erased erased⟩

/-- Two scripts, one process that opens the database with both, and one that writes. -/
def sampleMigrations : Migrations Bool Nat where
  history := [[.createVersions],[.markErasure,.other (fun count => some (count + 1))]]
  role who := if who then .opens 2 else .writes (fun count => some (count * 2))
  shipped who release opens := by
    cases who with
    | false => cases opens
    | true =>
      cases opens
      exact Nat.le_refl 2

def emptyMedium : Medium Bool Nat := ⟨⟨none,false,0⟩,none,false,false⟩

/-- A write between the statements of an opening. -/
def sampleSchedule : List (Bool × MigrationTurn) :=
  (List.replicate 9 true ++ [false] ++ List.replicate 9 true).map (fun who => (who,⟨false,false,true,some (0,0,0)⟩))

theorem emptyMedium_retryable : emptyMedium.Retryable := fun residue => (nomatch residue)

section runs
variable (migrations)

theorem run_opened (retryable : medium.Retryable) (schedule : List (ι × MigrationTurn)) :
    let after := (Crowd.mk migrations.program medium).run MigrationCall.machine schedule
    after.state.Retryable ∧ ∃ answered,
      Atomic migrations.effect medium.committed (schedule.map Prod.fst) answered after.state.committed ∧
      ∀ who, after.programs who = .done (.ok ()) → answered who = some () ∧ Opened migrations who after.state := by
  intro after
  have begins : migrations.discipline.kept (Crowd.mk migrations.program medium).state := retryable
  obtain ⟨keeps,answered,atomic,ends⟩ := migrations.discipline.run_atomic ends_stable begins .start
    (fun who => program_follows) schedule
  exact ⟨keeps,answered,atomic,fun who ended => ends who _ ended⟩

theorem run_grows (retryable : medium.Retryable) (schedule later : List (ι × MigrationTurn)) :
    let middle := (Crowd.mk migrations.program medium).run MigrationCall.machine schedule
    migrations.Grows middle.state.committed (middle.run MigrationCall.machine later).state.committed := by
  intro middle
  have begins : migrations.discipline.kept (Crowd.mk migrations.program medium).state := retryable
  have chains (first second third : Schema τ) := @Grows.trans ι τ migrations first second third
  have moves (who : ι) (before : Schema τ) (_ : Unit) (after : Schema τ) := @effect_grows ι τ migrations who before after
  obtain ⟨_,keeps,_,follows⟩ := migrations.discipline.run_shown ends_stable Grows.refl chains moves begins
    (fun who => program_follows) schedule
  exact (migrations.discipline.run_shown ends_stable Grows.refl chains moves keeps follows later).1

/-- Every opening that commits migrates the database in one step, whatever happens between its
statements: the scripts run once each, in order, and none is left out or taken back. -/
theorem migrations_atomic (retryable : medium.Retryable) {known : Nat}
    (stored : medium.committed.recorded = List.range' 1 known) (bounded : known ≤ migrations.history.length)
    (schedule : List (ι × MigrationTurn)) :
    let after := (Crowd.mk migrations.program medium).run MigrationCall.machine schedule
    ∃ answered reached, Atomic migrations.effect medium.committed (schedule.map Prod.fst) answered after.state.committed ∧
      after.state.committed.recorded = List.range' 1 reached ∧ known ≤ reached ∧ reached ≤ migrations.history.length ∧
      (∀ who, after.programs who = .done (.ok ()) → answered who = some () ∧
        ∀ release, migrations.role who = .opens release → release ≤ reached) ∧
      ∀ later, ∃ further, reached ≤ further ∧
        (after.run MigrationCall.machine later).state.committed.recorded = List.range' 1 further := by
  intro after
  obtain ⟨_,answered,atomic,ends⟩ := run_opened migrations retryable schedule
  obtain ⟨reached,recorded,later,bound⟩ := atomic_grows atomic known stored bounded
  refine ⟨answered,reached,atomic,recorded,later,bound,fun who ended => ⟨(ends who ended).1,fun release opens => ?_⟩,
    fun later => ?_⟩
  · cases release with
    | zero => exact Nat.zero_le _
    | succ release =>
      have shipped := migrations.shipped who _ opens
      obtain ⟨script,member⟩ := numbered_mem (migrations.history.take (release + 1)) 1
        (show release < _ by rw [List.length_take]; omega)
      have reaches := ((ends who ended).2 _ opens).1 _ member
      rw [Schema.version,recorded,Schema.foldr_max_range] at reaches
      omega
  · obtain ⟨further,stored,above,_⟩ := run_grows migrations retryable schedule later reached recorded bound
    exact ⟨further,above,stored⟩

theorem migrations_atomic_sample :
    let after := (Crowd.mk sampleMigrations.program emptyMedium).run MigrationCall.machine sampleSchedule
    ∃ answered reached, Atomic sampleMigrations.effect ⟨none,false,0⟩ (sampleSchedule.map Prod.fst) answered
        after.state.committed ∧
      after.state.committed.recorded = List.range' 1 reached ∧ 0 ≤ reached ∧ reached ≤ 2 ∧
      (∀ who, after.programs who = .done (.ok ()) → answered who = some () ∧
        ∀ release, sampleMigrations.role who = .opens release → release ≤ reached) ∧
      ∀ later, ∃ further, reached ≤ further ∧
        (after.run MigrationCall.machine later).state.committed.recorded = List.range' 1 further :=
  migrations_atomic sampleMigrations emptyMedium_retryable rfl (by decide) sampleSchedule

/-- No opening has returned while receipts that the migration deleted are still in the files, and as
long as they are the database says so. -/
theorem receipts_erased (retryable : medium.Retryable) (schedule : List (ι × MigrationTurn)) :
    let after := (Crowd.mk migrations.program medium).run MigrationCall.machine schedule
    (∀ who release, migrations.role who = .opens release → after.programs who = .done (.ok ()) →
      after.state.residue = false) ∧
    (after.state.residue = true → after.state.marked = true) := by
  intro after
  obtain ⟨keeps,answered,_,ends⟩ := run_opened migrations retryable schedule
  exact ⟨fun who release opens ended => ((ends who ended).2 release opens).2.2,fun residue => (keeps residue).1⟩

theorem receipts_erased_sample :
    let after := (Crowd.mk sampleMigrations.program emptyMedium).run MigrationCall.machine sampleSchedule
    after.programs true = .done (.ok ()) ∧ after.state.residue = false := by
  intro after
  have ended : after.programs true = .done (.ok ()) := rfl
  exact ⟨ended,(receipts_erased sampleMigrations emptyMedium_retryable sampleSchedule).1 true 2 rfl ended⟩

end runs

section alone
variable {draft next : Schema τ}

/-- No statement fails, whoever had a transaction open has died, and the checkpoint empties the log. -/
def undisturbed : MigrationTurn := ⟨false,false,true,some (0,0,0)⟩

theorem rewrite_alone {call : MigrationCall ι τ (Except OpeningError Unit)} {change : Schema τ → Option (Schema τ)}
    (rewrites : ∀ turn medium, call.served turn medium = medium.rewrite who change)
    (begun : medium.writer = some (who,draft)) (changed : change draft = some next) :
    Process.finish MigrationCall.machine undisturbed (ask call) medium =
      (.ok (),{medium with writer := some (who,next)}) := by
  change call.served undisturbed medium = _
  rw [rewrites]
  unfold Medium.rewrite
  rw [Medium.draft?_iff.mpr begun,Option.bind_some,changed]

theorem executeAll_alone {script : Script τ} (begun : medium.writer = some (who,draft))
    (ran : draft.executeAll script = some next) :
    Process.finish MigrationCall.machine undisturbed (executeAll who script) medium =
      (.ok (),{medium with writer := some (who,next)}) := by
  induction script generalizing draft medium with
  | nil =>
    cases ran
    rw [← begun]
    rfl
  | cons statement rest ih =>
    obtain ⟨middle,first,later⟩ := Option.bind_eq_some_iff.mp ran
    unfold executeAll
    rw [Fallible.finish_bind_ok (rewrite_alone (fun _ _ => rfl) begun first)]
    exact ih rfl later

theorem applyPending_alone {scripts : List (Nat × Script τ)} {current : Nat} (begun : medium.writer = some (who,draft))
    (ran : Schema.upgradeFrom scripts current draft = some next) :
    Process.finish MigrationCall.machine undisturbed (applyPending who scripts current) medium =
      (.ok (),{medium with writer := some (who,next)}) := by
  induction scripts generalizing draft medium current with
  | nil =>
    cases ran
    rw [← begun]
    rfl
  | cons entry rest ih =>
    obtain ⟨version,script⟩ := entry
    unfold Schema.upgradeFrom at ran
    unfold applyPending
    split at ran
    · rename_i old
      rw [if_pos old]
      exact ih begun ran
    · rename_i pending
      obtain ⟨recorded,inner,ran⟩ := Option.bind_eq_some_iff.mp ran
      obtain ⟨middle,executed,inserted⟩ := Option.bind_eq_some_iff.mp inner
      rw [if_neg pending,Fallible.finish_bind_ok (executeAll_alone begun executed),
        Fallible.finish_bind_ok (rewrite_alone (fun _ _ => rfl) rfl inserted)]
      exact ih rfl ran

theorem currentVersion_alone (begun : medium.writer = some (who,draft)) :
    Process.finish MigrationCall.machine undisturbed (currentVersion who) medium = (.ok draft.version,medium) := by
  have mine : medium.draft? who = some draft := Medium.draft?_iff.mpr begun
  have counted : Process.finish MigrationCall.machine undisturbed (ask (.versionTables who)) medium =
      (.ok (if draft.versions.isSome then 1 else 0),medium) := by
    change MigrationCall.served undisturbed (.versionTables who) medium = _
    dsimp only [MigrationCall.served]
    rw [mine]
    rfl
  unfold currentVersion
  rw [Fallible.finish_bind_ok counted]
  cases stored : draft.versions with
  | none => simp [Schema.version,Schema.recorded,stored]; rfl
  | some rows =>
    change MigrationCall.served undisturbed (.maxVersion who) medium = _
    dsimp only [MigrationCall.served]
    rw [mine]
    rfl

theorem beginImmediate_alone (fresh : medium.owns who = false) :
    Process.finish MigrationCall.machine undisturbed (ask (.beginImmediate who)) medium =
      (.ok (),{medium with writer := some (who,medium.committed)}) := by
  change MigrationCall.served undisturbed (.beginImmediate who) medium = _
  dsimp only [MigrationCall.served]
  unfold Medium.reaped
  rw [fresh]
  rfl

theorem applyMigrations_alone {scripts : List (Nat × Script τ)} {after : Schema τ} (fresh : medium.owns who = false)
    (applies : medium.committed.upgraded scripts = some after) :
    Process.finish MigrationCall.machine undisturbed (applyMigrations who scripts) medium =
      (.ok (),medium.published after) := by
  unfold applyMigrations
  rw [Fallible.finish_bind_ok (beginImmediate_alone fresh)]
  refine Fallible.finish_handle_ok ?_
  rw [Fallible.finish_bind_ok (currentVersion_alone rfl),Fallible.finish_bind_ok (applyPending_alone rfl applies)]
  change MigrationCall.served undisturbed (.commit who) _ = _
  dsimp only [MigrationCall.served]
  rw [Medium.draft?_iff.mpr rfl]
  rfl

theorem completePendingReceiptErasure_alone (retryable : medium.Retryable) (quiet : medium.writer = none)
    (exists_ : medium.committed.maintenance = true) :
    Process.finish MigrationCall.machine undisturbed (_completePendingReceiptErasure who) medium =
      (.ok (),⟨medium.committed,none,false,false⟩) := by
  obtain ⟨committed,writer,marked,residue⟩ := medium
  dsimp only at quiet exists_
  subst quiet
  have counted : Process.finish MigrationCall.machine undisturbed (ask (.countPending who))
      (⟨committed,none,marked,residue⟩ : Medium ι τ) = (.ok (if marked then 1 else 0),⟨committed,none,marked,residue⟩) := by
    change MigrationCall.served undisturbed (.countPending who) _ = _
    dsimp only [MigrationCall.served]
    rw [if_pos exists_]
  unfold _completePendingReceiptErasure
  rw [Fallible.finish_bind_ok counted]
  cases marked with
  | false =>
    have clean : residue = false := by
      cases residue with
      | false => rfl
      | true => exact (retryable rfl).1.symm
    subst clean
    rfl
  | true =>
    have emptied : Process.finish MigrationCall.machine undisturbed (ask (.checkpoint who))
        (⟨committed,none,true,residue⟩ : Medium ι τ) = (.ok (some (0,0,0)),⟨committed,none,true,false⟩) := rfl
    have passed : Process.finish MigrationCall.machine undisturbed (checkpointed (some (0,0,0)))
        (⟨committed,none,true,false⟩ : Medium ι τ) = (.ok (),⟨committed,none,true,false⟩) := rfl
    rw [if_pos rfl,if_neg (by decide),Fallible.finish_bind_ok emptied,Fallible.finish_bind_ok passed]
    change MigrationCall.served undisturbed (.deletePending who) (⟨committed,none,true,false⟩ : Medium ι τ) = _
    simp [MigrationCall.served,Medium.reaped,Medium.owns,Medium.autocommit,exists_,undisturbed]

/-- An opening that is left alone ends, whatever the processes before it were killed in. -/
theorem migrations_recover (migrations : Migrations ι τ) {scripts : List (Nat × Script τ)} {after : Schema τ}
    (retryable : medium.Retryable) (schedule : List (ι × MigrationTurn)) :
    let left := ((Crowd.mk migrations.program medium).run MigrationCall.machine schedule).state
    left.owns who = false → left.committed.upgraded scripts = some after → after.maintenance = true →
    Process.finish MigrationCall.machine undisturbed (openCollaborators who scripts) left =
      (.ok (),⟨after,none,false,false⟩) := by
  intro left fresh applies exists_
  obtain ⟨keeps,_⟩ := run_opened migrations retryable schedule
  have published := (Medium.published_guaranteed who keeps (Schema.upgraded_reaches applies).1).1
  unfold openCollaborators
  refine Fallible.finish_handle_ok ?_
  unfold initializeConnection
  rw [Fallible.finish_bind_ok (applyMigrations_alone fresh applies)]
  exact completePendingReceiptErasure_alone published rfl exists_

theorem migrations_recover_sample :
    Process.finish MigrationCall.machine undisturbed (openCollaborators true (sampleMigrations.package 2)) emptyMedium =
      (.ok (),⟨⟨some [1,2],true,1⟩,none,false,false⟩) :=
  migrations_recover sampleMigrations emptyMedium_retryable [] rfl rfl rfl

end alone
end Migrations
end Proactive.Store
