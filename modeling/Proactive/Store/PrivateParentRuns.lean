import Proactive.Store.PrivateParent

/-! What a private parent stands on, and that no other user can move it. -/
namespace Proactive.Store
open Proactive.Library DirectoryTree

def Trusted (user uid : Uid) : Prop := uid = 0 ∨ uid = user

theorem closedMode_shares {mode : Mode} (closed : closedMode mode = true) : mode.sharesWrite = false := by
  have zero : mode &&& 0o077#12 = 0#12 := of_decide_eq_true closed
  have shared : mode &&& 0o22#12 = 0#12 := by
    have narrower : (0o077#12 : Mode) &&& 0o22#12 = 0o22#12 := by decide
    rw [← narrower,← BitVec.and_assoc,zero,BitVec.zero_and]
  simp [Mode.sharesWrite,shared]

theorem privateDirectoryMode_closed : closedMode privateDirectoryMode = true := by decide

theorem considerate_careful {deed : Deed String} (considerate : Considerate deed) : Careful deed := by
  cases deed with
  | chmod node mode =>
    intro shares
    rw [closedMode_shares considerate] at shares
    cases shares
  | make | link => trivial
  | remove directory name whole => exact considerate

section disturbances
variable {user : Uid} {root : Nat} {α : Type}

theorem Disturbance.harmless (disturbance : Disturbance user) :
    ¬Trusted user disturbance.1.1 ∨ Careful disturbance.1.2 := by
  rcases disturbance.2 with ⟨notRoot,notUser⟩ | ⟨_,considerate⟩
  · refine Or.inl (fun trusted => ?_)
    rcases trusted with same | same
    · exact notRoot same
    · exact notUser same
  · exact Or.inr (considerate_careful considerate)

/-- What no disturbance changes. -/
def Stable (user : Uid) (kept : DirectoryTree String → Prop) : Prop :=
  ∀ (disturbance : Disturbance user) (tree left : DirectoryTree String),
    perform disturbance.1.1 tree disturbance.1.2 = some left → kept tree → kept left

theorem Stable.disturbed {kept : DirectoryTree String → Prop} (stable : Stable user kept) {world : ParentWorld}
    (held : kept world.tree) (meanwhile : List (Disturbance user)) : kept (world.disturbed meanwhile).tree := by
  induction meanwhile generalizing world with
  | nil => exact held
  | cons disturbance rest ih =>
    refine @ih ⟨attempt world.tree disturbance.1,world.descriptors⟩ ?_
    unfold attempt
    cases ran : perform disturbance.1.1 world.tree disturbance.1.2 with
    | none => exact held
    | some left => exact stable disturbance _ _ ran held

/-- Held directories lead to a guarded one. -/
def Reached (user : Uid) (root : Nat) (front : List String) (current : Nat) (tree : DirectoryTree String) : Prop :=
  Anchored (Trusted user) tree root front current ∧ Guarded (Trusted user) tree current

/-- A directory that was opened under its name; if its owner is trusted, it still has that name. -/
def Entered (user : Uid) (current : Nat) (part : String) (next : Nat) (tree : DirectoryTree String) : Prop :=
  ∃ node, tree next = some node ∧ node.isDirectory = true ∧
    (Trusted user node.owner → child tree current part = some next)

/-- A directory of the user that lets nobody else in. -/
def PrivateDirectory (user : Uid) (directory : Nat) (tree : DirectoryTree String) : Prop :=
  ∃ node, tree directory = some node ∧ node.isDirectory = true ∧ node.owner = user ∧ closedMode node.mode = true

variable {front : List String} {current next : Nat} {part : String} {tree left : DirectoryTree String} {uid : Uid}
  {deed : Deed String}

theorem Reached.perform (reached : Reached user root front current tree) (harmless : ¬Trusted user uid ∨ Careful deed)
    (ran : perform uid tree deed = some left) : Reached user root front current left :=
  ⟨reached.1.perform harmless ran,reached.2.perform harmless ran⟩

theorem Entered.perform (entered : Entered user current part next tree) (guarded : Guarded (Trusted user) tree current)
    (harmless : ¬Trusted user uid ∨ Careful deed) (ran : perform uid tree deed = some left) :
    Entered user current part next left := by
  obtain ⟨node,found,directory,named⟩ := entered
  obtain ⟨after,present,bears⟩ := perform_bears ran found
  refine ⟨after,present,bears.directory.trans directory,fun owner => ?_⟩
  rw [bears.owner] at owner
  exact child_kept guarded (named owner) found directory owner harmless ran

theorem Stable.and {first second : DirectoryTree String → Prop} (one : Stable user first) (two : Stable user second) :
    Stable user (fun tree => first tree ∧ second tree) :=
  fun disturbance _ _ ran both => ⟨one disturbance _ _ ran both.1,two disturbance _ _ ran both.2⟩

variable {world : ParentWorld}

/-- A directory as the walk leaves it. -/
def SealedDirectory (user : Uid) (directory : Nat) (tree : DirectoryTree String) : Prop :=
  ∃ node, tree directory = some node ∧ node.isDirectory = true ∧ node.owner = user ∧ node.mode = privateDirectoryMode

theorem SealedDirectory.private (whole : SealedDirectory user next tree) : PrivateDirectory user next tree := by
  obtain ⟨node,found,directory,owner,same⟩ := whole
  refine ⟨node,found,directory,owner,?_⟩
  rw [same]
  exact privateDirectoryMode_closed

theorem PrivateDirectory.guarded (shut : PrivateDirectory user next tree) : Guarded (Trusted user) tree next := by
  obtain ⟨node,found,_,owner,closed⟩ := shut
  refine ⟨node,found,Or.inr owner,fun shares => ?_⟩
  rw [closedMode_shares closed] at shares
  cases shares

/-- A component of a trusted owner stands where it was opened. -/
theorem Reached.anchored (reached : Reached user root front current tree) (entered : Entered user current part next tree)
    {node : Node String} (found : tree next = some node) (owner : Trusted user node.owner) :
    Anchored (Trusted user) tree root (front ++ [part]) next := by
  obtain ⟨other,same,directory,named⟩ := entered
  obtain rfl := Option.some.inj (found.symm.trans same)
  exact reached.1.snoc ⟨reached.2,named owner,node,found,directory,owner⟩

variable {rest : List String} {others : List Nat}

/-- Nobody else adds or takes an entry there, or changes its mode. -/
theorem PrivateDirectory.untouched (shut : PrivateDirectory user next tree) {strangers : List (Uid × Deed String)}
    (foreign : ∀ entry ∈ strangers, entry.1 ≠ 0 ∧ entry.1 ≠ user) : Run.run attempt tree strangers next = tree next := by
  obtain ⟨node,found,_,owner,closed⟩ := shut
  rw [found]
  induction strangers generalizing tree with
  | nil => exact found
  | cons entry rest ih =>
    refine ih (fun other member => foreign other (List.mem_cons_of_mem _ member)) ?_
    unfold attempt
    cases ran : perform entry.1 tree entry.2 with
    | none => exact found
    | some left =>
      obtain ⟨after,present,bears⟩ := perform_bears ran found
      have other : entry.1 ≠ node.owner := owner ▸ (foreign entry List.mem_cons_self).2
      obtain rfl := bears.untouched other (closedMode_shares closed)
      exact present

variable (user root)

end disturbances

end Proactive.Store
