import Mathlib.Logic.Function.Basic
import Proactive.Library.Run

/-! Directory trees under permission bits: what the other users cannot change, however many steps
they make. -/
namespace Proactive.Library
variable {ν : Type}

abbrev Mode := BitVec 12

abbrev Uid := Nat

def Mode.sharesWrite (mode : Mode) : Bool := mode &&& 0o22#12 ≠ 0#12

def Mode.sticky (mode : Mode) : Bool := mode &&& 0o1000#12 ≠ 0#12

inductive NodeKind (ν : Type)
  | directory (entries : ν → Option Nat)
  | symlink
  | other

structure Node (ν : Type) where
  kind : NodeKind ν
  owner : Uid
  mode : Mode

namespace Node

def isDirectory (node : Node ν) : Bool :=
  match node.kind with
  | .directory _ => true
  | .symlink | .other => false

def entries (node : Node ν) : ν → Option Nat :=
  match node.kind with
  | .directory entries => entries
  | .symlink | .other => fun _ => none

def enter [DecidableEq ν] (node : Node ν) (name : ν) (entry : Option Nat) : Node ν :=
  match node.kind with
  | .directory entries => {node with kind := .directory (Function.update entries name entry)}
  | .symlink | .other => node

/-- The bits of a group, and of an access list behind them, are taken to let everyone in. -/
def lets (user : Uid) (node : Node ν) : Bool := node.owner = user || node.mode.sharesWrite

theorem lets_false {user : Uid} {node : Node ν} (foreign : user ≠ node.owner) (closed : node.mode.sharesWrite = false) :
    node.lets user = false := by
  unfold lets
  rw [closed,Bool.or_false,decide_eq_false_iff_not]
  exact foreign.symm

variable [DecidableEq ν] {node : Node ν} {name other : ν} {entry : Option Nat}

@[simp] theorem enter_owner : (node.enter name entry).owner = node.owner := by
  obtain ⟨kind,owner,mode⟩ := node
  cases kind <;> rfl

@[simp] theorem enter_mode : (node.enter name entry).mode = node.mode := by
  obtain ⟨kind,owner,mode⟩ := node
  cases kind <;> rfl

@[simp] theorem enter_isDirectory : (node.enter name entry).isDirectory = node.isDirectory := by
  obtain ⟨kind,owner,mode⟩ := node
  cases kind <;> rfl

theorem enter_entries_other (apart : other ≠ name) : (node.enter name entry).entries other = node.entries other := by
  obtain ⟨kind,owner,mode⟩ := node
  cases kind with
  | directory entries => exact Function.update_of_ne apart _ _
  | _ => rfl

end Node

/-- A number names one node for ever. -/
abbrev DirectoryTree (ν : Type) := Nat → Option (Node ν)

/-- A change to a tree. A rename is a removal and a link; `whole` says that a directory is removed. -/
inductive Deed (ν : Type)
  | chmod (node : Nat) (mode : Mode)
  | make (directory : Nat) (name : ν) (node : Nat) (kind : NodeKind ν) (mode : Mode)
  | link (directory : Nat) (name : ν) (node : Nat)
  | remove (directory : Nat) (name : ν) (whole : Bool)

namespace DirectoryTree

def child (tree : DirectoryTree ν) (directory : Nat) (name : ν) : Option Nat :=
  (tree directory).bind (fun node => node.entries name)

/-- The node a path leads to, when every name on the way is a directory's own. -/
def resolve (tree : DirectoryTree ν) : Nat → List ν → Option Nat
  | start,[] => some start
  | start,name::rest => (child tree start name).bind (fun next => resolve tree next rest)

/-- An entry of a sticky directory is left to its owner and to the owner of the directory. -/
def yields (tree : DirectoryTree ν) (user : Uid) (directory : Node ν) (name : ν) : Bool :=
  directory.lets user && (!directory.mode.sticky || directory.owner = user ||
    ((directory.entries name).bind tree).any (fun node => node.owner = user))

variable [DecidableEq ν]

def assign (tree : DirectoryTree ν) (directory : Nat) (name : ν) (entry : Option Nat) : DirectoryTree ν :=
  Function.update tree directory ((tree directory).map (fun node => node.enter name entry))

/-- No deed, when the permissions or the entries are against it. -/
def perform (user : Uid) (tree : DirectoryTree ν) : Deed ν → Option (DirectoryTree ν)
  | .chmod node mode => (tree node).bind (fun found =>
    if found.owner = user then some (Function.update tree node (some {found with mode})) else none)
  | .make directory name node kind mode => (tree directory).bind (fun found =>
    if found.isDirectory && found.lets user && (found.entries name).isNone && (tree node).isNone then
      some (assign (Function.update tree node (some ⟨kind,user,mode⟩)) directory name (some node))
    else none)
  | .link directory name node => (tree directory).bind (fun found =>
    if found.isDirectory && found.lets user && (found.entries name).isNone && (tree node).isSome then
      some (assign tree directory name (some node))
    else none)
  | .remove directory name whole => (tree directory).bind (fun found =>
    if yields tree user found name && ((found.entries name).bind tree).all (fun node => node.isDirectory == whole) then
      some (assign tree directory name none)
    else none)

/-- A deed that is refused changes nothing. -/
def attempt (tree : DirectoryTree ν) (entry : Uid × Deed ν) : DirectoryTree ν :=
  (perform entry.1 tree entry.2).getD tree

variable {user : Uid} {tree left : DirectoryTree ν} {deed : Deed ν} {id directory : Nat} {name : ν} {node after : Node ν}

theorem assign_other {entry : Option Nat} (other : id ≠ directory) : assign tree directory name entry id = tree id :=
  Function.update_of_ne other _ _

theorem assign_self {entry : Option Nat} (found : tree id = some node) :
    assign tree id name entry id = some (node.enter name entry) := by
  unfold assign
  rw [Function.update_self,found]
  rfl

/-- All that a deed does to a node: who may change the mode, and who may take an entry away. -/
structure Bears (user : Uid) (tree : DirectoryTree ν) (deed : Deed ν) (id : Nat) (node after : Node ν) : Prop where
  owner : after.owner = node.owner
  directory : after.isDirectory = node.isDirectory
  mode : after.mode = node.mode ∨ user = node.owner ∧ deed = .chmod id after.mode
  entries : ∀ name entry, node.entries name = some entry →
    after.entries name = some entry ∨ ∃ whole, deed = .remove id name whole ∧ yields tree user node name = true ∧
      (tree entry).all (fun node => node.isDirectory == whole) = true
  untouched : user ≠ node.owner → node.mode.sharesWrite = false → after = node

omit [DecidableEq ν] in
theorem Bears.refl (node : Node ν) : Bears user tree deed id node node :=
  ⟨rfl,rfl,Or.inl rfl,fun _ _ found => Or.inl found,fun _ _ => rfl⟩

/-- A new entry takes the place of none. -/
theorem bears_entered {entry : Nat} (may : node.lets user = true) (absent : node.entries name = none) :
    Bears user tree deed id node (node.enter name (some entry)) := by
  refine ⟨node.enter_owner,node.enter_isDirectory,Or.inl node.enter_mode,fun other found listed => Or.inl ?_,
    fun foreign closed => ?_⟩
  · rw [Node.enter_entries_other]
    · exact listed
    · intro same
      subst same
      cases absent.symm.trans listed
  · rw [Node.lets_false foreign closed] at may
    cases may

theorem perform_bears (ran : perform user tree deed = some left) (found : tree id = some node) :
    ∃ after, left id = some after ∧ Bears user tree deed id node after := by
  cases deed with
  | chmod target mode =>
    obtain ⟨old,present,ran⟩ := Option.bind_eq_some_iff.mp ran
    simp only [Option.ite_none_right_eq_some,Option.some.injEq] at ran
    obtain ⟨own,rfl⟩ := ran
    by_cases same : id = target
    · subst same
      obtain rfl := Option.some.inj (present.symm.trans found)
      exact ⟨_,Function.update_self _ _ _,rfl,rfl,Or.inr ⟨own.symm,rfl⟩,fun _ _ listed => Or.inl listed,
        fun foreign => absurd own.symm foreign⟩
    · exact ⟨node,(Function.update_of_ne same _ _).trans found,.refl node⟩
  | make target name new kind mode =>
    obtain ⟨old,present,ran⟩ := Option.bind_eq_some_iff.mp ran
    simp only [Option.ite_none_right_eq_some,Bool.and_eq_true,Option.isNone_iff_eq_none,Option.some.injEq] at ran
    obtain ⟨⟨⟨⟨_,may⟩,absent⟩,fresh⟩,rfl⟩ := ran
    have kept : (Function.update tree new (some ⟨kind,user,mode⟩) : DirectoryTree ν) id = some node := by
      rw [Function.update_of_ne]
      · exact found
      · intro same
        subst same
        cases fresh.symm.trans found
    by_cases same : id = target
    · subst same
      obtain rfl := Option.some.inj (present.symm.trans found)
      exact ⟨_,assign_self kept,bears_entered may absent⟩
    · exact ⟨node,(assign_other same).trans kept,.refl node⟩
  | link target name entry =>
    obtain ⟨old,present,ran⟩ := Option.bind_eq_some_iff.mp ran
    simp only [Option.ite_none_right_eq_some,Bool.and_eq_true,Option.isNone_iff_eq_none,Option.some.injEq] at ran
    obtain ⟨⟨⟨⟨_,may⟩,absent⟩,_⟩,rfl⟩ := ran
    by_cases same : id = target
    · subst same
      obtain rfl := Option.some.inj (present.symm.trans found)
      exact ⟨_,assign_self found,bears_entered may absent⟩
    · exact ⟨node,(assign_other same).trans found,.refl node⟩
  | remove target name whole =>
    obtain ⟨old,present,ran⟩ := Option.bind_eq_some_iff.mp ran
    simp only [Option.ite_none_right_eq_some,Bool.and_eq_true,Option.some.injEq] at ran
    obtain ⟨⟨may,fits⟩,rfl⟩ := ran
    by_cases same : id = target
    · subst same
      obtain rfl := Option.some.inj (present.symm.trans found)
      refine ⟨_,assign_self found,Node.enter_owner,Node.enter_isDirectory,Or.inl Node.enter_mode,fun other entry listed => ?_,
        fun foreign closed => ?_⟩
      · by_cases hit : other = name
        · subst hit
          rw [listed] at fits
          exact Or.inr ⟨whole,rfl,may,fits⟩
        · exact Or.inl ((Node.enter_entries_other hit).trans listed)
      · unfold yields at may
        rw [Node.lets_false foreign closed,Bool.false_and] at may
        cases may
    · exact ⟨node,(assign_other same).trans found,.refl node⟩

/-- What never comes apart: a directory of a trusted owner that others may write to is sticky. -/
def Guarded (trusted : Uid → Prop) (tree : DirectoryTree ν) (id : Nat) : Prop :=
  ∃ node, tree id = some node ∧ trusted node.owner ∧ (node.mode.sharesWrite = true → node.mode.sticky = true)

/-- An entry of a guarded directory for a directory of a trusted owner. -/
def Holds (trusted : Uid → Prop) (tree : DirectoryTree ν) (directory : Nat) (name : ν) (id : Nat) : Prop :=
  Guarded trusted tree directory ∧ child tree directory name = some id ∧
    ∃ node, tree id = some node ∧ node.isDirectory = true ∧ trusted node.owner

/-- A path all of whose entries are held. -/
inductive Anchored (trusted : Uid → Prop) (tree : DirectoryTree ν) : Nat → List ν → Nat → Prop
  | here (id : Nat) : Anchored trusted tree id [] id
  | next {directory id last : Nat} {name : ν} {rest : List ν} (holds : Holds trusted tree directory name id)
    (others : Anchored trusted tree id rest last) : Anchored trusted tree directory (name::rest) last

/-- A deed that takes no directory away and opens none to others unless it is sticky. -/
def Careful : Deed ν → Prop
  | .chmod _ mode => mode.sharesWrite = true → mode.sticky = true
  | .make .. | .link .. => True
  | .remove _ _ whole => whole = false

variable {trusted : Uid → Prop} {last : Nat} {front rest : List ν}

theorem Guarded.perform (guarded : Guarded trusted tree id) (harmless : ¬trusted user ∨ Careful deed)
    (ran : perform user tree deed = some left) : Guarded trusted left id := by
  obtain ⟨node,found,owner,sticks⟩ := guarded
  obtain ⟨after,present,bears⟩ := perform_bears ran found
  refine ⟨after,present,bears.owner ▸ owner,?_⟩
  rcases bears.mode with same | ⟨rfl,rfl⟩
  · rw [same]
    exact sticks
  · exact harmless.resolve_left (not_not_intro owner)

theorem child_kept (guarded : Guarded trusted tree directory) (listed : child tree directory name = some id)
    (found : tree id = some node) (entered : node.isDirectory = true) (owned : trusted node.owner)
    (harmless : ¬trusted user ∨ Careful deed) (ran : perform user tree deed = some left) :
    child left directory name = some id := by
  obtain ⟨parent,present,owner,sticks⟩ := guarded
  obtain ⟨after,same,bears⟩ := perform_bears ran present
  have before : parent.entries name = some id := by simpa [child,present] using listed
  have stays : after.entries name = some id := by
    rcases bears.entries name id before with kept | ⟨whole,rfl,gone,fits⟩
    · exact kept
    · have taken : whole = true := by
        rw [found,Option.all_some,entered,beq_iff_eq] at fits
        exact fits.symm
      have untrusted : ¬trusted user := harmless.resolve_right (fun careful => by cases careful.symm.trans taken)
      have foreign : parent.owner ≠ user := fun mine => untrusted (mine ▸ owner)
      have other : node.owner ≠ user := fun mine => untrusted (mine ▸ owned)
      simp only [yields,Node.lets,before,found,Option.bind_some,Option.any_some,Bool.and_eq_true,Bool.or_eq_true,
        Bool.not_eq_true',decide_eq_true_eq] at gone
      rcases gone with ⟨mine | shared,(loose | mine) | mine⟩
      · exact absurd mine foreign
      · exact absurd mine foreign
      · exact absurd mine other
      · rw [sticks shared] at loose
        cases loose
      · exact absurd mine foreign
      · exact absurd mine other
  unfold child
  rw [same]
  exact stays

theorem Holds.perform (holds : Holds trusted tree directory name id) (harmless : ¬trusted user ∨ Careful deed)
    (ran : perform user tree deed = some left) : Holds trusted left directory name id := by
  obtain ⟨guarded,listed,node,found,entered,owned⟩ := holds
  obtain ⟨after,present,bears⟩ := perform_bears ran found
  exact ⟨guarded.perform harmless ran,child_kept guarded listed found entered owned harmless ran,after,present,
    bears.directory.trans entered,bears.owner ▸ owned⟩

/-- Nobody but the trusted owners can redirect an anchored path. -/
theorem Anchored.perform (anchored : Anchored trusted tree id rest last) (harmless : ¬trusted user ∨ Careful deed)
    (ran : perform user tree deed = some left) : Anchored trusted left id rest last := by
  induction anchored with
  | here id => exact .here id
  | next holds _ ih => exact .next (holds.perform harmless ran) ih

omit [DecidableEq ν] in
theorem Anchored.resolves (anchored : Anchored trusted tree id rest last) : resolve tree id rest = some last := by
  induction anchored with
  | here id => rfl
  | next holds _ ih =>
    unfold resolve
    rw [holds.2.1]
    exact ih

omit [DecidableEq ν] in
theorem Anchored.snoc (anchored : Anchored trusted tree id front directory)
    (holds : Holds trusted tree directory name last) : Anchored trusted tree id (front ++ [name]) last := by
  induction anchored with
  | here id => exact .next holds (.here last)
  | next earlier _ ih => exact .next earlier (ih holds)

end DirectoryTree
end Proactive.Library
