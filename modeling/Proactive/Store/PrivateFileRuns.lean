import Proactive.Store.PrivateFileSharing

/-! Writes, reads and deletions of private files by processes that may die at any system call,
in every order of the calls: each is as good as one step on the published files. -/
namespace Proactive.Store
open Proactive.Library Syscall PrivateFile

namespace PrivateCalls
variable {ι : Type} {calls : PrivateCalls ι} {first : Nat}

def discipline (calls : PrivateCalls ι) (first : Nat) :
    Discipline ι Syscall Bool Directory (calls.Published → Option (List UInt8)) (Option String) where
  machine := Syscall.machine
  kept := calls.Orderly first
  shown := calls.shown
  effect := calls.effect
  rely := calls.Rely
  rely_refl := calls.rely_refl
  rely_trans := fun _ _ _ _ one two => one.trans two

abbrev Answer : Type := Option String

/-- What holds when a step returns, and when it misses a file. Nothing is said of other errors. -/
def Checked {α : Type} (returns : α → Option Answer → Directory → Prop) (misses : Option Answer → Directory → Prop) :
    Except PrivateError α → Option Answer → Directory → Prop
  | .ok value,answered,directory => returns value answered directory
  | .error .notFound,answered,directory => misses answered directory
  | .error _,_,_ => True

section rules
variable {who : ι} {given : Option Answer} {directory : Directory} {α γ : Type}
  {returns : α → Option Answer → Directory → Prop} {misses : Option Answer → Directory → Prop}

theorem call_follows {syscall : Syscall (Except PrivateError α)} (refuses : refused syscall = .error .os)
    (serves : ∀ other, calls.Orderly first other → calls.Rely who directory other →
      calls.Guaranteed first who other (served syscall other).2 ∧
      ∃ answered, (calls.discipline first).Moves who other (served syscall other).2 given answered ∧
        Checked returns misses (served syscall other).1 answered (served syscall other).2) :
    (calls.discipline first).Follows who (Checked returns misses) (call syscall) given directory := by
  intro other orderly rely fails
  cases fails with
  | true =>
    refine ⟨orderly,fun witness _ => calls.rely_refl witness other,given,.unseen rfl,?_⟩
    change Checked returns misses (refused syscall) given other
    rw [refuses]
    trivial
  | false =>
    obtain ⟨⟨keeps,guarantees⟩,answered,moves,checked⟩ := serves other orderly rely
    exact ⟨keeps,guarantees,answered,moves,checked⟩

theorem look_follows {syscall : Syscall (Except PrivateError α)} (refuses : refused syscall = .error .os)
    (reads : ∀ state, (served syscall state).2 = state)
    (answers : ∀ other, calls.Orderly first other → calls.Rely who directory other →
      ∃ answered, (calls.discipline first).Moves who other other given answered ∧
        Checked returns misses (served syscall other).1 answered other) :
    (calls.discipline first).Follows who (Checked returns misses) (call syscall) given directory := by
  refine call_follows refuses (fun other orderly rely => ?_)
  rw [reads other]
  exact ⟨orderly.guaranteed,answers other orderly rely⟩

theorem bind_follows {after : γ → Option Answer → Directory → Prop} (returns : α → Option Answer → Directory → Prop)
    {body : Posix α} {next : α → Posix γ}
    (follows : (calls.discipline first).Follows who (Checked returns misses) body given directory)
    (goesOn : ∀ value given directory, returns value given directory →
      (calls.discipline first).Follows who (Checked after misses) (next value) given directory) :
    (calls.discipline first).Follows who (Checked after misses) (body >>= next : Posix γ) given directory := by
  refine Fallible.follows_bind follows goesOn (fun error given directory held => ?_)
  cases error <;> exact held

/-- What stays true while the others act. -/
def Stable (calls : PrivateCalls ι) (who : ι) (holds : Directory → Prop) : Prop :=
  ∀ before after, calls.Rely who before after → holds before → holds after

theorem always_stable : Stable calls who (fun _ => True) := fun _ _ _ _ => trivial

variable {holds : Directory → Prop}

theorem fstat_follows {descriptor : Nat} (stable : Stable calls who holds) (initial : holds directory) :
    (calls.discipline first).Follows who (Checked (fun observed answered state =>
      observed.number = descriptor ∧ answered = given ∧ holds state) misses) (call (.fstat descriptor)) given directory :=
  look_follows rfl (fun _ => rfl) (fun _ _ rely => ⟨given,.unseen rfl,rfl,rfl,stable _ _ rely initial⟩)

theorem verifyIdentity_follows {observed : FileStatus} {returns : Unit → Option Answer → Directory → Prop}
    (initial : returns () given directory) :
    (calls.discipline first).Follows who (Checked returns misses) (_verifyIdentity observed) given directory := by
  unfold _verifyIdentity
  split
  · exact Fallible.follows_pure initial
  · exact Fallible.follows_raise trivial

theorem served_stat_none {name : String} (absent : directory.names name = none) :
    (served (.stat name) directory).1 = .error .notFound := by
  simp [served,absent]

theorem served_stat_some {name : String} {number : Nat} (named : directory.names name = some number) :
    (served (.stat name) directory).1 = .ok (directory.status number) := by
  simp [served,named]

/-- The check succeeds, or misses the file, by what it sees of the name at that moment. -/
theorem verifyOpenName_follows {name : String} {descriptor : Nat} (seen : Option Answer)
    (stable : Stable calls who holds) (initial : holds directory)
    (sees : ∀ state, calls.Orderly first state → holds state → state.names name = some descriptor →
      (calls.discipline first).Moves who state state given seen)
    (missing : ∀ state, calls.Orderly first state → holds state → state.names name = none →
      ∃ answered, (calls.discipline first).Moves who state state given answered ∧ misses answered state) :
    (calls.discipline first).Follows who (Checked (fun _ answered state => answered = seen ∧ holds state) misses)
      (_verifyOpenName name descriptor) given directory := by
  refine bind_follows _ (fstat_follows stable initial) ?_
  rintro observed answered state ⟨number,same,held⟩
  subst answered
  refine bind_follows (fun _ answered state => answered = given ∧ holds state)
    (verifyIdentity_follows ⟨rfl,held⟩) ?_
  rintro _ answered state ⟨same,held⟩
  subst answered
  refine bind_follows (fun current answered state =>
    (current.number = descriptor → answered = seen) ∧ holds state) (look_follows rfl ?_ ?_) ?_
  · intro state
    rfl
  · intro other orderly rely
    have held := stable _ _ rely held
    cases named : other.names name with
    | none =>
      obtain ⟨answered,moves,missed⟩ := missing other orderly held named
      rw [served_stat_none named]
      exact ⟨answered,moves,missed⟩
    | some current =>
      rw [served_stat_some named]
      by_cases same : current = descriptor
      · subst same
        exact ⟨seen,sees other orderly held named,fun _ => rfl,held⟩
      · exact ⟨given,.unseen rfl,fun equal => absurd equal same,held⟩
  · rintro current answered state ⟨right,held⟩
    split
    · exact Fallible.follows_raise trivial
    · rename_i same
      exact verifyIdentity_follows ⟨right ((Decidable.not_not.mp same).trans number),held⟩

/-- The call has no unfinished file. -/
def Idle (calls : PrivateCalls ι) (who : ι) (directory : Directory) : Prop :=
  directory.names (calls.temporary who) = none

theorem idle_stable : Stable calls who (Idle calls who) := fun _ _ rely idle => rely.mine.trans idle

def Reading (calls : PrivateCalls ι) (who : ι) (descriptor : Nat) (directory : Directory) : Prop :=
  Idle calls who directory ∧ calls.Sealed directory descriptor

theorem reading_stable {descriptor : Nat} : Stable calls who (Reading calls who descriptor) :=
  fun _ _ rely reading => ⟨idle_stable _ _ rely reading.1,(rely.closed descriptor reading.2).1⟩

theorem restoreMode_follows {descriptor : Nat} {observed : FileStatus} (reading : Reading calls who descriptor directory) :
    (calls.discipline first).Follows who (Checked (fun _ answered state =>
      answered = given ∧ Reading calls who descriptor state) misses) (restoreMode descriptor observed) given directory := by
  unfold restoreMode
  split
  · refine call_follows rfl (fun other orderly rely => ?_)
    have reading := reading_stable _ _ rely reading
    refine ⟨guaranteed_chmod orderly (Or.inr reading.2),given,.unseen (shown_chmod _ _ _),rfl,reading⟩
  · exact Fallible.follows_pure ⟨rfl,reading⟩

/-- The file is opened, or its name is missing at one moment. -/
theorem openFile_follows (idle : Idle calls who directory)
    (missing : ∀ state, calls.Orderly first state → Idle calls who state → state.names (calls.name who) = none →
      ∃ answered, (calls.discipline first).Moves who state state given answered ∧ misses answered state) :
    (calls.discipline first).Follows who (Checked (fun descriptor answered state =>
      answered = given ∧ Reading calls who descriptor state) misses)
      (_openRegular (.openFile (calls.name who)) (calls.name who)) given directory := by
  refine bind_follows (fun descriptor answered state =>
    answered = given ∧ Reading calls who descriptor state) (look_follows rfl ?_ ?_) ?_
  · intro state
    cases named : state.names (calls.name who) with
    | none => rw [openFile_absent named]
    | some number => rw [openFile_present named]
  · intro other orderly rely
    have idle := idle_stable _ _ rely idle
    cases named : other.names (calls.name who) with
    | none =>
      obtain ⟨answered,moves,missed⟩ := missing other orderly idle named
      rw [openFile_absent named]
      exact ⟨answered,moves,missed⟩
    | some number =>
      rw [openFile_present named]
      refine ⟨given,.unseen rfl,?_⟩
      dsimp only
      split
      · trivial
      · have shown : other.names (calls.target who).1 = some number := named
        exact ⟨rfl,idle,orderly.sealed_of_published shown⟩
  rintro descriptor answered state ⟨same,reading⟩
  subst answered
  refine bind_follows _ (fstat_follows reading_stable reading) ?_
  rintro observed answered state ⟨_,same,reading⟩
  subst answered
  refine bind_follows (fun _ answered state => answered = given ∧ Reading calls who descriptor state)
    (verifyIdentity_follows ⟨rfl,reading⟩) ?_
  rintro _ answered state ⟨same,reading⟩
  subst answered
  refine bind_follows _ (fstat_follows reading_stable reading) ?_
  rintro again answered state ⟨_,same,reading⟩
  subst answered
  refine bind_follows _ (restoreMode_follows reading) ?_
  rintro _ answered state ⟨same,reading⟩
  subst answered
  refine bind_follows _ (verifyOpenName_follows given reading_stable reading ?_ ?_) ?_
  · exact fun _ _ _ _ => .unseen rfl
  · exact fun state orderly reading absent => missing state orderly reading.1 absent
  rintro _ answered state ⟨same,reading⟩
  exact Fallible.follows_pure ⟨same,reading⟩

theorem openOptional_follows {otherwise : Option Answer → Directory → Prop}
    (misses : Option Answer → Directory → Prop) (idle : Idle calls who directory)
    (missing : ∀ state, calls.Orderly first state → Idle calls who state → state.names (calls.name who) = none →
      ∃ answered, (calls.discipline first).Moves who state state given answered ∧ misses answered state) :
    (calls.discipline first).Follows who (Checked (fun found answered state => (found = none → misses answered state) ∧
      ∀ descriptor, found = some descriptor → answered = given ∧ Reading calls who descriptor state) otherwise)
      (_openOptional (calls.name who)) given directory := by
  unfold _openOptional
  refine Fallible.follows_handle (Checked (fun found answered state => ∃ descriptor, found = some descriptor ∧
    answered = given ∧ Reading calls who descriptor state) misses) (bind_follows _ (openFile_follows idle missing) ?_) ?_ ?_
  · rintro descriptor answered state ⟨same,reading⟩
    exact Fallible.follows_pure ⟨descriptor,rfl,same,reading⟩
  · rintro _ answered state ⟨descriptor,rfl,same,reading⟩
    refine ⟨fun absent => (nomatch absent),?_⟩
    rintro _ ⟨⟩
    exact ⟨same,reading⟩
  · intro error answered state held
    cases error with
    | notFound => exact Fallible.follows_pure ⟨fun _ => held,fun _ absent => (nomatch absent)⟩
    | _ => exact Fallible.follows_raise trivial

def Contains (calls : PrivateCalls ι) (who : ι) (descriptor : Nat) (bytes : List UInt8) (directory : Directory) : Prop :=
  Reading calls who descriptor directory ∧ (directory.inodes descriptor).content = bytes

theorem contains_stable {descriptor : Nat} {bytes : List UInt8} : Stable calls who (Contains calls who descriptor bytes) :=
  fun _ _ rely contains => ⟨reading_stable _ _ rely contains.1,(rely.closed descriptor contains.1.2).2.trans contains.2⟩

theorem readBytes_follows {descriptor : Nat} {bytes : List UInt8} (offset count : Nat)
    (contains : Contains calls who descriptor bytes directory) :
    (calls.discipline first).Follows who (Checked (fun value answered state =>
      value = bytes.drop offset ∧ answered = given ∧ Contains calls who descriptor bytes state) misses)
      (readBytes descriptor offset count) given directory := by
  induction count generalizing offset directory with
  | zero =>
    refine look_follows rfl (fun _ => rfl) (fun other _ rely => ⟨given,.unseen rfl,?_⟩)
    have contains := contains_stable _ _ rely contains
    exact ⟨congrArg (List.drop offset) contains.2,rfl,contains⟩
  | succ count ih =>
    refine bind_follows (fun value answered state =>
      value = (bytes.drop offset).take 1 ∧ answered = given ∧ Contains calls who descriptor bytes state)
      (look_follows rfl (fun _ => rfl) (fun other _ rely => ⟨given,.unseen rfl,?_⟩)) ?_
    · have contains := contains_stable _ _ rely contains
      exact ⟨congrArg (fun content => (List.drop offset content).take 1) contains.2,rfl,contains⟩
    rintro part answered state ⟨taken,same,contains⟩
    subst answered
    refine bind_follows _ (ih (offset + 1) contains) ?_
    rintro rest answered state ⟨left,same,contains⟩
    refine Fallible.follows_pure ⟨?_,same,contains⟩
    rw [taken,left,← List.drop_drop]
    exact List.take_append_drop 1 (bytes.drop offset)

theorem readAll_follows {descriptor : Nat} {bytes : List UInt8} (contains : Contains calls who descriptor bytes directory) :
    (calls.discipline first).Follows who (Checked (fun text answered state =>
      decode bytes = some text ∧ answered = given ∧ Contains calls who descriptor bytes state) misses)
      (readAll descriptor) given directory := by
  unfold readAll
  refine bind_follows _ (fstat_follows contains_stable contains) ?_
  rintro observed answered state ⟨_,same,contains⟩
  subst answered
  refine bind_follows _ (readBytes_follows 0 observed.size contains) ?_
  rintro value answered state ⟨read,same,contains⟩
  rw [List.drop_zero] at read
  subst value
  unfold decoded
  cases text : decode bytes with
  | none => exact Fallible.follows_raise trivial
  | some text => exact Fallible.follows_pure ⟨rfl,same,contains⟩

/-- A call that returned has had its effect, and its unfinished file is gone. -/
def Answers (calls : PrivateCalls ι) (who : ι) (outcome : Except PrivateError Answer) (answered : Option Answer)
    (directory : Directory) : Prop :=
  ∀ answer, outcome = .ok answer → answered = some answer ∧ Idle calls who directory

theorem answers_checked {outcome : Except PrivateError Answer} {answered : Option Answer}
    (checked : Checked (fun answer answered state => answered = some answer ∧ Idle calls who state) (fun _ _ => True)
      outcome answered directory) : Answers calls who outcome answered directory := by
  rintro answer rfl
  exact checked

theorem openParent_follows (idle : Idle calls who directory) : (calls.discipline first).Follows who
    (Checked (fun _ answered state => answered = given ∧ Idle calls who state) misses) (call .openParent) given directory :=
  look_follows rfl (fun _ => rfl) (fun _ _ rely => ⟨given,.unseen rfl,rfl,idle_stable _ _ rely idle⟩)

theorem shown_target {number : Option Nat} (named : directory.names (calls.name who) = number) :
    calls.shown directory (calls.target who) = number.map (fun number => (directory.inodes number).content) :=
  congrArg _ named

theorem readPrivateText_follows (reads : calls.operation who = .read) (idle : Idle calls who directory) :
    (calls.discipline first).Follows who (Answers calls who) (readPrivateText (calls.name who)) none directory := by
  -- the read takes its effect where it misses the name, or where its last check finds the open file there
  refine Discipline.follows_mono (fun _ _ _ held => answers_checked held) ?_
  refine bind_follows _ (openParent_follows idle) ?_
  rintro _ answered state ⟨same,idle⟩
  subst answered
  refine bind_follows _ (openOptional_follows (fun answered state => answered = some none ∧ Idle calls who state) idle ?_) ?_
  · intro state _ idle absent
    refine ⟨some none,.takes ?_,rfl,idle⟩
    change calls.effect who (calls.shown state) none (calls.shown state)
    unfold effect
    rw [reads]
    dsimp only
    rw [shown_target absent]
    exact ⟨rfl,rfl⟩
  rintro found answered state ⟨missed,opened⟩
  cases found with
  | none => exact Fallible.follows_pure (missed rfl)
  | some descriptor =>
    obtain ⟨same,reading⟩ := opened descriptor rfl
    subst answered
    refine bind_follows _ (readAll_follows ⟨reading,rfl⟩) ?_
    rintro text answered state ⟨decodes,same,contains⟩
    subst answered
    refine bind_follows _ (verifyOpenName_follows (some (some text)) contains_stable contains ?_ ?_) ?_
    · intro state _ contains named
      refine .takes ?_
      change calls.effect who (calls.shown state) (some text) (calls.shown state)
      unfold effect
      rw [reads]
      dsimp only
      rw [shown_target named,Option.map_some,Option.map_some,contains.2,decodes]
      exact ⟨rfl,rfl⟩
    · exact fun state _ _ _ => ⟨none,.unseen rfl,trivial⟩
    rintro _ answered state ⟨same,contains⟩
    exact Fallible.follows_pure ⟨same,contains.1.1⟩

theorem deletePrivateFile_follows (deletes : calls.operation who = .delete) (idle : Idle calls who directory) :
    (calls.discipline first).Follows who (Checked (fun _ answered state => answered = some none ∧ Idle calls who state)
      (fun _ _ => True)) (deletePrivateFile (calls.name who)) none directory := by
  have removes (state : Directory) : calls.effect who (calls.shown state) none
      (Function.update (calls.shown state) (calls.target who) none) := by
    unfold effect
    rw [deletes]
    exact ⟨rfl,rfl⟩
  refine bind_follows _ (openParent_follows idle) ?_
  rintro _ answered state ⟨same,idle⟩
  subst answered
  refine bind_follows _ (openOptional_follows (fun answered state => answered = some none ∧ Idle calls who state) idle ?_) ?_
  · intro state _ idle absent
    refine ⟨some none,.takes ?_,rfl,idle⟩
    have unchanged : Function.update (calls.shown state) (calls.target who) none = calls.shown state :=
      Function.update_eq_self_iff.mpr (shown_target absent).symm
    have does := removes state
    rwa [unchanged] at does
  rintro found answered state ⟨missed,opened⟩
  cases found with
  | none => exact Fallible.follows_pure (missed rfl)
  | some descriptor =>
    obtain ⟨same,reading⟩ := opened descriptor rfl
    subst answered
    refine bind_follows _ (verifyOpenName_follows none reading_stable reading (fun _ _ _ _ => .unseen rfl)
      (fun _ _ _ _ => ⟨none,.unseen rfl,trivial⟩)) ?_
    rintro _ answered state ⟨same,reading⟩
    subst answered
    refine bind_follows (fun _ answered state => answered = some none ∧ Idle calls who state)
      (call_follows rfl (fun other orderly rely => ?_)) ?_
    · have idle := idle_stable _ _ rely reading.1
      cases named : other.names (calls.name who) with
      | none =>
        rw [unlink_absent named]
        exact ⟨orderly.guaranteed,none,.unseen rfl,trivial⟩
      | some number =>
        rw [unlink_present named]
        refine ⟨guaranteed_unlink orderly (fun witness _ same => (calls.target who).2 witness same.symm),some none,.takes ?_,rfl,?_⟩
        · change calls.effect who (calls.shown other) none (calls.shown (other.unlink (calls.name who)))
          rw [shown_unlink]
          exact removes other
        · exact (Function.update_of_ne (fun same => (calls.target who).2 who same.symm) _ _).trans idle
    rintro _ answered state ⟨same,idle⟩
    subst answered
    refine bind_follows _ (fstat_follows idle_stable idle) ?_
    rintro observed answered state ⟨_,same,idle⟩
    subst answered
    split
    · exact Fallible.follows_raise trivial
    · exact look_follows rfl (fun _ => rfl) (fun _ _ rely => ⟨some none,.unseen rfl,rfl,idle_stable _ _ rely idle⟩)

/-- The unfinished file as it was created, whatever mode the umask left it. -/
def Made (calls : PrivateCalls ι) (who : ι) (descriptor : Nat) (directory : Directory) : Prop :=
  directory.names (calls.temporary who) = some descriptor ∧ (directory.inodes descriptor).content = []

theorem made_stable {descriptor : Nat} : Stable calls who (Made calls who descriptor) := by
  intro before after rely made
  refine ⟨rely.mine.trans made.1,?_⟩
  rw [rely.untouched descriptor made.1]
  exact made.2

theorem holds_stable {descriptor : Nat} {content : List UInt8} : Stable calls who (Holds calls who descriptor content) :=
  fun _ _ rely holds => holds.rely rely

theorem createFile_follows (umask : Nat) (idle : Idle calls who directory) : (calls.discipline first).Follows who
    (Checked (fun descriptor answered state => answered = given ∧ Holds calls who descriptor [] state) (fun _ _ => True))
    (_openRegular (.createFile (calls.temporary who) umask) (calls.temporary who)) given directory := by
  refine bind_follows (fun descriptor answered state => answered = given ∧ Made calls who descriptor state)
    (call_follows rfl (fun other orderly rely => ?_)) ?_
  · rw [createFile_absent umask (idle_stable _ _ rely idle)]
    refine ⟨guaranteed_create orderly,given,.unseen (shown_create who _ other),rfl,?_,?_⟩
    · exact Function.update_self ..
    · simp [Directory.create]
  rintro descriptor answered state ⟨same,made⟩
  subst answered
  refine bind_follows _ (fstat_follows made_stable made) ?_
  rintro observed answered state ⟨_,same,made⟩
  subst answered
  refine bind_follows (fun _ answered state => answered = given ∧ Made calls who descriptor state)
    (verifyIdentity_follows ⟨rfl,made⟩) ?_
  rintro _ answered state ⟨same,made⟩
  subst answered
  refine bind_follows (fun observed answered state => answered = given ∧ Made calls who descriptor state ∧
    observed.mode = (state.inodes descriptor).mode) (look_follows rfl (fun _ => rfl) (fun other _ rely =>
      ⟨given,.unseen rfl,rfl,made_stable _ _ rely made,rfl⟩)) ?_
  rintro observed answered state ⟨same,made,mode⟩
  subst answered
  refine bind_follows (fun _ answered state => answered = given ∧ Holds calls who descriptor [] state) ?_ ?_
  · unfold restoreMode
    split
    · refine call_follows rfl (fun other orderly rely => ?_)
      have made := made_stable _ _ rely made
      refine ⟨guaranteed_chmod orderly (Or.inl made.1),given,.unseen (shown_chmod _ _ _),rfl,made.1,?_,?_⟩
      · simpa [served,Directory.adjust] using made.2
      · simp [served,Directory.adjust]
    · rename_i right
      exact Fallible.follows_pure ⟨rfl,made.1,made.2,mode.symm.trans (Decidable.not_not.mp right)⟩
  rintro _ answered state ⟨same,holds⟩
  subst answered
  refine bind_follows _ (verifyOpenName_follows given holds_stable holds (fun _ _ _ _ => .unseen rfl)
    (fun _ _ _ _ => ⟨given,.unseen rfl,trivial⟩)) ?_
  rintro _ answered state ⟨same,holds⟩
  exact Fallible.follows_pure ⟨same,holds⟩

theorem writeBytes_follows {descriptor : Nat} (bytes written : List UInt8)
    (holds : Holds calls who descriptor written directory) : (calls.discipline first).Follows who
      (Checked (fun _ answered state => answered = given ∧ Holds calls who descriptor (written ++ bytes) state)
        (fun _ _ => True)) (writeBytes descriptor bytes) given directory := by
  induction bytes generalizing written directory with
  | nil => exact Fallible.follows_pure ⟨rfl,by rwa [List.append_nil]⟩
  | cons byte rest ih =>
    refine bind_follows (fun _ answered state => answered = given ∧ Holds calls who descriptor (written ++ [byte]) state)
      (call_follows rfl (fun other orderly rely => ?_)) ?_
    · have holds := holds.rely rely
      have unseen : calls.shown (served (.write descriptor byte) other).2 = calls.shown other :=
        shown_write (fun inode => {inode with content := inode.content ++ [byte]}) orderly holds.named
      refine ⟨guaranteed_write orderly holds.named,given,.unseen unseen,rfl,holds.named,?_,?_⟩
      · simp [served,Directory.adjust,holds.content]
      · simpa [served,Directory.adjust] using holds.mode
    rintro _ answered state ⟨same,holds⟩
    subst answered
    have next := ih (written ++ [byte]) holds
    rwa [List.append_assoc] at next

theorem unlinkPresent_follows : (calls.discipline first).Follows who
    (Checked (fun _ answered state => answered = given ∧ Idle calls who state) (fun _ _ => True))
    (unlinkPresent (calls.temporary who)) given directory := by
  refine Fallible.follows_handle (Checked (fun _ answered state => answered = given ∧ Idle calls who state)
    (fun answered state => answered = given ∧ Idle calls who state)) (call_follows rfl (fun other orderly _ => ?_)) ?_ ?_
  · cases named : other.names (calls.temporary who) with
    | none =>
      rw [unlink_absent named]
      exact ⟨orderly.guaranteed,given,.unseen rfl,rfl,named⟩
    | some number =>
      rw [unlink_present named]
      refine ⟨guaranteed_unlink orderly (fun witness other same => other (calls.temporary_inj.mp same)),given,
        .unseen (shown_unlink_temporary who other),rfl,?_⟩
      exact Function.update_self ..
  · exact fun _ _ _ held => held
  · intro error answered state held
    cases error with
    | notFound => exact Fallible.follows_pure held
    | _ => exact Fallible.follows_raise trivial

theorem verifyDestination_follows {descriptor : Nat} {content : List UInt8} (destination : Option Nat)
    (holds : Holds calls who descriptor content directory) : (calls.discipline first).Follows who
      (Checked (fun _ answered state => answered = given ∧ Holds calls who descriptor content state) (fun _ _ => True))
      (verifyDestination (calls.name who) destination) given directory := by
  cases destination with
  | none => exact Fallible.follows_pure ⟨rfl,holds⟩
  | some other =>
    exact verifyOpenName_follows given holds_stable holds (fun _ _ _ _ => .unseen rfl)
      (fun _ _ _ _ => ⟨given,.unseen rfl,trivial⟩)

theorem writePrivateText_follows {umask : Nat} {content : String} (writes : calls.operation who = .write umask content)
    (idle : Idle calls who directory) : (calls.discipline first).Follows who
      (Checked (fun _ answered state => answered = some none ∧ Idle calls who state) (fun _ _ => True))
      (writePrivateText (calls.name who) (calls.temporary who) umask content) none directory := by
  refine bind_follows _ (openParent_follows idle) ?_
  rintro _ answered state ⟨same,idle⟩
  subst answered
  refine Fallible.follows_finish (Checked (fun _ answered _ => answered = some none) (fun _ _ => True)) ?_ ?_
  · refine bind_follows _ (openOptional_follows (fun answered state => answered = none ∧ Idle calls who state) idle
      (fun _ _ idle _ => ⟨none,.unseen rfl,rfl,idle⟩)) ?_
    intro destination answered state opened
    have begins : answered = none ∧ Idle calls who state := by
      cases destination with
      | none => exact opened.1 rfl
      | some descriptor => exact ⟨(opened.2 descriptor rfl).1,(opened.2 descriptor rfl).2.1⟩
    obtain ⟨same,idle⟩ := begins
    subst answered
    refine bind_follows _ (createFile_follows umask idle) ?_
    rintro temporary answered state ⟨same,holds⟩
    subst answered
    refine bind_follows _ (writeBytes_follows (encode content) [] holds) ?_
    rintro _ answered state ⟨same,holds⟩
    subst answered
    refine bind_follows (fun _ answered state => answered = none ∧ Holds calls who temporary (encode content) state)
      (look_follows rfl (fun _ => rfl) (fun _ _ rely => ⟨none,.unseen rfl,rfl,holds.rely rely⟩)) ?_
    rintro _ answered state ⟨same,holds⟩
    subst answered
    refine bind_follows _ (verifyOpenName_follows none holds_stable holds (fun _ _ _ _ => .unseen rfl)
      (fun _ _ _ _ => ⟨none,.unseen rfl,trivial⟩)) ?_
    rintro _ answered state ⟨same,holds⟩
    subst answered
    refine bind_follows _ (verifyDestination_follows destination holds) ?_
    rintro _ answered state ⟨same,holds⟩
    subst answered
    -- the write takes its effect here
    refine bind_follows (fun _ answered _ => answered = some none) (call_follows rfl (fun other orderly rely => ?_)) ?_
    · have holds := holds.rely rely
      rw [replace_present holds.named]
      refine ⟨guaranteed_replace orderly holds writes,some none,.takes ?_,rfl⟩
      change calls.effect who (calls.shown other) none (calls.shown _)
      unfold effect
      rw [writes,shown_replace orderly holds]
      exact ⟨rfl,rfl⟩
    rintro _ answered state same
    subst answered
    refine bind_follows _ (verifyOpenName_follows (some none) always_stable trivial
      (fun _ _ _ _ => .unseen rfl) (fun _ _ _ _ => ⟨some none,.unseen rfl,trivial⟩)) ?_
    rintro _ answered state ⟨same,_⟩
    subst answered
    exact look_follows rfl (fun _ => rfl) (fun _ _ _ => ⟨some none,.unseen rfl,rfl⟩)
  · intro outcome answered state held
    refine Discipline.follows_mono (fun finished left state removed => ⟨?_,?_⟩) unlinkPresent_follows
    · rintro rfl
      cases outcome with
      | ok value => exact ⟨removed.1.trans held,removed.2⟩
      | error error => cases error <;> trivial
    · rintro error rfl
      cases error <;> trivial

end rules

/-- The call of one process. -/
def program (calls : PrivateCalls ι) (who : ι) : Posix Answer :=
  match calls.operation who with
  | .write umask content => do
    writePrivateText (calls.name who) (calls.temporary who) umask content
    pure none
  | .read => readPrivateText (calls.name who)
  | .delete => do
    deletePrivateFile (calls.name who)
    pure none

theorem program_follows {directory : Directory} {who : ι} (idle : Idle calls who directory) :
    (calls.discipline first).Follows who (Answers calls who) (calls.program who) none directory := by
  unfold program
  split
  · refine Discipline.follows_mono (fun _ _ _ held => answers_checked held) ?_
    exact bind_follows _ (writePrivateText_follows ‹_› idle) (fun _ _ _ held => Fallible.follows_pure held)
  · exact readPrivateText_follows ‹_› idle
  · refine Discipline.follows_mono (fun _ _ _ held => answers_checked held) ?_
    exact bind_follows _ (deletePrivateFile_follows ‹_› idle) (fun _ _ _ held => Fallible.follows_pure held)

section runs
variable (calls) {directory : Directory}

theorem orderly_start (unused : ∀ who, directory.names (calls.temporary who) = none) :
    calls.Orderly directory.fresh directory where
  begun := Nat.le_refl _
  single := fun name _ number later named _ => absurd (directory.allocated name number named) (Nat.not_lt.mpr later)
  hidden := fun who number named => absurd (unused who ▸ named) (by simp)
  owned := fun name number later named => absurd (directory.allocated name number named) (Nat.not_lt.mpr later)
  whole := fun name number later named => absurd (directory.allocated name.1 number named) (Nat.not_lt.mpr later)

theorem run_keeps [DecidableEq ι] (unused : ∀ who, directory.names (calls.temporary who) = none) (schedule : List (ι × Bool)) :
    let after := (Crowd.mk calls.program directory).run Syscall.machine schedule
    calls.Orderly directory.fresh after.state ∧ ∃ answered,
      Atomic calls.effect (calls.shown directory) (schedule.map Prod.fst) answered (calls.shown after.state) ∧
      ∀ who answer, after.programs who = .done (.ok answer) → answered who = some answer ∧ Idle calls who after.state := by
  intro after
  have stable : ∀ who outcome given state other, calls.Rely who state other →
      Answers calls who outcome given state → Answers calls who outcome given other :=
    fun who outcome given state other rely answers answer ok =>
      ⟨(answers answer ok).1,idle_stable _ _ rely (answers answer ok).2⟩
  have begins : (calls.discipline directory.fresh).kept (Crowd.mk calls.program directory).state := orderly_start calls unused
  obtain ⟨keeps,answered,atomic,ends⟩ := (calls.discipline directory.fresh).run_atomic stable begins .start
    (fun who => program_follows (unused who)) schedule
  exact ⟨keeps,answered,atomic,fun who answer ended => ends who _ ended answer rfl⟩

variable {calls}

variable (calls)

end runs
end PrivateCalls
end Proactive.Store
