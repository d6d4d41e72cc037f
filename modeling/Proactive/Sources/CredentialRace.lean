import Proactive.Library.Interleaving
import Proactive.Sources.CredentialSteps

/-! A save of one process beside the deletion by another process of the credential that it
had loaded before: every order of their file and keyring operations. -/
namespace Proactive.Sources
open Proactive.Library Process CredentialStore CredentialBackends

namespace CredentialRace

/-- The save finds the keyring, its second operation, unavailable and falls back to the file. -/
def fallsBack (schedule : List (Side × Fault)) : Bool :=
  (Side.turns .left schedule)[1]? == some .unavailable

/-- The number, from zero, of the save's operation that stores the secret. The marker is next. -/
def storeTurn : (fallback : Bool) → Nat
  | true => 2
  | false => 1

/-- The number of the deletion's operation that removes the secret from there. -/
def removeTurn : (fallback : Bool) → Nat
  | true => 3
  | false => 2

/-- The deletion goes past its version check: it cannot read the marker, or reads it before
the save has replaced it and finds the version it was issued for. -/
def issued (marked : Nat) (before : Option CredentialState) (stale : CredentialVersion) (check : Fault) : Bool :=
  check != .clear || (0 < marked && !superseded (some stale) before)

def removal : (fallback : Bool) → List Fault → Bool
  | false,keyring::_ => keyring.effective
  | true,keyring::file::_ => keyring.keyring != some .other && file.effective
  | _,_ => false

/-- Of the deletion's turns, `early` come before the save stores the secret and `marked` before
it writes the marker: the tombstone replaces the marker, or the removal takes the secret. -/
def takes (fallback : Bool) (early marked : Nat) (before : Option CredentialState)
    (stale : CredentialVersion) : List Fault → Bool
  | check::tombstone::rest =>
    issued marked before stale check && tombstone.effective &&
      (marked ≤ 1 || (tombstone == .clear && early ≤ removeTurn fallback && removal fallback rest))
  | _ => false

def destroys (backends : CredentialBackends) (stale : CredentialVersion) (schedule : List (Side × Fault)) : Bool :=
  takes (fallsBack schedule) (Side.ahead schedule (storeTurn (fallsBack schedule)))
    (Side.ahead schedule (storeTurn (fallsBack schedule) + 1)) (markerIn (.ok (backends.files .state))) stale
    (Side.turns .right schedule)

theorem ignores_of {β : Type} {action : CredentialAction β} {other : CredentialBackends → CredentialBackends}
    (unseen : ∀ fault backends, answer fault action (other backends) = answer fault action backends)
    (commutes : ∀ backends, change action (other backends) = other (change action backends)) :
    machine.Ignores other action := by
  intro fault backends
  change (answer fault action (other backends),_) = (_,other (if _ then _ else _))
  rw [unseen,apply_ite other]
  refine congrArg (Prod.mk _) ?_
  split
  · exact commutes backends
  · rfl

theorem files_commute {first second : PrivateFile} (apart : first ≠ second) (content other : Option StoredText)
    (files : PrivateFile → Option StoredText) :
    (fun file => if file = first then content else if file = second then other else files file) =
      (fun file => if file = second then other else if file = first then content else files file) := by
  funext file
  by_cases one : file = first
  · subst one
    rw [if_pos rfl,if_neg apart,if_pos rfl]
  · rw [if_neg one,if_neg one]

theorem write_ignores_file {first second : PrivateFile} (apart : first ≠ second) (content other : StoredText) :
    machine.Ignores (change (.writePrivateText second other)) (.writePrivateText first content) :=
  ignores_of (fun _ _ => rfl) (fun backends =>
    congrArg (CredentialBackends.mk _) (files_commute apart (some content) (some other) backends.files))

theorem delete_ignores_file {first second : PrivateFile} (apart : first ≠ second) (other : StoredText) :
    machine.Ignores (change (.writePrivateText second other)) (.deletePrivateFile first) :=
  ignores_of (fun _ _ => rfl) (fun backends =>
    congrArg (CredentialBackends.mk _) (files_commute apart none (some other) backends.files))

section deletion
variable (revision : Revision) (stale : CredentialVersion)

theorem delete_begins (fallback : Bool) (serialized : StoredText) :
    Begins machine (stored fallback serialized) (removeTurn fallback) (delete revision (some stale)) := by
  have unread : machine.Ignores (stored fallback serialized) (.readPrivateText .state) := by
    apply ignores_of
    · intro fault backends
      cases fallback <;> rfl
    · intro backends
      rfl
  have tombstone (state : CredentialState) :
      machine.Ignores (stored fallback serialized) (.writePrivateText .state (.state state)) := by
    cases fallback with
    | true =>
      have apart : PrivateFile.state ≠ .credential := by decide
      exact write_ignores_file apart (.state state) serialized
    | false => exact ignores_of (fun _ _ => rfl) (fun _ => rfl)
  rw [delete_eq]
  cases fallback with
  | false =>
    refine ⟨unread,fun reply => ?_⟩
    dsimp only
    split
    · trivial
    · exact ⟨tombstone _,fun _ => trivial⟩
  | true =>
    refine ⟨unread,fun reply => ?_⟩
    dsimp only
    split
    · trivial
    rw [proceed_eq]
    refine ⟨tombstone _,fun reply => ?_⟩
    cases reply with
    | error error => trivial
    | ok => exact ⟨fun turn backends => by cases turn <;> rfl,fun _ => trivial⟩

theorem finishing_ends {change : CredentialBackends → CredentialBackends}
    (file : machine.Ignores change (.deletePrivateFile .credential)) (reply : Except KeyringFault Unit)
    (object : Option CredentialVersion) : Ends machine change 0 (finishing reply object) := by
  by_cases other : reply = .error .other
  · subst other
    trivial
  · rw [finishing_eq other]
    exact ⟨file,fun _ => trivial⟩

/-- Past its tombstone the deletion does not touch the marker. -/
theorem delete_ends_marked (state : CredentialState) :
    Ends machine (CredentialStore.marked state) 2 (delete revision (some stale)) := by
  rw [delete_eq]
  intro reply
  dsimp only
  split
  · trivial
  rw [proceed_eq]
  intro reply
  cases reply with
  | error error => trivial
  | ok =>
    refine ⟨fun turn backends => by cases turn <;> rfl,fun reply => ?_⟩
    exact finishing_ends (delete_ignores_file (by decide) _) reply _

theorem delete_ends_cleaned : Ends machine cleaned 0 (delete revision (some stale)) := by
  have removal : machine.Ignores cleaned (.deletePrivateFile .credential) := by
    apply ignores_of
    · intro fault backends
      rfl
    · intro backends
      rfl
  have tombstone (content : StoredText) : machine.Ignores cleaned (.writePrivateText .state content) := by
    apply ignores_of
    · intro fault backends
      rfl
    · intro backends
      exact congrArg (CredentialBackends.mk _) (files_commute (by decide) (some content) none backends.files)
  rw [delete_eq]
  refine ⟨ignores_of (fun _ _ => rfl) (fun _ => rfl),fun reply => ?_⟩
  dsimp only
  split
  · trivial
  rw [proceed_eq]
  refine ⟨tombstone _,fun reply => ?_⟩
  cases reply with
  | error error => trivial
  | ok => exact ⟨fun turn backends => by cases turn <;> rfl,fun reply => finishing_ends removal reply _⟩

theorem delete_ends_stored (fallback : Bool) (serialized : StoredText) :
    Ends machine (stored fallback serialized) (removeTurn fallback + 1) (delete revision (some stale)) := by
  have file (reply : Except KeyringFault Unit) (object : Option CredentialVersion) :
      Ends machine (stored true serialized) 1 (finishing reply object) := by
    by_cases other : reply = .error .other
    · subst other
      trivial
    · rw [finishing_eq other]
      exact fun _ => trivial
  have keyring : machine.Ignores (stored false serialized) (.deletePrivateFile .credential) :=
    ignores_of (fun _ _ => rfl) (fun _ => rfl)
  rw [delete_eq]
  cases fallback with
  | true =>
    intro reply
    dsimp only
    split
    · trivial
    rw [proceed_eq]
    intro reply
    cases reply with
    | error error => trivial
    | ok => exact fun reply => file reply _
  | false =>
    intro reply
    dsimp only
    split
    · trivial
    rw [proceed_eq]
    intro reply
    cases reply with
    | error error => trivial
    | ok => exact fun reply => finishing_ends keyring reply _

end deletion

/-- The rest of a program when the save's store, marker and cleanup come between its turns. -/
def around {α : Type} (program : Process CredentialAction α) (head mid tail : List Fault)
    (store mark tidy : CredentialBackends → CredentialBackends) (backends : CredentialBackends) :
    CredentialBackends :=
  let first := after machine program head backends
  let second := after machine first.1 mid (store first.2)
  tidy (after machine second.1 tail (mark second.2)).2

theorem raised_beside {α : Type} {error : CredentialError} {object fresh : Option CredentialVersion}
    {other : Process CredentialAction α} {schedule : List (Side × Fault)} {backends : CredentialBackends} :
    (beside machine (.done (.error error,object) : Process CredentialAction (Except CredentialError Unit × _))
      other schedule backends).1.1 ≠ .done (.ok (),fresh) := by
  rw [beside_done]
  nofun

theorem overKeyring_beside {α : Type} {epoch : PNat} {revision : Revision}
    {object fresh : Option CredentialVersion} {other : Process CredentialAction α}
    {schedule : List (Side × Fault)} {backends : CredentialBackends}
    (tidies : Ends machine cleaned 0 other)
    (saved : (beside machine (overKeyring epoch revision object) other schedule backends).1.1 =
      .done (.ok (),fresh)) :
    fresh = some (epoch,revision) ∧ ∃ mid tail tidy, (tidy = id ∨ tidy = cleaned) ∧
      Side.turns .right schedule = mid ++ tail ∧ Side.ahead schedule 0 = mid.length ∧
      (beside machine (overKeyring epoch revision object) other schedule backends).2 =
        tidy (after machine (after machine other mid backends).1 tail
          (marked ⟨epoch,revision,.keyring,false⟩ (after machine other mid backends).2)).2 := by
  rw [overKeyring_eq] at saved ⊢
  obtain ⟨mid,mark,_,rfl,ran⟩ := beside_act saved
  rw [ran] at saved ⊢
  cases mark with
  | unavailable => exact absurd saved raised_beside
  | refused => exact absurd saved raised_beside
  | failed => exact absurd saved raised_beside
  | late => exact absurd saved raised_beside
  | clear =>
    rw [mark_clear] at saved ⊢
    dsimp only at saved ⊢
    obtain ⟨before,clean,rest,rfl,ran⟩ := beside_act saved
    rw [ran,beside_done] at saved ⊢
    have named : fresh = some (epoch,revision) := by
      split at saved <;> cases saved <;> rfl
    refine ⟨named,mid,before ++ Side.turns .right rest,?_⟩
    rw [after_append]
    rcases clean_cases clean (after machine (after machine other mid backends).1 before
      (marked ⟨epoch,revision,.keyring,false⟩ (after machine other mid backends).2)).2 with same | gone
    · refine ⟨id,Or.inl rfl,?_,?_,?_⟩
      · simp [Side.right_turns,Side.turns]
      · simp [Side.ahead_right,Side.ahead]
      · rw [same]
        rfl
    · refine ⟨cleaned,Or.inr rfl,?_,?_,?_⟩
      · simp [Side.right_turns,Side.turns]
      · simp [Side.ahead_right,Side.ahead]
      · have later := ends_after (ends_after tidies mid backends) before
          (marked ⟨epoch,revision,.keyring,false⟩ (after machine other mid backends).2)
        rw [gone]
        exact congrArg Prod.snd (after_ends (by simpa using later) _ _)

theorem overFile_beside {α : Type} {epoch : PNat} {revision : Revision} {serialized : StoredText}
    {object fresh : Option CredentialVersion} {other : Process CredentialAction α}
    {schedule : List (Side × Fault)} {backends : CredentialBackends}
    (saved : (beside machine (overFile epoch revision serialized object) other schedule backends).1.1 =
      .done (.ok (),fresh)) :
    fresh = some (epoch,revision) ∧ ∃ head mid tail,
      Side.turns .right schedule = head ++ (mid ++ tail) ∧ Side.ahead schedule 0 = head.length ∧
      Side.ahead schedule 1 = head.length + mid.length ∧
      (beside machine (overFile epoch revision serialized object) other schedule backends).2 =
        around other head mid tail (stored true serialized) (marked ⟨epoch,revision,.file,false⟩) id
          backends := by
  rw [overFile_eq] at saved ⊢
  obtain ⟨head,write,_,rfl,ran⟩ := beside_act saved
  rw [ran] at saved ⊢
  cases write with
  | unavailable => exact absurd saved raised_beside
  | refused => exact absurd saved raised_beside
  | failed => exact absurd saved raised_beside
  | late => exact absurd saved raised_beside
  | clear =>
    rw [write_clear] at saved ⊢
    dsimp only at saved ⊢
    obtain ⟨mid,mark,rest,rfl,ran⟩ := beside_act saved
    rw [ran,beside_done] at saved ⊢
    cases mark with
    | unavailable => cases saved
    | refused => cases saved
    | failed => cases saved
    | late => cases saved
    | clear =>
      cases saved
      refine ⟨rfl,head,mid,Side.turns .right rest,?_,?_,?_,?_⟩
      · simp [Side.right_turns,Side.turns]
      · simp [Side.ahead_right,Side.ahead]
      · simp [Side.ahead_right,Side.ahead]
      · rfl

/-- A save that succeeds stores its secret and then its marker. -/
theorem save_beside {α : Type} {credentials : GoogleCredential} {revision : Revision}
    {object fresh : Option CredentialVersion} {other : Process CredentialAction α}
    {schedule : List (Side × Fault)} {backends : CredentialBackends}
    (tidies : Ends machine cleaned 0 other)
    (saved : (beside machine (save credentials revision object) other schedule backends).1.1 =
      .done (.ok (),fresh)) :
    credentials.rejection = none ∧ ∃ epoch head mid tail tidy,
      fresh = some (epoch,revision) ∧ (tidy = id ∨ (fallsBack schedule = false ∧ tidy = cleaned)) ∧
      Side.turns .right schedule = head ++ (mid ++ tail) ∧
      Side.ahead schedule (storeTurn (fallsBack schedule)) = head.length ∧
      Side.ahead schedule (storeTurn (fallsBack schedule) + 1) = head.length + mid.length ∧
      (beside machine (save credentials revision object) other schedule backends).2 =
        around other head mid tail (stored (fallsBack schedule) (.envelope epoch revision credentials.toJson))
          (marked ⟨epoch,revision,if fallsBack schedule then .file else .keyring,false⟩) tidy backends := by
  cases rejection : credentials.rejection with
  | some error =>
    rw [save_rejected rejection] at saved
    exact absurd saved raised_beside
  | none =>
  refine ⟨rfl,?_⟩
  rw [save_eq rejection] at saved ⊢
  obtain ⟨one,read,_,rfl,ran⟩ := beside_act saved
  rw [ran] at saved ⊢
  rw [read_same] at saved ⊢
  dsimp only at saved ⊢
  generalize nextEpoch _ = epoch at saved ⊢
  obtain ⟨two,put,_,rfl,ran⟩ := beside_act saved
  rw [ran] at saved ⊢
  rw [← after_append] at saved ⊢
  cases put with
  | refused => exact absurd saved raised_beside
  | failed => exact absurd saved raised_beside
  | late => exact absurd saved raised_beside
  | clear =>
    rw [put_clear] at saved ⊢
    obtain ⟨named,mid,tail,tidy,tidies,order,marking,left⟩ :=
      overKeyring_beside (by simpa using ends_after tidies (one ++ two) backends) saved
    have place (rest : List (Side × Fault)) : fallsBack (one.map (Prod.mk .right) ++
        (.left,read)::(two.map (Prod.mk .right) ++ (.left,.clear)::rest)) = false := by
      simp [fallsBack,Side.left_turns,Side.turns]
    rw [place]
    refine ⟨epoch,one ++ two,mid,tail,tidy,named,tidies.imp id (fun clean => ⟨rfl,clean⟩),?_,?_,?_,left⟩
    · simp [Side.right_turns,Side.turns,order]
    · simp [Side.ahead_right,Side.ahead,storeTurn]
    · simp [Side.ahead_right,Side.ahead,storeTurn,marking]
      omega
  | unavailable =>
    rw [put_unavailable] at saved ⊢
    obtain ⟨named,head,mid,tail,order,storing,marking,left⟩ := overFile_beside saved
    have place (rest : List (Side × Fault)) : fallsBack (one.map (Prod.mk .right) ++
        (.left,read)::(two.map (Prod.mk .right) ++ (.left,.unavailable)::rest)) = true := by
      simp [fallsBack,Side.left_turns,Side.turns]
    rw [place]
    refine ⟨epoch,one ++ two ++ head,mid,tail,id,named,Or.inl rfl,?_,?_,?_,?_⟩
    · simp [Side.right_turns,Side.turns,order]
    · simp [Side.ahead_right,Side.ahead,storeTurn,storing]
    · simp [Side.ahead_right,Side.ahead,storeTurn,marking]
      omega
    · refine left.trans ?_
      unfold around
      rw [after_append machine other (one ++ two) head backends]
      rfl

theorem finishing_left (answer : Except KeyringFault Unit) (object : Option CredentialVersion)
    (schedule : List Fault) (backends : CredentialBackends) :
    (after machine (finishing answer object) schedule backends).2 =
      if answer ≠ .error .other ∧ (schedule.head?.any Fault.effective) = true then cleaned backends
      else backends := by
  by_cases other : answer = .error .other
  · subst other
    rw [if_neg (fun both => both.1 rfl)]
    exact congrArg Prod.snd (after_done machine _ schedule backends)
  rw [finishing_eq other]
  cases schedule with
  | nil => exact (if_neg (fun both => Bool.false_ne_true both.2)).symm
  | cons file rest =>
    refine (congrArg Prod.snd (after_done machine _ rest _)).trans ?_
    cases file with
    | clear => exact (if_pos ⟨other,rfl⟩).symm
    | late => exact (if_pos ⟨other,rfl⟩).symm
    | unavailable => exact (if_neg (fun both => Bool.false_ne_true both.2)).symm
    | refused => exact (if_neg (fun both => Bool.false_ne_true both.2)).symm
    | failed => exact (if_neg (fun both => Bool.false_ne_true both.2)).symm

theorem proceed_held (fallback : Bool) (revision : Revision) (epoch : PNat) (object : Option CredentialVersion)
    (tombstone : Fault) (rest : List Fault) (backends : CredentialBackends) :
    held fallback (after machine (proceed revision epoch object) (tombstone::rest) backends).2 =
      if tombstone = .clear ∧ removal fallback rest = true then none else held fallback backends := by
  have stopped (taken : CredentialBackends) (same : held fallback taken = held fallback backends)
      (error : tombstone ≠ .clear) (outcome : Except CredentialError Unit × Option CredentialVersion) :
      held fallback (after machine (.done outcome : Process CredentialAction _) rest taken).2 =
        if tombstone = .clear ∧ removal fallback rest = true then none else held fallback backends := by
    rw [after_done,if_neg (fun both => error both.1)]
    exact same
  rw [proceed_eq]
  cases tombstone with
  | unavailable => exact stopped backends rfl nofun _
  | refused => exact stopped backends rfl nofun _
  | failed => exact stopped backends rfl nofun _
  | late =>
    have same : held fallback (marked ⟨epoch,revision,.deleted,true⟩ backends) = held fallback backends := by
      cases fallback <;> rfl
    exact stopped _ same nofun _
  | clear =>
    cases rest with
    | nil => cases fallback <;> rfl
    | cons keyring rest =>
      refine (congrArg (held fallback) (finishing_left _ _ rest _)).trans ?_
      rw [apply_ite (held fallback)]
      cases fallback with
      | false =>
        have unmoved (left : CredentialBackends) : held false (cleaned left) = held false left := rfl
        rw [unmoved,ite_self]
        cases keyring <;> rfl
      | true =>
        have gone (left : CredentialBackends) : held true (cleaned left) = none := rfl
        rw [gone]
        refine (if_congr ?_ rfl ?_)
        · have answered : reply keyring.keyring () ≠ .error .other ↔
              (keyring.keyring != some .other) = true := by
            cases keyring <;> decide
          cases rest with
          | nil => exact iff_of_false (fun both => Bool.false_ne_true both.2) (fun both => Bool.false_ne_true both.2)
          | cons file rest =>
            change reply keyring.keyring () ≠ .error .other ∧ file.effective = true ↔
              Fault.clear = .clear ∧ (keyring.keyring != some .other && file.effective) = true
            rw [answered,Bool.and_eq_true]
            exact (and_iff_right rfl).symm
        · cases keyring <;> rfl

theorem proceed_failed (revision : Revision) (epoch : PNat) (object : Option CredentialVersion)
    {schedule : List Fault} (failed : schedule.head?.any Fault.effective = false)
    (backends : CredentialBackends) :
    (after machine (proceed revision epoch object) schedule backends).2 = backends := by
  cases schedule with
  | nil => rfl
  | cons tombstone rest =>
    rw [proceed_eq]
    cases tombstone with
    | clear => cases failed
    | late => cases failed
    | unavailable => exact congrArg Prod.snd (after_done machine _ rest backends)
    | refused => exact congrArg Prod.snd (after_done machine _ rest backends)
    | failed => exact congrArg Prod.snd (after_done machine _ rest backends)

theorem proceed_tombstoned (revision : Revision) (epoch : PNat) (object : Option CredentialVersion)
    {tombstone : Fault} (effective : tombstone.effective = true) (rest : List Fault)
    (backends : CredentialBackends) :
    ((after machine (proceed revision epoch object) (tombstone::rest) backends).2.files .state) =
      some (.state ⟨epoch,revision,.deleted,true⟩) := by
  rw [proceed_eq]
  cases tombstone with
  | unavailable => cases effective
  | refused => cases effective
  | failed => cases effective
  | late =>
    refine (congrArg (fun left => CredentialBackends.files left .state)
      (congrArg Prod.snd (after_done machine _ rest _))).trans ?_
    rfl
  | clear =>
    cases rest with
    | nil => rfl
    | cons keyring rest =>
      refine (congrArg (fun left => CredentialBackends.files left .state) (finishing_left _ _ rest _)).trans ?_
      rw [apply_ite (fun left => CredentialBackends.files left .state)]
      have kept (left : CredentialBackends) : (cleaned left).files .state = left.files .state := rfl
      rw [kept,ite_self]
      cases keyring <;> rfl

theorem delete_first (revision : Revision) (stale : CredentialVersion) (check : Fault) (rest : List Fault)
    (backends : CredentialBackends) :
    after machine (delete revision (some stale)) (check::rest) backends =
      after machine (if superseded (some stale) (markerIn (reply check.file (backends.files .state)))
        then .done (.ok (),some stale)
        else proceed revision (nextEpoch (markerIn (reply check.file (backends.files .state)))) (some stale))
        rest backends := by
  rw [delete_eq]
  cases check <;> rfl

section outcome
variable {fallback : Bool} {epoch : PNat} {revision : Revision}

variable {tidy : CredentialBackends → CredentialBackends}
  (tidies : tidy = id ∨ (fallback = false ∧ tidy = cleaned))
include tidies

theorem tidy_marker (backends : CredentialBackends) :
    (tidy backends).files .state = backends.files .state := by
  rcases tidies with rfl | ⟨_,rfl⟩ <;> rfl

theorem tidy_held (backends : CredentialBackends) : held fallback (tidy backends) = held fallback backends := by
  rcases tidies with rfl | ⟨rfl,rfl⟩ <;> rfl

variable {credentials : GoogleCredential} (accepted : credentials.rejection = none)
  (isDefault : Bool) (loading : Revision)
include accepted

/-- With the marker of the save in place, the load returns what the backend still holds. -/
theorem loaded_iff {backends : CredentialBackends} {gone : Prop} [Decidable gone]
    (current : backends.files .state =
      some (.state ⟨epoch,revision,if fallback then .file else .keyring,false⟩))
    (content : held fallback backends =
      if gone then none else some (.envelope epoch revision credentials.toJson)) :
    loaded isDefault loading (tidy backends) = .ok (some credentials) ↔ ¬gone := by
  rw [loaded_back isDefault loading ((tidy_marker tidies backends).trans current),tidy_held tidies,content]
  split
  · rename_i gone
    exact iff_of_false nofun (not_not_intro gone)
  · rename_i kept
    rw [Option.bind_some,parse_own (epoch,revision),parse_toJson accepted]
    exact iff_of_true rfl kept

theorem loaded_after_mark (finished : Bool) (deleting : Revision) (next : PNat) (object : Option CredentialVersion)
    (schedule : List Fault) (backends : CredentialBackends) :
    loaded isDefault loading (tidy (after machine
        (if finished then .done (.ok (),object) else proceed deleting next object) schedule
        (marked ⟨epoch,revision,if fallback then .file else .keyring,false⟩
          (stored fallback (.envelope epoch revision credentials.toJson) backends))).2) =
      .ok (some credentials) ↔ (!finished && schedule.head?.any Fault.effective) = false := by
  have untouched (left : CredentialBackends) (same : left =
      marked ⟨epoch,revision,if fallback then .file else .keyring,false⟩
        (stored fallback (.envelope epoch revision credentials.toJson) backends)) :
      loaded isDefault loading (tidy left) = .ok (some credentials) := by
    have current : left.files .state =
        some (.state ⟨epoch,revision,if fallback then .file else .keyring,false⟩) := by
      rw [same]
      rfl
    have content : held fallback left =
        if False then none else some (.envelope epoch revision credentials.toJson) := by
      rw [same]
      cases fallback <;> rfl
    exact (loaded_iff tidies accepted isDefault loading current content).mpr not_false
  cases finished with
  | true => exact iff_of_true (untouched _ (congrArg Prod.snd (after_done machine _ schedule _))) rfl
  | false =>
    cases struck : schedule.head?.any Fault.effective with
    | false => exact iff_of_true (untouched _ (proceed_failed deleting next object struck _)) rfl
    | true =>
      refine iff_of_false (fun returned => ?_) nofun
      cases schedule with
      | nil => cases struck
      | cons tombstone rest =>
        have dead := (tidy_marker tidies _).trans (proceed_tombstoned deleting next object struck rest
          (marked ⟨epoch,revision,if fallback then .file else .keyring,false⟩
            (stored fallback (.envelope epoch revision credentials.toJson) backends)))
        cases (loaded_dead dead isDefault loading rfl).symm.trans returned

end outcome
theorem issued_early {marked : Nat} (early : 0 < marked) (content : Option StoredText)
    (stale : CredentialVersion) (check : Fault) : issued marked (markerIn (.ok content)) stale check =
      !superseded (some stale) (markerIn (reply check.file content)) := by
  unfold issued
  rw [decide_eq_true early,Bool.true_and]
  cases check <;> rfl

/-- A deletion whose tombstone the marker of the save replaces takes a stored secret exactly
when it goes past its version check and its removal takes effect. -/
theorem delete_held (fallback : Bool) (deleting : Revision) (stale : CredentialVersion) (turns : List Fault)
    {later : Nat} (late : 2 ≤ later) (backends : CredentialBackends) :
    held fallback (after machine (delete deleting (some stale)) turns backends).2 =
      if takes fallback 0 later (markerIn (.ok (backends.files .state))) stale turns then none
      else held fallback backends := by
  have positive : 0 < later := by omega
  have large : decide (later ≤ 1) = false := decide_eq_false (by omega)
  cases turns with
  | nil => rfl
  | cons check turns =>
    have check_issued := issued_early positive (backends.files .state) stale check
    rw [delete_first]
    cases finished : superseded (some stale) (markerIn (reply check.file (backends.files .state))) with
    | true =>
      rw [if_pos rfl,after_done]
      rw [finished,Bool.not_true] at check_issued
      cases turns with
      | nil => rfl
      | cons tombstone rest =>
        rw [takes,check_issued,Bool.false_and,Bool.false_and,if_neg Bool.false_ne_true]
    | false =>
      rw [if_neg Bool.false_ne_true]
      rw [finished,Bool.not_false] at check_issued
      cases turns with
      | nil => rfl
      | cons tombstone rest =>
        rw [proceed_held,takes,check_issued,large]
        refine if_congr ?_ rfl rfl
        cases tombstone <;> simp [Fault.effective]

theorem takes_early {fallback : Bool} {early : Nat} (room : early ≤ removeTurn fallback) (later : Nat)
    (before : Option CredentialState) (stale : CredentialVersion) (turns : List Fault) :
    takes fallback early later before stale turns = takes fallback 0 later before stale turns := by
  cases turns with
  | nil => rfl
  | cons check turns =>
    cases turns with
    | nil => rfl
    | cons tombstone rest => rw [takes,takes,decide_eq_true room,decide_eq_true (Nat.zero_le _)]

theorem takes_late {fallback : Bool} {early later : Nat} (finished : ¬early ≤ removeTurn fallback)
    (late : 2 ≤ later) (before : Option CredentialState) (stale : CredentialVersion) (turns : List Fault) :
    takes fallback early later before stale turns = false := by
  have large : ¬later ≤ 1 := by omega
  cases turns with
  | nil => rfl
  | cons check turns =>
    cases turns with
    | nil => rfl
    | cons tombstone rest =>
      rw [takes,decide_eq_false finished,decide_eq_false large,Bool.and_false,Bool.false_and,Bool.false_or,Bool.and_false]

/-- What the save stores before the removal's turn might as well have been there from the start. -/
theorem stored_early {fallback : Bool} {head : List Fault} (early : head.length ≤ removeTurn fallback)
    (deleting : Revision) (stale : CredentialVersion) (serialized : StoredText) (mid : List Fault)
    (backends : CredentialBackends) :
    after machine (after machine (delete deleting (some stale)) head backends).1 mid
        (stored fallback serialized (after machine (delete deleting (some stale)) head backends).2) =
      after machine (delete deleting (some stale)) (head ++ mid) (stored fallback serialized backends) := by
  rw [after_append,after_begins (delete_begins deleting stale fallback serialized) early]

section order
variable {fallback : Bool} {tidy : CredentialBackends → CredentialBackends}
  (tidies : tidy = id ∨ (fallback = false ∧ tidy = cleaned)) {credentials : GoogleCredential}
  (accepted : credentials.rejection = none) (isDefault : Bool) (loading : Revision) (epoch : PNat)
  (revision deleting : Revision) (stale : CredentialVersion) (backends : CredentialBackends)
include tidies accepted

/-- The deletion starts after the save has written its marker. -/
theorem marked_first (newer : (epoch,revision) ≠ stale) (tail : List Fault) (before : Option CredentialState) :
    loaded isDefault loading (around (delete deleting (some stale)) [] [] tail
        (stored fallback (.envelope epoch revision credentials.toJson))
        (marked ⟨epoch,revision,if fallback then .file else .keyring,false⟩) tidy backends) =
      .ok (some credentials) ↔ takes fallback 0 0 before stale tail = false := by
  unfold around
  dsimp only [after]
  cases tail with
  | nil =>
    refine (loaded_after_mark tidies accepted isDefault loading true deleting epoch none [] backends).trans ?_
    exact iff_of_true rfl rfl
  | cons check rest =>
    rw [delete_first]
    refine (loaded_after_mark tidies accepted isDefault loading _ deleting _ (some stale) rest backends).trans ?_
    have checked : issued 0 before stale check = !superseded (some stale) (markerIn (reply check.file
        (some (.state ⟨epoch,revision,if fallback then .file else .keyring,false⟩)))) := by
      cases check with
      | clear =>
        have replaced : ((epoch,revision) != stale) = true := bne_iff_ne.mpr newer
        exact (congrArg (!·) replaced).symm
      | _ => rfl
    cases rest with
    | nil => exact iff_of_true (Bool.and_false _) rfl
    | cons tombstone rest =>
      rw [takes,checked,decide_eq_true (Nat.zero_le 1),Bool.true_or,Bool.and_true]
      rfl

/-- The save writes its marker after the version check of the deletion, before the tombstone. -/
theorem marked_second (check : Fault) (tail : List Fault) {head mid : List Fault} (order : head ++ mid = [check]) :
    loaded isDefault loading (around (delete deleting (some stale)) head mid tail
        (stored fallback (.envelope epoch revision credentials.toJson))
        (marked ⟨epoch,revision,if fallback then .file else .keyring,false⟩) tidy backends) =
      .ok (some credentials) ↔
      takes fallback head.length 1 (markerIn (.ok (backends.files .state))) stale (check::tail) = false := by
  have early : head.length ≤ removeTurn fallback := by
    have short := congrArg List.length order
    rw [List.length_append,List.length_singleton] at short
    have room : 2 ≤ removeTurn fallback := by cases fallback <;> decide
    omega
  unfold around
  dsimp only
  rw [stored_early early,order,delete_first,stored_marker]
  dsimp only [after]
  refine (loaded_after_mark tidies accepted isDefault loading _ deleting _ (some stale) tail backends).trans ?_
  have checked := issued_early Nat.one_pos (backends.files .state) stale check
  cases tail with
  | nil => exact iff_of_true (Bool.and_false _) rfl
  | cons tombstone rest =>
    rw [takes,checked,decide_eq_true (Nat.le_refl 1),Bool.true_or,Bool.and_true]
    rfl

/-- The save writes its marker after the tombstone of the deletion. -/
theorem marked_last {head mid : List Fault} (late : 2 ≤ (head ++ mid).length) (tail : List Fault) :
    loaded isDefault loading (around (delete deleting (some stale)) head mid tail
        (stored fallback (.envelope epoch revision credentials.toJson))
        (marked ⟨epoch,revision,if fallback then .file else .keyring,false⟩) tidy backends) =
      .ok (some credentials) ↔
      takes fallback head.length (head ++ mid).length (markerIn (.ok (backends.files .state))) stale
        (head ++ (mid ++ tail)) = false := by
  -- Nothing of the deletion after the tombstone notices the marker, which may come last.
  have untouched (state : CredentialState) (left : CredentialBackends) :
      held fallback (marked state left) = held fallback left := by
    cases fallback <;> rfl
  have marks (left : CredentialBackends)
      (content : held fallback left =
        if takes fallback head.length (head ++ mid).length (markerIn (.ok (backends.files .state))) stale
          (head ++ (mid ++ tail)) then none else some (.envelope epoch revision credentials.toJson)) :
      loaded isDefault loading
          (tidy (marked ⟨epoch,revision,if fallback then .file else .keyring,false⟩ left)) =
        .ok (some credentials) ↔
        takes fallback head.length (head ++ mid).length (markerIn (.ok (backends.files .state))) stale
          (head ++ (mid ++ tail)) = false := by
    rw [← Bool.not_eq_true]
    exact loaded_iff tidies accepted isDefault loading rfl ((untouched _ left).trans content)
  have past (state : CredentialState) (left : CredentialBackends) :
      Ends machine (marked state) 0 (after machine
        (after machine (delete deleting (some stale)) head backends).1 mid left).1 := by
    have ends := ends_after (ends_after (delete_ends_marked deleting stale state) head backends) mid left
    rwa [Nat.sub_sub,← List.length_append,Nat.sub_eq_zero_of_le late] at ends
  unfold around
  dsimp only
  rw [after_ends (past _ _),← after_append]
  apply marks
  by_cases early : head.length ≤ removeTurn fallback
  · rw [stored_early early,delete_held fallback deleting stale _ late,stored_marker,takes_early early,
      held_stored]
  · have ends := ends_after (delete_ends_stored deleting stale fallback
      (.envelope epoch revision credentials.toJson)) head backends
    rw [Nat.sub_eq_zero_of_le (by omega)] at ends
    rw [after_ends ends,takes_late early late,held_stored]
    rfl

end order

/-- After a save and a deletion in any order of their operations, a load returns the saved
credential exactly when the deletion's tombstone does not replace the marker of the save and
its removal does not take the secret that the save has stored. -/
theorem stale_deletion (isDefault : Bool) (credentials : GoogleCredential) (revision deleting loading : Revision)
    (saver : Option CredentialVersion) (stale fresh : CredentialVersion) (backends : CredentialBackends)
    (schedule : List (Side × Fault))
    (saved : (beside machine (save credentials revision saver) (delete deleting (some stale)) schedule
      backends).1.1 = .done (.ok (),some fresh))
    (newer : fresh ≠ stale) :
    loaded isDefault loading (beside machine (save credentials revision saver)
        (delete deleting (some stale)) schedule backends).2 = .ok (some credentials) ↔
      destroys backends stale schedule = false := by
  obtain ⟨accepted,epoch,head,mid,tail,tidy,named,tidies,order,storing,marking,left⟩ :=
    save_beside (delete_ends_cleaned deleting stale) saved
  cases named
  unfold destroys
  rw [left,order,storing,marking]
  generalize fallsBack schedule = fallback at tidies ⊢
  rw [← List.length_append]
  cases turns : head ++ mid with
  | nil =>
    obtain ⟨rfl,rfl⟩ := List.append_eq_nil_iff.mp turns
    exact marked_first tidies accepted isDefault loading epoch revision deleting stale backends newer tail _
  | cons check more =>
    cases more with
    | nil =>
      rw [← List.append_assoc,turns]
      exact marked_second tidies accepted isDefault loading epoch revision deleting stale backends check tail turns
    | cons tombstone more =>
      rw [← turns]
      have late : 2 ≤ (head ++ mid).length := by
        rw [turns]
        exact Nat.le_add_left _ _
      exact marked_last tidies accepted isDefault loading epoch revision deleting stale backends late tail

theorem stale_deletion_skipped :
    loaded false 4 (beside machine (save readonlyCredential 2 none) (delete 3 (some (1,1)))
      [(.left,.clear),(.left,.clear),(.left,.clear),(.left,.clear),(.right,.clear)] connected).2 =
        .ok (some readonlyCredential) :=
  (stale_deletion false readonlyCredential 2 3 4 none (1,1) (2,2) connected _ rfl (by decide)).mpr (by decide)

/-- The deletion looks at the marker, another process saves a new credential, and the deletion
goes on to destroy it. -/
theorem stale_deletion_destroys :
    ¬∀ isDefault credentials revision deleting loading saver stale fresh backends schedule,
      (∃ state : CredentialState, backends.files .state = some (.state state) ∧
        state.live = true ∧ state.version = stale) →
      (beside machine (save credentials revision saver) (delete deleting (some stale)) schedule
        backends).1.1 = .done (.ok (),some fresh) →
      (∃ outcome, (beside machine (save credentials revision saver) (delete deleting (some stale)) schedule
        backends).1.2 = .done outcome) →
      fresh ≠ stale →
        loaded isDefault loading (beside machine (save credentials revision saver)
          (delete deleting (some stale)) schedule backends).2 = .ok (some credentials) := by
  intro spared
  have returned := spared false readonlyCredential 2 3 4 none (1,1) (2,2) connected
    [(.right,.clear),(.left,.clear),(.left,.clear),(.left,.clear),(.left,.clear),
      (.right,.clear),(.right,.clear),(.right,.clear)]
    ⟨⟨1,1,.keyring,false⟩,rfl,rfl,rfl⟩ rfl ⟨_,rfl⟩ (by decide)
  have nothing : loaded false 4 (beside machine (save readonlyCredential 2 none) (delete 3 (some (1,1)))
      [(.right,.clear),(.left,.clear),(.left,.clear),(.left,.clear),(.left,.clear),
        (.right,.clear),(.right,.clear),(.right,.clear)] connected).2 = .ok none := rfl
  cases nothing.symm.trans returned

end CredentialRace
end Proactive.Sources
