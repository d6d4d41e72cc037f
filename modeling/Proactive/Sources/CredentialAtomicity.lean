import Proactive.Sources.CredentialSteps

/-! A save that raises: what it leaves in the backends, and what a later load makes of it. -/
namespace Proactive.Sources
open Proactive.Library Process CredentialStore CredentialBackends

namespace CredentialAtomicity

/-- The default directory's entry of the previous layout holds another credential. -/
def disputed (isDefault : Bool) (backends : CredentialBackends) (credential : StoredText) : Bool :=
  match isDefault,backends.passwords .global with
  | true,some current => current != migratedMarker && current != credential
  | _,_ => false

/-- What a load makes of a record in the profile's keyring entry when there is no marker. -/
def adopted (isDefault : Bool) (backends : CredentialBackends) (serialized : StoredText) :
    Except CredentialError (Option GoogleCredential) :=
  match parseEnvelope serialized with
  | none => .ok (parseCredentials serialized)
  | some (_,credential) =>
    if (parseCredentials credential).isSome && disputed isDefault backends credential then .error .storage
    else .ok (parseCredentials credential)

def previous (isDefault : Bool) (backends : CredentialBackends) : Option StoredText :=
  if isDefault then (backends.passwords .global).filter (· != migratedMarker) else none

/-- What a load returns or raises when nothing fails, in terms of what is stored. -/
def available (isDefault : Bool) (backends : CredentialBackends) :
    Except CredentialError (Option GoogleCredential) :=
  match markerIn (.ok (backends.files .state)) with
  | some state =>
    if state.live then .ok ((held (state.backend == .file) backends).bind (parseEnvelopedCredentials · state.version))
    else .ok none
  | none =>
    match backends.passwords .profile with
    | some serialized => adopted isDefault backends serialized
    | none =>
      match previous isDefault backends with
      | some serialized => .ok (parseCredentials serialized)
      | none => .ok ((backends.files .credential).bind adoptable)

theorem marker_eq {content : Option StoredText} {state : CredentialState}
    (read : markerIn (.ok content) = some state) : content = some (.state state) := by
  cases content with
  | none => cases read
  | some serialized =>
    cases serialized with
    | state other =>
      cases read
      rfl
    | user wire => cases read
    | envelope epoch revision credential => cases read
    | other text => cases read

theorem finish_save {credentials : GoogleCredential} (accepted : credentials.rejection = none)
    (revision : Revision) (object : Option CredentialVersion) (backends : CredentialBackends) :
    (finish machine .clear
      ((do save credentials revision; return some credentials : CredentialCall (Option GoogleCredential))
        object) backends).1.1 = .ok (some credentials) := by
  unfold save
  rw [accepted]
  rfl

theorem finish_retireGlobal {α : Type} (credential : StoredText) (next : Unit → CredentialCall α)
    (object : Option CredentialVersion) (backends : CredentialBackends) :
    ∃ left, finish machine .clear ((retireGlobal credential >>= next) object) backends =
      if disputed true backends credential then ((.error .storage,object),backends)
      else finish machine .clear (next () object) left := by
  have settled : disputed true backends credential =
      match backends.passwords .global with
      | some serialized => serialized != migratedMarker && serialized != credential
      | none => false := by
    unfold disputed
    cases backends.passwords .global <;> rfl
  unfold retireGlobal
  rw [Call.bind_assoc,finish_getPassword]
  cases current : backends.passwords .global with
  | none =>
    rw [current] at settled
    refine ⟨backends,?_⟩
    rw [if_neg (ne_true_of_eq_false settled)]
    rfl
  | some serialized =>
    rw [current] at settled
    dsimp only at settled ⊢
    by_cases migrated : serialized = migratedMarker
    · rw [migrated,bne_self_eq_false,Bool.false_and] at settled
      refine ⟨backends,?_⟩
      rw [if_pos migrated,if_neg (ne_true_of_eq_false settled)]
      rfl
    by_cases same : serialized = credential
    · rw [same,bne_self_eq_false,Bool.and_false] at settled
      refine ⟨change (.setPassword .global migratedMarker) backends,?_⟩
      rw [if_neg migrated,if_neg (not_not_intro same),if_neg (ne_true_of_eq_false settled)]
      rfl
    · rw [bne_iff_ne.mpr migrated,bne_iff_ne.mpr same,Bool.and_self] at settled
      refine ⟨backends,?_⟩
      rw [if_neg migrated,if_pos same,if_pos settled]
      rfl

theorem finish_migrateGlobal {serialized : StoredText} {backends : CredentialBackends}
    (shared : backends.passwords .global = some serialized) (credentials : GoogleCredential)
    (revision : Revision) (object : Option CredentialVersion) :
    (finish machine .clear ((some <$> migrateGlobal serialized credentials revision) object) backends).1.1 =
      .ok (some credentials) := by
  let last : Unit → CredentialCall GoogleCredential := fun _ => do
    writeState ⟨1,revision,.keyring,false⟩
    deleteFallback
    Call.write (some (1,revision))
    return credentials
  let wrapped : GoogleCredential → CredentialCall (Option GoogleCredential) := fun credentials =>
    pure (some credentials)
  obtain ⟨left,ran⟩ := finish_retireGlobal serialized (fun done => last done >>= wrapped) object
    (stored false (.envelope 1 revision serialized) backends)
  have settled : disputed true (stored false (.envelope 1 revision serialized) backends) serialized = false := by
    have kept : (stored false (.envelope 1 revision serialized) backends).passwords .global =
      some serialized := shared
    unfold disputed
    rw [kept]
    exact (congrArg _ (bne_self_eq_false serialized)).trans (Bool.and_false _)
  rw [settled,if_neg Bool.false_ne_true] at ran
  rw [← Call.bind_assoc] at ran
  exact congrArg (fun ran => ran.1.1) ran

theorem finish_adopt (serialized : StoredText) (backend : CredentialBackend) (retire : Bool)
    (revision : Revision) (object : Option CredentialVersion) (backends : CredentialBackends) :
    (finish machine .clear (adopt (some serialized) backend retire revision object) backends).1.1 =
      adopted retire backends serialized := by
  unfold adopt adopted
  dsimp only
  cases parseEnvelope serialized with
  | none =>
    dsimp only
    cases parsed : parseCredentials serialized with
    | none => rfl
    | some credentials => exact finish_save (parse_accepted parsed) revision object backends
  | some opened =>
    dsimp only
    cases parsed : parseCredentials opened.2 with
    | none => rfl
    | some credentials =>
      cases retire with
      | false => rfl
      | true =>
        dsimp only
        rw [if_pos rfl]
        obtain ⟨left,ran⟩ := finish_retireGlobal opened.2 _ object backends
        rw [ran]
        cases disputed true backends opened.2 <;> rfl

/-- A record in the fallback file retires no entry of the previous layout. -/
theorem adopted_file (backends : CredentialBackends) (serialized : StoredText) :
    adopted false backends serialized = .ok (adoptable serialized) := by
  unfold adopted adoptable
  cases parseEnvelope serialized with
  | none => rfl
  | some opened =>
    have settled : disputed false backends opened.2 = false := by
      unfold disputed
      cases backends.passwords .global <;> rfl
    dsimp only
    rw [settled,Bool.and_false]
    exact if_neg Bool.false_ne_true

theorem loaded_available (isDefault : Bool) (revision : Revision) (backends : CredentialBackends) :
    loaded isDefault revision backends = available isDefault backends := by
  unfold available
  cases current : markerIn (.ok (backends.files .state)) with
  | some state =>
    have marked := marker_eq current
    dsimp only
    obtain ⟨epoch,own,backend,tombstone⟩ := state
    cases tombstone with
    | true => exact loaded_dead marked isDefault revision rfl
    | false =>
      cases backend with
      | deleted => exact loaded_dead marked isDefault revision rfl
      | keyring => exact loaded_keyring marked isDefault revision rfl rfl
      | file => exact loaded_file marked isDefault revision rfl rfl
  | none =>
    unfold loaded load
    rw [finish_readState,current]
    dsimp only
    unfold loadLegacy
    rw [finish_getPassword]
    have file : (finish machine .clear ((do adopt (← readPrivateFile) .file false revision :
        CredentialCall (Option GoogleCredential)) none) backends).1.1 =
          .ok ((backends.files .credential).bind adoptable) := by
      rw [finish_readPrivateFile]
      cases backends.files .credential with
      | none => rfl
      | some serialized =>
        exact (finish_adopt serialized .file false revision none backends).trans
          (adopted_file backends serialized)
    cases backends.passwords .profile with
    | some serialized => exact finish_adopt serialized .keyring isDefault revision none backends
    | none =>
      dsimp only
      unfold previous
      cases isDefault with
      | false => exact file
      | true =>
        rw [if_pos rfl,if_pos rfl,finish_getPassword]
        cases shared : backends.passwords .global with
        | none => exact file
        | some serialized =>
          dsimp only
          by_cases migrated : serialized = migratedMarker
          · rw [if_pos migrated,migrated]
            exact file
          · have used : (some serialized).filter (· != migratedMarker) = some serialized := by
              rw [Option.filter_some,if_pos (bne_iff_ne.mpr migrated)]
            rw [if_neg migrated,used]
            dsimp only
            cases parseCredentials serialized with
            | none => rfl
            | some credentials => exact finish_migrateGlobal shared credentials revision none

def drawn (revision : Revision) (backends : CredentialBackends) (read : Fault) : CredentialVersion :=
  (nextEpoch (markerIn (reply read.file (backends.files .state))),revision)

def record (credentials : GoogleCredential) (version : CredentialVersion) : StoredText :=
  .envelope version.1 version.2 credentials.toJson

/-- What a save leaves that raises with valid credentials, by how its operations went. -/
def wreck (credentials : GoogleCredential) (revision : Revision) (backends : CredentialBackends) :
    List Fault → CredentialBackends
  | read::.clear::.clear::_ =>
    marked ⟨(drawn revision backends read).1,revision,.keyring,false⟩
      (stored false (record credentials (drawn revision backends read)) backends)
  | read::.clear::_ => stored false (record credentials (drawn revision backends read)) backends
  | read::.unavailable::.clear::_ => stored true (record credentials (drawn revision backends read)) backends
  | _ => backends

/-- What a load makes of the new record beside the old marker. -/
def passing (credentials : GoogleCredential) (version : CredentialVersion) (state : CredentialState) :
    Option GoogleCredential :=
  if version = state.version then some credentials else none

/-- A load does not miss what the save has replaced in the keyring. -/
def keyringSpared (isDefault : Bool) (credentials : GoogleCredential) (version : CredentialVersion)
    (backends : CredentialBackends) : Prop :=
  match markerIn (.ok (backends.files .state)) with
  | some state => state.live = true → state.backend = .keyring →
    (backends.passwords .profile).bind (parseEnvelopedCredentials · state.version) =
      passing credentials version state
  | none => available isDefault backends =
    if disputed isDefault backends credentials.toJson then .error .storage else .ok (some credentials)

def fileSpared (isDefault : Bool) (credentials : GoogleCredential) (version : CredentialVersion)
    (backends : CredentialBackends) : Prop :=
  match markerIn (.ok (backends.files .state)) with
  | some state => state.live = true → state.backend = .file →
    (backends.files .credential).bind (parseEnvelopedCredentials · state.version) =
      passing credentials version state
  | none => backends.passwords .profile = none → previous isDefault backends = none →
    (backends.files .credential).bind adoptable = some credentials

/-- The save raises before it has replaced anything, or what it has replaced is not missed. -/
def harmless (isDefault : Bool) (credentials : GoogleCredential) (revision : Revision)
    (backends : CredentialBackends) (schedule : List Fault) : Prop :=
  match credentials.rejection,schedule with
  | none,_::.clear::.clear::_ => available isDefault backends = .ok (some credentials)
  | none,read::.clear::_ => keyringSpared isDefault credentials (drawn revision backends read) backends
  | none,read::.unavailable::.clear::_ =>
    fileSpared isDefault credentials (drawn revision backends read) backends
  | _,_ => True

theorem run_raised {error raised : CredentialError} {object left : Option CredentialVersion}
    {schedule : List Fault} {backends after : CredentialBackends}
    (ran : run machine (.done (.error error,object) : Process CredentialAction (Except CredentialError Unit × _))
      schedule backends = (some (.error raised,left),after)) : after = backends := by
  rw [run_done] at ran
  cases ran
  rfl

theorem overKeyring_raised {epoch : PNat} {revision : Revision} {object left : Option CredentialVersion}
    {schedule : List Fault} {error : CredentialError} {backends after : CredentialBackends}
    (prompt : Fault.late ∉ schedule)
    (ran : run machine (overKeyring epoch revision object) schedule backends =
      (some (.error error,left),after)) :
    ∃ mark rest, schedule = mark::rest ∧
      after = if mark = .clear then marked ⟨epoch,revision,.keyring,false⟩ backends else backends := by
  rw [overKeyring_eq] at ran
  cases schedule with
  | nil => cases ran
  | cons mark schedule =>
    refine ⟨mark,schedule,rfl,?_⟩
    rw [run_act_cons] at ran
    cases mark with
    | late => exact absurd List.mem_cons_self prompt
    | unavailable => exact run_raised ran
    | refused => exact run_raised ran
    | failed => exact run_raised ran
    | clear =>
      cases schedule with
      | nil => cases ran
      | cons clean schedule =>
        have finished := (run_done machine _ schedule _).symm.trans ran
        cases clean with
        | late => exact absurd (List.mem_cons_of_mem _ List.mem_cons_self) prompt
        | clear => cases finished
        | unavailable => cases finished
        | refused =>
          cases finished
          rfl
        | failed =>
          cases finished
          rfl

theorem overFile_raised {epoch : PNat} {revision : Revision} {serialized : StoredText}
    {object left : Option CredentialVersion} {schedule : List Fault} {error : CredentialError}
    {backends after : CredentialBackends} (prompt : Fault.late ∉ schedule)
    (ran : run machine (overFile epoch revision serialized object) schedule backends =
      (some (.error error,left),after)) :
    ∃ write rest, schedule = write::rest ∧
      after = if write = .clear then stored true serialized backends else backends := by
  rw [overFile_eq] at ran
  cases schedule with
  | nil => cases ran
  | cons write schedule =>
    refine ⟨write,schedule,rfl,?_⟩
    rw [run_act_cons] at ran
    cases write with
    | late => exact absurd List.mem_cons_self prompt
    | unavailable => exact run_raised ran
    | refused => exact run_raised ran
    | failed => exact run_raised ran
    | clear =>
      cases schedule with
      | nil => cases ran
      | cons mark schedule =>
        have finished := (run_done machine _ schedule _).symm.trans ran
        cases mark with
        | late => exact absurd (List.mem_cons_of_mem _ List.mem_cons_self) prompt
        | clear => cases finished
        | unavailable =>
          cases finished
          rfl
        | refused =>
          cases finished
          rfl
        | failed =>
          cases finished
          rfl

theorem save_raised {credentials : GoogleCredential} (accepted : credentials.rejection = none)
    {revision : Revision} {object left : Option CredentialVersion} {backends after : CredentialBackends}
    {schedule : List Fault} {error : CredentialError} (prompt : Fault.late ∉ schedule)
    (ran : run machine (save credentials revision object) schedule backends = (some (.error error,left),after)) :
    after = wreck credentials revision backends schedule := by
  rw [save_eq accepted] at ran
  cases schedule with
  | nil => cases ran
  | cons read schedule =>
    rw [run_act_cons,read_same] at ran
    cases schedule with
    | nil => cases ran
    | cons put schedule =>
      rw [run_act_cons] at ran
      have later : Fault.late ∉ schedule := fun late =>
        prompt (List.mem_cons_of_mem _ (List.mem_cons_of_mem _ late))
      cases put with
      | late => exact absurd (List.mem_cons_of_mem _ List.mem_cons_self) prompt
      | refused => exact run_raised ran
      | failed => exact run_raised ran
      | clear =>
        obtain ⟨mark,rest,rfl,same⟩ := overKeyring_raised later ran
        rw [same]
        cases mark <;> rfl
      | unavailable =>
        obtain ⟨write,rest,rfl,same⟩ := overFile_raised later ran
        rw [same]
        cases write <;> rfl

theorem parse_record {credentials : GoogleCredential} (accepted : credentials.rejection = none)
    (version : CredentialVersion) (state : CredentialState) :
    parseEnvelopedCredentials (record credentials version) state.version =
      passing credentials version state := by
  unfold passing record
  split
  · rename_i same
    rw [← same,parse_own,parse_toJson accepted]
  · rename_i different
    exact parse_foreign _ different

theorem adopted_record {credentials : GoogleCredential} (accepted : credentials.rejection = none)
    (isDefault : Bool) (version : CredentialVersion) (backends : CredentialBackends) :
    adopted isDefault backends (record credentials version) =
      if disputed isDefault backends credentials.toJson then .error .storage else .ok (some credentials) := by
  unfold adopted record
  dsimp only [parseEnvelope]
  rw [parse_toJson accepted]
  cases disputed isDefault backends credentials.toJson <;> rfl

theorem ok_iff {found other : Option GoogleCredential} :
    (Except.ok found : Except CredentialError _) = .ok other ↔ other = found :=
  ⟨fun same => (Except.ok.inj same).symm,fun same => congrArg _ same.symm⟩

theorem keyring_replaced {credentials : GoogleCredential} (accepted : credentials.rejection = none)
    (isDefault : Bool) (version : CredentialVersion) (backends : CredentialBackends) :
    available isDefault (stored false (record credentials version) backends) = available isDefault backends ↔
      keyringSpared isDefault credentials version backends := by
  unfold keyringSpared
  cases current : markerIn (.ok (backends.files .state)) with
  | none =>
    have replaced : available isDefault (stored false (record credentials version) backends) =
        adopted isDefault backends (record credentials version) := by
      unfold available
      rw [stored_marker,current]
      rfl
    rw [replaced,adopted_record accepted]
    exact eq_comm
  | some state =>
    unfold available
    rw [stored_marker,current]
    obtain ⟨epoch,own,backend,tombstone⟩ := state
    cases tombstone with
    | true => exact iff_of_true rfl nofun
    | false =>
      cases backend with
      | deleted => exact iff_of_true rfl nofun
      | file => exact iff_of_true rfl (fun _ => nofun)
      | keyring =>
        dsimp only
        rw [← parse_record accepted]
        exact ok_iff.trans ⟨fun same _ _ => same,fun same => same rfl rfl⟩

theorem file_replaced {credentials : GoogleCredential} (accepted : credentials.rejection = none)
    (isDefault : Bool) (version : CredentialVersion) (backends : CredentialBackends) :
    available isDefault (stored true (record credentials version) backends) = available isDefault backends ↔
      fileSpared isDefault credentials version backends := by
  unfold fileSpared
  cases current : markerIn (.ok (backends.files .state)) with
  | none =>
    unfold available
    rw [stored_marker,current]
    dsimp only
    have unchanged : (stored true (record credentials version) backends).passwords = backends.passwords := rfl
    rw [unchanged]
    cases backends.passwords .profile with
    | some serialized => exact iff_of_true rfl nofun
    | none =>
      have same : previous isDefault (stored true (record credentials version) backends) =
        previous isDefault backends := rfl
      rw [same]
      cases previous isDefault backends with
      | some serialized => exact iff_of_true rfl (fun _ => nofun)
      | none =>
        have adopts : adoptable (record credentials version) = some credentials := parse_toJson accepted
        rw [← adopts]
        exact ok_iff.trans ⟨fun same _ _ => same,fun same => same rfl rfl⟩
  | some state =>
    unfold available
    rw [stored_marker,current]
    obtain ⟨epoch,own,backend,tombstone⟩ := state
    cases tombstone with
    | true => exact iff_of_true rfl nofun
    | false =>
      cases backend with
      | deleted => exact iff_of_true rfl nofun
      | keyring => exact iff_of_true rfl (fun _ => nofun)
      | file =>
        dsimp only
        rw [← parse_record accepted]
        exact ok_iff.trans ⟨fun same _ _ => same,fun same => same rfl rfl⟩

/-- After a save that raised, a load returns what it would have returned before, exactly when
the save raised before it had replaced anything or what it had replaced is not missed. -/
theorem save_atomic (isDefault : Bool) (credentials : GoogleCredential)
    (revision earlier later : Revision) (object left : Option CredentialVersion)
    (backends after : CredentialBackends) (schedule : List Fault) (error : CredentialError)
    (prompt : Fault.late ∉ schedule)
    (raised : run machine (save credentials revision object) schedule backends =
      (some (.error error,left),after)) :
    loaded isDefault later after = loaded isDefault earlier backends ↔
      harmless isDefault credentials revision backends schedule := by
  rw [loaded_available,loaded_available]
  unfold harmless
  cases rejection : credentials.rejection with
  | some _ =>
    rw [save_rejected rejection] at raised
    rw [run_raised raised]
    exact iff_of_true rfl trivial
  | none =>
    rw [save_raised rejection prompt raised]
    have keyring (read : Fault) := keyring_replaced rejection isDefault (drawn revision backends read) backends
    cases schedule with
    | nil => exact iff_of_true rfl trivial
    | cons read schedule =>
      cases schedule with
      | nil => exact iff_of_true rfl trivial
      | cons put schedule =>
        cases put with
        | refused => exact iff_of_true rfl trivial
        | failed => exact iff_of_true rfl trivial
        | late => exact iff_of_true rfl trivial
        | clear =>
          cases schedule with
          | nil => exact keyring read
          | cons mark schedule =>
            cases mark with
            | unavailable => exact keyring read
            | refused => exact keyring read
            | failed => exact keyring read
            | late => exact keyring read
            | clear =>
              -- Only the cleanup has failed: the new credential is live.
              have renewed : available isDefault
                  (wreck credentials revision backends (read::.clear::.clear::schedule)) =
                    .ok (parseEnvelopedCredentials (record credentials (drawn revision backends read))
                      (drawn revision backends read)) := rfl
              rw [renewed,record,parse_own,parse_toJson rejection]
              exact eq_comm
        | unavailable =>
          cases schedule with
          | nil => exact iff_of_true rfl trivial
          | cons write schedule =>
            cases write with
            | unavailable => exact iff_of_true rfl trivial
            | refused => exact iff_of_true rfl trivial
            | failed => exact iff_of_true rfl trivial
            | late => exact iff_of_true rfl trivial
            | clear => exact file_replaced rejection isDefault (drawn revision backends read) backends

theorem save_atomic_refused :
    loaded false 4 connected = loaded false 3 connected :=
  (save_atomic false readonlyCredential 2 3 4 none none connected connected [.clear,.failed] .storage
    (by decide) rfl).mpr trivial

/-- A marker that cannot be written leaves the new secret in place of the old one: neither is
the current credential. -/
theorem save_atomic_lost :
    ¬∀ isDefault credentials revision earlier later object left backends after schedule error,
      Fault.late ∉ schedule →
      run machine (save credentials revision object) schedule backends =
        (some (.error error,left),after) →
        loaded isDefault later after = loaded isDefault earlier backends := by
  intro atomic
  have same := atomic false readonlyCredential 2 3 4 none none connected
    (wreck readonlyCredential 2 connected [.clear,.clear,.failed]) [.clear,.clear,.failed] .storage (by decide) rfl
  have lost : loaded false 4 (wreck readonlyCredential 2 connected [.clear,.clear,.failed]) = .ok none := rfl
  have had : loaded false 3 connected = .ok (some readonlyCredential) := rfl
  cases lost.symm.trans (same.trans had)

end CredentialAtomicity
end Proactive.Sources
