import Proactive.Library.Run
import Proactive.Sources.Credentials

/-! A deletion tombstone under failing keyring and file operations. -/
namespace Proactive.Sources
open Proactive.Library CredentialStore CredentialBackends CredentialWorld

def Tombstoned (backends : CredentialBackends) : Prop :=
  ∃ state, backends.files .state = some (.state state) ∧ state.live = false

/-- What a call leaves of a tombstone: the tombstone, and no credential returned. -/
def Buried (outcome : Except CredentialError (Option GoogleCredential) × Option CredentialVersion)
    (backends : CredentialBackends) : Prop :=
  Tombstoned backends ∧ ∀ credentials, outcome.1 ≠ .ok (some credentials)

def fileRecord (backends : CredentialBackends) : List Fault → Option StoredText
  | .clear::_ => backends.files .credential
  | _ => none

/-- The credential in the record that the search for a previous layout comes to. -/
def legacyCredential (isDefault : Bool) (backends : CredentialBackends) : List Fault → Option GoogleCredential
  | [] => none
  | .unavailable::rest => (fileRecord backends rest).bind adoptable
  | .clear::rest =>
    match backends.passwords .profile with
    | some serialized => adoptable serialized
    | none =>
      if isDefault then
        match rest with
        | .clear::file =>
          match backends.passwords .global with
          | none => (fileRecord backends file).bind adoptable
          | some serialized =>
            if serialized = migratedMarker then (fileRecord backends file).bind adoptable
            else parseCredentials serialized
        | _ => none
      else (fileRecord backends rest).bind adoptable
  | _::_ => none

/-- A load whose read of the marker fails, and that then finds a stale credential. -/
def misled (isDefault : Bool) (backends : CredentialBackends) : List Fault → Bool
  | [] => false
  | marker::rest => marker != .clear && (legacyCredential isDefault backends rest).isSome

def undeceived (isDefault : Bool) (world : CredentialWorld) (input : StoreInput) : Bool :=
  match input.call with
  | .load _ => !misled isDefault world.backends input.schedule
  | .delete _ => true
  | .save _ _ => false

theorem adopt_nothing {serialized : Option StoredText} (unusable : serialized.bind adoptable = none)
    (backend : CredentialBackend) (retire : Bool) (revision : Revision)
    (object : Option CredentialVersion) :
    adopt serialized backend retire revision object = .done (.ok none,object) := by
  cases serialized with
  | none => rfl
  | some serialized =>
    rw [Option.bind_some,adoptable] at unusable
    unfold adopt
    dsimp only
    cases envelope : parseEnvelope serialized with
    | none =>
      rw [envelope] at unusable
      dsimp only at unusable ⊢
      rw [unusable]
      rfl
    | some found =>
      rw [envelope] at unusable
      dsimp only at unusable ⊢
      rw [unusable]
      rfl

def Fruitless (backends : CredentialBackends)
    (ran : Option (Except CredentialError (Option GoogleCredential) × Option CredentialVersion) ×
      CredentialBackends) : Prop :=
  ran.2 = backends ∧ ∀ credentials object, ran.1 ≠ some (.ok (some credentials),object)

theorem file_fruitless {backends : CredentialBackends} {schedule : List Fault}
    (unusable : (fileRecord backends schedule).bind adoptable = none) (revision : Revision)
    (object : Option CredentialVersion) :
    Fruitless backends (Process.run machine
      ((do adopt (← readPrivateFile) .file false revision : CredentialCall (Option GoogleCredential)) object)
      schedule backends) := by
  cases schedule with
  | nil => exact ⟨rfl,fun _ _ => nofun⟩
  | cons fault rest =>
    rw [run_readPrivateFile]
    have nothing : (recordIn (reply fault.file (backends.files .credential))).bind adoptable = none := by
      cases fault with
      | clear => exact unusable
      | _ => rfl
    rw [adopt_nothing nothing,Process.run_done]
    exact ⟨rfl,fun _ _ => nofun⟩

theorem loadLegacy_fruitless {isDefault : Bool} {backends : CredentialBackends} {schedule : List Fault}
    (nothing : legacyCredential isDefault backends schedule = none) (revision : Revision)
    (object : Option CredentialVersion) :
    Fruitless backends (Process.run machine (loadLegacy isDefault revision object) schedule backends) := by
  unfold loadLegacy
  cases schedule with
  | nil => exact ⟨rfl,fun _ _ => nofun⟩
  | cons profile rest =>
    rw [run_getPassword]
    cases profile with
    | refused => exact ⟨rfl,fun _ _ => nofun⟩
    | failed => exact ⟨rfl,fun _ _ => nofun⟩
    | late => exact ⟨rfl,fun _ _ => nofun⟩
    | unavailable => exact file_fruitless nothing revision object
    | clear =>
      cases found : backends.passwords .profile with
      | some serialized =>
        have unusable : (some serialized).bind adoptable = none := by
          simpa [legacyCredential,found] using nothing
        change Fruitless backends (Process.run machine
          (adopt (some serialized) .keyring isDefault revision object) rest backends)
        rw [adopt_nothing unusable,Process.run_done]
        exact ⟨rfl,fun _ _ => nofun⟩
      | none =>
        cases isDefault with
        | false => exact file_fruitless (by simpa [legacyCredential,found] using nothing) revision object
        | true =>
          cases rest with
          | nil => exact ⟨rfl,fun _ _ => nofun⟩
          | cons shared file =>
            dsimp only [reply,Fault.keyring]
            rw [if_pos rfl,run_getPassword]
            cases shared with
            | unavailable => exact ⟨rfl,fun _ _ => nofun⟩
            | refused => exact ⟨rfl,fun _ _ => nofun⟩
            | failed => exact ⟨rfl,fun _ _ => nofun⟩
            | late => exact ⟨rfl,fun _ _ => nofun⟩
            | clear =>
              cases previous : backends.passwords .global with
              | none =>
                exact file_fruitless (by simpa [legacyCredential,found,previous] using nothing) revision object
              | some serialized =>
                dsimp only [reply,Fault.keyring]
                by_cases migrated : serialized = migratedMarker
                · rw [if_pos migrated]
                  have unusable : (fileRecord backends file).bind adoptable = none := by
                    simpa [legacyCredential,found,previous,migrated] using nothing
                  exact file_fruitless unusable revision object
                · rw [if_neg migrated]
                  have unusable : parseCredentials serialized = none := by
                    simpa [legacyCredential,found,previous,migrated] using nothing
                  rw [unusable]
                  exact ⟨rfl,fun _ _ => nofun⟩

theorem purge_buried (object : Option CredentialVersion) {backends : CredentialBackends}
    (tombstoned : Tombstoned backends) :
    Process.Ensures machine Tombstoned Buried
      ((do purgeTombstoned; return none : CredentialCall (Option GoogleCredential)) object) backends := by
  intro first
  cases first with
  | clear =>
    refine ⟨tombstoned,fun second => ?_⟩
    cases second <;> exact ⟨tombstoned,tombstoned,fun _ => nofun⟩
  | unavailable =>
    refine ⟨tombstoned,fun second => ?_⟩
    cases second <;> exact ⟨tombstoned,tombstoned,fun _ => nofun⟩
  | refused => exact ⟨tombstoned,tombstoned,fun _ => nofun⟩
  | failed => exact ⟨tombstoned,tombstoned,fun _ => nofun⟩
  | late => exact ⟨tombstoned,tombstoned,fun _ => nofun⟩

theorem load_buried {isDefault : Bool} {backends : CredentialBackends} {schedule : List Fault}
    (tombstoned : Tombstoned backends) (undeceived : misled isDefault backends schedule = false)
    (revision : Revision) (object : Option CredentialVersion) :
    Tombstoned (Process.run machine (load isDefault revision object) schedule backends).2 ∧
      ∀ credentials left, (Process.run machine (load isDefault revision object) schedule backends).1 ≠
        some (.ok (some credentials),left) := by
  cases schedule with
  | nil => exact ⟨tombstoned,fun _ _ => nofun⟩
  | cons marker rest =>
    unfold load
    rw [run_readState]
    cases read : marker.file with
    | some error =>
      -- The marker is unread, and the search for a previous layout finds nothing usable.
      have unread : marker ≠ .clear := by
        intro clear
        rw [clear] at read
        cases read
      have nothing : legacyCredential isDefault backends rest = none := by
        rw [misled,bne_iff_ne.mpr unread,Bool.true_and] at undeceived
        exact Option.not_isSome_iff_eq_none.mp (Bool.not_eq_true _ ▸ undeceived)
      obtain ⟨same,fruitless⟩ := loadLegacy_fruitless nothing revision object
      exact ⟨same.symm ▸ tombstoned,fruitless⟩
    | none =>
      obtain ⟨state,written,dead⟩ := tombstoned
      have purges : (state.tombstone || state.backend == .deleted) = true := by
        rwa [state.live_eq,Bool.not_eq_false'] at dead
      rw [written]
      dsimp only [reply,markerIn]
      rw [Call.bind_write,if_pos purges]
      obtain ⟨left,returned⟩ := Process.ensures_run rest ⟨state,written,dead⟩
        (purge_buried (some state.version) ⟨state,written,dead⟩)
      refine ⟨left,fun credentials object ran => ?_⟩
      exact (returned _ ran).2 credentials rfl

theorem readState_ensures {kept : CredentialBackends → Prop}
    {post : Except CredentialError (Option CredentialState) × Option CredentialVersion →
      CredentialBackends → Prop} {object : Option CredentialVersion} {backends : CredentialBackends}
    (initial : kept backends) (any : ∀ state, post (.ok state,object) backends) :
    Process.Ensures machine kept post (readState object) backends := by
  intro fault
  cases fault <;> exact ⟨initial,any _⟩

theorem delete_buried (revision : Revision) (object : Option CredentialVersion)
    {backends : CredentialBackends} (tombstoned : Tombstoned backends) :
    Process.Ensures machine Tombstoned (fun _ left => Tombstoned left) (delete revision object)
      backends := by
  refine Call.ensures_bind (readState_ensures tombstoned (fun state => ⟨fun value same => ?_,nofun⟩))
  cases same
  rw [Call.bind_read]
  cases superseded object state with
  | true => exact tombstoned
  | false =>
    have written : Tombstoned (CredentialBackends.change (.writePrivateText .state
        (.state ⟨nextEpoch state,revision,.deleted,true⟩)) backends) := ⟨_,rfl,rfl⟩
    intro first
    cases first with
    | unavailable => exact ⟨tombstoned,tombstoned⟩
    | refused => exact ⟨tombstoned,tombstoned⟩
    | failed => exact ⟨tombstoned,tombstoned⟩
    | late => exact ⟨written,written⟩
    | clear =>
      refine ⟨written,fun second => ?_⟩
      cases second with
      | failed => exact ⟨written,written⟩
      | late => exact ⟨written,written⟩
      | clear => refine ⟨written,fun third => ?_⟩; cases third <;> exact ⟨written,written⟩
      | unavailable => refine ⟨written,fun third => ?_⟩; cases third <;> exact ⟨written,written⟩
      | refused => refine ⟨written,fun third => ?_⟩; cases third <;> exact ⟨written,written⟩

/-- One load or delete, on any object, keeps the tombstone and returns no credential. -/
theorem step_buried {isDefault : Bool} {world : CredentialWorld} {input : StoreInput}
    (tombstoned : Tombstoned world.backends) (good : undeceived isDefault world input = true) :
    Tombstoned (world.step isDefault input).backends ∧ world.returned isDefault input = none := by
  have none_of (absent : ∀ credentials left,
      (world.outcome isDefault input).1 ≠ some (.ok (some credentials),left)) :
      world.returned isDefault input = none := by
    unfold returned
    split
    · rename_i credentials left ran
      cases credentials with
      | none => rfl
      | some credentials => exact absurd ran (absent credentials left)
    · rfl
  obtain ⟨number,call,schedule⟩ := input
  cases call with
  | load revision =>
    have undeceived : misled isDefault world.backends schedule = false := by
      simpa [Sources.undeceived] using good
    obtain ⟨left,absent⟩ := load_buried tombstoned undeceived revision (world.objects number)
    exact ⟨left,none_of absent⟩
  | delete revision =>
    have silent : Process.Ensures machine Tombstoned Buried
        (body isDefault (.delete revision) (world.objects number)) world.backends :=
      Call.ensures_bind (Process.ensures_mono
        (fun outcome left kept => ⟨fun _ _ => ⟨kept,fun _ => nofun⟩,fun _ _ => ⟨kept,fun _ => nofun⟩⟩)
        (delete_buried revision (world.objects number) tombstoned))
    obtain ⟨left,returned⟩ := Process.ensures_run schedule tombstoned silent
    exact ⟨left,none_of (fun credentials object ran => (returned _ ran).2 credentials rfl)⟩
  | save credentials revision => cases good

/-- After a deletion has written its tombstone, every run of loads and deletions on any
objects, under any faults, keeps the tombstone and returns no credential, as long as no load
whose read of the marker fails comes upon a stale credential. -/
theorem tombstone_final (isDefault : Bool) (world : CredentialWorld) (tombstoned : Tombstoned world.backends)
    (inputs : List StoreInput) (input : StoreInput)
    (along : Run.Along (step isDefault) (fun world input => undeceived isDefault world input) world
      (inputs ++ [input])) :
    Tombstoned (Run.run (step isDefault) world (inputs ++ [input])).backends ∧
      (Run.run (step isDefault) world inputs).returned isDefault input = none := by
  rw [Run.along_append] at along
  obtain ⟨before,last,_⟩ := along
  have reached := Run.along_invariant (step isDefault)
    (fun world input => undeceived isDefault world input) (fun world => Tombstoned world.backends)
    (fun _ _ good kept => (step_buried kept good).1) world inputs tombstoned before
  rw [Run.run_append]
  exact step_buried reached last

def Revived (credentials : GoogleCredential)
    (ran : Option (Except CredentialError (Option GoogleCredential) × Option CredentialVersion) ×
      CredentialBackends) : Prop :=
  (∃ left, ran.1 = some (.ok (some credentials),left)) ∧ ¬Tombstoned ran.2

theorem live_not_tombstoned {backends : CredentialBackends} {state : CredentialState}
    (marked : backends.files .state = some (.state state)) (live : state.live = true) :
    ¬Tombstoned backends := by
  intro tombstoned
  obtain ⟨other,written,dead⟩ := tombstoned
  cases marked.symm.trans written
  cases live.symm.trans dead

theorem save_revives {credentials : GoogleCredential} (accepted : credentials.rejection = none)
    (revision : Revision) (object : Option CredentialVersion) (backends : CredentialBackends)
    (rest : List Fault) :
    Revived credentials (Process.run machine
      ((do save credentials revision; return some credentials : CredentialCall (Option GoogleCredential))
        object) (.clear::.clear::.clear::.clear::rest) backends) := by
  unfold save
  rw [accepted]
  refine ⟨⟨_,rfl⟩,live_not_tombstoned rfl rfl⟩

theorem adopt_revives {serialized : StoredText} {credentials : GoogleCredential}
    (found : adoptable serialized = some credentials) {backend : CredentialBackend}
    (live : backend ≠ .deleted) {retire : Bool} {backends : CredentialBackends}
    (unclaimed : retire = true → backends.passwords .global = none ∨
      backends.passwords .global = some migratedMarker)
    (revision : Revision) (object : Option CredentialVersion) (rest : List Fault) :
    Revived credentials (Process.run machine (adopt (some serialized) backend retire revision object)
      (.clear::.clear::.clear::.clear::rest) backends) := by
  unfold adoptable at found
  unfold adopt
  dsimp only
  cases envelope : parseEnvelope serialized with
  | none =>
    rw [envelope] at found
    dsimp only at found ⊢
    rw [found]
    exact save_revives (parse_accepted found) revision object backends rest
  | some opened =>
    rw [envelope] at found
    dsimp only at found ⊢
    rw [found]
    dsimp only
    cases retire with
    | false => exact ⟨⟨_,rfl⟩,live_not_tombstoned rfl (by cases backend <;> simp_all [CredentialState.live])⟩
    | true =>
      have retired (next : Unit → CredentialCall (Option GoogleCredential)) :
          Process.run machine ((retireGlobal opened.2 >>= next) object)
            (.clear::.clear::.clear::.clear::rest) backends =
              Process.run machine (next () object) (.clear::.clear::.clear::rest) backends := by
        unfold retireGlobal
        rw [Call.bind_assoc,run_getPassword]
        rcases unclaimed rfl with none | migrated
        · rw [none]
          rfl
        · rw [migrated]
          rfl
      rw [if_pos rfl,retired]
      exact ⟨⟨_,rfl⟩,live_not_tombstoned rfl (by cases backend <;> simp_all [CredentialState.live])⟩

theorem file_revives {backends : CredentialBackends} {credentials : GoogleCredential} {rest : List Fault}
    (found : (fileRecord backends (.clear::.clear::.clear::.clear::.clear::rest)).bind adoptable =
      some credentials) (revision : Revision) (object : Option CredentialVersion) :
    Revived credentials (Process.run machine
      ((do adopt (← readPrivateFile) .file false revision : CredentialCall (Option GoogleCredential)) object)
      (.clear::.clear::.clear::.clear::.clear::rest) backends) := by
  rw [run_readPrivateFile]
  obtain ⟨serialized,stored,adopts⟩ := Option.bind_eq_some_iff.mp found
  have read : recordIn (reply Fault.clear.file (backends.files .credential)) = some serialized := stored
  rw [read]
  have live : CredentialBackend.file ≠ .deleted := by decide
  have kept : false = true → backends.passwords .global = none ∨
      backends.passwords .global = some migratedMarker := fun never => (nomatch never)
  exact adopt_revives adopts live kept revision object _

/-- A misled load whose other operations succeed returns the stale credential and makes its
marker live, unless the default directory's entry of the previous layout is still in use. -/
theorem misled_revived {isDefault : Bool} {backends : CredentialBackends} {marker : Fault}
    {rest : List Fault} {credentials : GoogleCredential} (unread : marker ≠ .clear)
    (found : legacyCredential isDefault backends
      (.clear::.clear::.clear::.clear::.clear::.clear::.clear::rest) = some credentials)
    (unclaimed : isDefault = true → backends.passwords .global = none ∨
      backends.passwords .global = some migratedMarker)
    (revision : Revision) (object : Option CredentialVersion) :
    Revived credentials (Process.run machine (load isDefault revision object)
      (marker::.clear::.clear::.clear::.clear::.clear::.clear::.clear::rest) backends) := by
  unfold load
  rw [run_readState]
  have blind : markerIn (reply marker.file (backends.files .state)) = none := by
    cases marker with
    | clear => exact absurd rfl unread
    | _ => rfl
  rw [blind]
  dsimp only
  unfold loadLegacy
  rw [run_getPassword]
  cases profile : backends.passwords .profile with
  | some serialized =>
    have adopts : adoptable serialized = some credentials := by
      simpa [legacyCredential,profile] using found
    have live : CredentialBackend.keyring ≠ .deleted := by decide
    exact adopt_revives adopts live unclaimed revision object _
  | none =>
    cases isDefault with
    | false => exact file_revives (by simpa [legacyCredential,profile] using found) revision object
    | true =>
      dsimp only [reply,Fault.keyring]
      rw [if_pos rfl,run_getPassword]
      rcases unclaimed rfl with none | migrated
      · rw [none]
        exact file_revives (by simpa [legacyCredential,profile,none] using found) revision object
      · rw [migrated]
        exact file_revives (by simpa [legacyCredential,profile,migrated] using found) revision object

/-- A saved credential whose deletion found the keyring gone: the secret stays behind. -/
def leftBehind : CredentialWorld :=
  Run.run (step false) ⟨⟨fun _ => none,fun _ => none⟩,fun _ => none⟩
    [⟨0,.save readonlyCredential 1,[.clear,.clear,.clear,.clear]⟩,
      ⟨0,.delete 2,[.clear,.clear,.unavailable,.clear]⟩]

theorem leftBehind_tombstoned : Tombstoned leftBehind.backends := ⟨⟨2,2,.deleted,true⟩,rfl,rfl⟩

/-- Later loads that read the marker, also with a keyring that comes and goes. -/
theorem leftBehind_buried :
    Tombstoned (Run.run (step false) leftBehind
        ([⟨1,.load 3,[.clear,.clear,.unavailable]⟩] ++ [⟨2,.load 4,[.clear,.clear,.clear]⟩])).backends ∧
      (Run.run (step false) leftBehind [⟨1,.load 3,[.clear,.clear,.unavailable]⟩]).returned false
        ⟨2,.load 4,[.clear,.clear,.clear]⟩ = none :=
  tombstone_final false leftBehind leftBehind_tombstoned _ _ (by decide)

/-- A load that cannot read the marker takes the secret for one of a previous layout. -/
theorem leftBehind_revived :
    ¬∀ isDefault world inputs input, Tombstoned world.backends →
      (∀ other ∈ inputs ++ [input], ∃ revision, other.call = .load revision ∨ other.call = .delete revision) →
        Tombstoned (Run.run (step isDefault) world (inputs ++ [input])).backends ∧
          (Run.run (step isDefault) world inputs).returned isDefault input = none := by
  intro final
  have quiet := final false leftBehind [] ⟨1,.load 3,[.failed,.clear,.clear]⟩ leftBehind_tombstoned
    (fun other member => ⟨3,Or.inl (by rw [List.mem_singleton.mp member])⟩)
  have returned : leftBehind.returned false ⟨1,.load 3,[.failed,.clear,.clear]⟩ = some readonlyCredential := by
    decide
  cases returned.symm.trans quiet.2

end Proactive.Sources
