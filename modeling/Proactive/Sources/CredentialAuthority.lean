import Proactive.Library.Run
import Proactive.Sources.CredentialSteps

/-! The marker and the secrets in both backends, over runs of saves, loads and deletions in
which every operation but the read of the marker may fail, and every call may die anywhere. -/
namespace Proactive.Sources
open Proactive.Library Process CredentialStore CredentialBackends CredentialWorld

namespace CredentialAuthority

def Advanced (epoch : PNat) (backends : CredentialBackends) : Prop :=
  ∃ now, backends.files .state = some (.state now) ∧ epoch ≤ now.epoch

def Steady (version : CredentialVersion) (backends : CredentialBackends) : Prop :=
  ∃ now, backends.files .state = some (.state now) ∧ now.version = version

/-- The backend that the marker names holds this credential in an envelope of its version. -/
def Current (credentials : GoogleCredential) (backends : CredentialBackends) : Prop :=
  ∃ state, backends.files .state = some (.state state) ∧ state.live = true ∧
    (held (state.backend == .file) backends).bind (parseEnvelopedCredentials · state.version) = some credentials

/-- The call's read of the marker succeeds. -/
def sighted (input : StoreInput) : Bool := input.schedule.head?.all (· == .clear)

def loadMarked (state : CredentialState) : CredentialCall (Option GoogleCredential) := do
  Call.write (some state.version)
  if state.tombstone || state.backend == .deleted then
    purgeTombstoned
    return none
  else if state.backend = .file then loadAuthoritativeFile state
  else match ← Call.perform (.getPassword .profile) with
    | .error _ => Call.raise .storage
    | .ok none => return none
    | .ok (some serialized) => return parseEnvelopedCredentials serialized state.version

theorem run_load {backends : CredentialBackends} {state : CredentialState}
    (marked : backends.files .state = some (.state state)) (isDefault : Bool) (revision : Revision)
    (object : Option CredentialVersion) (rest : List Fault) :
    run machine (load isDefault revision object) (.clear::rest) backends =
      run machine (loadMarked state object) rest backends := by
  unfold load
  rw [run_readState,marked]
  rfl

section ensures
variable {kept : CredentialBackends → Prop} {α : Type} {post : α → CredentialBackends → Prop}

/-- One operation, which goes well, or raises whether or not it has changed its target. -/
theorem act_ensures {β : Type} {action : CredentialAction β} {next : β → Process CredentialAction α}
    {backends : CredentialBackends} (initial : kept backends) (changed : kept (change action backends))
    (clear : Ensures machine kept post (next (answer .clear action backends)) (change action backends))
    (failed : ∀ fault ≠ .clear, ∀ left, kept left →
      Ensures machine kept post (next (answer fault action backends)) left) :
    Ensures machine kept post (.act action next) backends := by
  intro fault
  cases fault with
  | clear => exact ⟨changed,clear⟩
  | late => exact ⟨changed,failed .late nofun _ changed⟩
  | unavailable => exact ⟨initial,failed .unavailable nofun _ initial⟩
  | refused => exact ⟨initial,failed .refused nofun _ initial⟩
  | failed => exact ⟨initial,failed .failed nofun _ initial⟩

end ensures

theorem run_keeps {kept : CredentialBackends → Prop} {α : Type} {program : Process CredentialAction α}
    {backends : CredentialBackends} (initial : kept backends) (schedule : List Fault)
    (ensures : Ensures machine kept (fun _ left => kept left) program backends) :
    kept (run machine program schedule backends).2 := (ensures_run schedule initial ensures).1

/-- What a load that read this marker keeps: the version, and the credential if there is one. -/
def Kept (version : CredentialVersion) (before left : CredentialBackends) : Prop :=
  Steady version left ∧ ∀ credentials, Current credentials before → Current credentials left

def Faithful (version : CredentialVersion) (before : CredentialBackends)
    (outcome : Except CredentialError (Option GoogleCredential) × Option CredentialVersion)
    (left : CredentialBackends) : Prop :=
  Kept version before left ∧ ∀ credentials, outcome.1 = .ok (some credentials) → Current credentials before

theorem purge_faithful {backends : CredentialBackends} {state : CredentialState}
    (marked : backends.files .state = some (.state state)) (dead : state.live = false)
    (object : Option CredentialVersion) :
    Ensures machine (Kept state.version backends) (Faithful state.version backends)
      ((do purgeTombstoned; return none : CredentialCall (Option GoogleCredential)) object) backends := by
  have kept (left : CredentialBackends) (same : left.files .state = backends.files .state) :
      Kept state.version backends left := by
    refine ⟨⟨state,same.trans marked,rfl⟩,fun credentials current => ?_⟩
    obtain ⟨other,written,live,_⟩ := current
    cases marked.symm.trans written
    cases dead.symm.trans live
  intro first
  cases first with
  | clear =>
    refine ⟨kept _ rfl,fun second => ?_⟩
    cases second <;> exact ⟨kept _ rfl,kept _ rfl,fun _ => nofun⟩
  | unavailable =>
    refine ⟨kept _ rfl,fun second => ?_⟩
    cases second <;> exact ⟨kept _ rfl,kept _ rfl,fun _ => nofun⟩
  | refused => exact ⟨kept _ rfl,kept _ rfl,fun _ => nofun⟩
  | failed => exact ⟨kept _ rfl,kept _ rfl,fun _ => nofun⟩
  | late => exact ⟨kept _ rfl,kept _ rfl,fun _ => nofun⟩

theorem promotion_kept {backends : CredentialBackends} {state : CredentialState} {serialized : StoredText}
    (marked : backends.files .state = some (.state state)) (file : state.backend = .file)
    (stored : backends.files .credential = some serialized) :
    Kept state.version backends (CredentialStore.stored false serialized backends) ∧
      Kept state.version backends (CredentialStore.marked ⟨state.epoch,state.revision,.keyring,false⟩
        (CredentialStore.stored false serialized backends)) ∧
      Kept state.version backends (cleaned (CredentialStore.marked ⟨state.epoch,state.revision,.keyring,false⟩
        (CredentialStore.stored false serialized backends))) := by
  have before {credentials : GoogleCredential} (current : Current credentials backends) :
      parseEnvelopedCredentials serialized state.version = some credentials := by
    obtain ⟨other,written,_,holds⟩ := current
    cases marked.symm.trans written
    rw [file] at holds
    have read := congrArg (·.bind (parseEnvelopedCredentials · state.version)) stored
    exact read.symm.trans holds
  refine ⟨⟨⟨state,marked,rfl⟩,fun credentials current => ?_⟩,⟨⟨_,rfl,rfl⟩,fun credentials current => ?_⟩,
    ⟨⟨_,rfl,rfl⟩,fun credentials current => ?_⟩⟩
  · obtain ⟨other,written,alive,holds⟩ := current
    cases marked.symm.trans written
    refine ⟨state,marked,alive,?_⟩
    rw [file] at holds ⊢
    exact holds
  · exact ⟨_,rfl,rfl,before current⟩
  · exact ⟨_,rfl,rfl,before current⟩

def promotion (state : CredentialState) (serialized : StoredText) (credentials : GoogleCredential) :
    CredentialCall (Option GoogleCredential) := do
  match ← Call.perform (.setPassword .profile serialized) with
  | .error .unavailable => return some credentials
  | .error _ => Call.raise .storage
  | .ok () =>
    writeState ⟨state.epoch,state.revision,.keyring,false⟩
    deleteFallback
    return some credentials

theorem loadAuthoritativeFile_eq (state : CredentialState) (object : Option CredentialVersion) :
    loadAuthoritativeFile state object = .act (.readPrivateText .credential) (fun reply =>
      match recordIn reply with
      | none => .done (.ok none,object)
      | some serialized =>
        match parseEnvelopedCredentials serialized state.version with
        | none => .done (.ok none,object)
        | some credentials => promotion state serialized credentials object) := by
  refine congrArg (Process.act _) (funext (fun reply => ?_))
  change (match recordIn reply with | none => _ | some serialized => _ : CredentialCall _) object = _
  cases recordIn reply with
  | none => rfl
  | some serialized =>
    dsimp only
    cases parseEnvelopedCredentials serialized state.version <;> rfl

theorem promotion_eq (state : CredentialState) (serialized : StoredText) (credentials : GoogleCredential)
    (object : Option CredentialVersion) : promotion state serialized credentials object =
      .act (.setPassword .profile serialized) (fun reply =>
        match reply with
        | .error .unavailable => .done (.ok (some credentials),object)
        | .error _ => .done (.error .storage,object)
        | .ok () => .act (.writePrivateText .state (.state ⟨state.epoch,state.revision,.keyring,false⟩)) (fun reply =>
          match reply with
          | .error _ => .done (.error .storage,object)
          | .ok () => .act (.deletePrivateFile .credential) (fun reply => .done
            (match reply with
            | .ok () | .error .unsupported => (.ok (some credentials),object)
            | .error .other => (.error .storage,object))))) := by
  refine congrArg (Process.act _) (funext (fun reply => ?_))
  cases reply with
  | error error => cases error <;> rfl
  | ok =>
    refine congrArg (Process.act _) (funext (fun reply => ?_))
    cases reply with
    | error error => rfl
    | ok =>
      refine congrArg (Process.act _) (funext (fun reply => ?_))
      cases reply with
      | ok => rfl
      | error error => cases error <;> rfl

/-- A promotion stays with its credential wherever it is cut short. -/
theorem promotion_faithful {backends : CredentialBackends} {state : CredentialState}
    {serialized : StoredText} {credentials : GoogleCredential}
    (marked : backends.files .state = some (.state state)) (live : state.live = true)
    (file : state.backend = .file) (stored : backends.files .credential = some serialized)
    (parsed : parseEnvelopedCredentials serialized state.version = some credentials)
    (object : Option CredentialVersion) :
    Ensures machine (Kept state.version backends) (Faithful state.version backends)
      (promotion state serialized credentials object) backends := by
  have initial : Kept state.version backends backends := ⟨⟨state,marked,rfl⟩,fun _ current => current⟩
  have current : Current credentials backends := by
    refine ⟨state,marked,live,?_⟩
    rw [file]
    exact (congrArg (·.bind (parseEnvelopedCredentials · state.version)) stored).trans parsed
  have returns {left : CredentialBackends} (kept : Kept state.version backends left)
      (object : Option CredentialVersion) :
      Faithful state.version backends (.ok (some credentials),object) left := by
    refine ⟨kept,fun other same => ?_⟩
    cases same
    exact current
  have raises {left : CredentialBackends} (kept : Kept state.version backends left)
      (object : Option CredentialVersion) : Faithful state.version backends (.error .storage,object) left :=
    ⟨kept,fun _ => nofun⟩
  obtain ⟨first,second,third⟩ := promotion_kept marked file stored
  rw [promotion_eq]
  refine act_ensures initial first ?_ (fun fault unclear left kept => ?_)
  · refine act_ensures first second ?_ (fun fault unclear left kept => ?_)
    · refine act_ensures second third (returns third object) (fun fault unclear left kept => ?_)
      cases fault with
      | clear => exact absurd rfl unclear
      | unavailable => exact returns kept object
      | refused => exact raises kept object
      | failed => exact raises kept object
      | late => exact raises kept object
    · cases fault with
      | clear => exact absurd rfl unclear
      | _ => exact raises kept object
  · cases fault with
    | clear => exact absurd rfl unclear
    | unavailable => exact returns kept object
    | refused => exact raises kept object
    | failed => exact raises kept object
    | late => exact raises kept object

theorem file_faithful {backends : CredentialBackends} {state : CredentialState}
    (marked : backends.files .state = some (.state state)) (live : state.live = true)
    (file : state.backend = .file) (object : Option CredentialVersion) :
    Ensures machine (Kept state.version backends) (Faithful state.version backends)
      (loadAuthoritativeFile state object) backends := by
  have initial : Kept state.version backends backends := ⟨⟨state,marked,rfl⟩,fun _ current => current⟩
  rw [loadAuthoritativeFile_eq]
  refine act_ensures initial initial ?_ (fun fault unclear left kept => ?_)
  · have read : answer .clear (.readPrivateText .credential) backends = .ok (backends.files .credential) := rfl
    rw [read]
    dsimp only [recordIn]
    cases stored : backends.files .credential with
    | none => exact ⟨initial,fun _ => nofun⟩
    | some serialized =>
      dsimp only
      cases parsed : parseEnvelopedCredentials serialized state.version with
      | none => exact ⟨initial,fun _ => nofun⟩
      | some credentials => exact promotion_faithful marked live file stored parsed object
  · cases fault with
    | clear => exact absurd rfl unclear
    | _ => exact ⟨kept,fun _ => nofun⟩

theorem loadMarked_faithful {backends : CredentialBackends} {state : CredentialState}
    (marked : backends.files .state = some (.state state)) (object : Option CredentialVersion) :
    Ensures machine (Kept state.version backends) (Faithful state.version backends) (loadMarked state object)
      backends := by
  have initial : Kept state.version backends backends := ⟨⟨state,marked,rfl⟩,fun _ current => current⟩
  unfold loadMarked
  rw [Call.bind_write]
  by_cases purges : (state.tombstone || state.backend == .deleted) = true
  · rw [if_pos purges]
    have dead : state.live = false := by rw [state.live_eq,purges,Bool.not_true]
    exact purge_faithful marked dead _
  rw [if_neg purges]
  have live : state.live = true := by rw [state.live_eq,eq_false_of_ne_true purges,Bool.not_false]
  by_cases file : state.backend = .file
  · rw [if_pos file]
    exact file_faithful marked live file _
  · rw [if_neg file]
    refine act_ensures initial initial ?_ (fun fault unclear left kept => ?_)
    · have read : answer .clear (.getPassword .profile) backends = .ok (backends.passwords .profile) := rfl
      rw [read]
      cases entry : backends.passwords .profile with
      | none => exact ⟨initial,fun _ => nofun⟩
      | some serialized =>
        refine ⟨initial,fun credentials returned => ⟨state,marked,live,?_⟩⟩
        rw [beq_false_of_ne file]
        have same : parseEnvelopedCredentials serialized state.version = some credentials :=
          Except.ok.inj returned
        exact (congrArg (·.bind (parseEnvelopedCredentials · state.version)) entry).trans same
    · cases fault with
      | clear => exact absurd rfl unclear
      | _ => exact ⟨kept,fun _ => nofun⟩

theorem overKeyring_advances {epoch least : PNat} (higher : least ≤ epoch) (revision : Revision)
    (object : Option CredentialVersion) {backends : CredentialBackends} (advanced : Advanced least backends) :
    Ensures machine (Advanced least) (fun _ left => Advanced least left) (overKeyring epoch revision object)
      backends := by
  have written : Advanced least (change (.writePrivateText .state (.state ⟨epoch,revision,.keyring,false⟩))
      backends) := ⟨_,rfl,higher⟩
  rw [overKeyring_eq]
  refine act_ensures advanced written ?_ (fun fault unclear left kept => ?_)
  · exact act_ensures written written written (fun _ _ _ kept => kept)
  · cases fault with
    | clear => exact absurd rfl unclear
    | _ => exact kept

theorem overFile_advances {epoch least : PNat} (higher : least ≤ epoch) (revision : Revision)
    (serialized : StoredText) (object : Option CredentialVersion) {backends : CredentialBackends}
    (advanced : Advanced least backends) :
    Ensures machine (Advanced least) (fun _ left => Advanced least left)
      (overFile epoch revision serialized object) backends := by
  have written (left : CredentialBackends) : Advanced least (change (.writePrivateText .state
      (.state ⟨epoch,revision,.file,false⟩)) left) := ⟨_,rfl,higher⟩
  rw [overFile_eq]
  refine act_ensures advanced advanced ?_ (fun fault unclear left kept => ?_)
  · exact act_ensures advanced (written _) (written _) (fun _ _ _ kept => kept)
  · cases fault with
    | clear => exact absurd rfl unclear
    | _ => exact kept

theorem proceed_advances {epoch least : PNat} (higher : least ≤ epoch) (revision : Revision)
    (object : Option CredentialVersion) {backends : CredentialBackends} (advanced : Advanced least backends) :
    Ensures machine (Advanced least) (fun _ left => Advanced least left) (proceed revision epoch object)
      backends := by
  have written : Advanced least (change (.writePrivateText .state (.state ⟨epoch,revision,.deleted,true⟩))
      backends) := ⟨_,rfl,higher⟩
  rw [proceed_eq]
  refine act_ensures advanced written ?_ (fun fault unclear left kept => ?_)
  · have last (reply : Except KeyringFault Unit) (object : Option CredentialVersion)
        {left : CredentialBackends} (kept : Advanced least left) :
        Ensures machine (Advanced least) (fun _ left => Advanced least left) (finishing reply object) left := by
      by_cases other : reply = .error .other
      · subst other
        exact kept
      · rw [finishing_eq other]
        exact act_ensures kept kept kept (fun _ _ _ kept => kept)
    exact act_ensures written written (last _ _ written) (fun _ _ _ kept => last _ _ kept)
  · cases fault with
    | clear => exact absurd rfl unclear
    | _ => exact kept

section marked
variable {backends : CredentialBackends} {state : CredentialState}
  (marked : backends.files .state = some (.state state))
include marked

theorem nextEpoch_higher : state.epoch ≤ nextEpoch (markerIn (.ok (backends.files .state))) := by
  rw [marked]
  exact le_of_lt (PNat.lt_add_right state.epoch 1)

theorem save_advances (credentials : GoogleCredential) (revision : Revision)
    (object : Option CredentialVersion) (rest : List Fault) :
    Advanced state.epoch (run machine (save credentials revision object) (.clear::rest) backends).2 := by
  have advanced : Advanced state.epoch backends := ⟨state,marked,le_rfl⟩
  cases rejection : credentials.rejection with
  | some error =>
    rw [save_rejected rejection,run_done]
    exact advanced
  | none =>
    have higher := nextEpoch_higher marked
    have stored : Advanced state.epoch (change (.setPassword .profile (.envelope
        (nextEpoch (markerIn (.ok (backends.files .state)))) revision credentials.toJson)) backends) := advanced
    rw [save_eq rejection,run_act_cons,read_same]
    refine run_keeps advanced rest (act_ensures advanced stored ?_ (fun fault unclear left kept => ?_))
    · exact overKeyring_advances higher revision object stored
    · cases fault with
      | clear => exact absurd rfl unclear
      | unavailable => exact overFile_advances higher revision _ object kept
      | refused => exact kept
      | failed => exact kept
      | late => exact kept

theorem delete_advances (revision : Revision) (object : Option CredentialVersion) (rest : List Fault) :
    Advanced state.epoch (run machine (delete revision object) (.clear::rest) backends).2 := by
  have advanced : Advanced state.epoch backends := ⟨state,marked,le_rfl⟩
  have checked : run machine (delete revision object) (.clear::rest) backends =
      run machine (if superseded object (markerIn (.ok (backends.files .state))) then .done (.ok (),object)
        else proceed revision (nextEpoch (markerIn (.ok (backends.files .state)))) object) rest backends := by
    rw [delete_eq]
    rfl
  rw [checked]
  split
  · rw [run_done]
    exact advanced
  · exact run_keeps advanced rest (proceed_advances (nextEpoch_higher marked) revision object advanced)

end marked

theorem run_wordless (call : CredentialCall Unit) (object : Option CredentialVersion) (schedule : List Fault)
    (backends : CredentialBackends) :
    run machine ((do call; return none : CredentialCall (Option GoogleCredential)) object) schedule backends =
      ((run machine (call object) schedule backends).1.map (fun outcome => (outcome.1.map (fun _ => none),outcome.2)),
        (run machine (call object) schedule backends).2) := by
  rw [← run_bind_done]
  refine congrArg (fun program => run machine program schedule backends) ?_
  refine congrArg (Process.bind (call object)) (funext (fun outcome => ?_))
  obtain ⟨result,left⟩ := outcome
  cases result <;> rfl

section step
variable (isDefault : Bool) {world : CredentialWorld} {state : CredentialState}
  (marked : world.backends.files .state = some (.state state)) {input : StoreInput}
  (sees : sighted input = true)
include marked sees

theorem load_faithful {revision : Revision} (loads : input.call = .load revision) :
    Kept state.version world.backends (world.step isDefault input).backends ∧
      ∀ credentials, world.returned isDefault input = some credentials → Current credentials world.backends := by
  obtain ⟨number,call,schedule⟩ := input
  cases loads
  cases schedule with
  | nil => exact ⟨⟨⟨state,marked,rfl⟩,fun _ current => current⟩,fun _ => nofun⟩
  | cons first rest =>
    obtain rfl : first = .clear := by simpa [sighted] using sees
    have ran := run_load marked isDefault revision (world.objects number) rest
    obtain ⟨kept,returns⟩ := ensures_run rest ⟨⟨state,marked,rfl⟩,fun _ current => current⟩
      (loadMarked_faithful marked (world.objects number))
    rw [← ran] at kept returns
    refine ⟨kept,fun credentials returned => ?_⟩
    unfold CredentialWorld.returned at returned
    split at returned
    · rename_i result object ended
      exact (returns _ ended).2 credentials (congrArg Except.ok returned)
    · cases returned

theorem step_advances : Advanced state.epoch (world.step isDefault input).backends := by
  cases loads : input.call with
  | load revision =>
    obtain ⟨now,written,same⟩ := (load_faithful isDefault marked sees loads).1.1
    exact ⟨now,written,(congrArg Prod.fst same).ge⟩
  | save credentials revision =>
    obtain ⟨number,call,schedule⟩ := input
    cases loads
    change Advanced _ (run machine ((do save credentials revision; return none : CredentialCall _)
      (world.objects number)) schedule world.backends).2
    rw [run_wordless]
    cases schedule with
    | nil =>
      rw [run_nil_state]
      exact ⟨state,marked,le_rfl⟩
    | cons first rest =>
      obtain rfl : first = .clear := by simpa [sighted] using sees
      exact save_advances marked credentials revision (world.objects number) rest
  | delete revision =>
    obtain ⟨number,call,schedule⟩ := input
    cases loads
    change Advanced _ (run machine ((do delete revision; return none : CredentialCall _)
      (world.objects number)) schedule world.backends).2
    rw [run_wordless]
    cases schedule with
    | nil =>
      rw [run_nil_state]
      exact ⟨state,marked,le_rfl⟩
    | cons first rest =>
      obtain rfl : first = .clear := by simpa [sighted] using sees
      exact delete_advances marked revision (world.objects number) rest

omit marked sees in
theorem wordless_returns {call : CredentialCall Unit} {credentials : GoogleCredential}
    (wordless : body isDefault input.call = do call; return none) :
    world.returned isDefault input ≠ some credentials := by
  intro returned
  unfold CredentialWorld.returned CredentialWorld.outcome at returned
  rw [wordless,run_wordless] at returned
  split at returned
  · rename_i result object ended
    obtain ⟨outcome,_,same⟩ := Option.map_eq_some_iff.mp ended
    cases ended : outcome.1 with
    | ok value =>
      rw [ended] at same
      cases same
      cases returned
    | error error =>
      rw [ended] at same
      cases same
  · cases returned

theorem step_returns {credentials : GoogleCredential}
    (returned : world.returned isDefault input = some credentials) :
    Steady state.version (world.step isDefault input).backends ∧ Current credentials world.backends := by
  cases loads : input.call with
  | load revision =>
    obtain ⟨kept,returns⟩ := load_faithful isDefault marked sees loads
    exact ⟨kept.1,returns credentials returned⟩
  | save saved revision => exact absurd returned (wordless_returns isDefault (congrArg (body isDefault) loads))
  | delete revision => exact absurd returned (wordless_returns isDefault (congrArg (body isDefault) loads))

end step

theorem current_returned (isDefault : Bool) {world : CredentialWorld} {credentials : GoogleCredential}
    (current : Current credentials world.backends) {input : StoreInput} {revision : Revision}
    (loads : input.call = .load revision) (unhindered : ∀ fault ∈ input.schedule, fault = .clear)
    (finished : (world.outcome isDefault input).1.isSome = true) :
    world.returned isDefault input = some credentials := by
  obtain ⟨state,marked,live,holds⟩ := current
  obtain ⟨number,call,schedule⟩ := input
  cases loads
  obtain ⟨ended,same⟩ := Option.isSome_iff_exists.mp finished
  have result := run_alike machine unhindered same
  have object : finish machine .clear (load isDefault revision (world.objects number)) world.backends =
      finish machine .clear (load isDefault revision none) world.backends := by
    unfold load
    rw [finish_readState,finish_readState,marked]
    rfl
  have found : loaded isDefault revision world.backends = .ok (some credentials) := by
    rw [← holds]
    obtain ⟨epoch,own,backend,tombstone⟩ := state
    cases tombstone with
    | true => cases live
    | false =>
      cases backend with
      | deleted => cases live
      | keyring => exact loaded_keyring marked isDefault revision rfl rfl
      | file => exact loaded_file marked isDefault revision rfl rfl
  have ends : ended.1 = .ok (some credentials) :=
    (congrArg Prod.fst (result.trans (congrArg Prod.fst object))).trans found
  unfold CredentialWorld.returned
  rw [same]
  obtain ⟨outcome,left⟩ := ended
  cases ends
  rfl

theorem enveloped_own {serialized : StoredText} {version : CredentialVersion} {credentials : GoogleCredential}
    (parsed : parseEnvelopedCredentials serialized version = some credentials) :
    ∃ credential, parseEnvelope serialized = some (version,credential) ∧
      parseCredentials credential = some credentials := by
  unfold parseEnvelopedCredentials at parsed
  split at parsed
  · rename_i found credential opened
    split at parsed
    · cases parsed
    · rename_i same
      rw [← not_ne_iff.mp same]
      exact ⟨credential,opened,parsed⟩
  · cases parsed

theorem run_advances (isDefault : Bool) {world : CredentialWorld} {state : CredentialState}
    (marked : world.backends.files .state = some (.state state)) {inputs : List StoreInput}
    (sees : ∀ input ∈ inputs, sighted input = true) :
    Advanced state.epoch (Run.run (step isDefault) world inputs).backends := by
  induction inputs generalizing world state with
  | nil => exact ⟨state,marked,le_rfl⟩
  | cons input rest ih =>
    obtain ⟨next,written,higher⟩ := step_advances isDefault marked (sees input List.mem_cons_self)
    obtain ⟨now,reached,last⟩ := ih written (fun other member => sees other (List.mem_cons_of_mem _ member))
    exact ⟨now,reached,higher.trans last⟩

/-- Loads, also promotions that die half way, leave the current credential current. -/
theorem run_current (isDefault : Bool) {world : CredentialWorld} {credentials : GoogleCredential}
    (current : Current credentials world.backends) {loads : List StoreInput}
    (all : ∀ load ∈ loads, sighted load = true ∧ ∃ revision, load.call = .load revision) :
    Current credentials (Run.run (step isDefault) world loads).backends := by
  induction loads generalizing world with
  | nil => exact current
  | cons input rest ih =>
    obtain ⟨state,marked,_⟩ := id current
    obtain ⟨sees,revision,loads⟩ := all input List.mem_cons_self
    have kept := (load_faithful isDefault marked sees loads).1.2 credentials current
    exact ih kept (fun other member => all other (List.mem_cons_of_mem _ member))

/-- Over every run that starts with a marker and whose calls can read it, whatever else fails
and wherever the calls die: the epoch of the marker does not decrease; what a load returns was
stored in an envelope of the marker's version; and from a load of a credential that is current,
the one that promotes it from the file among them, each load that nothing hinders returns that
credential as long as there are only loads. -/
theorem marker_decides (isDefault : Bool) (world : CredentialWorld) (state : CredentialState)
    (marked : world.backends.files .state = some (.state state)) (inputs : List StoreInput)
    (sees : ∀ input ∈ inputs, sighted input = true) :
    (∀ earlier later, inputs = earlier ++ later → ∃ before now,
      (Run.run (step isDefault) world earlier).backends.files .state = some (.state before) ∧
        (Run.run (step isDefault) world inputs).backends.files .state = some (.state now) ∧
        before.epoch ≤ now.epoch) ∧
    (∀ input credentials, sighted input = true →
      (Run.run (step isDefault) world inputs).returned isDefault input = some credentials →
      ∃ now fallback serialized credential,
        (Run.run (step isDefault) world (inputs ++ [input])).backends.files .state = some (.state now) ∧
        held fallback (Run.run (step isDefault) world inputs).backends = some serialized ∧
        parseEnvelope serialized = some (now.version,credential) ∧
        parseCredentials credential = some credentials) ∧
    ∀ credentials, Current credentials (Run.run (step isDefault) world inputs).backends →
      ∀ promotion loads, (∀ load ∈ promotion::loads, sighted load = true ∧ ∃ revision, load.call = .load revision) →
        ∀ last revision, last.call = .load revision → (∀ fault ∈ last.schedule, fault = .clear) →
          ((Run.run (step isDefault) world (inputs ++ promotion::loads)).outcome isDefault last).1.isSome = true →
          (Run.run (step isDefault) world (inputs ++ promotion::loads)).returned isDefault last =
            some credentials := by
  refine ⟨fun earlier later same => ?_,fun input credentials sights returned => ?_,
    fun credentials current promotion loads all last revision isLoad unhindered finished => ?_⟩
  · subst same
    have first : ∀ input ∈ earlier, sighted input = true := fun input member =>
      sees input (List.mem_append_left _ member)
    obtain ⟨before,written,_⟩ := run_advances isDefault marked first
    have second : ∀ input ∈ later, sighted input = true := fun input member =>
      sees input (List.mem_append_right _ member)
    obtain ⟨now,reached,higher⟩ := run_advances isDefault written second
    rw [← Run.run_append] at reached
    exact ⟨before,now,written,reached,higher⟩
  · obtain ⟨reached,written,_⟩ := run_advances isDefault marked sees
    obtain ⟨⟨now,kept,same⟩,other,current,_,holds⟩ := step_returns isDefault written sights returned
    cases written.symm.trans current
    obtain ⟨serialized,stored,parsed⟩ := Option.bind_eq_some_iff.mp holds
    obtain ⟨credential,opened,accepted⟩ := enveloped_own parsed
    rw [← same] at opened
    refine ⟨now,_,serialized,credential,?_,stored,opened,accepted⟩
    rw [Run.run_append]
    exact kept
  · rw [Run.run_append] at finished ⊢
    exact current_returned isDefault (run_current isDefault current all) isLoad unhindered finished

def shelved : CredentialWorld :=
  Run.run (step false) ⟨⟨fun _ => none,fun _ => none⟩,fun _ => none⟩
    [⟨0,.save readonlyCredential 1,[.clear,.unavailable,.clear,.clear]⟩]

/-- A promotion that dies once the keyring has the secret, and the next load. -/
theorem shelved_promoted :
    (Run.run (step false) shelved ([] ++ [⟨1,.load 2,[.clear,.clear,.clear]⟩])).returned false
      ⟨2,.load 3,[.clear,.clear,.clear,.clear,.clear]⟩ = some readonlyCredential :=
  (marker_decides false shelved ⟨1,1,.file,false⟩ rfl [] nofun).2.2 readonlyCredential ⟨_,rfl,rfl,rfl⟩
    ⟨1,.load 2,[.clear,.clear,.clear]⟩ []
    (fun _ member => List.mem_singleton.mp member ▸ ⟨rfl,2,rfl⟩)
    ⟨2,.load 3,[.clear,.clear,.clear,.clear,.clear]⟩ 3 rfl (by decide) (by decide)

end CredentialAuthority
end Proactive.Sources
