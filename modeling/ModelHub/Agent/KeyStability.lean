import ModelHub.Agent.IdentityStores
import ModelHub.Foundations.Transition

/-!
# Is a node's key stable?

`Load` and `LoadOrCreate` are called any number of times on one config directory,
while the keychain and the file system fail as they like.  A key that `LoadOrCreate`
has returned should be the only one that is returned from then on.

It is, as long as at most one of the two stores holds a key (`OneKey`).  The
exception is an outage: when the keychain holds the key but cannot be read and there
is no file, `LoadOrCreate` takes the keychain for missing and writes a second key to
the file.  From then on the keychain's state decides which of the two is returned.
`keyStable_iff` says that nothing else can go wrong.
-/

namespace ModelHub.Agent

open Transition

/-! ## Runs of calls -/

inductive KeyCall where
  | load (env : IdentityEnv)
  | loadOrCreate (env : IdentityEnv)

/-- A key that was returned, and whether `LoadOrCreate` returned it. -/
structure Answer where
  created : Bool
  key : PrivateKey
  deriving DecidableEq, Repr

/-- The stores, and the keys returned so far. -/
structure KeyState where
  stores : Stores
  answers : List Answer
  deriving DecidableEq, Repr

def KeyState.empty : KeyState := ⟨⟨none, none⟩, []⟩

def KeyState.record (state : KeyState) (created : Bool) (stores : Stores) :
    Except GoError PrivateKey → KeyState
  | .ok key => ⟨stores, state.answers ++ [⟨created, key⟩]⟩
  | .error _ => ⟨stores, state.answers⟩

def keyStep (state : KeyState) : KeyCall → KeyState
  | .load env => state.record false state.stores (load env state.stores)
  | .loadOrCreate env =>
      state.record true (loadOrCreate env state.stores).1 (loadOrCreate env state.stores).2

def keySystem : System KeyState KeyCall := ⟨fun state call => some (keyStep state call)⟩

/-- Once `LoadOrCreate` has returned a key, nothing else is returned. -/
def KeyStable (answers : List Answer) : Prop :=
  answers.Pairwise fun earlier later => earlier.created → later.key = earlier.key

instance (answers : List Answer) : Decidable (KeyStable answers) :=
  inferInstanceAs (Decidable (answers.Pairwise fun earlier later =>
    earlier.created → later.key = earlier.key))

/-- The call mints a key and stores it in the file although the keychain, which it
cannot read, holds one. -/
def mintsInOutage (stores : Stores) : KeyCall → Bool
  | .load _ => false
  | .loadOrCreate env =>
      env.keyringGet.isSome ∧ stores.entry.isSome ∧ env.readFile.isNone ∧ stores.file.isNone ∧
        env.generateKey.toOption.isSome ∧ env.writeFile.isNone

/-- The generator does not draw the key that the keychain holds. -/
def drawsFresh (stores : Stores) : KeyCall → Bool
  | .load _ => true
  | .loadOrCreate env =>
      env.generateKey.toOption.all fun key => stores.entry ≠ some (encodeKey key)

/-! ## What a call does to stores that hold keys -/

/-- The stores with these keys. -/
def storing (entry file : Option PrivateKey) : Stores := ⟨entry.map encodeKey, file.map encodeKey⟩

variable {env : IdentityEnv} {entry file : Option PrivateKey} {key : PrivateKey} {keyErr : GoError}

theorem keyringGet_ok {stored : String} (hget : keyringGet env (storing entry file) = .ok stored) :
    ∃ key, entry = some key ∧ stored = encodeKey key := by
  rcases keyringGet_cases env (storing entry file) with ⟨failure, -, hresult⟩ | ⟨-, -, hresult⟩ |
    ⟨found, -, hentry, hresult⟩
  · cases hresult.symm.trans hget
  · cases hresult.symm.trans hget
  · obtain ⟨key, hkey, hencoded⟩ := Option.map_eq_some_iff.1 hentry
    exact ⟨key, hkey, by rw [← Except.ok.inj (hresult.symm.trans hget), hencoded]⟩

/-- The keychain is unreadable or empty. -/
theorem keyringGet_error (hget : keyringGet env (storing entry file) = .error keyErr) :
    (env.keyringGet.isSome ∧ keyErr.is .notFound = false) ∨
      (env.keyringGet = none ∧ entry = none ∧ keyErr.is .notFound = true) := by
  rcases keyringGet_cases env (storing entry file) with ⟨failure, hfailure, hresult⟩ |
    ⟨hreadable, hentry, hresult⟩ | ⟨found, -, -, hresult⟩
  · rw [← Except.error.inj (hresult.symm.trans hget), hfailure]
    exact Or.inl ⟨rfl, rfl⟩
  · rw [← Except.error.inj (hresult.symm.trans hget)]
    exact Or.inr ⟨hreadable, Option.map_eq_none_iff.1 hentry, rfl⟩
  · cases hresult.symm.trans hget

theorem loadFile_ok (hload : loadFile env (storing entry file) = .ok key) : file = some key := by
  rcases loadFile_cases env (storing entry file) with ⟨failure, -, hresult⟩ | ⟨-, -, hresult⟩ |
    ⟨data, -, hdata, hresult⟩
  · cases hresult.symm.trans hload
  · cases hresult.symm.trans hload
  · obtain ⟨stored, hstored, rfl⟩ := Option.map_eq_some_iff.1 hdata
    rw [trimSpace_encodeKey, decodeKey_encodeKey] at hresult
    rw [hstored, Except.ok.inj (hresult.symm.trans hload)]

theorem load_ok (hload : load env (storing entry file) = .ok key) :
    entry = some key ∨ file = some key := by
  unfold load at hload
  split at hload
  case h_1 stored hget =>
    obtain ⟨stored, hentry, rfl⟩ := keyringGet_ok hget
    rw [decodeKey_encodeKey] at hload
    rw [hentry, Except.ok.inj hload]
    exact Or.inl rfl
  · split at hload
    case h_1 priv hfile =>
      rw [← Except.ok.inj hload]
      exact Or.inr (loadFile_ok hfile)
    · split at hload
      · cases hload
      · split at hload <;> cases hload

/-- Everything that `LoadOrCreate` can do: it leaves the stores alone and returns a
stored key if it succeeds, or it returns a new one and has stored it, in an empty
keychain or in a file that was not there. -/
inductive Created (env : IdentityEnv) (entry file : Option PrivateKey) :
    Stores × Except GoError PrivateKey → Prop where
  | found (key : PrivateKey) (hstored : entry = some key ∨ file = some key) :
      Created env entry file (storing entry file, .ok key)
  | failed (error : GoError) : Created env entry file (storing entry file, .error error)
  | minted (key : PrivateKey) (hdraw : env.generateKey = .ok key) (hentry : entry = none)
      (hread : env.readFile = none) (hfile : file = none) : Created env entry file (storing (some key) none, .ok key)
  | mintedFile (key : PrivateKey) (hdraw : env.generateKey = .ok key)
      (hentry : (entry = none ∧ env.keyringSet.isSome) ∨ env.keyringGet.isSome)
      (hread : env.readFile = none) (hfile : file = none) (hwrite : env.writeFile = none) :
      Created env entry file (storing entry (some key), .ok key)

theorem loadOrCreate_created : Created env entry file (loadOrCreate env (storing entry file)) := by
  have hcreated := @loadOrCreate_loadOrCreated env (storing entry file)
  generalize loadOrCreate env (storing entry file) = result at hcreated
  cases hcreated with
  | entry stored hget =>
      obtain ⟨key, hentry, rfl⟩ := keyringGet_ok hget
      rw [decodeKey_encodeKey]
      exact .found key (Or.inl hentry)
  | file priv keyErr hget hload => exact .found priv (Or.inr (loadFile_ok hload))
  | failed err => exact .failed err
  | minted priv hdraw hreadable hentry hread hfile =>
      obtain rfl : file = none := Option.map_eq_none_iff.1 hfile
      exact .minted priv hdraw (Option.map_eq_none_iff.1 hentry) hread rfl
  | mintedFile priv hdraw keyErr hget hunusable hread hfile hwrite =>
      refine .mintedFile priv hdraw ?_ hread (Option.map_eq_none_iff.1 hfile) hwrite
      rcases keyringGet_error hget with ⟨hdown, -⟩ | ⟨-, hentry, hmissing⟩
      · exact Or.inr hdown
      · exact Or.inl ⟨hentry, hunusable hmissing⟩

theorem mintsInOutage_storing :
    mintsInOutage (storing entry file) (.loadOrCreate env) = true ↔
      env.keyringGet.isSome ∧ entry.isSome ∧ env.readFile = none ∧ file = none ∧
        (∃ key, env.generateKey = .ok key) ∧ env.writeFile = none := by
  have hdraw : env.generateKey.toOption.isSome ↔ ∃ key, env.generateKey = .ok key := by
    cases env.generateKey <;> simp [Except.toOption]
  rw [mintsInOutage, decide_eq_true_iff, hdraw]
  simp only [storing, Option.isSome_map, Option.isNone_map, Option.isNone_iff_eq_none]

/-- What happens in the outage. -/
theorem loadOrCreate_outage (hdown : env.keyringGet.isSome) (hread : env.readFile = none)
    (hdraw : env.generateKey = .ok key) (hwrite : env.writeFile = none) :
    loadOrCreate env (storing entry none) = (storing entry (some key), .ok key) := by
  obtain ⟨failure, hfailure⟩ := Option.isSome_iff_exists.1 hdown
  have hget : keyringGet env (storing entry none) = .error (.other failure) := by
    simp [keyringGet, hfailure]
  have hload : loadFile env (storing entry none) = .error ErrNoIdentity := by
    simp [loadFile, hread, storing]
  have hmissing : ErrNoIdentity.is .noIdentity = true := rfl
  have hother : (GoError.other failure).is .notFound = false := rfl
  simp only [loadOrCreate, hget, loadOrCreateFallback, hload, hmissing, if_true, hdraw, storeKey,
    hother, storeInFile, hwrite]
  rfl

/-! ## One call -/

/-- The contract of the two calls, for every state of the stores and every outcome of the
system calls. -/
theorem loadOrCreate_contract (env : IdentityEnv) (stores : Stores) :
    (∀ answers, (keyStep ⟨stores, answers⟩ (.load env)).stores = stores) ∧
    ((∃ err, load env stores = .error err ∧ err.is .noIdentity = true) ↔
      (env.keyringGet = none ∧ stores.entry = none) ∧ env.readFile = none ∧ stores.file = none) ∧
    ((∃ stored, keyringGet env stores = .ok stored) ∨
        ¬ (env.readFile = none ∧ stores.file = none) →
      (loadOrCreate env stores).1 = stores ∧
        ∀ draw, loadOrCreate { env with generateKey := draw } stores = loadOrCreate env stores) ∧
    (∀ contents, stores.entry = some contents →
      (loadOrCreate env stores).1.entry = some contents) ∧
    (∀ contents, stores.file = some contents →
      (loadOrCreate env stores).1.file = some contents) ∧
    ((loadOrCreate env stores).1.entry = stores.entry ∨
      (loadOrCreate env stores).1.file = stores.file) ∧
    ∀ key, (loadOrCreate env stores).2 = .ok key → load env (loadOrCreate env stores).1 = .ok key := by
  have hcreated := @loadOrCreate_loadOrCreated env stores
  have hdraws := @loadOrCreate_draws_nothing env stores
  refine ⟨fun answers => ?_, load_noIdentity_iff, fun hpresent => ⟨?_, hdraws hpresent⟩, ?_⟩
  · simp only [keyStep]
    cases load env stores <;> rfl
  · generalize loadOrCreate env stores = result at hcreated
    cases hcreated with
    | entry stored hget => rfl
    | file priv keyErr hget hload => rfl
    | failed err => rfl
    | minted priv hdraw hreadable hentry hread hfile =>
        rcases hpresent with ⟨stored, hstored⟩ | hfile'
        · simp [keyringGet, hreadable, hentry] at hstored
        · exact absurd ⟨hread, hfile⟩ hfile'
    | mintedFile priv hdraw keyErr hget hunusable hread hfile hwrite =>
        rcases hpresent with ⟨stored, hstored⟩ | hfile'
        · cases hstored.symm.trans hget
        · exact absurd ⟨hread, hfile⟩ hfile'
  · generalize loadOrCreate env stores = result at hcreated
    cases hcreated with
    | entry stored hget =>
        refine ⟨fun _ => id, fun _ => id, Or.inl rfl, fun key hkey => ?_⟩
        simpa only [load, hget] using hkey
    | file priv keyErr hget hload =>
        refine ⟨fun _ => id, fun _ => id, Or.inl rfl, fun key hkey => ?_⟩
        rw [← Except.ok.inj hkey]
        exact load_of_file hget hload
    | failed err => exact ⟨fun _ => id, fun _ => id, Or.inl rfl, fun key hkey => by cases hkey⟩
    | minted priv hdraw hreadable hentry hread hfile =>
        refine ⟨fun contents hcontents => ?_, fun _ => id, Or.inr rfl, fun key hkey => ?_⟩
        · rw [hentry] at hcontents
          cases hcontents
        · rw [← Except.ok.inj hkey]
          simp only [load, keyringGet, hreadable, decodeKey_encodeKey]
    | mintedFile priv hdraw keyErr hget hunusable hread hfile hwrite =>
        refine ⟨fun _ => id, fun contents hcontents => ?_, Or.inl rfl, fun key hkey => ?_⟩
        · rw [hfile] at hcontents
          cases hcontents
        · rw [← Except.ok.inj hkey]
          refine @load_of_file env { stores with file := some (encodeKey priv) } priv keyErr hget ?_
          simp only [loadFile, hread, trimSpace_encodeKey, decodeKey_encodeKey]

/-! ## One key -/

/-- At most one store holds a key, and it is the only one returned so far. -/
def OneKey (state : KeyState) : Prop :=
  ∃ entry file, state.stores = storing entry file ∧ (entry = none ∨ file = none) ∧
    ∀ answer ∈ state.answers, entry = some answer.key ∨ file = some answer.key

theorem OneKey.stable {state : KeyState} (hone : OneKey state) : KeyStable state.answers := by
  obtain ⟨entry, file, -, hempty, hanswers⟩ := hone
  apply List.pairwise_of_forall_mem_list
  intro earlier hearlier later hlater _
  rcases hempty with rfl | rfl
  · have hfirst := (hanswers earlier hearlier).resolve_left (by simp)
    have hsecond := (hanswers later hlater).resolve_left (by simp)
    exact Option.some.inj (hsecond.symm.trans hfirst)
  · have hfirst := (hanswers earlier hearlier).resolve_right (by simp)
    have hsecond := (hanswers later hlater).resolve_right (by simp)
    exact Option.some.inj (hsecond.symm.trans hfirst)

/-- Returning the stored key keeps the invariant. -/
theorem OneKey.found {state : KeyState} {entry file : Option PrivateKey} {created : Bool}
    (hempty : entry = none ∨ file = none)
    (hanswers : ∀ answer ∈ state.answers, entry = some answer.key ∨ file = some answer.key)
    {key : PrivateKey} (hstored : entry = some key ∨ file = some key) :
    OneKey (state.record created (storing entry file) (.ok key)) := by
  refine ⟨entry, file, rfl, hempty, fun answer hanswer => ?_⟩
  rcases List.mem_append.1 hanswer with hold | hnew
  · exact hanswers answer hold
  · rw [List.mem_singleton.1 hnew]
    exact hstored

theorem oneKey_step {state : KeyState} {call : KeyCall} (hone : OneKey state)
    (hcalm : mintsInOutage state.stores call = false) : OneKey (keyStep state call) := by
  obtain ⟨entry, file, hstores, hempty, hanswers⟩ := hone
  cases call with
  | load env =>
      simp only [keyStep, hstores]
      cases hload : load env (storing entry file) with
      | ok key => exact OneKey.found hempty hanswers (load_ok hload)
      | error error => exact ⟨entry, file, rfl, hempty, hanswers⟩
  | loadOrCreate env =>
      simp only [keyStep, hstores]
      have hcreated := @loadOrCreate_created env entry file
      generalize loadOrCreate env (storing entry file) = result at hcreated
      -- nothing was returned yet when a key is minted into empty stores
      have hnone : entry = none → file = none → state.answers = [] := by
        rintro rfl rfl
        rw [List.eq_nil_iff_forall_not_mem]
        intro answer hanswer
        rcases hanswers answer hanswer with hentry | hfile
        · cases hentry
        · cases hfile
      cases hcreated with
      | found key hstored => exact OneKey.found hempty hanswers hstored
      | failed error => exact ⟨entry, file, rfl, hempty, hanswers⟩
      | minted key hdraw hentry hread hfile =>
          refine OneKey.found (Or.inr rfl) ?_ (Or.inl rfl)
          rw [hnone hentry hfile]
          exact fun _ hanswer => by cases hanswer
      | mintedFile key hdraw hentry hread hfile hwrite =>
          have hfree : entry = none := by
            by_contra hheld
            have hmints := mintsInOutage_storing.2 ⟨hentry.resolve_left fun hfree => hheld hfree.1,
              Option.isSome_iff_ne_none.2 hheld, hread, hfile, ⟨key, hdraw⟩, hwrite⟩
            rw [← hstores, hcalm] at hmints
            cases hmints
          refine OneKey.found (Or.inl hfree) ?_ (Or.inr rfl)
          rw [hnone hfree hfile]
          exact fun _ hanswer => by cases hanswer

/-! ## Where the keychain's key comes from -/

/-- The stores hold keys, and `LoadOrCreate` has returned the keychain's. -/
def Accounted (state : KeyState) : Prop :=
  ∃ entry file, state.stores = storing entry file ∧
    ∀ key, entry = some key → ⟨true, key⟩ ∈ state.answers

theorem answers_step (state : KeyState) (call : KeyCall) :
    state.answers <+: (keyStep state call).answers := by
  have hrecord : ∀ created stores result, state.answers <+: (state.record created stores result).answers := by
    intro created stores result
    cases result with
    | ok key => exact List.prefix_append _ _
    | error error => exact List.prefix_rfl
  cases call with
  | load env => exact hrecord _ _ _
  | loadOrCreate env => exact hrecord _ _ _

theorem accounted_step {state : KeyState} {call : KeyCall} (haccounted : Accounted state) :
    Accounted (keyStep state call) := by
  obtain ⟨entry, file, hstores, hanswers⟩ := haccounted
  have hkept : ∀ key, entry = some key → ⟨true, key⟩ ∈ (keyStep state call).answers := by
    intro key hentry
    exact (answers_step state call).subset (hanswers key hentry)
  cases call with
  | load env =>
      refine ⟨entry, file, ?_, hkept⟩
      simp only [keyStep, hstores]
      cases load env (storing entry file) <;> rfl
  | loadOrCreate env =>
      have hcreated := @loadOrCreate_created env entry file
      simp only [keyStep, hstores] at hkept ⊢
      generalize loadOrCreate env (storing entry file) = result at hcreated hkept
      cases hcreated with
      | found key hstored => exact ⟨entry, file, rfl, hkept⟩
      | failed error => exact ⟨entry, file, rfl, hkept⟩
      | minted key hdraw hentry hread hfile =>
          refine ⟨some key, none, rfl, fun other hother => ?_⟩
          rw [Option.some.inj hother]
          exact List.mem_append_right _ List.mem_cons_self
      | mintedFile key hdraw hentry hread hfile hwrite => exact ⟨entry, some key, rfl, hkept⟩

/-- A key minted in an outage is returned after the keychain's. -/
theorem not_stable_of_mintsInOutage {state : KeyState} {call : KeyCall}
    (haccounted : Accounted state) (hfresh : drawsFresh state.stores call = true)
    (hmints : mintsInOutage state.stores call = true) : ¬ KeyStable (keyStep state call).answers := by
  obtain ⟨entry, file, hstores, hanswers⟩ := haccounted
  cases call with
  | load env => cases hmints
  | loadOrCreate env =>
      rw [hstores] at hmints
      obtain ⟨hdown, hentry, hread, rfl, ⟨key, hdraw⟩, hwrite⟩ := mintsInOutage_storing.1 hmints
      obtain ⟨stored, rfl⟩ := Option.isSome_iff_exists.1 hentry
      have hstep : (keyStep state (.loadOrCreate env)).answers = state.answers ++ [⟨true, key⟩] := by
        simp only [keyStep, hstores, loadOrCreate_outage hdown hread hdraw hwrite]
        rfl
      rw [hstep]
      intro hstable
      have hsame : key = stored := (List.pairwise_append.1 hstable).2.2 ⟨true, stored⟩
        (hanswers stored rfl) ⟨true, key⟩ List.mem_cons_self rfl
      rw [drawsFresh, hdraw, hstores, hsame] at hfresh
      simp [storing, Except.toOption] at hfresh

/-! ## Whole runs -/

theorem answers_run {start final : KeyState} {calls : List KeyCall}
    (hrun : keySystem.run start calls = some final) : start.answers <+: final.answers := by
  apply System.run_rel (fun first last => first.answers <+: last.answers) _ _ _ hrun
  · exact fun state => List.prefix_rfl
  · exact fun first second third => List.IsPrefix.trans
  · intro state call next hstep
    rw [← Option.some.inj hstep]
    exact answers_step state call

/-- A node's key is stable exactly if no call mints a key in an outage. -/
theorem keyStable_iff {calls : List KeyCall} {final : KeyState}
    (hfresh : keySystem.Along (fun state call => drawsFresh state.stores call = true) .empty calls)
    (hrun : keySystem.run .empty calls = some final) :
    KeyStable final.answers ↔
      keySystem.Along (fun state call => mintsInOutage state.stores call = false) .empty calls := by
  constructor
  · intro hstable
    by_contra hnot
    obtain ⟨before, call, after, state, next, rfl, hbefore, hmints, hstep, hafter⟩ :=
      (System.not_along_iff hrun).1 hnot
    have haccounted : Accounted state := by
      apply System.run_invariant Accounted _ _ hbefore
      · intro state call next haccounted hstep
        rw [← Option.some.inj hstep]
        exact accounted_step haccounted
      · exact ⟨none, none, rfl, fun _ hentry => by cases hentry⟩
    have hdraw := ((System.along_append hbefore).1 hfresh).2.1
    have hnext := Option.some.inj hstep
    refine not_stable_of_mintsInOutage haccounted hdraw (by simpa using hmints) ?_
    rw [show keyStep state call = next from hnext]
    exact hstable.sublist (answers_run hafter).sublist
  · intro hcalm
    apply OneKey.stable
    apply System.along_invariant OneKey _ _ hcalm hrun
    · intro state call next hone hquiet hstep
      rw [← Option.some.inj hstep]
      exact oneKey_step hone hquiet
    · exact ⟨none, none, rfl, Or.inl rfl, fun _ hanswer => by cases hanswer⟩

/-! ## An outage -/

def sampleKey : PrivateKey := .repeating 1

def otherKey : PrivateKey := .repeating 2

/-- Everything works, and this key is drawn. -/
def workingEnv (key : PrivateKey) : IdentityEnv := ⟨none, none, none, none, none, none, .ok key⟩

/-- Every call of the keychain fails, as a locked keyring does. -/
def lockedEnv (key : PrivateKey) : IdentityEnv :=
  { workingEnv key with
    keyringGet := some "keychain is locked"
    keyringSet := some "keychain is locked"
    keyringDelete := some "keychain is locked" }

/-- `LoadOrCreate` has put the key into the keychain, and is called again when the
keychain is locked. -/
def outage : List KeyCall := [.loadOrCreate (workingEnv sampleKey), .loadOrCreate (lockedEnv otherKey)]

theorem loadOrCreate_second_key :
    ¬ ∀ (calls : List KeyCall) (final : KeyState),
      keySystem.Along (fun state call => drawsFresh state.stores call = true) .empty calls →
      keySystem.run .empty calls = some final → KeyStable final.answers := by
  intro hclaim
  have hanswers : (keySystem.run .empty outage).map KeyState.answers =
      some [⟨true, sampleKey⟩, ⟨true, otherKey⟩] := by
    decide +kernel
  obtain ⟨final, hrun, hfinal⟩ := Option.map_eq_some_iff.1 hanswers
  have hstable := hclaim outage final (by decide +kernel) hrun
  rw [hfinal] at hstable
  exact absurd hstable (by decide +kernel)

/-- A file that is written in an outage is found again when the keychain is back. -/
theorem keyStable_iff_file :
    ∃ final, keySystem.run .empty [.loadOrCreate (lockedEnv sampleKey),
        .loadOrCreate (workingEnv otherKey), .load (lockedEnv otherKey)] = some final ∧
      KeyStable final.answers ∧ final.answers.map Answer.key = [sampleKey, sampleKey, sampleKey] := by
  have hanswers : (keySystem.run .empty [.loadOrCreate (lockedEnv sampleKey),
      .loadOrCreate (workingEnv otherKey), .load (lockedEnv otherKey)]).map
        (fun final => final.answers.map Answer.key) = some [sampleKey, sampleKey, sampleKey] := by
    decide +kernel
  obtain ⟨final, hrun, hkeys⟩ := Option.map_eq_some_iff.1 hanswers
  exact ⟨final, hrun, (keyStable_iff (by decide +kernel) hrun).2 (by decide +kernel), hkeys⟩

end ModelHub.Agent
