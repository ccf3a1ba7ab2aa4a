import ModelHub.Agent.Identity

/-!
# One call of Load or LoadOrCreate

The stores have arbitrary contents: an entry and a file that hold keys, that hold anything
else, that are missing, or that cannot be read.

`keyringGet_cases` and `loadFile_cases` list what the two stores answer, and
`LoadOrCreated` is everything that `LoadOrCreate` can do with it.  An absent key is only
ever reported by the file, and `load` passes this on only under a keychain that has no
entry (`load_noIdentity_iff`).  A key is generated on just one path, behind both look-ups,
so that there is nothing in the store that it then goes to.
-/

namespace ModelHub.Agent

variable {env : IdentityEnv} {stores : Stores}

/-! ## What the stores answer -/

theorem keyringGet_cases (env : IdentityEnv) (stores : Stores) :
    (∃ failure, env.keyringGet = some failure ∧
      keyringGet env stores = .error (.other failure)) ∨
    (env.keyringGet = none ∧ stores.entry = none ∧ keyringGet env stores = .error ErrNotFound) ∨
    (∃ stored, env.keyringGet = none ∧ stores.entry = some stored ∧
      keyringGet env stores = .ok stored) := by
  unfold keyringGet
  split
  case h_1 failure hfailure => exact Or.inl ⟨failure, hfailure, rfl⟩
  case h_2 hreadable =>
    split
    case h_1 hentry => exact Or.inr (Or.inl ⟨hreadable, hentry, rfl⟩)
    case h_2 stored hentry => exact Or.inr (Or.inr ⟨stored, hreadable, hentry, rfl⟩)

theorem loadFile_cases (env : IdentityEnv) (stores : Stores) :
    (∃ failure, env.readFile = some failure ∧ loadFile env stores = .error (.other failure)) ∨
    (env.readFile = none ∧ stores.file = none ∧ loadFile env stores = .error ErrNoIdentity) ∨
    (∃ data, env.readFile = none ∧ stores.file = some data ∧
      loadFile env stores = decodeKey (trimSpace data)) := by
  unfold loadFile
  split
  case h_1 failure hfailure => exact Or.inl ⟨failure, hfailure, rfl⟩
  case h_2 hreadable =>
    split
    case h_1 hfile => exact Or.inr (Or.inl ⟨hreadable, hfile, rfl⟩)
    case h_2 data hfile => exact Or.inr (Or.inr ⟨data, hreadable, hfile, rfl⟩)

/-- Contents that are no key are never taken for a missing key. -/
theorem decodeKey_error {encoded : String} {err : GoError} (hdecode : decodeKey encoded = .error err) :
    err.wraps = [] := by
  unfold decodeKey at hdecode
  split at hdecode
  · cases hdecode
    rfl
  · split at hdecode
    · cases hdecode
    · cases hdecode
      rfl

/-- Only the file reports that there is no identity. -/
theorem loadFile_noIdentity_iff {err : GoError} (hload : loadFile env stores = .error err) :
    err.is .noIdentity = true ↔ env.readFile = none ∧ stores.file = none := by
  rcases loadFile_cases env stores with ⟨failure, hfailure, hresult⟩ | ⟨hread, hfile, hresult⟩ |
    ⟨data, hread, hfile, hresult⟩
  · obtain rfl : err = .other failure := Except.error.inj (hload.symm.trans hresult)
    simp [GoError.is, GoError.other, hfailure]
  · obtain rfl : err = ErrNoIdentity := Except.error.inj (hload.symm.trans hresult)
    simp [GoError.is, ErrNoIdentity, hread, hfile]
  · have hwraps := decodeKey_error (hresult.symm.trans hload)
    simp [GoError.is, hwraps, hfile]

theorem load_noIdentity_iff :
    (∃ err, load env stores = .error err ∧ err.is .noIdentity = true) ↔
      (env.keyringGet = none ∧ stores.entry = none) ∧ env.readFile = none ∧ stores.file = none := by
  rcases keyringGet_cases env stores with ⟨failure, hfailure, hget⟩ | ⟨hreadable, hentry, hget⟩ |
    ⟨stored, hreadable, hentry, hget⟩
  · -- a keychain that cannot be read: neither message wraps the file's answer
    have hother : (GoError.other failure).is .notFound = false := rfl
    refine iff_of_false ?_ (by simp [hfailure])
    rintro ⟨err, hload, his⟩
    simp only [load, hget, hother] at hload
    cases hfile : loadFile env stores with
    | ok priv =>
        rw [hfile] at hload
        cases hload
    | error fileErr =>
        simp only [hfile] at hload
        by_cases hmissing : fileErr.is .noIdentity = true
        · simp only [hmissing, if_true] at hload
          cases hload
          cases his
        · simp only [hmissing] at hload
          cases hload
          simp only [GoError.is, GoError.other, List.nil_append] at his hmissing
          exact hmissing his
  · have hnotFound : ErrNotFound.is .notFound = true := rfl
    have hload : load env stores = loadFile env stores := by
      simp only [load, hget, hnotFound, if_true]
      cases loadFile env stores <;> rfl
    rw [hload]
    constructor
    · rintro ⟨err, hfile, his⟩
      exact ⟨⟨hreadable, hentry⟩, (loadFile_noIdentity_iff hfile).1 his⟩
    · rintro ⟨-, hread, hfile⟩
      exact ⟨ErrNoIdentity, by simp [loadFile, hread, hfile], rfl⟩
  · refine iff_of_false ?_ (by simp [hentry])
    rintro ⟨err, hload, his⟩
    simp only [load, hget] at hload
    rw [GoError.is, decodeKey_error hload] at his
    cases his

/-! ## What LoadOrCreate does -/

/-- Everything that `LoadOrCreate` can do: it answers from the stores, or it gives a new
key to an empty keychain or to a file that was not there. -/
inductive LoadOrCreated (env : IdentityEnv) (stores : Stores) :
    Stores × Except GoError PrivateKey → Prop where
  | entry (stored : String) (hget : keyringGet env stores = .ok stored) :
      LoadOrCreated env stores (stores, decodeKey stored)
  | file (priv : PrivateKey) (keyErr : GoError) (hget : keyringGet env stores = .error keyErr)
      (hload : loadFile env stores = .ok priv) : LoadOrCreated env stores (stores, .ok priv)
  | failed (err : GoError) : LoadOrCreated env stores (stores, .error err)
  | minted (priv : PrivateKey) (hdraw : env.generateKey = .ok priv)
      (hreadable : env.keyringGet = none) (hentry : stores.entry = none)
      (hread : env.readFile = none) (hfile : stores.file = none) :
      LoadOrCreated env stores ({ stores with entry := some (encodeKey priv) }, .ok priv)
  | mintedFile (priv : PrivateKey) (hdraw : env.generateKey = .ok priv) (keyErr : GoError)
      (hget : keyringGet env stores = .error keyErr)
      (hunusable : keyErr.is .notFound → env.keyringSet.isSome) (hread : env.readFile = none)
      (hfile : stores.file = none) (hwrite : env.writeFile = none) :
      LoadOrCreated env stores ({ stores with file := some (encodeKey priv) }, .ok priv)

theorem loadOrCreateFallback_loadOrCreated {keyErr : GoError}
    (hget : keyringGet env stores = .error keyErr)
    (husable : keyErr.is .notFound → env.keyringGet = none ∧ stores.entry = none) :
    LoadOrCreated env stores (loadOrCreateFallback env (keyErr.is .notFound) stores) := by
  unfold loadOrCreateFallback
  split
  case h_1 priv hload => exact .file priv keyErr hget hload
  case h_2 err hload =>
    split
    case isTrue hmissing =>
      obtain ⟨hread, hfile⟩ := (loadFile_noIdentity_iff hload).1 hmissing
      split
      · exact .failed _
      case h_2 priv hdraw =>
        unfold storeKey
        split
        case isTrue hset =>
          obtain ⟨hreadable, hentry⟩ := husable hset.1
          exact .minted priv hdraw hreadable hentry hread hfile
        case isFalse hset =>
          have hunusable : keyErr.is .notFound → env.keyringSet.isSome := fun hnotFound =>
            Option.isSome_iff_ne_none.2 fun hnone => hset ⟨hnotFound, hnone⟩
          unfold storeInFile
          split
          · exact .failed _
          case h_2 hwrite => exact .mintedFile priv hdraw keyErr hget hunusable hread hfile hwrite
    · exact .failed _

theorem loadOrCreate_loadOrCreated : LoadOrCreated env stores (loadOrCreate env stores) := by
  unfold loadOrCreate
  split
  case h_1 stored hget => exact .entry stored hget
  case h_2 keyErr hget =>
    have husable : keyErr.is .notFound → env.keyringGet = none ∧ stores.entry = none := by
      intro hnotFound
      rcases keyringGet_cases env stores with ⟨failure, -, hresult⟩ | ⟨hreadable, hentry, -⟩ |
        ⟨stored, -, -, hresult⟩
      · rw [← Except.error.inj (hresult.symm.trans hget)] at hnotFound
        cases hnotFound
      · exact ⟨hreadable, hentry⟩
      · cases hresult.symm.trans hget
    have hfallback := loadOrCreateFallback_loadOrCreated hget husable
    split
    case h_1 stores' priv hresult => rwa [hresult] at hfallback
    case h_2 stores' err hresult =>
      rw [hresult] at hfallback
      generalize heq : (Except.error err : Except GoError PrivateKey) = result at hfallback
      cases hfallback with
      | entry stored hstored => cases hstored.symm.trans hget
      | file priv keyErr hget hload => cases heq
      | failed err => split <;> exact .failed _
      | minted => cases heq
      | mintedFile => cases heq

/-- Behind an entry, or a file that is there or cannot be read, no key is drawn. -/
theorem loadOrCreate_draws_nothing
    (hpresent : (∃ stored, keyringGet env stores = .ok stored) ∨
      ¬ (env.readFile = none ∧ stores.file = none)) (draw : Except String PrivateKey) :
    loadOrCreate { env with generateKey := draw } stores = loadOrCreate env stores := by
  have hget : keyringGet { env with generateKey := draw } stores = keyringGet env stores := rfl
  have hload : loadFile { env with generateKey := draw } stores = loadFile env stores := rfl
  unfold loadOrCreate
  rw [hget]
  rcases hpresent with ⟨stored, hstored⟩ | hfile
  · rw [hstored]
  · have hfallback : ∀ usable, loadOrCreateFallback { env with generateKey := draw } usable stores =
        loadOrCreateFallback env usable stores := by
      intro usable
      unfold loadOrCreateFallback
      rw [hload]
      cases hresult : loadFile env stores with
      | ok priv => rfl
      | error err =>
          have hnot : ¬ err.is .noIdentity = true := fun his =>
            hfile ((loadFile_noIdentity_iff hresult).1 his)
          simp only [hnot]
          rfl
    simp only [hfallback]

/-- A key that was stored is what the next look finds. -/
theorem load_of_file {priv : PrivateKey} {keyErr : GoError}
    (hget : keyringGet env stores = .error keyErr) (hload : loadFile env stores = .ok priv) :
    load env stores = .ok priv := by
  simp only [load, hget, hload]

end ModelHub.Agent
