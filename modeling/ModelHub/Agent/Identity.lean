import ModelHub.Foundations.Base64

/-!
# The agent's identity

`agent/internal/config/identity.go`: the node's Ed25519 private key, kept in the OS
keychain, or in a file of the config directory when no keychain is usable.  The two
stores of one config directory are a pair of optional texts.  What the operating
system answers to a call (a keychain that is locked, a file that cannot be written)
and the key that `ed25519.GenerateKey` draws are the environment of the call; a
store that fails changes nothing.

Errors are their texts and the sentinels that `errors.Is` finds in them.
-/

namespace ModelHub.Agent

/-! ## Errors -/

/-- The errors that the program tells apart. -/
inductive Sentinel where
  /-- `ErrNoIdentity` -/
  | noIdentity
  /-- `keyring.ErrNotFound` -/
  | notFound
  deriving DecidableEq, Repr

structure GoError where
  text : String
  wraps : List Sentinel
  deriving DecidableEq, Repr

/-- `errors.Is` -/
def GoError.is (error : GoError) (sentinel : Sentinel) : Bool := sentinel ∈ error.wraps

/-- An error of the operating system that the program does not tell from others. -/
def GoError.other (text : String) : GoError := ⟨text, []⟩

def ErrNoIdentity : GoError := ⟨"no stored identity for this config directory", [.noIdentity]⟩

/-- `keyring.ErrNotFound` -/
def ErrNotFound : GoError := ⟨"secret not found in keyring", [.notFound]⟩

/-! ## Keys -/

/-- An `ed25519.PrivateKey`: the seed and the public half. -/
structure PrivateKey where
  bytes : List UInt8
  size : bytes.length = 64
  deriving DecidableEq, Repr

/-- The key whose bytes are all the same. -/
def PrivateKey.repeating (byte : UInt8) : PrivateKey where
  bytes := List.replicate 64 byte
  size := List.length_replicate

def PrivateKey.publicKey (priv : PrivateKey) : List UInt8 := priv.bytes.drop 32

/-- `base64.StdEncoding.EncodeToString` -/
def encodeKey (priv : PrivateKey) : String := String.ofList (Base64.encode priv.bytes)

def decodeKey (encoded : String) : Except GoError PrivateKey :=
  match Base64.decode encoded.toList with
  -- the library adds the place of the first bad byte
  | none => .error (.other "stored identity is not valid base64: illegal base64 data")
  | some raw =>
      if hsize : raw.length = 64 then .ok ⟨raw, hsize⟩
      else .error (.other ("stored identity is " ++ toString raw.length ++ " bytes, want 64"))

/-- The characters that `strings.TrimSpace` removes at both ends. -/
def isSpace (c : Char) : Bool :=
  c.toNat ∈ [0x9, 0xA, 0xB, 0xC, 0xD, 0x20, 0x85, 0xA0, 0x1680, 0x2028, 0x2029, 0x202F, 0x205F,
    0x3000] ∨ (0x2000 ≤ c.toNat ∧ c.toNat ≤ 0x200A)

def trimSpace (text : String) : String :=
  String.ofList ((text.toList.dropWhile isSpace).reverse.dropWhile isSpace).reverse

/-! ## The two stores -/

/-- The keychain entry and the identity file of a config directory. -/
structure Stores where
  entry : Option String
  file : Option String
  deriving DecidableEq, Repr

/-- What a call meets: how each system call fails, if it does, and the drawn key. -/
structure IdentityEnv where
  keyringGet : Option String
  keyringSet : Option String
  keyringDelete : Option String
  readFile : Option String
  writeFile : Option String
  remove : Option String
  generateKey : Except String PrivateKey

/-- `keyring.Get` -/
def keyringGet (env : IdentityEnv) (stores : Stores) : Except GoError String :=
  match env.keyringGet with
  | some failure => .error (.other failure)
  | none =>
      match stores.entry with
      | none => .error ErrNotFound
      | some stored => .ok stored

def loadFile (env : IdentityEnv) (stores : Stores) : Except GoError PrivateKey :=
  match env.readFile with
  | some failure => .error (.other failure)
  | none =>
      match stores.file with
      | none => .error ErrNoIdentity
      | some data => decodeKey (trimSpace data)

/-- The stored key, or `ErrNoIdentity`; a keychain that can't be read is never
reported as `ErrNoIdentity`. -/
def load (env : IdentityEnv) (stores : Stores) : Except GoError PrivateKey :=
  match keyringGet env stores with
  | .ok stored => decodeKey stored
  | .error keyErr =>
      match loadFile env stores with
      | .ok priv => .ok priv
      | .error fileErr =>
          if keyErr.is .notFound then .error fileErr
          else if fileErr.is .noIdentity then
            .error ⟨"keychain unavailable (" ++ keyErr.text ++
              "), and there is no fallback identity file either", keyErr.wraps⟩
          else
            .error ⟨"keychain unavailable (" ++ keyErr.text ++
              "), and the fallback identity file also failed: " ++ fileErr.text,
              keyErr.wraps ++ fileErr.wraps⟩

/-- The end of `loadOrCreateFallback`: the key goes into the file. -/
def storeInFile (env : IdentityEnv) (priv : PrivateKey) (stores : Stores) :
    Stores × Except GoError PrivateKey :=
  match env.writeFile with
  | some failure => (stores, .error (.other failure))
  | none => ({ stores with file := some (encodeKey priv) }, .ok priv)

/-- A new key goes into a usable keychain, else into the file. -/
def storeKey (env : IdentityEnv) (keychainUsable : Bool) (priv : PrivateKey) (stores : Stores) :
    Stores × Except GoError PrivateKey :=
  if keychainUsable ∧ env.keyringSet = none then
    ({ stores with entry := some (encodeKey priv) }, .ok priv)
  else storeInFile env priv stores

/-- An existing file always wins over minting a key: it may be this node's
real identity, written while the keychain was unavailable. -/
def loadOrCreateFallback (env : IdentityEnv) (keychainUsable : Bool) (stores : Stores) :
    Stores × Except GoError PrivateKey :=
  match loadFile env stores with
  | .ok priv => (stores, .ok priv)
  | .error err =>
      if err.is .noIdentity then
        match env.generateKey with
        | .error failure => (stores, .error (.other failure))
        | .ok priv => storeKey env keychainUsable priv stores
      else (stores, .error err)

/-- The stored key; if there is none, one is generated and stored. -/
def loadOrCreate (env : IdentityEnv) (stores : Stores) : Stores × Except GoError PrivateKey :=
  match keyringGet env stores with
  | .ok stored => (stores, decodeKey stored)
  | .error keyErr =>
      match loadOrCreateFallback env (keyErr.is .notFound) stores with
      | (stores', .ok priv) => (stores', .ok priv)
      | (stores', .error err) =>
          if keyErr.is .notFound then (stores', .error err)
          else
            (stores', .error ⟨"keychain unavailable (" ++ keyErr.text ++
              "), and the fallback identity file also failed: " ++ err.text,
              keyErr.wraps ++ err.wraps⟩)

/-- The keychain's half of `Delete`. -/
def deleteEntry (env : IdentityEnv) (stores : Stores) : Stores × List GoError :=
  match env.keyringDelete with
  | some failure => (stores, [.other ("could not remove keychain entry: " ++ failure)])
  -- an entry that doesn't exist is not an error
  | none => ({ stores with entry := none }, [])

/-- The file's half of `Delete`. -/
def deleteFile (env : IdentityEnv) (stores : Stores) : Stores × List GoError :=
  match env.remove with
  | some failure => (stores, [.other ("could not remove fallback identity file: " ++ failure)])
  | none => ({ stores with file := none }, [])

/-- `errors.Join` -/
def joinErrors : List GoError → Option GoError
  | [] => none
  | errs => some ⟨"\n".intercalate (errs.map GoError.text), errs.flatMap GoError.wraps⟩

/-- Removes both the keychain entry and the file, independently. -/
def delete (env : IdentityEnv) (stores : Stores) : Stores × Option GoError :=
  match deleteEntry env stores with
  | (stores', entryErrs) =>
      match deleteFile env stores' with
      | (stores'', fileErrs) => (stores'', joinErrors (entryErrs ++ fileErrs))

/-! ## Keys come back as they were stored -/

theorem decodeKey_encodeKey (priv : PrivateKey) : decodeKey (encodeKey priv) = .ok priv := by
  unfold decodeKey encodeKey
  rw [String.toList_ofList, Base64.decode_encode]
  simp only [priv.size, dif_pos]

theorem not_isSpace_of_isGraph {c : Char} (hgraph : Base64.isGraph c) : ¬ isSpace c := by
  have hrange : 0x21 ≤ c.toNat ∧ c.toNat ≤ 0x7E := by
    simpa [Base64.isGraph] using hgraph
  intro hspace
  simp only [isSpace, List.mem_cons, List.not_mem_nil, or_false, decide_eq_true_eq] at hspace
  omega

theorem dropWhile_isSpace {text : List Char} (hgraph : ∀ c ∈ text, Base64.isGraph c) :
    text.dropWhile isSpace = text := by
  cases text with
  | nil => rfl
  | cons c rest =>
      rw [List.dropWhile_cons_of_neg (not_isSpace_of_isGraph (hgraph c List.mem_cons_self))]

theorem trimSpace_encodeKey (priv : PrivateKey) : trimSpace (encodeKey priv) = encodeKey priv := by
  have hgraph := Base64.encode_isGraph priv.bytes
  have hreverse : ∀ c ∈ (Base64.encode priv.bytes).reverse, Base64.isGraph c := by
    intro c hc
    exact hgraph c (List.mem_reverse.1 hc)
  unfold trimSpace encodeKey
  rw [String.toList_ofList, dropWhile_isSpace hgraph, dropWhile_isSpace hreverse, List.reverse_reverse]

end ModelHub.Agent
