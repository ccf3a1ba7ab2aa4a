import ModelHub.Agent.AuthHeader
import ModelHub.ControlPlane.StreamFrame

/-!
# The two ends of the node auth header

The agent builds the header in Go and the control plane takes it apart in TypeScript.
They agree because no field can contain the dot that joins them (`headerParts_authHeader`):
a uuid, a number in decimal and base64url text do not.  What the server then verifies is
what the agent signed, byte for byte.

The timestamp is compared as a double.  A whole number of milliseconds is one up to
`2 ^ 53`, far beyond any date; a later time is rounded first, and so is the distance of
a timestamp that is no whole number from the clock.
-/

namespace ModelHub.ControlPlane

open ModelHub.Agent Db JavaScript

variable {KeyObject : Type} {config : NodeAuthEnv KeyObject} {store : AuthStore}

/-! ## The fields have no dots -/

theorem isPrefixOf?_append (first second : List Char) :
    first.isPrefixOf? (first ++ second) = some second := by
  induction first with
  | nil => rfl
  | cons c rest ih => simp [List.isPrefixOf?, ih]

theorem splitOn_four {first second third fourth : List Char} (hfirst : '.' ∉ first)
    (hsecond : '.' ∉ second) (hthird : '.' ∉ third) (hfourth : '.' ∉ fourth) :
    (first ++ '.' :: (second ++ '.' :: (third ++ '.' :: fourth))).splitOn '.' =
      [first, second, third, fourth] := by
  rw [List.splitOn_append_cons_self_of_not_mem hfirst,
    List.splitOn_append_cons_self_of_not_mem hsecond,
    List.splitOn_append_cons_self_of_not_mem hthird, List.splitOn_eq_singleton hfourth]

theorem toList_joined (scheme first second third fourth : String) :
    (scheme ++ (first ++ "." ++ second ++ "." ++ third) ++ "." ++ fourth).toList = scheme.toList ++
      (first.toList ++ '.' :: (second.toList ++ '.' :: (third.toList ++ '.' :: fourth.toList))) := by
  simp only [String.toList_append, List.append_assoc]
  rfl

theorem uuid_noDot {text : String} {id : Uuid} (hid : parseUuid text = some id) :
    '.' ∉ text.toList ∧ text ≠ "" := by
  unfold parseUuid at hid
  split at hid
  case h_1 first second third fourth fifth hsplit =>
    have htext : text.toList = ['-'].intercalate [first, second, third, fourth, fifth] := by
      rw [← hsplit, List.intercalate_splitOn]
    split at hid
    case isTrue hlengths =>
      obtain ⟨value, hvalue, -⟩ := Option.map_eq_some_iff.1 hid
      have hdigits : ∀ c ∈ first ++ second ++ third ++ fourth ++ fifth, digitValue c < 16 := by
        unfold digits at hvalue
        split at hvalue
        case isTrue hall =>
          intro c hc
          simpa using List.all_eq_true.1 hall.2 c hc
        case isFalse => cases hvalue
      have hdot : ¬ digitValue '.' < 16 := by decide
      constructor
      · intro hmem
        rw [htext] at hmem
        simp [List.intercalate, List.intersperse] at hmem
        refine hdot (hdigits '.' ?_)
        simp only [List.mem_append]
        tauto
      · rintro rfl
        simp at hsplit
    case isFalse => cases hid
  case h_2 => cases hid

theorem toString_noDot (n : ℕ) : '.' ∉ (toString n).toList ∧ toString n ≠ "" := by
  have hlist : (toString n).toList = Nat.toDigits 10 n := Nat.toList_repr
  constructor
  · rw [hlist]
    intro hmem
    have hdigit := Nat.isDigit_of_mem_toDigits (by omega) (by omega) hmem
    revert hdigit
    decide
  · intro hempty
    rw [hempty] at hlist
    exact Nat.toDigits_ne_nil hlist.symm

theorem encodeToString_noDot (bytes : List UInt8) : '.' ∉ (encodeToString bytes).toList := by
  intro hmem
  rw [encodeToString, String.toList_ofList] at hmem
  exact (Base64.rawURLEncode_ne bytes '.' hmem).2 rfl

theorem encodeToString_ne {bytes : List UInt8} (hbytes : bytes ≠ []) : encodeToString bytes ≠ "" := by
  intro hempty
  have hlist := congrArg String.toList hempty
  rw [encodeToString, String.toList_ofList] at hlist
  exact Base64.rawURLEncode_ne_nil hbytes hlist

/-! ## What the server reads is what the agent wrote -/

/-- What the two ends rely on.  `isPair` holds of the keys that `ed25519.GenerateKey`
makes; for them verifying a signature succeeds exactly if it was made over the same
text with the key that belongs to the registered half. -/
structure IdealEd25519 (config : NodeAuthEnv KeyObject) (isPair : PrivateKey → Prop)
    (sign : PrivateKey → String → List UInt8) : Prop where
  /-- Node takes more characters for digits beyond ASCII, which no encoder writes. -/
  fromBase64url : ∀ text, (∀ c ∈ text.toList, c.toNat < 0x80) →
    config.fromBase64url text = Base64.fromBase64url text.toList
  createPublicKey : ∀ priv, isPair priv → (toKeyObject config priv.publicKey).isSome
  sign_ne_nil : ∀ priv text, sign priv text ≠ []
  verify : ∀ raw key, toKeyObject config raw = some key → ∀ text signature,
    config.verify text key signature = some true ↔
      ∃ priv, isPair priv ∧ priv.publicKey = raw ∧ signature = sign priv text

/-- The header of a connection as the server reads it. -/
def readOf (sign : PrivateKey → String → List UInt8) (nodeId : String) (priv : PrivateKey)
    (unixMilli : ℕ) (raw : List UInt8) (id : Uuid) : AuthHeader where
  nodeId := nodeId
  millis := toString unixMilli
  nonce := encodeToString raw
  signature := encodeToString (sign priv (payload nodeId unixMilli raw))
  id := id

section Agreement

variable {isPair : PrivateKey → Prop} {sign : PrivateKey → String → List UInt8} {nodeId : String}
  {priv : PrivateKey} {unixMilli : ℕ} {raw : List UInt8} {id : Uuid}

/-- Splitting recovers the fields that were joined. -/
theorem headerParts_authHeader (hid : parseUuid nodeId = some id) :
    headerParts (some (authHeader sign nodeId priv unixMilli raw)) =
      some [nodeId, toString unixMilli, encodeToString raw,
        encodeToString (sign priv (payload nodeId unixMilli raw))] := by
  have hjoined : (authHeader sign nodeId priv unixMilli raw).toList = NODE_AUTH_SCHEME.toList ++
      (nodeId.toList ++ '.' :: ((toString unixMilli).toList ++ '.' :: ((encodeToString raw).toList ++
        '.' :: (encodeToString (sign priv (payload nodeId unixMilli raw))).toList))) := by
    exact toList_joined NODE_AUTH_SCHEME nodeId _ _ _
  have hsplit := splitOn_four (uuid_noDot hid).1 (toString_noDot unixMilli).1
    (encodeToString_noDot raw) (encodeToString_noDot (sign priv (payload nodeId unixMilli raw)))
  rw [headerParts, Option.bind_some, hjoined, isPrefixOf?_append, Option.map_some, hsplit]
  simp only [List.map_cons, List.map_nil, String.ofList_toList]

theorem readHeader_authHeader (hid : parseUuid nodeId = some id) (hraw : raw ≠ [])
    (hsign : sign priv (payload nodeId unixMilli raw) ≠ []) :
    readHeader (some (authHeader sign nodeId priv unixMilli raw)) =
      .ok (readOf sign nodeId priv unixMilli raw id) := by
  have hnonempty : ¬ (nodeId = "" ∨ toString unixMilli = "" ∨ encodeToString raw = "" ∨
      encodeToString (sign priv (payload nodeId unixMilli raw)) = "") := by
    rintro (hempty | hempty | hempty | hempty)
    · exact (uuid_noDot hid).2 hempty
    · exact (toString_noDot unixMilli).2 hempty
    · exact encodeToString_ne hraw hempty
    · exact encodeToString_ne hsign hempty
  unfold readHeader
  rw [headerParts_authHeader hid]
  simp only [if_neg hnonempty, hid]
  rfl

/-- The bytes that are verified are the bytes that were signed. -/
theorem readOf_message : (readOf sign nodeId priv unixMilli raw id).message =
    payload nodeId unixMilli raw := rfl

theorem checkSignature_of_sign (hideal : IdealEd25519 config isPair sign) (hpair : isPair priv)
    {read : AuthHeader} (hsigned : config.fromBase64url read.signature = sign priv read.message) :
    checkSignature config read priv.publicKey = .ok () := by
  obtain ⟨key, hkey⟩ := Option.isSome_iff_exists.1 (hideal.createPublicKey priv hpair)
  have hverify := (hideal.verify priv.publicKey key hkey read.message (sign priv read.message)).2
    ⟨priv, hpair, rfl, rfl⟩
  unfold checkSignature
  rw [hkey]
  simp only [hsigned, hverify, Option.getD_some, if_true]

theorem checkSignature_readOf (hideal : IdealEd25519 config isPair sign) (hpair : isPair priv) :
    checkSignature config (readOf sign nodeId priv unixMilli raw id) priv.publicKey = .ok () := by
  have htext : (encodeToString (sign priv (payload nodeId unixMilli raw))).toList =
      Base64.rawURLEncode (sign priv (payload nodeId unixMilli raw)) := by
    rw [encodeToString, String.toList_ofList]
  have hascii : ∀ c ∈ (encodeToString (sign priv (payload nodeId unixMilli raw))).toList,
      c.toNat < 0x80 := by
    rw [htext]
    exact Base64.rawURLEncode_ascii _
  apply checkSignature_of_sign hideal hpair
  calc config.fromBase64url (encodeToString (sign priv (payload nodeId unixMilli raw)))
      = Base64.fromBase64url (encodeToString (sign priv (payload nodeId unixMilli raw))).toList :=
        hideal.fromBase64url _ hascii
    _ = sign priv (payload nodeId unixMilli raw) := by
        rw [htext, Base64.fromBase64url_rawURLEncode]
    _ = _ := by rw [readOf_message]

/-- A distance that is within the skew stays so when it is rounded. -/
theorem inWindow_of_abs_le (hdouble : Binary64.nearest config.NODE_AUTH_SKEW_MS = config.NODE_AUTH_SKEW_MS)
    {sent : ℚ} {now : Time} (hclose : |now - sent| ≤ config.NODE_AUTH_SKEW_MS) :
    inWindow config sent now = true := by
  rw [inWindow, decide_eq_true_iff, Binary64.sub, abs_le]
  obtain ⟨hlow, hhigh⟩ := abs_le.1 hclose
  constructor
  · rw [← hdouble, ← Binary64.nearest_neg]
    exact Binary64.nearest_mono hlow
  · rw [← hdouble]
    exact Binary64.nearest_mono hhigh

/-- A header whose time is refused changes nothing. -/
theorem authHeader_untimely (hid : parseUuid nodeId = some id) (hraw : raw ≠ [])
    (hsign : sign priv (payload nodeId unixMilli raw) ≠ []) {error : AuthError}
    (htime : checkTimestamp config (toString unixMilli) store.clock = .error error)
    (lookUp setNonce : Reply) :
    authenticateNode config (some (authHeader sign nodeId priv unixMilli raw)) lookUp setNonce store =
      (store, .error error) := by
  have hmillis : checkTimestamp config (readOf sign nodeId priv unixMilli raw id).millis store.clock =
      .error error := htime
  unfold authenticateNode
  simp only [readHeader_authHeader hid hraw hsign, hmillis]

/-- A header that was read has exactly these four fields. -/
theorem readHeader_ok {header : Option String} {read : AuthHeader} (hread : readHeader header = .ok read) :
    headerParts header = some [read.nodeId, read.millis, read.nonce, read.signature] ∧
      parseUuid read.nodeId = some read.id := by
  unfold readHeader at hread
  split at hread
  · cases hread
  case h_2 nodeId millis nonce signature hparts =>
    split at hread
    · cases hread
    · cases hid : parseUuid nodeId with
      | none =>
          rw [hid] at hread
          cases hread
      | some id =>
          rw [hid] at hread
          cases hread
          exact ⟨hparts, hid⟩
  · cases hread

/-- What is verified was signed with the registered key. -/
theorem signed_of_checkSignature (hideal : IdealEd25519 config isPair sign) {read : AuthHeader}
    {publicKey : List UInt8} (hchecked : checkSignature config read publicKey = .ok ()) :
    ∃ priv, isPair priv ∧ priv.publicKey = publicKey ∧
      config.fromBase64url read.signature = sign priv read.message := by
  unfold checkSignature at hchecked
  cases hkey : toKeyObject config publicKey with
  | none =>
      rw [hkey] at hchecked
      cases hchecked
  | some key =>
      simp only [hkey] at hchecked
      split at hchecked
      case isTrue hverified =>
        apply (hideal.verify publicKey key hkey read.message (config.fromBase64url read.signature)).1
        cases hanswer : config.verify read.message key (config.fromBase64url read.signature) with
        | none => simp [hanswer] at hverified
        | some answer => simpa [hanswer] using hverified
      case isFalse => cases hchecked

end Agreement

/-- A header that the server accepted, as an agent made it: the registered key signed the
fields it carries, and its timestamp is in the window.  Distances are rounded to doubles,
which whole numbers of milliseconds do not feel. -/
structure Genuine (config : NodeAuthEnv KeyObject) (isPair : PrivateKey → Prop)
    (sign : PrivateKey → String → List UInt8) (store : AuthStore) (header : Option String)
    (read : AuthHeader) (orgId : String) : Prop where
  parts : headerParts header = some [read.nodeId, read.millis, read.nonce, read.signature]
  uuid : parseUuid read.nodeId = some read.id
  signed : ∃ node ∈ store.db.nodes.rows, node.id = read.id ∧ node.orgId = orgId ∧
    ∃ priv, isPair priv ∧ priv.publicKey = node.publicKey ∧
      config.fromBase64url read.signature = sign priv read.message
  inTime : ∃ sent, numberOf read.millis = some sent ∧
    |Binary64.sub store.clock sent| ≤ config.NODE_AUTH_SKEW_MS
  inTimeWhole : ∀ sent skew : ℤ, numberOf read.millis = some (sent : ℚ) →
    config.NODE_AUTH_SKEW_MS = skew → 0 < skew → skew < 2 ^ 53 → |store.clock - sent| ≤ skew

theorem genuine_of_returns {isPair : PrivateKey → Prop} {sign : PrivateKey → String → List UInt8}
    (hideal : IdealEd25519 config isPair sign) {header : Option String} {lookUp setNonce : Reply}
    {store' : AuthStore} {read : AuthHeader} {orgId : String}
    (hcall : authenticateNode config header lookUp setNonce store = (store', .ok (read, orgId))) :
    Genuine config isPair sign store header read orgId := by
  obtain ⟨hread, htime, ⟨node, hmem, hid, horg, hchecked⟩, -, -⟩ := authenticateNode_returns hcall
  obtain ⟨hparts, huuid⟩ := readHeader_ok hread
  obtain ⟨sent, hsent, hwindow⟩ := checkTimestamp_eq_ok.1 htime
  refine ⟨hparts, huuid, ⟨node, hmem, hid, horg, signed_of_checkSignature hideal hchecked⟩,
    ⟨sent, hsent, by simpa [inWindow] using hwindow⟩, ?_⟩
  intro whole skew hwhole hskew hpos hsmall
  rw [hsent] at hwhole
  cases hwhole
  exact (inWindow_whole hskew hpos hsmall).1 hwindow

/-- The header that an agent makes is accepted for its node, with the fields it was made
of, as long as the clocks agree; and whatever is accepted was made that way. -/
theorem authHeader_agrees {isPair : PrivateKey → Prop} {sign : PrivateKey → String → List UInt8}
    (hideal : IdealEd25519 config isPair sign)
    (hdouble : Binary64.nearest config.NODE_AUTH_SKEW_MS = config.NODE_AUTH_SKEW_MS) :
    (∀ (store : AuthStore) (nodeId : String) (id : Uuid) (priv : PrivateKey) (unixMilli : ℕ)
        (raw : List UInt8), ∀ node ∈ store.db.nodes.rows, parseUuid nodeId = some id → node.id = id →
      isPair priv → node.publicKey = priv.publicKey → unixMilli < 2 ^ 63 → raw.length = 16 →
      store.isLive ("nodeauth:" ++ nodeId ++ ":" ++ encodeToString raw) = false →
      |(store.clock : ℚ) - Binary64.nearest unixMilli| ≤ config.NODE_AUTH_SKEW_MS →
        headerParts (some (authHeader sign nodeId priv unixMilli raw)) =
          some [nodeId, toString unixMilli, encodeToString raw,
            encodeToString (sign priv (payload nodeId unixMilli raw))] ∧
        (readOf sign nodeId priv unixMilli raw id).message = payload nodeId unixMilli raw ∧
        authenticateNode config (some (authHeader sign nodeId priv unixMilli raw)) .arrives .arrives
            store =
          (store.remember config (readOf sign nodeId priv unixMilli raw id),
            .ok (readOf sign nodeId priv unixMilli raw id, node.orgId))) ∧
    (∀ (store store' : AuthStore) (header : Option String) (lookUp setNonce : Reply)
        (read : AuthHeader) (orgId : String),
      authenticateNode config header lookUp setNonce store = (store', .ok (read, orgId)) →
      Genuine config isPair sign store header read orgId) ∧
    ∀ unixMilli : ℕ, unixMilli ≤ 2 ^ 53 → Binary64.nearest unixMilli = unixMilli := by
  refine ⟨?_, fun _ _ _ _ _ _ _ => genuine_of_returns hideal, ?_⟩
  · intro store nodeId id priv unixMilli raw node hnode huuid hid hpair hkey hunix hraw hnonce hclose
    have hread := @readHeader_authHeader sign nodeId priv unixMilli raw id huuid
      (List.ne_nil_of_length_pos (by omega)) (hideal.sign_ne_nil priv _)
    have htime : checkTimestamp config (readOf sign nodeId priv unixMilli raw id).millis store.clock =
        .ok () :=
      checkTimestamp_eq_ok.2 ⟨_, numberOf_toString hunix, inWindow_of_abs_le hdouble hclose⟩
    have hchecked : checkSignature config (readOf sign nodeId priv unixMilli raw id) node.publicKey =
        .ok () := by
      rw [hkey]
      exact checkSignature_readOf hideal hpair
    exact ⟨headerParts_authHeader huuid, readOf_message,
      authenticateNode_succeeds hread htime hnode hid hchecked hnonce⟩
  · intro unixMilli hsmall
    have hdouble := @Binary64.nearest_intCast unixMilli (by
      rw [Nat.abs_cast]
      exact_mod_cast hsmall)
    rwa [Int.cast_natCast] at hdouble

/-! ### A key and its signatures -/

def sampleKey : PrivateKey where
  bytes := List.replicate 32 7 ++
    [0xea, 0x4a, 0x6c, 0x63, 0xe2, 0x9c, 0x52, 0x0a, 0xbe, 0xf5, 0x50, 0x7b, 0x13, 0x2e, 0xc5, 0xf9,
      0x95, 0x47, 0x76, 0xae, 0xbe, 0xbe, 0x7b, 0x92, 0x42, 0x1e, 0xea, 0x69, 0x14, 0x46, 0xd2, 0x2c]
  size := rfl

/-- What Ed25519 signs with the sample key. -/
def sampleSignatures : List (String × String) :=
  [("00000000-0000-0000-0000-000000000005.1760000000000.BwcHBwcHBwcHBwcHBwcHBw",
      "cNuRFjsN7XhD7oaOZv5LI1pI9_-bSTXqdJhEbwbII-vj4Vr2rUuVNKu1eMtOvk3KbFff8YPYzOt1nG8mv4NzBw"),
    ("00000000-0000-0000-0000-000000000005.9007199254740995.BwcHBwcHBwcHBwcHBwcHBw",
      "Q8imdsR2Uhv5ZI0uPeO76EBpVeYViC2awp93vG4rljNbswJeFTBF0cZohyQmSjPUMgDCMqnGAdhvfQbn59NFBA"),
    ("00000000-0000-0000-0000-000000000005.-1e-300.BwcHBwcHBwcHBwcHBwcHBw",
      "zFV-UN5xgt27nsBx7HDkkdSqxTsDXpV-FPhBEiPLmx067zhoHkY3Rn1UrJsiQLGCERY3O8eWZojLTvEgbfzcBA")]

/-- A stand-in for Ed25519 on other texts. -/
def sampleSign (priv : PrivateKey) (text : String) : List UInt8 :=
  match sampleSignatures.find? fun entry => entry.1 = text with
  | some entry => Base64.fromBase64url entry.2.toList
  | none => priv.bytes ++ text.toList.map fun c => UInt8.ofNat c.toNat

/-- A key object is the key in its DER form. -/
def sampleCrypto (skew : ℚ) : NodeAuthEnv (List UInt8) where
  NODE_AUTH_SKEW_MS := skew
  createPublicKey := fun der => if der.length = 44 then some der else none
  verify := fun text key signature =>
    some (key = SPKI_ED25519_PREFIX ++ sampleKey.publicKey ∧ signature = sampleSign sampleKey text)
  fromBase64url := fun text => Base64.fromBase64url text.toList

/-- A database in which the node 5 has the sample key, and a clock. -/
def sampleStore (clock : Time) : AuthStore where
  db :=
    match Database.empty.insertOrganization ⟨"org_1", "Fleet", "fleet"⟩ with
    | .error _ => .empty
    | .ok db =>
        match db.insertNode "org_1"
          { id := 5, orgId := "org_1", name := "node", status := .online
            host := hostColumns none, publicKey := sampleKey.publicKey, lastSeenAt := none
            createdAt := 0 } with
        | .error _ => .empty
        | .ok db => db
  redis := fun _ => none
  clock := clock

theorem sampleSign_ne_nil (priv : PrivateKey) (text : String) : sampleSign priv text ≠ [] := by
  unfold sampleSign
  split
  case h_1 entry hfind =>
    have hentries : ∀ entry ∈ sampleSignatures, Base64.fromBase64url entry.2.toList ≠ [] := by
      decide +kernel
    exact hentries entry (List.mem_of_find?_eq_some hfind)
  case h_2 =>
    apply List.append_ne_nil_of_left_ne_nil
    exact List.ne_nil_of_length_pos (by rw [priv.size]; omega)

theorem sampleCrypto_ideal (skew : ℚ) :
    IdealEd25519 (sampleCrypto skew) (fun priv => priv = sampleKey) sampleSign where
  fromBase64url := fun _ _ => rfl
  createPublicKey := by
    rintro _ rfl
    have hlength : (SPKI_ED25519_PREFIX ++ sampleKey.publicKey).length = 44 := by decide +kernel
    simp only [toKeyObject, sampleCrypto, if_pos hlength, Option.isSome_some]
  sign_ne_nil := sampleSign_ne_nil
  verify := by
    intro raw key hkey text signature
    have hkey' : key = SPKI_ED25519_PREFIX ++ raw := by
      simp only [toKeyObject, sampleCrypto] at hkey
      split at hkey <;> cases hkey
      rfl
    rw [hkey']
    simp only [sampleCrypto, List.append_cancel_left_eq, Option.some.injEq, decide_eq_true_eq]
    constructor
    · rintro ⟨rfl, rfl⟩
      exact ⟨sampleKey, rfl, rfl, rfl⟩
    · rintro ⟨_, rfl, rfl, rfl⟩
      exact ⟨rfl, rfl⟩

def sampleNonce : List UInt8 := List.replicate 16 7

/-- Signed with the sample key, and dated a little before 1970. -/
def edgeHeader : Option String :=
  some ("ModelHubNode 00000000-0000-0000-0000-000000000005.-1e-300.BwcHBwcHBwcHBwcHBwcHBw." ++
    "zFV-UN5xgt27nsBx7HDkkdSqxTsDXpV-FPhBEiPLmx067zhoHkY3Rn1UrJsiQLGCERY3O8eWZojLTvEgbfzcBA")

def edgeRead : AuthHeader :=
  ⟨"00000000-0000-0000-0000-000000000005", "-1e-300", "BwcHBwcHBwcHBwcHBwcHBw",
    "zFV-UN5xgt27nsBx7HDkkdSqxTsDXpV-FPhBEiPLmx067zhoHkY3Rn1UrJsiQLGCERY3O8eWZojLTvEgbfzcBA", 5⟩

theorem edgeRead_signed : checkSignature (sampleCrypto 60000) edgeRead sampleKey.publicKey = .ok () := by
  have hentry : sampleSignatures.find? (fun entry => entry.1 = edgeRead.message) =
      some (edgeRead.message, edgeRead.signature) := by
    decide +kernel
  have hsigned : (sampleCrypto 60000).fromBase64url edgeRead.signature =
      sampleSign sampleKey edgeRead.message := by
    unfold sampleSign
    simp only [hentry, sampleCrypto]
  exact checkSignature_of_sign (sampleCrypto_ideal 60000) rfl hsigned

/-- Beyond `2 ^ 53` a time is rounded before it is compared, out of the window; and what is
a little older than the window is rounded into it. -/
theorem authHeader_rounds :
    (¬ ∀ (config : NodeAuthEnv (List UInt8)) (isPair : PrivateKey → Prop)
      (sign : PrivateKey → String → List UInt8) (store : AuthStore) (nodeId : String) (id : Uuid)
      (priv : PrivateKey) (unixMilli : ℕ) (raw : List UInt8), ∀ node ∈ store.db.nodes.rows,
      IdealEd25519 config isPair sign → parseUuid nodeId = some id → node.id = id → isPair priv →
      node.publicKey = priv.publicKey → unixMilli < 2 ^ 63 → raw.length = 16 →
      store.isLive ("nodeauth:" ++ nodeId ++ ":" ++ encodeToString raw) = false →
      |(store.clock : ℚ) - unixMilli| ≤ config.NODE_AUTH_SKEW_MS →
      ∃ store' read, authenticateNode config (some (authHeader sign nodeId priv unixMilli raw))
        .arrives .arrives store = (store', .ok (read, node.orgId))) ∧
    ¬ ∀ (config : NodeAuthEnv (List UInt8)) (isPair : PrivateKey → Prop)
      (sign : PrivateKey → String → List UInt8) (store store' : AuthStore) (header : Option String)
      (read : AuthHeader) (orgId : String), IdealEd25519 config isPair sign →
      authenticateNode config header .arrives .arrives store = (store', .ok (read, orgId)) →
      ∃ sent, numberOf read.millis = some sent ∧ |store.clock - sent| ≤ config.NODE_AUTH_SKEW_MS := by
  constructor
  · intro hclaim
    have hrow : ∃ node ∈ (sampleStore 8640000000000000).db.nodes.rows, node.id = 5 ∧
        node.publicKey = sampleKey.publicKey := by
      decide +kernel
    obtain ⟨node, hnode, hid, hkey⟩ := hrow
    obtain ⟨store', read, hreturns⟩ := hclaim (sampleCrypto 367199254740995) _ sampleSign
      (sampleStore 8640000000000000) "00000000-0000-0000-0000-000000000005" 5 sampleKey
      9007199254740995 sampleNonce node hnode (sampleCrypto_ideal _) (by decide +kernel) hid rfl hkey
      (by norm_num) rfl rfl (by decide +kernel)
    have hlate : checkTimestamp (sampleCrypto 367199254740995) (toString 9007199254740995)
        (sampleStore 8640000000000000).clock =
          .error (.nodeAuth "timestamp outside the accepted window") := by
      decide +kernel
    have huuid : parseUuid "00000000-0000-0000-0000-000000000005" = some 5 := by decide +kernel
    rw [authHeader_untimely huuid (by decide) (sampleSign_ne_nil _ _) hlate] at hreturns
    cases hreturns
  · intro hclaim
    have hrow : ∃ node ∈ (sampleStore 60000).db.nodes.rows, node.id = 5 ∧
        node.publicKey = sampleKey.publicKey := by
      decide +kernel
    obtain ⟨node, hnode, hid, hkey⟩ := hrow
    have hsigned : checkSignature (sampleCrypto 60000) edgeRead node.publicKey = .ok () := by
      rw [hkey]
      exact edgeRead_signed
    have hreturns := @authenticateNode_succeeds _ (sampleStore 60000) (sampleCrypto 60000) edgeHeader
      edgeRead node (by decide +kernel) (by decide +kernel) hnode hid hsigned (by decide +kernel)
    obtain ⟨sent, hsent, hclose⟩ := hclaim (sampleCrypto 60000) _ sampleSign (sampleStore 60000)
      _ edgeHeader edgeRead node.orgId (sampleCrypto_ideal _) hreturns
    have houtside : (numberOf edgeRead.millis).all
        (fun sent => 60000 < |((60000 : ℤ) : ℚ) - sent|) = true := by
      decide +kernel
    rw [hsent, Option.all_some, decide_eq_true_iff] at houtside
    exact absurd hclose (not_le.2 houtside)

/-- An agent makes a header at its first attempt; the server gets it 40 seconds later, by
its clock. -/
theorem authHeader_agrees_sample :
    ∃ node ∈ (sampleStore 1760000040000).db.nodes.rows, node.orgId = "org_1" ∧
      authenticateNode (sampleCrypto 60000) (some (authHeader sampleSign
        "00000000-0000-0000-0000-000000000005" sampleKey (1760000000000 : ℕ) sampleNonce)) .arrives
        .arrives (sampleStore 1760000040000) =
      ((sampleStore 1760000040000).remember (sampleCrypto 60000) (readOf sampleSign
        "00000000-0000-0000-0000-000000000005" sampleKey 1760000000000 sampleNonce 5),
        .ok (readOf sampleSign "00000000-0000-0000-0000-000000000005" sampleKey 1760000000000
          sampleNonce 5, node.orgId)) ∧
      Genuine (sampleCrypto 60000) (fun priv => priv = sampleKey) sampleSign
        (sampleStore 1760000040000) (some (authHeader sampleSign
          "00000000-0000-0000-0000-000000000005" sampleKey (1760000000000 : ℕ) sampleNonce))
        (readOf sampleSign "00000000-0000-0000-0000-000000000005" sampleKey 1760000000000
          sampleNonce 5) "org_1" := by
  have hrow : ∃ node ∈ (sampleStore 1760000040000).db.nodes.rows, node.id = 5 ∧
      node.publicKey = sampleKey.publicKey ∧ node.orgId = "org_1" := by
    decide +kernel
  obtain ⟨node, hnode, hid, hkey, horg⟩ := hrow
  obtain ⟨hsent, haccepted, -⟩ := authHeader_agrees (sampleCrypto_ideal 60000) (by decide +kernel)
  obtain ⟨-, -, hreturns⟩ := hsent (sampleStore 1760000040000) "00000000-0000-0000-0000-000000000005"
    5 sampleKey 1760000000000 sampleNonce node hnode (by decide +kernel) hid rfl hkey (by norm_num)
    rfl (by decide +kernel) (by decide +kernel)
  refine ⟨node, hnode, horg, hreturns, ?_⟩
  rw [horg] at hreturns
  exact haccepted _ _ _ _ _ _ _ hreturns

end ModelHub.ControlPlane
