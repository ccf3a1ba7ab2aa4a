import ModelHub.Db.Schema
import ModelHub.Foundations.Binary64
import ModelHub.Foundations.JavaScript

/-!
# Pairing codes

`apps/control-plane/src/domain/pairing.ts`.  A code is minted for an
organization and redeemed once.  `redeemPairingCode` makes up to three separate
statements, so it is a small machine here: `RedeemPc` says where a call stands
and `redeemStep` makes its next statement.  Between two steps anything may
happen to the database.

The HMAC of `node:crypto` is a parameter.
-/

namespace ModelHub.ControlPlane

open Db Binary64 JavaScript

/-- What the program throws. -/
inductive ServerError where
  /-- `PairingCodeError` -/
  | pairingCode (message : String)
  /-- `EnrollmentError` -/
  | enrollment (message : String)
  | postgres (error : PgError)
  /-- An invalid date was passed to the driver. -/
  | invalidDate
  deriving DecidableEq, Repr

/-- The settings and the library code behind pairing codes. -/
structure PairingEnv where
  PAIRING_CODE_PEPPER : String
  PAIRING_CODE_TTL_MS : ℚ
  /-- `createHmac("sha256", key).update(text).digest("hex")` -/
  hmacSha256Hex : String → String → String

/-! ## Codes -/

/-- No I, O, 0, or 1: they get misread when someone types a code off a screen. -/
def ALPHABET : String := "ABCDEFGHJKLMNPQRSTUVWXYZ23456789"

/-- One `ALPHABET[randomInt(ALPHABET.length)]`, for the number that was drawn. -/
def pickChar (draw : Fin 32) : Char := ALPHABET.toList.getD draw 'A'

def generateCode (draws : Fin 8 → Fin 32) : String :=
  String.ofList ((List.ofFn draws).take 4 |>.map pickChar) ++ "-" ++
    String.ofList ((List.ofFn draws).drop 4 |>.map pickChar)

/-- `toUpperCase`, as far as a letter of ASCII comes out of it: what the other
characters become is dropped by `normalize` like they are. -/
def toUpperCase (c : Char) : List Char :=
  if 'a' ≤ c ∧ c ≤ 'z' then [Char.ofNat (c.toNat - 32)]
  else match c with
  | 'ß' => ['S', 'S']
  | 'ŉ' => ['ʼ', 'N']
  | 'ı' => ['I']
  | 'ſ' => ['S']
  | 'ǰ' => ['J', '\u030c']
  | 'ẖ' => ['H', '\u0331']
  | 'ẗ' => ['T', '\u0308']
  | 'ẘ' => ['W', '\u030a']
  | 'ẙ' => ['Y', '\u030a']
  | 'ẚ' => ['A', 'ʾ']
  | 'ﬀ' => ['F', 'F']
  | 'ﬁ' => ['F', 'I']
  | 'ﬂ' => ['F', 'L']
  | 'ﬃ' => ['F', 'F', 'I']
  | 'ﬄ' => ['F', 'F', 'L']
  | 'ﬅ' => ['S', 'T']
  | 'ﬆ' => ['S', 'T']
  | c => [c]

/-- The class `[A-Z0-9]`. -/
def isCodeChar (c : Char) : Bool := ('A' ≤ c ∧ c ≤ 'Z') ∨ ('0' ≤ c ∧ c ≤ '9')

/-- Case-insensitive, and tolerant of a missing or extra dash. -/
def normalize (code : String) : String :=
  String.ofList ((code.toList.flatMap toUpperCase).filter isCodeChar)

def hashCode (env : PairingEnv) (code : String) : String :=
  env.hmacSha256Hex env.PAIRING_CODE_PEPPER (normalize code)

/-! ## Minting -/

/-- What a call of `mintPairingCode` is given and what it draws and reads. -/
structure Mint where
  orgId : String
  userId : String
  nodeName : String
  draws : Fin 8 → Fin 32
  /-- `Date.now()` -/
  now : Time
  /-- `gen_random_uuid()` and `now()` of the database -/
  newId : Uuid
  createdAt : Time

def Mint.code (mint : Mint) : String := generateCode mint.draws

/-- The inserted row, for a valid expiry date. -/
def Mint.row (env : PairingEnv) (mint : Mint) (expiresAt : Time) : PairingCode where
  id := mint.newId
  orgId := mint.orgId
  codeHash := hashCode env mint.code
  nodeName := mint.nodeName
  createdBy := mint.userId
  expiresAt := expiresAt
  usedAt := none
  createdAt := mint.createdAt

def mintPairingCode (env : PairingEnv) (mint : Mint) (db : Database) :
    Except ServerError (Database × String × Time) :=
  match newDate (nearest (mint.now + env.PAIRING_CODE_TTL_MS)) with
  | none => .error .invalidDate
  | some expiresAt =>
      match db.insertPairingCode mint.orgId (mint.row env expiresAt) with
      | .ok db' => .ok (db', mint.code, expiresAt)
      | .error error => .error (.postgres error)

theorem mintPairingCode_spec {env : PairingEnv} {mint : Mint} {db next : Database} {code : String}
    {expiresAt : Time} (hmint : mintPairingCode env mint db = .ok (next, code, expiresAt)) :
    next.organizations = db.organizations ∧ next.nodes = db.nodes ∧ next.devices = db.devices ∧
      next.pairingCodes.rows = db.pairingCodes.rows ++ [mint.row env expiresAt] ∧
      hashCode env mint.code ∉ db.pairingCodes.rows.map PairingCode.codeHash ∧
      code = mint.code := by
  unfold mintPairingCode at hmint
  split at hmint
  · cases hmint
  split at hmint
  case h_1 db' hinsert =>
    cases hmint
    obtain ⟨horganizations, hnodes, hdevices, hcodes, hfresh, -⟩ := insertPairingCode_spec hinsert
    exact ⟨horganizations, hnodes, hdevices, hcodes, hfresh, rfl⟩
  · cases hmint

/-! ## Redeeming -/

/-- What a step does not decide itself: the clock it reads, the id and the time
that a new row gets, and whether its statement fails (without effect). -/
structure StepEnv where
  now : Time
  fault : Option PgError
  newId : Uuid
  createdAt : Time

/-- Where a call of `redeemPairingCode` stands, with the row it has claimed. -/
inductive RedeemPc where
  | claim
  | lookUp
  | checkExpiry (row : PairingCode)
  | release (row : PairingCode)
  | returned (orgId nodeName : String)
  | threw (error : ServerError)
  deriving DecidableEq, Repr

/-- What a call has done so far.  Not a variable of the source: it keeps apart
what one call did from what the others did, also after the call has thrown. -/
inductive Effects where
  | untouched
  | claimed (row : PairingCode)
  | released (row : PairingCode)
  /-- `redeemPairingCode` has returned. -/
  | redeemed (row : PairingCode)
  | inserted (row : PairingCode) (node : Node)
  deriving DecidableEq, Repr

/-- `code_hash = hash AND used_at IS NULL` -/
def claimable (hash : String) (code : PairingCode) : Bool :=
  code.codeHash = hash ∧ code.usedAt = none

def setUsedAt (usedAt : Option Time) (code : PairingCode) : PairingCode :=
  { code with usedAt := usedAt }

@[simp] theorem setUsedAt_identity (usedAt : Option Time) (code : PairingCode) :
    (setUsedAt usedAt code).identity = code.identity := rfl

def claimCode (hash : String) (now : Time) (db : Database) : Database :=
  db.updatePairingCodes (claimable hash) (setUsedAt (some now)) (setUsedAt_identity _)

def releaseCode (id : Uuid) (db : Database) : Database :=
  db.updatePairingCodes (fun code => code.id = id) (setUsedAt none) (setUsedAt_identity _)

/-- The next step of a `redeemPairingCode` call for a code with this hash. -/
def redeemStep (hash : String) (env : StepEnv) (db : Database) :
    RedeemPc → Effects → Option (Database × RedeemPc × Effects)
  | .claim, effects =>
      match env.fault with
      | some error => some (db, .threw (.postgres error), effects)
      | none =>
          match (db.pairingCodes.updated (claimable hash) (setUsedAt (some env.now))).head? with
          | some row => some (claimCode hash env.now db, .checkExpiry row, .claimed row)
          -- no row matched, so nothing was written either
          | none => some (db, .lookUp, effects)
  | .lookUp, effects =>
      match env.fault with
      | some error => some (db, .threw (.postgres error), effects)
      | none =>
          match db.pairingCodes.withKey hash with
          | some _ => some (db, .threw (.pairingCode "pairing code already used"), effects)
          | none => some (db, .threw (.pairingCode "unknown pairing code"), effects)
  | .checkExpiry row, effects =>
      if row.expiresAt < env.now then some (db, .release row, effects)
      else some (db, .returned row.orgId row.nodeName, .redeemed row)
  | .release row, effects =>
      match env.fault with
      | some error => some (db, .threw (.postgres error), effects)
      | none =>
          -- so a retry sees "expired" again rather than "already used"
          some (releaseCode row.id db, .threw (.pairingCode "pairing code expired"), .released row)
  | .returned _ _, _ => none
  | .threw _, _ => none

end ModelHub.ControlPlane
