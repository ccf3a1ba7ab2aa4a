import ModelHub.ControlPlane.Pairing
import ModelHub.Foundations.Interleaving

/-!
# Enrollment

`enrollNode` of `apps/control-plane/src/domain/nodes.ts`, and the service in which
any number of `redeemPairingCode` and `enrollNode` calls run at once while codes
are minted.  Each statement of a call is one step: the pre-check, the claim, the
release, the insert and the look-up of the organization's name run on their own,
and what the other calls do may come between any two of them.
-/

namespace ModelHub.ControlPlane

open Db Interleaving

structure EnrollInput where
  pairingCode : String
  publicKey : List UInt8
  nodeName : String
  host : HostColumns
  deriving DecidableEq, Repr

def ALREADY_ENROLLED : String := "this key is already enrolled; re-install to get a new identity"

/-- The error postgres.js raises when an insert loses the race on nodes_public_key_idx. -/
def isPublicKeyUniqueViolation (error : PgError) : Bool :=
  error.code = "23505" ∧ error.constraint_name = some "nodes_public_key_idx"

/-- `a || b` on strings. -/
def orElse (first second : String) : String := if first = "" then second else first

@[simp] theorem orElse_empty (second : String) : orElse "" second = second := if_pos rfl

theorem orElse_of_ne {first : String} (hne : first ≠ "") (second : String) :
    orElse first second = first := if_neg hne

theorem orElse_ne_empty {first second : String} (hne : second ≠ "") : orElse first second ≠ "" := by
  unfold orElse
  split
  · exact hne
  · assumption

/-- The row that `enrollNode` inserts. -/
def enrolledNode (input : EnrollInput) (orgId nodeName : String) (env : StepEnv) : Node where
  id := env.newId
  orgId := orgId
  name := orElse input.nodeName (orElse nodeName (orElse input.host.hostname "node"))
  status := .offline
  host := input.host
  publicKey := input.publicKey
  lastSeenAt := none
  createdAt := env.createdAt

/-- Where a call of `enrollNode` stands. -/
inductive EnrollPc where
  | start
  | preCheck
  | redeem (pc : RedeemPc)
  | insert (orgId nodeName : String)
  | orgLookUp (orgId : String) (nodeId : Uuid)
  | returned (nodeId : Uuid) (orgId orgName : String)
  | threw (error : ServerError)
  deriving DecidableEq, Repr

/-- `await redeemPairingCode(...)`: its result is passed on, its error too. -/
def EnrollPc.awaitRedeem : RedeemPc → EnrollPc
  | .returned orgId nodeName => .insert orgId nodeName
  | .threw error => .threw error
  | pc => .redeem pc

/-- The error an `enrollNode` call throws for a failed insert. -/
def insertError (error : PgError) : ServerError :=
  if isPublicKeyUniqueViolation error then .enrollment ALREADY_ENROLLED else .postgres error

/-- The insert as it runs in this step, unless the connection fails. -/
def runInsert (input : EnrollInput) (orgId nodeName : String) (env : StepEnv) (db : Database) :
    Except PgError Database :=
  match env.fault with
  | some error => .error error
  | none => db.insertNode orgId (enrolledNode input orgId nodeName env)

/-- The next step of an `enrollNode` call. -/
def enrollStep (config : PairingEnv) (input : EnrollInput) (env : StepEnv) (db : Database) :
    EnrollPc → Effects → Option (Database × EnrollPc × Effects)
  | .start, effects =>
      if input.publicKey.length ≠ 32 then
        some (db, .threw (.enrollment "public key must be a 32-byte Ed25519 key"), effects)
      else some (db, .preCheck, effects)
  | .preCheck, effects =>
      match env.fault with
      | some error => some (db, .threw (.postgres error), effects)
      | none =>
          match db.nodes.withKey input.publicKey with
          | some _ => some (db, .threw (.enrollment ALREADY_ENROLLED), effects)
          | none => some (db, .redeem .claim, effects)
  | .redeem pc, effects =>
      (redeemStep (hashCode config input.pairingCode) env db pc effects).map
        fun (db', pc', effects') => (db', .awaitRedeem pc', effects')
  | .insert orgId nodeName, effects =>
      match runInsert input orgId nodeName env db with
      | .error error => some (db, .threw (insertError error), effects)
      | .ok db' =>
          let effects' := match effects with
            | .redeemed row => .inserted row (enrolledNode input orgId nodeName env)
            | effects => effects
          some (db', .orgLookUp orgId env.newId, effects')
  | .orgLookUp orgId nodeId, effects =>
      match env.fault with
      | some error => some (db, .threw (.postgres error), effects)
      | none =>
          let orgName := ((db.organizations.withId orgId).map Organization.name).getD ""
          some (db, .returned nodeId orgId orgName, effects)
  | .returned _ _ _, _ => none
  | .threw _, _ => none

/-! ## All calls together -/

/-- A call in flight. -/
inductive Frame where
  | redeem (code : String) (pc : RedeemPc) (effects : Effects)
  | enroll (input : EnrollInput) (pc : EnrollPc) (effects : Effects)
  deriving DecidableEq, Repr

namespace Frame

/-- The pairing code the call was given. -/
def code : Frame → String
  | redeem code _ _ => code
  | enroll input _ _ => input.pairingCode

def effects : Frame → Effects
  | redeem _ _ effects => effects
  | enroll _ _ effects => effects

/-- The call was just made. -/
def isStart : Frame → Bool
  | redeem _ pc effects => pc = .claim ∧ effects = .untouched
  | enroll _ pc effects => pc = .start ∧ effects = .untouched

/-- The `redeemPairingCode` call has returned, on its own or within `enrollNode`. -/
def RedeemSucceeded : Frame → Prop
  | redeem _ pc _ => ∃ orgId nodeName, pc = .returned orgId nodeName
  | enroll _ _ effects => ∃ row, effects = .redeemed row ∨ ∃ node, effects = .inserted row node

/-- The node that the call has added. -/
def created (frame : Frame) : Option Node :=
  match frame.effects with
  | .inserted _ node => some node
  | _ => none

end Frame

def advance (config : PairingEnv) (env : StepEnv) (db : Database) :
    Frame → Option (Database × Frame)
  | .redeem code pc effects =>
      (redeemStep (hashCode config code) env db pc effects).map
        fun (db', pc', effects') => (db', .redeem code pc' effects')
  | .enroll input pc effects =>
      (enrollStep config input env db pc effects).map
        fun (db', pc', effects') => (db', .enroll input pc' effects')

/-- Redemptions and enrollments in any number and order, while codes are minted. -/
def pairingService (config : PairingEnv) : Service Database Frame StepEnv Mint where
  entry := Frame.isStart
  advance := advance config
  ambient := fun mint db => (mintPairingCode config mint db).toOption.map Prod.fst

end ModelHub.ControlPlane
