import ModelHub.Db.Schema
import ModelHub.Foundations.Interleaving
import ModelHub.Foundations.JavaScript

/-!
# Node authentication

`authenticateNode` of `apps/control-plane/src/rpc/node-auth.ts`, and the service in
which any number of its calls run at once.  A header is
`ModelHubNode <nodeId>.<unixMillis>.<nonce>.<signature>`.  A call checks its shape,
reads the clock, looks the node up, checks the signature and sets the nonce in
Redis; these are separate steps, and the clock, the database and the other calls
may move between any two of them.

Redis and the server share one clock, in whole milliseconds.  Redis is the moment
at which each key that was ever set runs out.  `node:crypto` and the decoding of a
base64url text are parameters.
-/

namespace ModelHub.ControlPlane

open Db Interleaving JavaScript

/-- What a call of `authenticateNode` throws. -/
inductive AuthError where
  /-- `NodeAuthError` -/
  | nodeAuth (message : String)
  /-- The database or Redis failed to answer. -/
  | unavailable
  deriving DecidableEq, Repr

/-- The settings and the library code behind node authentication. -/
structure NodeAuthEnv (KeyObject : Type) where
  NODE_AUTH_SKEW_MS : ℚ
  /-- `createPublicKey` of a DER-encoded SPKI; `none` if it throws. -/
  createPublicKey : List UInt8 → Option KeyObject
  /-- `verify(null, Buffer.from(text), key, signature)`; `none` if it throws. -/
  verify : String → KeyObject → List UInt8 → Option Bool
  /-- `Buffer.from(text, "base64url")` -/
  fromBase64url : String → List UInt8

variable {KeyObject : Type}

/-! ## The header -/

/-- The value of a uuid in the 8-4-4-4-12 form; `none` where `isUuid` is false. -/
def parseUuid (text : String) : Option Uuid :=
  match text.toList.splitOn '-' with
  | [first, second, third, fourth, fifth] =>
      if [first, second, third, fourth, fifth].map List.length = [8, 4, 4, 4, 12] then
        (digits 16 (first ++ second ++ third ++ fourth ++ fifth)).map (BitVec.ofNat 128)
      else none
  | _ => none

structure AuthHeader where
  nodeId : String
  millis : String
  nonce : String
  signature : String
  /-- The node id as the database reads it. -/
  id : Uuid
  deriving DecidableEq, Repr

/-- The part of a header that the signature is over, before it is joined by dots. -/
def AuthHeader.signed (header : AuthHeader) : String × String × String :=
  (header.nodeId, header.millis, header.nonce)

def AuthHeader.message (header : AuthHeader) : String :=
  header.nodeId ++ "." ++ header.millis ++ "." ++ header.nonce

def AuthHeader.nonceKey (header : AuthHeader) : String :=
  "nodeauth:" ++ header.nodeId ++ ":" ++ header.nonce

def NODE_AUTH_SCHEME : String := "ModelHubNode "

/-- What follows the scheme, in the parts between its dots. -/
def headerParts (header : Option String) : Option (List String) :=
  header.bind fun text =>
    (NODE_AUTH_SCHEME.toList.isPrefixOf? text.toList).map fun rest =>
      (rest.splitOn '.').map String.ofList

def readHeader (header : Option String) : Except AuthError AuthHeader :=
  match headerParts header with
  | none => .error (.nodeAuth "missing node authorization header")
  | some [nodeId, millis, nonce, signature] =>
      if nodeId = "" ∨ millis = "" ∨ nonce = "" ∨ signature = "" then
        .error (.nodeAuth "malformed node authorization header")
      else match parseUuid nodeId with
      | none => .error (.nodeAuth "malformed node id")
      | some id => .ok ⟨nodeId, millis, nonce, signature, id⟩
  | some _ => .error (.nodeAuth "malformed node authorization header")

/-! ## The checks -/

/-- Whether a timestamp is accepted when the clock shows `now`. -/
def inWindow (config : NodeAuthEnv KeyObject) (atMillis : ℚ) (now : Time) : Bool :=
  |Binary64.sub now atMillis| ≤ config.NODE_AUTH_SKEW_MS

def checkTimestamp (config : NodeAuthEnv KeyObject) (millis : String) (now : Time) :
    Except AuthError Unit :=
  match numberOf millis with
  | none => .error (.nodeAuth "malformed timestamp")
  | some atMillis =>
      if inWindow config atMillis now then .ok ()
      else .error (.nodeAuth "timestamp outside the accepted window")

/-- DER prefix that turns a raw 32-byte Ed25519 key into SPKI. -/
def SPKI_ED25519_PREFIX : List UInt8 :=
  [0x30, 0x2a, 0x30, 0x05, 0x06, 0x03, 0x2b, 0x65, 0x70, 0x03, 0x21, 0x00]

def toKeyObject (config : NodeAuthEnv KeyObject) (raw : List UInt8) : Option KeyObject :=
  config.createPublicKey (SPKI_ED25519_PREFIX ++ raw)

def checkSignature (config : NodeAuthEnv KeyObject) (header : AuthHeader) (publicKey : List UInt8) :
    Except AuthError Unit :=
  match toKeyObject config publicKey with
  | none => .error (.nodeAuth "stored node key is invalid")
  | some key =>
      -- unusable signature bytes: same outcome as a signature that doesn't verify
      if (config.verify header.message key (config.fromBase64url header.signature)).getD false then
        .ok ()
      else .error (.nodeAuth "invalid signature")

/-! ## The calls -/

/-- What the calls share. -/
structure AuthStore where
  db : Database
  /-- When a key that was set runs out. -/
  redis : String → Option ℚ
  clock : Time

/-- How the database or Redis answers: the answer arrives, or it is lost after the
command ran, or the command does not run. -/
inductive Reply where
  | arrives
  | lost
  | refused
  deriving DecidableEq, Repr

/-- Where a call of `authenticateNode` stands. -/
inductive AuthPc where
  | start
  | checkTimestamp (header : AuthHeader)
  | lookUp (header : AuthHeader)
  | checkSignature (header : AuthHeader) (orgId : String) (publicKey : List UInt8)
  | setNonce (header : AuthHeader) (orgId : String)
  | returned (header : AuthHeader) (orgId : String)
  | threw (error : AuthError)
  deriving DecidableEq, Repr

/-- A call: its argument, and where it stands. -/
structure AuthCall where
  header : Option String
  pc : AuthPc
  deriving DecidableEq, Repr

/-- A key is live from the moment it is set until it runs out. -/
def AuthStore.isLive (store : AuthStore) (key : String) : Bool :=
  (store.redis key).any fun expiry => (store.clock : ℚ) < expiry

/-- `SET key 1 PX lifetime NX`, and whether it set the key.  Redis takes a whole positive
number of milliseconds below `2 ^ 63` as a lifetime; of any other it is a SET that is
refused (`Reply.refused`), so that a skew is assumed here whose double is such a number. -/
def AuthStore.setIfAbsent (store : AuthStore) (key : String) (lifetime : ℚ) : AuthStore × Bool :=
  if store.isLive key then (store, false)
  else ({ store with redis := Function.update store.redis key (some (store.clock + lifetime)) }, true)

/-- The end of a call, for what Redis answered to its SET. -/
def afterSet (header : AuthHeader) (orgId : String) (fresh : Bool) : Reply → AuthPc
  | .arrives =>
      if fresh then .returned header orgId
      else .threw (.nodeAuth "replayed authorization header")
  | .lost => .threw .unavailable
  | .refused => .threw .unavailable

def authStep (config : NodeAuthEnv KeyObject) (header : Option String) (reply : Reply)
    (store : AuthStore) : AuthPc → Option (AuthStore × AuthPc)
  | .start =>
      match readHeader header with
      | .error error => some (store, .threw error)
      | .ok header => some (store, .checkTimestamp header)
  | .checkTimestamp header =>
      match checkTimestamp config header.millis store.clock with
      | .error error => some (store, .threw error)
      | .ok () => some (store, .lookUp header)
  | .lookUp header =>
      if reply = .arrives then
        match store.db.nodes.withId header.id with
        | none => some (store, .threw (.nodeAuth "unknown node"))
        | some node => some (store, .checkSignature header node.orgId node.publicKey)
      else some (store, .threw .unavailable)
  | .checkSignature header orgId publicKey =>
      match checkSignature config header publicKey with
      | .error error => some (store, .threw error)
      | .ok () => some (store, .setNonce header orgId)
  | .setNonce header orgId =>
      if reply = .refused then some (store, .threw .unavailable)
      else
        -- Twice the skew window covers any header that could still pass the timestamp check.
        match store.setIfAbsent header.nonceKey (config.NODE_AUTH_SKEW_MS * 2) with
        | (store', fresh) => some (store', afterSet header orgId fresh reply)
  | .returned _ _ => none
  | .threw _ => none

/-- What happens besides: time passes, and the rest of the program writes to the database. -/
inductive AuthAmbient where
  | tick (elapsed : ℕ)
  | write (db : Database)

/-- Calls of `authenticateNode` in any number and order. -/
def nodeAuthService (config : NodeAuthEnv KeyObject) :
    Service AuthStore AuthCall Reply AuthAmbient where
  entry := fun call => call.pc = .start
  advance := fun reply store call =>
    (authStep config call.header reply store call.pc).map fun next =>
      (next.1, { call with pc := next.2 })
  ambient := fun
    | .tick elapsed => fun store => some { store with clock := store.clock + elapsed }
    | .write db => fun store => some { store with db := db }

end ModelHub.ControlPlane
