import ModelHub.ControlPlane.NodeAuth
import ModelHub.ControlPlane.Sweeper

/-!
# The control plane as one service

`authenticateNode` and `NodeService.Connect` of `apps/control-plane/src/rpc`, and
everything that runs beside them: enrollments, the minting of codes, other streams
and the offline sweeper, all on the same database, Redis and clock.

A stream is a call like the others.  It authenticates in the steps of
`authenticateNode`, and then each of its messages is one step, for the organization
and the node that the authentication returned.  A message that cannot be handled ends
the stream and changes nothing; the messages before it stay handled.
-/

namespace ModelHub.ControlPlane

open Db Interleaving Replay

/-- The settings of the control plane, and the library code behind them. -/
structure ServerEnv (KeyObject : Type) where
  pairing : PairingEnv
  nodeAuth : NodeAuthEnv KeyObject
  SAMPLE_INTERVAL_MS : ℚ

/-! ## A stream from its start to its end -/

section Stream

variable {KeyObject : Type} (config : NodeAuthEnv KeyObject)

/-- A whole call of `authenticateNode`.  `lookUp` and `setNonce` are the answers of the
database and of Redis. -/
def authenticateNode (header : Option String) (lookUp setNonce : Reply) (store : AuthStore) :
    AuthStore × Except AuthError (AuthHeader × String) :=
  match readHeader header with
  | .error error => (store, .error error)
  | .ok header =>
      match checkTimestamp config header.millis store.clock with
      | .error error => (store, .error error)
      | .ok () =>
          if lookUp = .arrives then
            match store.db.nodes.withId header.id with
            | none => (store, .error (.nodeAuth "unknown node"))
            | some node =>
                match checkSignature config header node.publicKey with
                | .error error => (store, .error error)
                | .ok () =>
                    if setNonce = .refused then (store, .error .unavailable)
                    else
                      match store.setIfAbsent header.nonceKey (config.NODE_AUTH_SKEW_MS * 2) with
                      | (store', fresh) =>
                          if setNonce = .lost then (store', .error .unavailable)
                          else if fresh then (store', .ok (header, node.orgId))
                          else (store', .error (.nodeAuth "replayed authorization header"))
          else (store, .error .unavailable)

/-- How a stream ends. -/
inductive StreamEnd where
  /-- `authenticateNode` threw. -/
  | rejected (error : AuthError)
  /-- A message could not be handled. -/
  | failed (error : ServerError)
  /-- The agent sent no more messages. -/
  | closed
  deriving DecidableEq, Repr

/-- `NodeService.Connect`: the header is checked before a single message is read, and
then the messages are handled one after another, up to the first that fails. -/
def NodeService.connect (header : Option String) (lookUp setNonce : Reply)
    (messages : List (AgentMessage × MessageEnv)) (store : AuthStore) : AuthStore × StreamEnd :=
  match authenticateNode config header lookUp setNonce store with
  | (store', .error error) => (store', .rejected error)
  | (store', .ok (header, orgId)) =>
      match replayUntil (fun message => handleMessage orgId header.id message.1 message.2) messages
        store'.db with
      | (db, none) => ({ store' with db := db }, .closed)
      | (db, some error) => ({ store' with db := db }, .failed error)

end Stream

/-! ## The service -/

/-- A call in flight. -/
inductive ServerFrame where
  /-- `redeemPairingCode` or `enrollNode` -/
  | pairing (frame : Frame)
  /-- A stream, which is open once its `authenticateNode` has returned. -/
  | stream (call : AuthCall)
  | ended (how : StreamEnd)

/-- What a step of a call meets. -/
inductive ServerStep where
  | pairing (env : StepEnv)
  | reply (reply : Reply)
  | message (message : AgentMessage) (env : MessageEnv)
  | hangUp

/-- What happens besides. -/
inductive ServerEvent where
  | tick (elapsed : ℕ)
  | organization (organization : Organization)
  | mint (mint : Mint)
  | sweepOffline (now : Time)
  | sweepDegraded (now : Time)

namespace ServerFrame

/-- The call was just made. -/
def isStart : ServerFrame → Bool
  | pairing frame => frame.isStart
  | stream call => call.pc = .start
  | ended _ => false

end ServerFrame

section Service

variable {KeyObject : Type} (config : ServerEnv KeyObject)

/-- The next step of a stream. -/
def streamAdvance (step : ServerStep) (store : AuthStore) (header : Option String) :
    AuthPc → Option (AuthStore × ServerFrame)
  | .returned read orgId =>
      match step with
      | .message message env =>
          match handleMessage orgId read.id message env store.db with
          | .ok db => some ({ store with db := db }, .stream ⟨header, .returned read orgId⟩)
          | .error error => some (store, .ended (.failed error))
      | .hangUp => some (store, .ended .closed)
      | _ => none
  | .threw error =>
      match step with
      | .hangUp => some (store, .ended (.rejected error))
      | _ => none
  | pc =>
      match step with
      | .reply reply =>
          (authStep config.nodeAuth header reply store pc).map fun next =>
            (next.1, .stream ⟨header, next.2⟩)
      | _ => none

def serverAdvance (step : ServerStep) (store : AuthStore) :
    ServerFrame → Option (AuthStore × ServerFrame)
  | .pairing frame =>
      match step with
      | .pairing env =>
          (advance config.pairing env store.db frame).map fun next =>
            ({ store with db := next.1 }, .pairing next.2)
      | _ => none
  | .stream call => streamAdvance config step store call.header call.pc
  | .ended _ => none

def serverAmbient (store : AuthStore) : ServerEvent → Option AuthStore
  | .tick elapsed => some { store with clock := store.clock + elapsed }
  | .organization organization =>
      (store.db.insertOrganization organization).toOption.map fun db => { store with db := db }
  | .mint mint =>
      (mintPairingCode config.pairing mint store.db).toOption.map fun next =>
        { store with db := next.1 }
  | .sweepOffline now =>
      (offlinePass config.SAMPLE_INTERVAL_MS now store.db).map fun next =>
        { store with db := next.1 }
  | .sweepDegraded now =>
      (degradedPass config.SAMPLE_INTERVAL_MS now store.db).map fun next =>
        { store with db := next.1 }

/-- Everything that the control plane does, in any interleaving. -/
def serverService : Service AuthStore ServerFrame ServerStep ServerEvent where
  entry := ServerFrame.isStart
  advance := serverAdvance config
  ambient := fun event store => serverAmbient config store event

end Service

end ModelHub.ControlPlane
