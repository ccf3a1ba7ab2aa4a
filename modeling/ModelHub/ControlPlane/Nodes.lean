import ModelHub.ControlPlane.Enrollment
import ModelHub.ControlPlane.Wire
import ModelHub.Foundations.Replay

/-!
# What a connected node writes

`markNodeOnline`, `recordInventory` and `recordSamples` of
`apps/control-plane/src/domain/nodes.ts`, and the loop of `NodeService.Connect` that
hands them the messages of an authenticated stream.

Each of the three runs in one transaction under `withOrg`: it sees the rows of its
organization only, and if one of its statements fails it changes nothing.
-/

namespace ModelHub.ControlPlane

open ModelHub.Core Db Replay

/-- What a message's handling reads from outside: the clock, and the ids and the
time of creation of the rows it inserts.  The server's clock is taken to be set to one of the
years that a timestamp holds, so that `lastSeenAt` can always be written. -/
structure MessageEnv where
  now : Time
  createdAt : Time
  newId : ℕ → Uuid

/-! ## Hello -/

def setOnline (host : HostColumns) (now : Time) (node : Node) : Node :=
  { node with host := host, status := .online, lastSeenAt := some now }

@[simp] theorem setOnline_identity (host : HostColumns) (now : Time) (node : Node) :
    (setOnline host now node).identity = node.identity := rfl

/-- Marks a node online and refreshes the host facts from its Hello. -/
def markNodeOnline (orgId : String) (nodeId : Uuid) (host : HostColumns) (now : Time)
    (db : Database) : Except ServerError Database :=
  match firstError host.checks with
  | some error => .error (.postgres error)
  | none =>
      .ok (db.updateNodes (fun node => node.id = nodeId ∧ node.orgId = orgId)
        (setOnline host now) (setOnline_identity _ _))

/-! ## Inventory -/

/-- The row that an upsert proposes; the columns it does not name get their defaults. -/
def proposedDevice (orgId : String) (nodeId : Uuid) (device : String × DeviceFacts) (id : Uuid)
    (createdAt : Time) : Device where
  id := id
  orgId := orgId
  nodeId := nodeId
  localId := device.1
  facts := device.2
  interactive := false
  last := .default
  createdAt := createdAt

/-- One round of the loop of upserts, with its number. -/
def upsertKnown (orgId : String) (nodeId : Uuid) (env : MessageEnv)
    (round : (String × DeviceFacts) × ℕ) (db : Database) : Except ServerError Database :=
  match db.upsertDevice orgId
    (proposedDevice orgId nodeId round.1 (env.newId round.2) env.createdAt) with
  | .ok next => .ok next
  | .error error => .error (.postgres error)

/-- Upserts the devices a node reports and deletes the ones it no longer does. -/
def recordInventory (orgId : String) (nodeId : Uuid) (reported : List DeviceReport)
    (env : MessageEnv) (db : Database) : Except ServerError Database :=
  match replay (upsertKnown orgId nodeId env) (knownDevices reported).zipIdx db with
  | .error error => .error error
  | .ok db' =>
      let keep := (knownDevices reported).map Prod.fst
      .ok (db'.deleteDevices fun device =>
        device.orgId = orgId ∧ device.nodeId = nodeId ∧ device.localId ∉ keep)

/-! ## Samples -/

def setLast (last : LastSample) (device : Device) : Device := { device with last := last }

@[simp] theorem setLast_identity (last : LastSample) (device : Device) :
    (setLast last device).identity = device.identity := rfl

/-- The update that one sample makes. -/
def applySample (orgId : String) (nodeId : Uuid) (sample : DeviceSample) (db : Database) :
    Except ServerError Database :=
  match sampledAt sample with
  | none => .error .invalidDate
  | some date =>
      match firstError (LastSample.checks (sampleColumns sample date) ++
        [textError sample.localId]) with
      | some error => .error (.postgres error)
      | none =>
          .ok (db.updateDevices (fun device => device.orgId = orgId ∧ device.nodeId = nodeId ∧
            device.localId = sample.localId) (setLast (sampleColumns sample date))
            (setLast_identity _))

def setSeen (now : Time) (node : Node) : Node :=
  { node with lastSeenAt := some now, status := .online }

@[simp] theorem setSeen_identity (now : Time) (node : Node) :
    (setSeen now node).identity = node.identity := rfl

/-- Applies a batch of samples and refreshes the node's lastSeenAt.  An empty
batch still counts as a heartbeat. -/
def recordSamples (orgId : String) (nodeId : Uuid) (samples : List DeviceSample) (now : Time)
    (db : Database) : Except ServerError Database :=
  match replay (applySample orgId nodeId) samples db with
  | .error error => .error error
  | .ok db' =>
      .ok (db'.updateNodes (fun node => node.id = nodeId ∧ node.orgId = orgId) (setSeen now)
        (setSeen_identity _))

/-! ## A stream -/

/-- One round of the loop in `connect`. -/
def handleMessage (orgId : String) (nodeId : Uuid) (message : AgentMessage) (env : MessageEnv)
    (db : Database) : Except ServerError Database :=
  match message with
  | .hello agentVersion host =>
      markNodeOnline orgId nodeId { hostColumns host with agentVersion := agentVersion } env.now db
  | .inventory devices => recordInventory orgId nodeId devices env db
  | .samples samples => recordSamples orgId nodeId samples env.now db

/-- The messages of an authenticated stream, one after another. -/
def connect (orgId : String) (nodeId : Uuid) (messages : List (AgentMessage × MessageEnv))
    (db : Database) : Except ServerError Database :=
  replay (fun message db => handleMessage orgId nodeId message.1 message.2 db) messages db

/-! ## What the handlers do -/

theorem markNodeOnline_eq_ok {orgId : String} {nodeId : Uuid} {host : HostColumns} {now : Time}
    {db next : Database} :
    markNodeOnline orgId nodeId host now db = .ok next ↔ firstError host.checks = none ∧
      next = db.updateNodes (fun node => node.id = nodeId ∧ node.orgId = orgId)
        (setOnline host now) (setOnline_identity _ _) := by
  unfold markNodeOnline
  cases hchecks : firstError host.checks with
  | some error => simp only [reduceCtorEq, false_and]
  | none =>
      simp only [Except.ok.injEq, true_and]
      exact eq_comm

theorem recordInventory_eq_ok {orgId : String} {nodeId : Uuid} {reported : List DeviceReport}
    {env : MessageEnv} {db next : Database} :
    recordInventory orgId nodeId reported env db = .ok next ↔ ∃ middle,
      replay (upsertKnown orgId nodeId env) (knownDevices reported).zipIdx db = .ok middle ∧
        next = middle.deleteDevices fun device => device.orgId = orgId ∧ device.nodeId = nodeId ∧
          device.localId ∉ (knownDevices reported).map Prod.fst := by
  unfold recordInventory
  cases hupserts : replay (upsertKnown orgId nodeId env) (knownDevices reported).zipIdx db with
  | error error => simp only [reduceCtorEq, false_and, exists_false]
  | ok middle =>
      simp only [Except.ok.injEq, exists_eq_left']
      exact eq_comm

theorem recordSamples_eq_ok {orgId : String} {nodeId : Uuid} {samples : List DeviceSample}
    {now : Time} {db next : Database} :
    recordSamples orgId nodeId samples now db = .ok next ↔ ∃ middle,
      replay (applySample orgId nodeId) samples db = .ok middle ∧
        next = middle.updateNodes (fun node => node.id = nodeId ∧ node.orgId = orgId) (setSeen now)
          (setSeen_identity _) := by
  unfold recordSamples
  cases hsamples : replay (applySample orgId nodeId) samples db with
  | error error => simp only [reduceCtorEq, false_and, exists_false]
  | ok middle =>
      simp only [Except.ok.injEq, exists_eq_left']
      exact eq_comm

/-- A heartbeat changes nothing of a row but its host, its status and its time. -/
def IsBeat (set : Node → Node) : Prop :=
  ∀ node, ∃ host seen, set node = { node with host := host, status := .online, lastSeenAt := seen }

/-- The devices that a message reports. -/
def AgentMessage.devices : AgentMessage → List DeviceReport
  | .inventory reported => reported
  | _ => []

/-- The samples that a message brings. -/
def AgentMessage.batch : AgentMessage → List DeviceSample
  | .samples received => received
  | _ => []

/-- What each of its statements keeps, a message keeps. -/
theorem handleMessage_keeps {orgId : String} {nodeId : Uuid} (inv : Database → Prop)
    {message : AgentMessage}
    (hupsert : ∀ env round state next, round.1 ∈ knownDevices message.devices → inv state →
      upsertKnown orgId nodeId env round state = .ok next → inv next)
    (hdelete : ∀ (keep : List String) state, inv state →
      inv (state.deleteDevices fun device =>
        device.orgId = orgId ∧ device.nodeId = nodeId ∧ device.localId ∉ keep))
    (hsample : ∀ sample ∈ message.batch, ∀ state next, inv state →
      applySample orgId nodeId sample state = .ok next → inv next)
    (hbeat : ∀ set hset state, IsBeat set → inv state →
      inv (state.updateNodes (fun node => node.id = nodeId ∧ node.orgId = orgId) set hset))
    {env : MessageEnv} {db next : Database} (hstart : inv db)
    (hhandle : handleMessage orgId nodeId message env db = .ok next) : inv next := by
  cases message with
  | hello agentVersion host =>
      obtain ⟨-, rfl⟩ := markNodeOnline_eq_ok.1 hhandle
      exact hbeat _ _ _ (fun node => ⟨_, _, rfl⟩) hstart
  | inventory devices =>
      obtain ⟨middle, hupserts, rfl⟩ := recordInventory_eq_ok.1 hhandle
      refine hdelete _ _ (replay_keeps_of_mem inv (fun round hround => ?_) hstart hupserts)
      exact fun state next => hupsert env round state next (List.fst_mem_of_mem_zipIdx hround)
  | samples samples =>
      obtain ⟨middle, hsamples, rfl⟩ := recordSamples_eq_ok.1 hhandle
      exact hbeat _ _ _ (fun node => ⟨_, _, rfl⟩)
        (replay_keeps_of_mem inv hsample hstart hsamples)

/-! ## Which nodes are touched -/

@[simp] theorem updateDevices_nodes (db : Database) (sel : Device → Bool) (set : Device → Device)
    (hset : ∀ device, (set device).identity = device.identity) :
    (db.updateDevices sel set hset).nodes = db.nodes := rfl

theorem applySample_eq_ok {orgId : String} {nodeId : Uuid} {sample : DeviceSample}
    {db next : Database} :
    applySample orgId nodeId sample db = .ok next ↔
      ∃ date, sampledAt sample = some date ∧
        firstError (LastSample.checks (sampleColumns sample date) ++
          [textError sample.localId]) = none ∧
        next = db.updateDevices (fun device => device.orgId = orgId ∧ device.nodeId = nodeId ∧
          device.localId = sample.localId) (setLast (sampleColumns sample date))
          (setLast_identity _) := by
  unfold applySample
  cases hdate : sampledAt sample with
  | none => simp only [reduceCtorEq, false_and, exists_false]
  | some date =>
      simp only [Option.some.injEq, exists_eq_left']
      cases hchecks : firstError (LastSample.checks (sampleColumns sample date) ++
          [textError sample.localId]) with
      | some error => simp only [reduceCtorEq, false_and]
      | none =>
          simp only [Except.ok.injEq, true_and]
          exact eq_comm

theorem applySample_nodes {orgId : String} {nodeId : Uuid} {sample : DeviceSample}
    {db next : Database} (happly : applySample orgId nodeId sample db = .ok next) :
    next.nodes = db.nodes := by
  obtain ⟨date, -, -, hnext⟩ := applySample_eq_ok.1 happly
  rw [hnext, updateDevices_nodes]

theorem applySamples_nodes {orgId : String} {nodeId : Uuid} {samples : List DeviceSample}
    {db next : Database} (hreplay : replay (applySample orgId nodeId) samples db = .ok next) :
    next.nodes = db.nodes :=
  replay_keeps (fun state => state.nodes = db.nodes)
    (fun _ _ _ hsame happly => (applySample_nodes happly).trans hsame) rfl hreplay

/-- What a heartbeat leaves of a row: the row as it was, or a node seen online now. -/
def Beats (now : Time) (old node : Node) : Prop :=
  node.id = old.id ∧ (node = old ∨ node.status = .online ∧ node.lastSeenAt = some now)

theorem updateNodes_beats {sel : Node → Bool} {set : Node → Node}
    {hset : ∀ node, (set node).identity = node.identity} {now : Time} {db : Database}
    (hbeat : ∀ node, (set node).status = .online ∧ (set node).lastSeenAt = some now) :
    ∀ node ∈ (db.updateNodes sel set hset).nodes.rows, ∃ old ∈ db.nodes.rows, Beats now old node := by
  intro node hnode
  obtain ⟨old, hold, rfl⟩ := mem_updateNodes.1 hnode
  refine ⟨old, hold, Table.rewrite_same Node.id (fun node => Node.id_eq (hset node)) old, ?_⟩
  unfold Table.rewrite
  split
  · exact Or.inr (hbeat old)
  · exact Or.inl rfl

theorem markNodeOnline_beats {orgId : String} {nodeId : Uuid} {host : HostColumns} {now : Time}
    {db next : Database} (hmark : markNodeOnline orgId nodeId host now db = .ok next) :
    ∀ node ∈ next.nodes.rows, ∃ old ∈ db.nodes.rows, Beats now old node := by
  obtain ⟨-, rfl⟩ := markNodeOnline_eq_ok.1 hmark
  exact updateNodes_beats fun node => ⟨rfl, rfl⟩

theorem recordSamples_beats {orgId : String} {nodeId : Uuid} {samples : List DeviceSample}
    {now : Time} {db next : Database}
    (hrecord : recordSamples orgId nodeId samples now db = .ok next) :
    ∀ node ∈ next.nodes.rows, ∃ old ∈ db.nodes.rows, Beats now old node := by
  obtain ⟨middle, hsamples, rfl⟩ := recordSamples_eq_ok.1 hrecord
  rw [← applySamples_nodes hsamples]
  exact updateNodes_beats fun node => ⟨rfl, rfl⟩

end ModelHub.ControlPlane
