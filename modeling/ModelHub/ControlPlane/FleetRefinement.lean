import ModelHub.ControlPlane.EnrolledNode
import ModelHub.ControlPlane.FleetSafety
import ModelHub.ControlPlane.FleetSpec

/-!
# The control plane keeps a fleet

The tables `nodes` and `devices` are a fleet in the sense of `FleetSpec`, and whatever the
control plane does, in any interleaving of its calls, changes that fleet by the abstract
changes only: an insert of `enrollNode` lets a member join, a handled message is a report
of the member that the stream was authenticated for, and the two passes of a sweep give
silent members up (`fleetSimulation`).  Each message is one step here; what becomes of
two inventories of one node whose statements alternate is another matter.

So a whole run, seen through the tables, is a run of the abstract fleet
(`fleet_refines`), and what the rows hold can be read off the list of its changes
(`rows_explained`), whatever the streams were and in whatever order they were handled.
-/

namespace ModelHub.ControlPlane

open Db Interleaving Replay Transition
open FleetSpec (Member Report Change Fleet)

variable {KeyObject : Type} {config : ServerEnv KeyObject} {db next : Database}
  {orgId : String} {nodeId : Uuid}

/-! ## The fleet in the tables -/

/-- The columns of a node that nothing changes, besides its id. -/
structure Enrolled where
  orgId : String
  name : String
  publicKey : List UInt8
  createdAt : Time
  deriving DecidableEq, Repr

def Node.enrolled (node : Node) : Enrolled where
  orgId := node.orgId
  name := node.name
  publicKey := node.publicKey
  createdAt := node.createdAt

abbrev FleetMember := Member Enrolled HostColumns String DeviceFacts LastSample

abbrev FleetReport := Report HostColumns String DeviceFacts LastSample

abbrev FleetChange := Change Uuid Enrolled HostColumns String DeviceFacts LastSample

abbrev FleetTable := Fleet Uuid Enrolled HostColumns String DeviceFacts LastSample

def Device.columns (device : Device) : DeviceFacts × LastSample := (device.facts, device.last)

def memberOf (db : Database) (node : Node) : FleetMember where
  identity := Node.enrolled node
  host := node.host
  status := node.status
  lastSeen := node.lastSeenAt
  devices := fun localId => (rowOf db node.id localId).map Device.columns

def fleetOf (db : Database) : FleetTable := fun id => (db.nodes.withId id).map (memberOf db)

/-- What a message reports. -/
def reportOf (message : AgentMessage) (now : Time) : FleetReport :=
  match message with
  | .hello agentVersion host => .hello { hostColumns host with agentVersion := agentVersion } now
  | .inventory reported => .inventory fun localId => lastFacts localId (knownDevices reported)
  | .samples batch => .samples (fun localId => (sampleReports localId (.samples batch)).getLast?) now

/-- The abstract fleet, with the public key as the key. -/
noncomputable def fleetSpec : System FleetTable FleetChange :=
  FleetSpec.system Enrolled.publicKey .default

theorem fleetOf_of_eq (hnodes : next.nodes = db.nodes) (hdevices : next.devices = db.devices) :
    fleetOf next = fleetOf db := by
  funext id
  have hmember : memberOf next = memberOf db := by
    funext node
    simp only [memberOf, rowOf, hdevices]
  rw [fleetOf, fleetOf, hnodes, hmember]

theorem fleetOf_eq_some {id : Uuid} {member : FleetMember} :
    fleetOf db id = some member ↔
      ∃ node ∈ db.nodes.rows, node.id = id ∧ memberOf db node = member := by
  simp only [fleetOf, Option.map_eq_some_iff, Table.withId_eq_some, and_assoc]

/-! ## What the statements do to it -/

/-- The insert of a node lets a member join.  No device can be there already: devices
belong to nodes. -/
theorem fleet_insertNode {node : Node} (hquiet : node.status = .offline)
    (hunseen : node.lastSeenAt = none) (hinsert : db.insertNode orgId node = .ok next) :
    fleetSpec.step (fleetOf db) (.enrolled node.id (Node.enrolled node) node.host) =
      some (fleetOf next) := by
  obtain ⟨-, -, hid, hkey, -⟩ := insertNode_eq_ok.1 ⟨next, hinsert⟩
  obtain ⟨-, hdevices, -, hrows, -⟩ := insertNode_spec hinsert
  have hmember : memberOf next = memberOf db := by
    funext node
    simp only [memberOf, rowOf, hdevices]
  have hnew : memberOf db node = .new (Node.enrolled node) node.host := by
    have hnone : ∀ localId, rowOf db node.id localId = none := by
      intro localId
      by_contra hsome
      obtain ⟨row, hrow⟩ := Option.ne_none_iff_exists'.1 hsome
      obtain ⟨hmem, hnode, -⟩ := rowOf_eq_some.1 hrow
      exact hid (hnode ▸ db.devices_node row hmem)
    simp only [memberOf, Member.new, hquiet, hunseen, hnone, Option.map_none]
  rw [fleetSpec, FleetSpec.step_eq_some]
  refine ⟨⟨?_, ?_⟩, ?_⟩
  · rw [fleetOf, Table.withId_eq_none.2 hid, Option.map_none]
  · intro other member hother hsame
    obtain ⟨old, hold, -, rfl⟩ := fleetOf_eq_some.1 hother
    have hpublic : old.publicKey = node.publicKey := hsame
    exact hkey (List.mem_map.2 ⟨old, hold, hpublic⟩)
  · funext id
    simp only [fleetOf, hmember, Table.withId_append hrows, Change.part]
    split
    · rw [Option.map_some, hnew]
    · rfl

/-- An update of one node's row. -/
theorem withId_updateNodes {set : Node → Node} {hset : ∀ node, (set node).identity = node.identity}
    (hnode : HasNode orgId nodeId db) (id : Uuid) :
    (db.updateNodes (fun node => node.id = nodeId ∧ node.orgId = orgId) set hset).nodes.withId id =
      (db.nodes.withId id).map fun node => if id = nodeId then set node else node := by
  obtain ⟨found, hfoundMem, hid, horg⟩ := hnode
  unfold Database.updateNodes
  rw [Table.withId_update]
  apply Option.map_congr
  intro node hfound
  obtain ⟨hmem, rfl⟩ := Table.withId_eq_some.1 hfound
  by_cases hsame : node.id = nodeId
  · have hown : node.orgId = orgId := by
      rw [Table.eq_of_id hmem hfoundMem (hsame.trans hid.symm), horg]
    rw [if_pos hsame, Table.rewrite_of_sel (by simpa using ⟨hsame, hown⟩)]
  · rw [if_neg hsame, Table.rewrite_of_not_sel (by simpa using fun heq => absurd heq hsame)]

theorem recordInventory_nodes {reported : List DeviceReport} {env : MessageEnv}
    (hrecord : recordInventory orgId nodeId reported env db = .ok next) : next.nodes = db.nodes := by
  obtain ⟨middle, hupserts, rfl⟩ := recordInventory_eq_ok.1 hrecord
  apply replay_keeps (fun state => state.nodes = db.nodes) _ rfl hupserts
  intro round state following hsame hround
  exact (upsertDevice_cases (upsertKnown_ok hround)).2.1.trans hsame

theorem rowOf_elsewhere (hsame : SameElsewhere nodeId db next) {id : Uuid} (hne : id ≠ nodeId)
    (localId : String) : rowOf next id localId = rowOf db id localId := by
  have hrows : ∀ {state : Database} {row : Device}, rowOf state id localId = some row ↔
      row ∈ otherDevices nodeId state ∧ row.nodeId = id ∧ row.localId = localId := by
    intro state row
    rw [rowOf_eq_some, otherDevices, List.mem_filter]
    constructor
    · rintro ⟨hmem, hnode, hlocal⟩
      exact ⟨⟨hmem, by simpa [hnode] using hne⟩, hnode, hlocal⟩
    · rintro ⟨⟨hmem, -⟩, hnode, hlocal⟩
      exact ⟨hmem, hnode, hlocal⟩
  ext row
  rw [hrows, hrows, hsame.1]

/-- What a message does to the devices of its node. -/
theorem Follows.columns {message : AgentMessage} {row row' : Option Device} {localId : String}
    {now : Time} (hfollows : Follows localId message row row') :
    row'.map Device.columns =
      (reportOf message now).device .default localId (row.map Device.columns) := by
  rcases message with ⟨agentVersion, host⟩ | reported | batch
  · rw [show row' = row from hfollows]
    rfl
  · obtain ⟨new, hnew, hrow⟩ := hfollows
    rw [hrow, Option.map_map]
    simp only [reportOf, Report.device]
    apply Option.map_congr
    intro facts _
    rcases row with _ | device
    · simp [Device.columns, setFacts, hnew]
    · rfl
  · rw [show row' = row.map _ from hfollows, Option.map_map]
    simp only [reportOf, Report.device, Option.map_map]
    rfl

/-- What a message does to the row of its node. -/
def heard (now : Time) : AgentMessage → Node → Node
  | .hello agentVersion host => setOnline { hostColumns host with agentVersion := agentVersion } now
  | .inventory _ => id
  | .samples _ => setSeen now

theorem handleMessage_withId {message : AgentMessage} {env : MessageEnv}
    (hnode : HasNode orgId nodeId db)
    (hhandle : handleMessage orgId nodeId message env db = .ok next) (id : Uuid) :
    next.nodes.withId id =
      (db.nodes.withId id).map fun node => if id = nodeId then heard env.now message node else node := by
  rcases message with ⟨agentVersion, host⟩ | reported | batch
  · obtain ⟨-, rfl⟩ := markNodeOnline_eq_ok.1 hhandle
    exact withId_updateNodes hnode id
  · rw [recordInventory_nodes hhandle]
    simp [heard]
  · obtain ⟨middle, hsamples, rfl⟩ := recordSamples_eq_ok.1 hhandle
    have hsame := applySamples_nodes hsamples
    rw [withId_updateNodes (hnode.of_nodes hsame), hsame]
    rfl

/-- The handling of a message is a report of its node. -/
theorem fleet_handleMessage {message : AgentMessage} {env : MessageEnv} (htenanted : Tenanted db)
    (hnode : HasNode orgId nodeId db)
    (hhandle : handleMessage orgId nodeId message env db = .ok next) :
    fleetSpec.step (fleetOf db) (.told nodeId (reportOf message env.now)) = some (fleetOf next) := by
  have hdevices : ∀ localId, (rowOf next nodeId localId).map Device.columns =
      (reportOf message env.now).device .default localId
        ((rowOf db nodeId localId).map Device.columns) :=
    fun localId => (handleMessage_follows (htenanted.own hnode) hhandle).columns
  rw [fleetSpec, FleetSpec.step_eq_some]
  refine ⟨?_, funext fun id => ?_⟩
  · obtain ⟨node, hmem, hid, -⟩ := hnode
    exact Option.isSome_iff_exists.2 ⟨_, fleetOf_eq_some.2 ⟨node, hmem, hid, rfl⟩⟩
  rw [fleetOf, handleMessage_withId hnode hhandle, Option.map_map, fleetOf]
  simp only [Change.part]
  split
  case isTrue heq =>
    rw [Option.map_map]
    apply Option.map_congr
    intro node hfound
    obtain rfl : node.id = nodeId := (Table.withId_eq_some.1 hfound).2.trans heq
    have hheard : (heard env.now message node).id = node.id := by
      rcases message with ⟨agentVersion, host⟩ | reported | batch <;> rfl
    simp only [Function.comp_apply, memberOf, hheard, hdevices]
    rcases message with ⟨agentVersion, host⟩ | reported | batch <;> rfl
  case isFalse hne =>
    apply Option.map_congr
    intro node hfound
    obtain rfl : node.id = id := (Table.withId_eq_some.1 hfound).2
    simp only [Function.comp_apply, memberOf, rowOf_elsewhere (handleMessage_elsewhere hhandle) hne]

/-- A pass of a sweep. -/
theorem fleet_passUpdate {guard : Node → Bool} {met : NodeStatus → Prop} {status : NodeStatus}
    {cutoff : Time} (hguard : ∀ node, guard node = true ↔ met node.status) (id : Uuid) :
    fleetOf (passUpdate guard status cutoff db).1 id =
      (fleetOf db id).map (Member.sweep met status cutoff) := by
  have hswept : (passUpdate guard status cutoff db).1.nodes.withId id =
      (db.nodes.withId id).map (Table.rewrite (overdue guard cutoff) (setStatus status)) := by
    unfold passUpdate Database.updateNodes
    rw [Table.withId_update]
  rw [fleetOf, hswept, fleetOf, Option.map_map, Option.map_map]
  apply Option.map_congr
  intro node _
  have hoverdue : overdue guard cutoff node = true ↔
      met (memberOf db node).status ∧ (memberOf db node).seenBefore cutoff := by
    rw [overdue, Bool.and_eq_true, hguard, seenBefore_iff]
    rfl
  rw [Function.comp_apply, Function.comp_apply, Member.sweep]
  split
  case isTrue hsilent => rw [Table.rewrite_of_sel (hoverdue.2 hsilent)]; rfl
  case isFalse hquiet => rw [Table.rewrite_of_not_sel (mt hoverdue.1 hquiet)]; rfl

/-! ## The changes of a step -/

/-- The node that a step of pairing or enrollment has added. -/
def joined (frame frame' : Frame) : List FleetChange :=
  match frame.created, frame'.created with
  | none, some node => [.enrolled node.id (Node.enrolled node) node.host]
  | _, _ => []

/-- What a step of a call amounts to. -/
def stepChanges (config : ServerEnv KeyObject) (step : ServerStep) (store : AuthStore) :
    ServerFrame → List FleetChange
  | .pairing frame =>
      match step with
      | .pairing env =>
          match advance config.pairing env store.db frame with
          | some next => joined frame next.2
          | none => []
      | _ => []
  | .stream call =>
      match call.pc, step with
      | .returned read orgId, .message message env =>
          match handleMessage orgId read.id message env store.db with
          | .ok _ => [.told read.id (reportOf message env.now)]
          | .error _ => []
      | _, _ => []
  | .ended _ => []

/-- What an event that belongs to no call amounts to. -/
def eventChanges (config : ServerEnv KeyObject) : ServerEvent → List FleetChange
  | .sweepOffline now => [.offline (offlineBefore config.SAMPLE_INTERVAL_MS now)]
  | .sweepDegraded now => [.degraded (degradedBefore config.SAMPLE_INTERVAL_MS now)]
  | _ => []

abbrev ServerLabel := Label ServerFrame ServerStep ServerEvent

abbrev ServerState := State AuthStore ServerFrame

def labelChanges (config : ServerEnv KeyObject) (state : ServerState) :
    ServerLabel → List FleetChange
  | .start _ _ => []
  | .advance call step =>
      match state.frames call with
      | some frame => stepChanges config step state.store frame
      | none => []
  | .ambient event => eventChanges config event

/-- A node that a step has added is offline and was never seen. -/
theorem advance_added {pairing : PairingEnv} {env : StepEnv} {frame frame' : Frame} {node : Node}
    (hconsistent : frame.Consistent) (hstep : advance pairing env db frame = some (next, frame'))
    (hcreated : frame'.created = some node) :
    frame.created = some node ∨ node.status = .offline ∧ node.lastSeenAt = none := by
  obtain ⟨row, heffects⟩ := Frame.created_eq_some.1 hcreated
  match frame with
  | .redeem code pc effects =>
      obtain ⟨⟨db', pc', effects'⟩, hredeem, heq⟩ := Option.map_eq_some_iff.1 hstep
      obtain ⟨rfl, rfl⟩ := Prod.mk.inj heq
      -- a redemption on its own inserts nothing
      have hpc := (redeemStep_move hconsistent hredeem).2
      have hinserted : effects' = .inserted row node := heffects
      rw [hinserted] at hpc
      match pc' with
      | .claim | .lookUp | .checkExpiry _ | .release _ => exact absurd hpc (by simp [RedeemPc.Consistent])
      | .returned _ _ | .threw _ => exact absurd hpc (by simp [RedeemPc.Consistent])
  | .enroll input pc effects =>
      obtain ⟨⟨db', pc', effects'⟩, henroll, heq⟩ := Option.map_eq_some_iff.1 hstep
      obtain ⟨rfl, rfl⟩ := Prod.mk.inj heq
      have hinserted : effects' = .inserted row node := heffects
      rw [hinserted] at henroll
      rcases enrollStep_inserted hconsistent henroll with hbefore | rfl
      · exact Or.inl (Frame.created_eq_some.2 ⟨row, hbefore⟩)
      · exact Or.inr ⟨rfl, rfl⟩

theorem joined_of_same {frame frame' : Frame} (hsame : frame'.created = frame.created) :
    joined frame frame' = [] := by
  unfold joined
  rw [hsame]
  split
  case h_1 node hnone hsome => exact absurd (hnone.symm.trans hsome) (by simp)
  case h_2 => rfl

/-- A step of pairing or enrollment. -/
theorem fleet_advance {pairing : PairingEnv} {env : StepEnv} {frame frame' : Frame}
    (hconsistent : frame.Consistent)
    (hstep : advance pairing env db frame = some (next, frame')) :
    fleetSpec.run (fleetOf db) (joined frame frame') = some (fleetOf next) := by
  have hadded := fun node => @advance_added db next pairing env frame frame' node hconsistent hstep
  have hmove := (advance_move hconsistent hstep).1
  have hquiet : ∀ {effects effects'}, frame.effects = effects → frame'.effects = effects' →
      (∀ row node, effects = .inserted row node ↔ effects' = .inserted row node) →
      frame'.created = frame.created := by
    rintro _ _ rfl rfl hiff
    ext node
    simp only [Frame.created_eq_some, hiff]
  generalize hbefore : frame.effects = effects at hmove
  generalize hafter : frame'.effects = effects' at hmove
  induction hmove with
  | quiet =>
      rw [joined_of_same (hquiet hbefore hafter (by simp))]
      rfl
  | claim now row hfound hunused =>
      rw [joined_of_same (hquiet hbefore hafter (by simp)), fleetOf_of_eq rfl rfl]
      rfl
  | release row =>
      rw [joined_of_same (hquiet hbefore hafter (by simp)), fleetOf_of_eq rfl rfl]
      rfl
  | redeem row =>
      rw [joined_of_same (hquiet hbefore hafter (by simp))]
      rfl
  | insert row node hinsert =>
      have hnew : frame'.created = some node := Frame.created_eq_some.2 ⟨row, hafter⟩
      have hold : frame.created = none := by simp only [Frame.created, hbefore]
      obtain ⟨hstatus, hseen⟩ := (hadded node hnew).resolve_left (by simp [hold])
      have hjoined : joined frame frame' = [.enrolled node.id (Node.enrolled node) node.host] := by
        unfold joined
        rw [hold, hnew]
      rw [hjoined, System.run_cons]
      exact ⟨_, fleet_insertNode hstatus hseen hinsert, rfl⟩

/-- A step of a stream handles a message, or leaves the tables alone. -/
theorem stepChanges_stream {step : ServerStep} {store store' : AuthStore} {header : Option String}
    {pc : AuthPc} {frame' : ServerFrame} (hknown : (ServerFrame.stream ⟨header, pc⟩).Known store)
    (hadvance : streamAdvance config step store header pc = some (store', frame')) :
    (stepChanges config step store (.stream ⟨header, pc⟩) = [] ∧ store'.db = store.db) ∨
      ∃ read orgId message env, pc = .returned read orgId ∧
        stepChanges config step store (.stream ⟨header, pc⟩) =
          [.told read.id (reportOf message env.now)] ∧
        handleMessage orgId read.id message env store.db = .ok store'.db := by
  match pc with
  | .returned read orgId =>
      simp only [streamAdvance] at hadvance
      split at hadvance
      case h_1 message env =>
        split at hadvance
        case h_1 db hhandle =>
          obtain ⟨rfl, -⟩ := Prod.mk.inj (Option.some.inj hadvance)
          exact Or.inr ⟨read, orgId, message, env, rfl, by simp only [stepChanges, hhandle], hhandle⟩
        case h_2 error hhandle =>
          obtain ⟨rfl, -⟩ := Prod.mk.inj (Option.some.inj hadvance)
          exact Or.inl ⟨by simp only [stepChanges, hhandle], rfl⟩
      case h_2 =>
        obtain ⟨rfl, -⟩ := Prod.mk.inj (Option.some.inj hadvance)
        exact Or.inl ⟨rfl, rfl⟩
      case h_3 => exact absurd hadvance (by simp)
  | .threw error =>
      simp only [streamAdvance] at hadvance
      split at hadvance
      case h_1 =>
        obtain ⟨rfl, -⟩ := Prod.mk.inj (Option.some.inj hadvance)
        exact Or.inl ⟨rfl, rfl⟩
      case h_2 => exact absurd hadvance (by simp)
  | .start | .checkTimestamp _ | .lookUp _ | .checkSignature _ _ _ | .setNonce _ _ =>
      simp only [streamAdvance] at hadvance
      split at hadvance
      case h_1 reply =>
        obtain ⟨⟨store'', pc'⟩, hstep, heq⟩ := Option.map_eq_some_iff.1 hadvance
        obtain ⟨rfl, -⟩ := Prod.mk.inj heq
        exact Or.inl ⟨rfl, (authStep_known hknown hstep).1⟩
      case h_2 => exact absurd hadvance (by simp)

theorem fleet_serverAdvance {step : ServerStep} {store store' : AuthStore}
    {frame frame' : ServerFrame} (htenanted : Tenanted store.db) (hknown : frame.Known store)
    (hadvance : serverAdvance config step store frame = some (store', frame')) :
    fleetSpec.run (fleetOf store.db) (stepChanges config step store frame) =
      some (fleetOf store'.db) := by
  match frame with
  | .pairing frame =>
      simp only [serverAdvance] at hadvance
      split at hadvance
      case h_1 env =>
        obtain ⟨⟨db, frame''⟩, hstep, heq⟩ := Option.map_eq_some_iff.1 hadvance
        obtain ⟨rfl, rfl⟩ := Prod.mk.inj heq
        simp only [stepChanges, hstep]
        exact fleet_advance hknown hstep
      case h_2 => exact absurd hadvance (by simp)
  | .ended how => exact absurd hadvance (by simp [serverAdvance])
  | .stream ⟨header, pc⟩ =>
      rcases stepChanges_stream hknown hadvance with ⟨hnone, hsame⟩ |
        ⟨read, orgId, message, env, rfl, hchanges, hhandle⟩
      · rw [hnone, hsame]
        rfl
      · rw [hchanges, System.run_cons]
        exact ⟨_, fleet_handleMessage htenanted hknown hhandle, rfl⟩

/-- Besides the calls, only a sweep changes the fleet. -/
theorem fleet_serverAmbient {event : ServerEvent} {store store' : AuthStore}
    (hambient : serverAmbient config store event = some store') :
    fleetSpec.run (fleetOf store.db) (eventChanges config event) = some (fleetOf store'.db) := by
  have hsweep : ∀ {change : FleetChange}, change.Enabled Enrolled.publicKey (fleetOf store.db) →
      (∀ id, fleetOf store'.db id = change.part .default id (fleetOf store.db id)) →
      fleetSpec.run (fleetOf store.db) [change] = some (fleetOf store'.db) := by
    intro change henabled hpart
    rw [System.run_cons]
    exact ⟨_, FleetSpec.step_eq_some.2 ⟨henabled, funext hpart⟩, rfl⟩
  match event with
  | .tick elapsed =>
      obtain rfl := Option.some.inj hambient
      rfl
  | .organization organization =>
      obtain ⟨db, hinsert, rfl⟩ := Option.map_eq_some_iff.1 hambient
      obtain ⟨hnodes, hdevices⟩ := insertOrganization_spec (toOption_eq_some hinsert)
      rw [fleetOf_of_eq hnodes hdevices]
      rfl
  | .mint mint =>
      obtain ⟨⟨db, code, expiresAt⟩, hmint, rfl⟩ := Option.map_eq_some_iff.1 hambient
      obtain ⟨-, hnodes, hdevices, -⟩ := mintPairingCode_spec (toOption_eq_some hmint)
      rw [fleetOf_of_eq hnodes hdevices]
      rfl
  | .sweepOffline now =>
      obtain ⟨⟨db, ids⟩, hpass, rfl⟩ := Option.map_eq_some_iff.1 hambient
      obtain rfl : db = _ := congrArg Prod.fst (offlinePass_eq_some hpass)
      exact hsweep trivial (fleet_passUpdate fun node => by simp [notOffline])
  | .sweepDegraded now =>
      obtain ⟨⟨db, ids⟩, hpass, rfl⟩ := Option.map_eq_some_iff.1 hambient
      obtain rfl : db = _ := congrArg Prod.fst (degradedPass_eq_some hpass)
      exact hsweep trivial (fleet_passUpdate fun node => by simp [isOnline])

/-! ## Whole runs -/

/-- The control plane simulates the abstract fleet. -/
noncomputable def fleetSimulation (config : ServerEnv KeyObject) :
    Simulation (serverService config).system fleetSpec where
  inv := Service.Holds (fun store => Tenanted store.db) fun store frame => frame.Known store
  view := fun state => fleetOf state.store.db
  log := labelChanges config
  keeps := fun _ _ _ hholds hstep => serverOutline.step hholds hstep
  simulates := by
    rintro state label next ⟨htenanted, hframes⟩ hstep
    rcases Service.step_cases hstep with ⟨call, frame, rfl, -, -, rfl⟩ |
      ⟨call, step, frame, store, frame', rfl, hframe, hadvance, rfl⟩ |
      ⟨event, store, rfl, hambient, rfl⟩
    · rfl
    · simp only [labelChanges, hframe]
      exact fleet_serverAdvance htenanted (hframes call frame hframe) hadvance
    · exact fleet_serverAmbient hambient

/-- The changes of a run, in their order. -/
def fleetChanges (config : ServerEnv KeyObject) (start : ServerState)
    (labels : List ServerLabel) : List FleetChange :=
  (serverService config).system.trace (labelChanges config) start labels

section Runs

variable {start : AuthStore} {labels : List ServerLabel} {final : ServerState}

theorem fleet_run (htenanted : Tenanted start.db)
    (hrun : (serverService config).system.run (State.idle start) labels = some final) :
    fleetSpec.run (fleetOf start.db) (fleetChanges config (State.idle start) labels) =
      some (fleetOf final.store.db) := by
  have hholds : Service.Holds (fun store => Tenanted store.db)
      (fun store (frame : ServerFrame) => frame.Known store) (State.idle start) :=
    Service.holds_idle htenanted
  have hinv : (fleetSimulation config).inv (State.idle start) := hholds
  exact Simulation.run hinv hrun

/-- Whatever happens, the tables are the fleet that the changes make of what they were
before, and no node goes away or changes what it was enrolled with. -/
theorem fleet_refines (config : ServerEnv KeyObject) (htenanted : Tenanted start.db)
    (hrun : (serverService config).system.run (State.idle start) labels = some final) :
    fleetSpec.run (fleetOf start.db) (fleetChanges config (State.idle start) labels) =
        some (fleetOf final.store.db) ∧
      ∀ node ∈ start.db.nodes.rows, ∃ later ∈ final.store.db.nodes.rows,
        later.id = node.id ∧ Node.enrolled later = Node.enrolled node := by
  have hfleet := fleet_run htenanted hrun
  refine ⟨hfleet, fun node hnode => ?_⟩
  have hmember : fleetOf start.db node.id = some (memberOf start.db node) :=
    fleetOf_eq_some.2 ⟨node, hnode, rfl, rfl⟩
  obtain ⟨member, hlater, hsame⟩ := FleetSpec.run_identity hfleet hmember
  obtain ⟨later, hmem, hid, rfl⟩ := fleetOf_eq_some.1 hlater
  exact ⟨later, hmem, hid, hsame⟩

/-! ## What the rows hold -/

theorem fleetOf_of_no_nodes (hempty : db.nodes.rows = []) : fleetOf db = fun _ => none := by
  funext id
  rw [fleetOf, Table.withId_eq_none.2 (by simp [hempty]), Option.map_none]

/-- A device row is the device that its node's reports leave. -/
theorem deviceAfter_reports (hempty : start.db.nodes.rows = [])
    (hrun : (serverService config).system.run (State.idle start) labels = some final)
    (nodeId : Uuid) (localId : String) :
    FleetSpec.deviceAfter .default localId
        (FleetSpec.reportsOf nodeId (fleetChanges config (State.idle start) labels)) =
      (rowOf final.store.db nodeId localId).map Device.columns := by
  have hfleet := fleet_run (.of_no_nodes hempty) hrun
  rw [fleetOf_of_no_nodes hempty] at hfleet
  have hdevice : FleetSpec.devicesAt (fleetOf final.store.db) nodeId localId = FleetSpec.deviceAfter
      .default localId
      (FleetSpec.reportsOf nodeId (fleetChanges config (State.idle start) labels)) :=
    FleetSpec.devices_run hfleet localId
  rw [← hdevice, FleetSpec.devicesAt, fleetOf]
  cases hfound : final.store.db.nodes.withId nodeId with
  | some node =>
      rw [Option.map_some, Option.bind_some, ← (Table.withId_eq_some.1 hfound).2]
      rfl
  | none =>
      -- a node that is not there has no devices
      rw [Option.map_none, Option.bind_none]
      cases hrow : rowOf final.store.db nodeId localId with
      | none => rfl
      | some row =>
          obtain ⟨hmem, hnode, -⟩ := rowOf_eq_some.1 hrow
          exact absurd (hnode ▸ final.store.db.devices_node row hmem) (Table.withId_eq_none.1 hfound)

end Runs

/-! ### A node with a card -/

/-- The machine of `enrollmentRun` connects, reports its card and samples it. -/
def reportingRun : List ServerLabel :=
  enrollmentRun ++ .start 1 (.stream ⟨aheadHeader, .start⟩) ::
    List.replicate 5 (.advance 1 (.reply .arrives)) ++
    sampleStream.map fun message => .advance 1 (.message message.1 message.2)

theorem reportingRun_rows :
    ((serverService sampleServer).system.run (State.idle emptyServer) reportingRun).map
      (fun final => (final.store.db.nodes.rows.map fun node => (node.id, node.status),
        final.store.db.devices.rows.map fun row =>
          (row.nodeId, row.localId, row.facts.name, row.last.lastUsedBytes))) =
      some ([(5, .online)], [(5, "GPU-1", "A", 512)]) := by
  decide +kernel

theorem fleet_refines_reporting :
    ∃ final, (serverService sampleServer).system.run (State.idle emptyServer) reportingRun =
        some final ∧
      fleetSpec.run (fleetOf emptyServer.db)
        (fleetChanges sampleServer (State.idle emptyServer) reportingRun) =
          some (fleetOf final.store.db) := by
  obtain ⟨final, hrun, -⟩ := Option.map_eq_some_iff.1 reportingRun_rows
  exact ⟨final, hrun, (fleet_refines sampleServer (.of_no_nodes rfl) hrun).1⟩

end ModelHub.ControlPlane
