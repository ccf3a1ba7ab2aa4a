import ModelHub.ControlPlane.SampleInterval
import ModelHub.ControlPlane.StreamReplay

/-!
# A connected agent and the sweeper

The ticker of `connectOnce` and the server's `recordSamples` and `sweepOfflineNodes` as one
system.  The ticker fires every interval, what it sends is handled before it fires again,
and between that the rest of the fleet does anything it can do: other streams, also of the
same node, enrollments, and sweeps at any time, any number of them at once.

A batch is a heartbeat also if it is empty, but the agent sends none when every device
failed to sample.  So the node is heard of at every fire, and no sweep ever touches it,
exactly if at every fire some device could be sampled (`heartbeats_iff`).

Behind it is a bound on the node's last contact (`Uplink.earliest`): three intervals before
the next fire while a batch is in flight, one when it has been handled, and two before the
first fire, when the last contact was the Hello.
-/

namespace ModelHub.ControlPlane

open Db Transition
open ModelHub.Agent (Discovery Inventory KindCPU PressureNormal SomeSampled collect
  sampleTick sampleTick_of_sampled sampleTick_of_not_sampled)

/-! ## The system -/

/-- A stream whose ticker runs, and the fleet. -/
structure Uplink where
  fleet : FleetState
  nextFire : Time
  /-- How often the ticker has fired. -/
  fires : ℕ
  /-- What was sent at the last fire and is not handled yet. -/
  inFlight : List AgentMessage

inductive UplinkEvent (Probe : Type) where
  /-- The ticker fires. -/
  | fire (sample : Inventory.Sampler Probe)
  /-- The server handles a message of the stream. -/
  | deliver (time : Time)
  /-- Anything else that happens to the fleet. -/
  | elsewhere (event : FleetEvent)

/-- The event is no later than this. -/
def FleetEvent.notAfter (limit : Time) : FleetEvent → Bool
  | .enroll time _ _ _ _ => time ≤ limit
  | .hello time _ _ _ => time ≤ limit
  | .samples time _ _ _ => time ≤ limit
  | .sweepOffline _ now => now ≤ limit
  | .sweepDegraded _ => true

/-- The ticker starts. -/
def Uplink.start (ms : UInt32) (fleet : FleetState) (now : Time) : Uplink where
  fleet := { fleet with clock := now }
  nextFire := now + agentInterval ms
  fires := 0
  inFlight := []

section System

variable {Probe : Type} (inv : Inventory Probe) (ms : UInt32) (orgId : String) (nodeId : Uuid)

def uplinkStep (state : Uplink) : UplinkEvent Probe → Option Uplink
  | .fire sample =>
      -- every send is delivered in time: before the ticker fires again
      if state.inFlight = [] ∧ state.fleet.clock ≤ state.nextFire then
        some {
          fleet := { state.fleet with clock := state.nextFire }
          nextFire := state.nextFire + agentInterval ms
          fires := state.fires + 1
          inFlight := sampleTick inv sample }
      else none
  | .deliver time =>
      match state.inFlight with
      | .samples batch :: rest =>
          if time ≤ state.nextFire then
            (fleetStep ms.toNat state.fleet (.samples time orgId nodeId batch)).map fun fleet =>
              { state with fleet := fleet, inFlight := rest }
          else none
      | _ => none
  | .elsewhere event =>
      if event.notAfter state.nextFire then
        (fleetStep ms.toNat state.fleet event).map fun fleet => { state with fleet := fleet }
      else none

def uplinkSystem : System Uplink (UplinkEvent Probe) := ⟨uplinkStep inv ms orgId nodeId⟩

end System

variable {Probe : Type} {inv : Inventory Probe} {ms : UInt32} {orgId : String} {nodeId : Uuid}
  {state next : Uplink}

/-! ## The node stays -/

/-- The node is there and has been heard of. -/
def HeardNode (orgId : String) (nodeId : Uuid) (db : Database) : Prop :=
  ∃ node ∈ db.nodes.rows, node.id = nodeId ∧ node.orgId = orgId ∧ node.lastSeenAt ≠ none

theorem HeardNode.seen {db : Database} (hheard : HeardNode orgId nodeId db) {node : Node}
    (hnode : node ∈ db.nodes.rows) (hid : node.id = nodeId) :
    node.orgId = orgId ∧ ∃ seen, node.lastSeenAt = some seen := by
  obtain ⟨other, hother, hsame, horg, hseen⟩ := hheard
  rw [Table.eq_of_id hnode hother (hid.trans hsame.symm)]
  exact ⟨horg, Option.ne_none_iff_exists'.1 hseen⟩

theorem HeardNode.updateNodes {db : Database} (hheard : HeardNode orgId nodeId db)
    {sel : Node → Bool} {set : Node → Node} {hset : ∀ node, (set node).identity = node.identity}
    (hseen : ∀ node, node.lastSeenAt ≠ none → (set node).lastSeenAt ≠ none) :
    HeardNode orgId nodeId (db.updateNodes sel set hset) := by
  obtain ⟨node, hnode, hid, horg, hheard⟩ := hheard
  refine ⟨Table.rewrite sel set node, mem_updateNodes.2 ⟨node, hnode, rfl⟩, ?_, ?_, ?_⟩
  · rw [Table.rewrite_same Node.id fun node => Node.id_eq (hset node), hid]
  · rw [Table.rewrite_same Node.orgId fun node => Node.orgId_eq (hset node), horg]
  · unfold Table.rewrite
    split
    · exact hseen node hheard
    · exact hheard

theorem HeardNode.step {interval : ℚ} {fleet fleet' : FleetState} {event : FleetEvent}
    (hheard : HeardNode orgId nodeId fleet.db)
    (hstep : fleetStep interval fleet event = some fleet') : HeardNode orgId nodeId fleet'.db := by
  have hpass : ∀ guard status cutoff,
      HeardNode orgId nodeId (passUpdate guard status cutoff fleet.db).1 :=
    fun guard status cutoff =>
      @HeardNode.updateNodes _ _ _ hheard _ _ (setStatus_identity status) fun node hseen => hseen
  cases event with
  | enroll time input org nodeName env =>
      obtain ⟨-, db, hresult, rfl⟩ := write_eq_some hstep
      obtain ⟨-, -, -, hnodes, -⟩ := insertNode_spec (toOption_eq_some hresult)
      obtain ⟨node, hnode, hfacts⟩ := hheard
      refine ⟨node, ?_, hfacts⟩
      show node ∈ db.nodes.rows
      rw [hnodes]
      exact List.mem_append_left _ hnode
  | hello time org heard host =>
      obtain ⟨-, db, hresult, rfl⟩ := write_eq_some hstep
      obtain ⟨-, rfl⟩ := markNodeOnline_eq_ok.1 (toOption_eq_some hresult)
      exact @HeardNode.updateNodes _ _ _ hheard _ _ (setOnline_identity host time)
        fun node _ => Option.some_ne_none time
  | samples time org heard samples =>
      obtain ⟨-, db, hresult, rfl⟩ := write_eq_some hstep
      obtain ⟨middle, hsamples, rfl⟩ := recordSamples_eq_ok.1 (toOption_eq_some hresult)
      have hmiddle : HeardNode orgId nodeId middle := by
        unfold HeardNode
        rw [applySamples_nodes hsamples]
        exact hheard
      exact @HeardNode.updateNodes _ _ _ hmiddle _ _ (setSeen_identity time)
        fun node _ => Option.some_ne_none time
  | sweepOffline sweep now =>
      obtain ⟨-, -, db, ids, hresult, rfl⟩ := fleetStep_sweepOffline hstep
      rw [show db = _ from congrArg Prod.fst (offlinePass_eq_some hresult)]
      exact hpass _ _ _
  | sweepDegraded sweep =>
      obtain ⟨now, ids, db, degraded, -, hresult, rfl⟩ := fleetStep_sweepDegraded hstep
      show HeardNode orgId nodeId db
      rw [show db = _ from congrArg Prod.fst (degradedPass_eq_some hresult)]
      exact hpass _ _ _

/-- A batch that was recorded, an empty one too, is a contact. -/
theorem recordSamples_seen {db db' : Database} {samples : List DeviceSample} {time : Time}
    (hheard : HeardNode orgId nodeId db)
    (hrecord : recordSamples orgId nodeId samples time db = .ok db') :
    ∀ node ∈ db'.nodes.rows, node.id = nodeId → node.lastSeenAt = some time := by
  obtain ⟨middle, hsamples, rfl⟩ := recordSamples_eq_ok.1 hrecord
  intro node hnode hid
  obtain ⟨old, hold, rfl⟩ := mem_updateNodes.1 hnode
  rw [applySamples_nodes hsamples] at hold
  rw [Table.rewrite_same Node.id fun node => Node.id_eq (setSeen_identity time node)] at hid
  rw [Table.rewrite_of_sel (by simp [hid, (hheard.seen hold hid).1])]
  rfl

theorem fleetStep_clock {interval : ℚ} {fleet fleet' : FleetState} {event : FleetEvent}
    (hstep : fleetStep interval fleet event = some fleet') : fleet.clock ≤ fleet'.clock := by
  have hwrite : event.isPass = false → fleet.clock ≤ fleet'.clock := by
    intro hpass
    obtain ⟨time, db, htime, rfl, -⟩ := fleetStep_write hpass hstep
    exact htime
  cases event with
  | enroll time input org nodeName env => exact hwrite rfl
  | hello time org heard host => exact hwrite rfl
  | samples time org heard samples => exact hwrite rfl
  | sweepOffline sweep now =>
      obtain ⟨hclock, -, db, ids, -, rfl⟩ := fleetStep_sweepOffline hstep
      exact hclock
  | sweepDegraded sweep =>
      obtain ⟨now, ids, db, degraded, -, -, rfl⟩ := fleetStep_sweepDegraded hstep
      exact le_rfl

/-! ## The bound on the last contact -/

/-- The node has been heard of since. -/
def Uplink.earliest (ms : UInt32) (state : Uplink) : Time :=
  state.nextFire - (if state.inFlight ≠ [] then 3 else if state.fires = 0 then 2 else 1) *
    agentInterval ms

structure Alive (ms : UInt32) (orgId : String) (nodeId : Uuid) (state : Uplink) : Prop where
  spared : Spared ms.toNat nodeId (fun seen => state.earliest ms ≤ seen) state.fleet
  heard : HeardNode orgId nodeId state.fleet.db
  clock : state.nextFire - agentInterval ms ≤ state.fleet.clock

theorem agentInterval_nonneg (ms : UInt32) : 0 ≤ agentInterval ms := by
  rw [agentInterval_eq]
  split <;> omega

theorem earliest_bounds (ms : UInt32) (state : Uplink) :
    state.nextFire - 3 * agentInterval ms ≤ state.earliest ms ∧
      state.earliest ms ≤ state.nextFire - agentInterval ms := by
  have hnonneg := agentInterval_nonneg ms
  unfold Uplink.earliest
  split_ifs <;> constructor <;> linarith

theorem Alive.fire (halive : Alive ms orgId nodeId state) {sample : Inventory.Sampler Probe}
    (hsent : sampleTick inv sample ≠ [])
    (hstep : uplinkStep inv ms orgId nodeId state (.fire sample) = some next) :
    Alive ms orgId nodeId next := by
  have hnonneg := agentInterval_nonneg ms
  simp only [uplinkStep] at hstep
  split at hstep
  case isFalse => cases hstep
  case isTrue hready =>
    cases hstep
    obtain ⟨hempty, hclock⟩ := hready
    refine ⟨⟨fun node hnode hid seen hseen => ?_, fun sweep now ids hsweeping => ?_⟩,
      halive.heard, ?_⟩
    · obtain ⟨honline, hrecent, hcutoff⟩ := halive.spared.online node hnode hid seen hseen
      refine ⟨honline, ?_, hcutoff⟩
      simp only [Uplink.earliest, hempty, ne_eq, not_true_eq_false, if_false, hsent,
        not_false_eq_true, if_true] at hrecent ⊢
      split_ifs at hrecent <;> linarith
    · exact (halive.spared.begun sweep now ids hsweeping).trans hclock
    · show state.nextFire + agentInterval ms - agentInterval ms ≤ state.nextFire
      linarith

theorem Alive.fleet (halive : Alive ms orgId nodeId state) (hms : ms ≠ 0) {event : FleetEvent}
    {fleet : FleetState} (hevent : event.notAfter state.nextFire)
    (hstep : fleetStep ms.toNat state.fleet event = some fleet) :
    Spared ms.toNat nodeId (fun seen => state.earliest ms ≤ seen) fleet ∧
      HeardNode orgId nodeId fleet.db ∧ state.nextFire - agentInterval ms ≤ fleet.clock := by
  obtain ⟨hlow, hhigh⟩ := earliest_bounds ms state
  refine ⟨halive.spared.step (fun time htime => ?_) (fun sweep now hnow => ?_) hstep,
    halive.heard.step hstep, ?_⟩
  · exact hhigh.trans (halive.clock.trans htime)
  · subst hnow
    intro node hnode hid seen hseen
    have hnow : now ≤ state.nextFire := by simpa [FleetEvent.notAfter] using hevent
    have hrecent := (halive.spared.online node hnode hid seen hseen).2.1
    rw [← agentInterval_of_ne_zero hms]
    linarith
  · exact halive.clock.trans (fleetStep_clock hstep)

theorem Alive.elsewhere (halive : Alive ms orgId nodeId state) (hms : ms ≠ 0) {event : FleetEvent}
    (hstep : uplinkStep inv ms orgId nodeId state (.elsewhere event) = some next) :
    Alive ms orgId nodeId next := by
  simp only [uplinkStep] at hstep
  split at hstep
  case isFalse => cases hstep
  case isTrue hevent =>
    obtain ⟨fleet, hfleet, rfl⟩ := Option.map_eq_some_iff.1 hstep
    obtain ⟨hspared, hheard, hclock⟩ := halive.fleet hms hevent hfleet
    exact ⟨hspared, hheard, hclock⟩

theorem Alive.deliver (halive : Alive ms orgId nodeId state) (hms : ms ≠ 0) {time : Time}
    (hstep : uplinkStep inv ms orgId nodeId state (.deliver time) = some next) :
    Alive ms orgId nodeId next := by
  simp only [uplinkStep] at hstep
  split at hstep
  case h_2 => cases hstep
  case h_1 batch rest hflight =>
    split at hstep
    case isFalse => cases hstep
    case isTrue htime =>
      obtain ⟨fleet, hfleet, rfl⟩ := Option.map_eq_some_iff.1 hstep
      obtain ⟨hspared, hheard, hclock⟩ := halive.fleet hms (by simpa [FleetEvent.notAfter]) hfleet
      refine ⟨⟨fun node hnode hid seen hseen => ?_, hspared.begun⟩, hheard, hclock⟩
      obtain ⟨honline, -, hcutoff⟩ := hspared.online node hnode hid seen hseen
      refine ⟨honline, ?_, hcutoff⟩
      -- the contact is the batch itself, which was sent at the last fire
      obtain ⟨hlater, db, hresult, rfl⟩ := write_eq_some hfleet
      have hcontact := recordSamples_seen halive.heard (toOption_eq_some hresult) node hnode hid
      rw [hcontact] at hseen
      cases hseen
      exact (earliest_bounds ms _).2.trans (halive.clock.trans hlater)

/-! ## The start -/

/-- A state of the fleet that was reached from an empty one. -/
def FleetReached (ms : UInt32) (fleet : FleetState) : Prop :=
  ∃ db clock events, db.nodes.rows = [] ∧
    (fleetSystem ms.toNat).run ⟨db, clock, fun _ => none, none⟩ events = some fleet

/-- The cutoff of a sweep that is under way is where it should be. -/
theorem FleetReached.cutoff {fleet : FleetState} (hreached : FleetReached ms fleet) {sweep : ℕ}
    {now : Time} {ids : List Uuid} (hsweeping : fleet.sweeping sweep = some (now, ids)) :
    degradedBefore ms.toNat now = now - 3 * ms.toNat ∧ now ≤ fleet.clock := by
  obtain ⟨db, clock, events, -, hrun⟩ := hreached
  have hdated : ∀ sweep now ids, fleet.sweeping sweep = some (now, ids) →
      degradedBefore ms.toNat now = now - 3 * ms.toNat ∧ now ≤ fleet.clock := by
    refine System.run_invariant (fun fleet : FleetState => ∀ sweep now ids,
      fleet.sweeping sweep = some (now, ids) →
        degradedBefore ms.toNat now = now - 3 * ms.toNat ∧ now ≤ fleet.clock) ?_ ?_ hrun
    · intro fleet event fleet' hdated hstep sweep now ids hsweeping
      have hold : fleet.sweeping sweep = some (now, ids) →
          degradedBefore ms.toNat now = now - 3 * ms.toNat ∧ now ≤ fleet'.clock := by
        intro hold
        obtain ⟨hcutoff, hbegan⟩ := hdated sweep now ids hold
        exact ⟨hcutoff, hbegan.trans (fleetStep_clock hstep)⟩
      by_cases hquiet : ∀ sweep now, event ≠ .sweepOffline sweep now
      · exact hold (sweeping_step hquiet hstep hsweeping)
      · push Not at hquiet
        obtain ⟨other, began, rfl⟩ := hquiet
        obtain ⟨-, hdate, db, ids, hpass, rfl⟩ := fleetStep_sweepOffline hstep
        rcases sweeping_begin hsweeping with hown | hother
        · cases hown
          exact ⟨(cutoffs_of_pass hdate hpass).2, le_rfl⟩
        · exact hold hother
    · intro sweep now ids hsweeping
      cases hsweeping
  exact hdated sweep now ids hsweeping

/-- The node is online, and was last heard of at most one interval ago. -/
def JustHeard (ms : UInt32) (orgId : String) (nodeId : Uuid) (fleet : FleetState) (now : Time) :
    Prop :=
  ∃ node ∈ fleet.db.nodes.rows, node.id = nodeId ∧ node.orgId = orgId ∧ node.status = .online ∧
    ∃ seen, node.lastSeenAt = some seen ∧ now - agentInterval ms ≤ seen

theorem Alive.start {fleet : FleetState} {now : Time} (hms : ms ≠ 0)
    (hreached : FleetReached ms fleet) (hclock : fleet.clock ≤ now)
    (hheard : JustHeard ms orgId nodeId fleet now) :
    Alive ms orgId nodeId (Uplink.start ms fleet now) := by
  have hinterval := agentInterval_of_ne_zero hms
  have hnonneg := agentInterval_nonneg ms
  obtain ⟨node, hnode, hid, horg, honline, seen, hseen, hrecent⟩ := hheard
  refine ⟨⟨fun other hother hsame found hfound => ?_, fun sweep began ids hsweeping => ?_⟩,
    ⟨node, hnode, hid, horg, by rw [hseen]; exact Option.some_ne_none seen⟩, ?_⟩
  · obtain rfl : other = node := Table.eq_of_id hother hnode (hsame.trans hid.symm)
    obtain rfl : seen = found := Option.some.inj (hseen.symm.trans hfound)
    refine ⟨honline, ?_, fun sweep began ids hsweeping => ?_⟩
    · simp only [Uplink.earliest, Uplink.start, ne_eq, not_true_eq_false, if_false, if_true]
      linarith
    · obtain ⟨hcutoff, hbegan⟩ := hreached.cutoff hsweeping
      rw [hcutoff]
      linarith
  · obtain ⟨hcutoff, hbegan⟩ := hreached.cutoff hsweeping
    rw [hcutoff]
    show began - 3 * (ms.toNat : ℤ) ≤ now
    linarith
  · show now + agentInterval ms - agentInterval ms ≤ now
    linarith

/-! ## Heartbeats -/

/-- The node is online, and once the batch of a fire has been handled the node has been
heard of since that fire. -/
structure Beating (ms : UInt32) (nodeId : Uuid) (state : Uplink) : Prop where
  online : ∀ node ∈ state.fleet.db.nodes.rows, node.id = nodeId → node.status = .online
  refreshed : 0 < state.fires → state.inFlight = [] →
    ∀ node ∈ state.fleet.db.nodes.rows, node.id = nodeId →
      ∃ seen, node.lastSeenAt = some seen ∧ state.nextFire - agentInterval ms ≤ seen

theorem Alive.beating (halive : Alive ms orgId nodeId state) : Beating ms nodeId state := by
  refine ⟨fun node hnode hid => ?_, fun hfires hempty node hnode hid => ?_⟩
  · obtain ⟨-, seen, hseen⟩ := halive.heard.seen hnode hid
    exact (halive.spared.online node hnode hid seen hseen).1
  · obtain ⟨-, seen, hseen⟩ := halive.heard.seen hnode hid
    have hrecent := (halive.spared.online node hnode hid seen hseen).2.1
    simp only [Uplink.earliest, hempty, ne_eq, not_true_eq_false, if_false, Nat.ne_of_gt hfires,
      one_mul] at hrecent
    exact ⟨seen, hseen, hrecent⟩

/-- At the event some device is sampled, if it is a fire of the ticker. -/
def FireSampled (inv : Inventory Probe) (event : UplinkEvent Probe) : Prop :=
  ∀ sample, event = .fire sample → SomeSampled inv sample

theorem Alive.step (halive : Alive ms orgId nodeId state) (hms : ms ≠ 0) {event : UplinkEvent Probe}
    (hsampled : FireSampled inv event)
    (hstep : (uplinkSystem inv ms orgId nodeId).step state event = some next) :
    Alive ms orgId nodeId next := by
  cases event with
  | fire sample =>
      refine halive.fire ?_ hstep
      rw [sampleTick_of_sampled (hsampled sample rfl)]
      exact List.cons_ne_nil _ _
  | deliver time => exact @Alive.deliver _ inv _ _ _ _ _ halive hms time hstep
  | elsewhere event => exact @Alive.elsewhere _ inv _ _ _ _ _ halive hms event hstep

/-- A connected agent sends a batch at every fire of its ticker, which keeps the node
online whatever the sweeper does, exactly if at every fire some device is sampled.  The
interval is one on which the two sides agree, and the Hello has been handled at most one
interval before the ticker starts. -/
theorem heartbeats_iff {Probe : Type} (inv : Inventory Probe) {ms : UInt32} {orgId : String}
    {nodeId : Uuid} {fleet : FleetState} {now : Time} {events : List (UplinkEvent Probe)}
    {final : Uplink} (hms : ms ≠ 0) (hreached : FleetReached ms fleet) (hclock : fleet.clock ≤ now)
    (hheard : JustHeard ms orgId nodeId fleet now)
    (hrun : (uplinkSystem inv ms orgId nodeId).run (Uplink.start ms fleet now) events =
      some final) :
    ((∀ sample, UplinkEvent.fire sample ∈ events →
        ∃ batch, sampleTick inv sample = [.samples batch]) ∧
      ∀ before after state, events = before ++ after →
        (uplinkSystem inv ms orgId nodeId).run (Uplink.start ms fleet now) before = some state →
        Beating ms nodeId state) ↔
    ∀ sample, UplinkEvent.fire sample ∈ events → SomeSampled inv sample := by
  constructor
  · rintro ⟨hsent, -⟩ sample hfire
    by_contra hnone
    obtain ⟨batch, hbatch⟩ := hsent sample hfire
    rw [sampleTick_of_not_sampled hnone] at hbatch
    cases hbatch
  · intro hsampled
    refine ⟨fun sample hfire => ⟨_, sampleTick_of_sampled (hsampled sample hfire)⟩, ?_⟩
    intro before after state hsplit hbefore
    subst hsplit
    have hfires : ∀ event ∈ before, FireSampled inv event := by
      rintro _ hevent sample rfl
      exact hsampled sample (List.mem_append_left _ hevent)
    have halive : Alive ms orgId nodeId state :=
      System.along_invariant (Alive ms orgId nodeId)
        (fun _ _ _ halive hfire hstep => halive.step hms hfire hstep)
        (Alive.start hms hreached hclock hheard) (System.along_of_forall hfires _) hbefore
    exact halive.beating

/-! ### A machine with one device -/

def cpuDiscovery : Discovery Unit where
  probe := ()
  name := "cpu"
  devices := .ok [⟨"cpu:0", KindCPU, 0, "amd64 CPU", 68719476736, 0, "", ""⟩]

def cpuInventory : Inventory Unit := (collect [cpuDiscovery]).toOption.getD .empty

theorem cpuInventory_collect : collect [cpuDiscovery] = .ok cpuInventory := rfl

/-- A round in which the device fails to sample. -/
def failing : Inventory.Sampler Unit := fun _ _ => .error (.other "no data")

def working : Inventory.Sampler Unit := fun _ d =>
  .ok ⟨d.localID, 1073741824, 0, 0, PressureNormal, 1760000000000⟩

/-- A node has been enrolled and has said hello at 1000. -/
def heardFleet : FleetState :=
  ((fleetSystem (UInt32.toNat 5000)).run sampleFleet silentNode).getD sampleFleet

theorem heardFleet_run :
    (fleetSystem (UInt32.toNat 5000)).run sampleFleet silentNode = some heardFleet := by
  have hsome : ((fleetSystem (UInt32.toNat 5000)).run sampleFleet silentNode).isSome = true := by
    decide +kernel
  obtain ⟨fleet, hfleet⟩ := Option.isSome_iff_exists.1 hsome
  rw [heardFleet, hfleet, Option.getD_some]

theorem heardFleet_reached : FleetReached 5000 heardFleet :=
  ⟨sampleFleet.db, 0, silentNode, by decide +kernel, heardFleet_run⟩

theorem heardFleet_heard : JustHeard 5000 "org_1" 5 heardFleet 1000 := by
  have hrow : ∃ node ∈ heardFleet.db.nodes.rows, node.id = 5 ∧ node.orgId = "org_1" ∧
      node.status = .online ∧ node.lastSeenAt = some 1000 := by
    decide +kernel
  obtain ⟨node, hnode, hid, horg, honline, hseen⟩ := hrow
  exact ⟨node, hnode, hid, horg, honline, 1000, hseen, by decide +kernel⟩

/-- The device fails three times, and then a sweep comes. -/
def threeFailures : List (UplinkEvent Unit) :=
  [.fire failing, .fire failing, .fire failing, .elsewhere (.sweepOffline 0 16001),
    .elsewhere (.sweepDegraded 0)]

/-- The sweeper marks a node degraded whose stream is up and whose every message arrives. -/
theorem heartbeats_missed :
    ¬ ∀ (discoveries : List (Discovery Unit)) (inv : Inventory Unit) (ms : UInt32) (orgId : String)
      (nodeId : Uuid) (fleet : FleetState) (now : Time) (events : List (UplinkEvent Unit))
      (final : Uplink), ms ≠ 0 → collect discoveries = .ok inv → FleetReached ms fleet →
      fleet.clock ≤ now → JustHeard ms orgId nodeId fleet now →
      (uplinkSystem inv ms orgId nodeId).run (Uplink.start ms fleet now) events = some final →
      (∀ sample, UplinkEvent.fire sample ∈ events →
        ∃ batch, sampleTick inv sample = [.samples batch]) ∧
      ∀ node ∈ final.fleet.db.nodes.rows, node.id = nodeId → node.status = .online := by
  intro hclaim
  have hrun : ((uplinkSystem cpuInventory 5000 "org_1" 5).run (Uplink.start 5000 heardFleet 1000)
      threeFailures).map (fun final =>
        final.fleet.db.nodes.rows.map fun node => (node.id, node.status)) = some [(5, .degraded)] := by
    decide +kernel
  obtain ⟨final, hfinal, hrows⟩ := Option.map_eq_some_iff.1 hrun
  obtain ⟨node, hnode, hcolumns⟩ := List.mem_map.1 (hrows ▸ List.mem_singleton_self _ :
    (5, NodeStatus.degraded) ∈ final.fleet.db.nodes.rows.map fun node => (node.id, node.status))
  obtain ⟨hid, hstatus⟩ := Prod.mk.inj hcolumns
  have honline := (hclaim [cpuDiscovery] cpuInventory 5000 "org_1" 5 heardFleet 1000 threeFailures
    final (by decide) cpuInventory_collect heardFleet_reached (by decide +kernel) heardFleet_heard
    hfinal).2 node hnode hid
  rw [hstatus] at honline
  cases honline

/-- The device is sampled, its batch is handled, and two sweeps come at once. -/
def oneSample : List (UplinkEvent Unit) :=
  [.fire working, .deliver 6500, .elsewhere (.sweepOffline 0 9000),
    .elsewhere (.sweepOffline 1 9500), .elsewhere (.sweepDegraded 0)]

theorem heartbeats_iff_sampled :
    ∃ final, (uplinkSystem cpuInventory 5000 "org_1" 5).run (Uplink.start 5000 heardFleet 1000)
        oneSample = some final ∧ Beating 5000 5 final := by
  have hsome : ((uplinkSystem cpuInventory 5000 "org_1" 5).run (Uplink.start 5000 heardFleet 1000)
      oneSample).isSome = true := by
    decide +kernel
  obtain ⟨final, hfinal⟩ := Option.isSome_iff_exists.1 hsome
  have hsampled : ∀ sample, UplinkEvent.fire sample ∈ oneSample → SomeSampled cpuInventory sample := by
    intro sample hfire
    obtain rfl : sample = working := by simpa [oneSample] using hfire
    exact ⟨((), ⟨"cpu:0", KindCPU, 0, "amd64 CPU", 68719476736, 0, "", ""⟩), by decide +kernel, _, rfl⟩
  have hbeating := ((heartbeats_iff cpuInventory (by decide) heardFleet_reached (by decide +kernel)
    heardFleet_heard hfinal).2 hsampled).2 oneSample [] final (List.append_nil _).symm hfinal
  exact ⟨final, hfinal, hbeating⟩

end ModelHub.ControlPlane
