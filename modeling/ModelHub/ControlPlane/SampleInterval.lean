import ModelHub.Agent.Session
import ModelHub.ControlPlane.Sweeper

/-!
# The sample interval on both sides

`SAMPLE_INTERVAL_MS` of `apps/control-plane/src/env.ts` goes two ways: to the agents in the
HelloAck, where `connectOnce` makes a ticker of it, and into the two thresholds of the
sweeper.  For every interval but zero the two ways agree (`sampleInterval_agrees_iff`).
Zero is a number that `env.ts` accepts, and on the wire it is the same as no interval at
all: the agents fall back to five seconds, and the sweeper calls a node offline at once.

A sweep leaves a node alone that was heard of within three intervals.  `Spared` says so
in a form that every step of the fleet keeps: each sweep under way has a cutoff that the
node's last contact is not before, and contacts only move forward.
-/

namespace ModelHub.ControlPlane

open Db Transition Binary64 JavaScript
open ModelHub.Agent (tickerInterval tickerInterval_milliseconds ServerMessage Duration)

/-! ## The setting -/

/-- `SAMPLE_INTERVAL_MS: z.coerce.number().default(5_000)` -/
def readSampleInterval : Option String → Option ℚ
  | none => some 5000
  | some text => numberOf text

/-- The interval in milliseconds at which an agent samples that was told this one. -/
def agentInterval (ms : UInt32) : ℤ :=
  (tickerInterval (.helloAck "" ms)).milliseconds

theorem agentInterval_eq (ms : UInt32) : agentInterval ms = if ms = 0 then 5000 else (ms.toNat : ℤ) :=
  tickerInterval_milliseconds _

theorem agentInterval_of_ne_zero {ms : UInt32} (hms : ms ≠ 0) : agentInterval ms = ms.toNat := by
  rw [agentInterval_eq, if_neg hms]

/-- Every interval that fits the wire is accepted. -/
theorem readSampleInterval_toString (ms : UInt32) :
    readSampleInterval (some (toString ms.toNat)) = some (ms.toNat : ℚ) := by
  have hsmall : ms.toNat < 2 ^ 32 := ms.toNat_lt
  have hdouble := @nearest_intCast (ms.toNat : ℤ) (by rw [Nat.abs_cast]; omega)
  rw [Int.cast_natCast] at hdouble
  rw [readSampleInterval, numberOf_toString (by omega), hdouble]

theorem thresholds_whole (ms : UInt32) :
    DEGRADED_AFTER_MS ms.toNat = ((3 * ms.toNat : ℤ) : ℚ) ∧
      OFFLINE_AFTER_MS ms.toNat = ((6 * ms.toNat : ℤ) : ℚ) := by
  have hsmall : ms.toNat < 2 ^ 32 := ms.toNat_lt
  have hthree := @nearest_intCast (3 * (ms.toNat : ℤ)) (by rw [abs_of_nonneg (by omega)]; omega)
  have hsix := @nearest_intCast (6 * (ms.toNat : ℤ)) (by rw [abs_of_nonneg (by omega)]; omega)
  constructor
  · rw [DEGRADED_AFTER_MS, mul, ← hthree]
    congr 1
    push_cast
    ring
  · rw [OFFLINE_AFTER_MS, mul, ← hsix]
    congr 1
    push_cast
    ring

/-- The cutoffs of a sweep whose first pass went through. -/
theorem cutoffs_of_pass {ms : UInt32} {now : Time} {db next : Database} {ids : List Uuid}
    (hdate : |now| ≤ MAX_DATE) (hpass : offlinePass ms.toNat now db = some (next, ids)) :
    offlineBefore ms.toNat now = now - 6 * ms.toNat ∧
      degradedBefore ms.toNat now = now - 3 * ms.toNat := by
  obtain ⟨cutoff, hcutoff, -⟩ := Option.map_eq_some_iff.1 hpass
  exact cutoffs_whole hdate (cutoffDate_eq_some hcutoff)

/-! ## A node that no sweep touches -/

/-- The node is online if it has been heard of at all; its last contact is `recent`, and
not before the cutoff of any sweep that is under way. -/
structure Spared (interval : ℚ) (nodeId : Uuid) (recent : Time → Prop) (state : FleetState) :
    Prop where
  online : ∀ node ∈ state.db.nodes.rows, node.id = nodeId → ∀ seen, node.lastSeenAt = some seen →
    node.status = .online ∧ recent seen ∧ ∀ sweep now ids,
      state.sweeping sweep = some (now, ids) → degradedBefore interval now ≤ seen
  begun : ∀ sweep now ids, state.sweeping sweep = some (now, ids) →
    degradedBefore interval now ≤ state.clock

/-- A time that is at most three intervals after the node's last contact. -/
def Within (span : ℤ) (nodeId : Uuid) (db : Database) (time : Time) : Prop :=
  ∀ node ∈ db.nodes.rows, node.id = nodeId → ∀ seen ∈ node.lastSeenAt, time ≤ seen + span

instance {span : ℤ} {nodeId : Uuid} {db : Database} {time : Time} :
    Decidable (Within span nodeId db time) :=
  inferInstanceAs (Decidable (∀ node ∈ db.nodes.rows, node.id = nodeId →
    ∀ seen ∈ node.lastSeenAt, time ≤ seen + span))

variable {nodeId : Uuid} {recent : Time → Prop} {interval : ℚ} {state next : FleetState}

theorem Spared.write (hspared : Spared interval nodeId recent state) {time : Time}
    (htime : state.clock ≤ time) (hrecent : recent time) {db : Database}
    (hrows : ∀ node ∈ db.nodes.rows, (∃ old ∈ state.db.nodes.rows, Beats time old node) ∨
      node.status = .offline ∧ node.lastSeenAt = none) :
    Spared interval nodeId recent { state with db := db, clock := time, returned := none } := by
  refine ⟨fun node hnode hid seen hseen => ?_, fun sweep now ids hsweeping => ?_⟩
  · rcases hrows node hnode with ⟨old, hold, hsame, rfl | ⟨honline, hbeat⟩⟩ | ⟨-, hunseen⟩
    · exact hspared.online node hold hid seen hseen
    · rw [hbeat] at hseen
      cases hseen
      exact ⟨honline, hrecent, fun sweep now ids hsweeping =>
        (hspared.begun sweep now ids hsweeping).trans htime⟩
    · rw [hunseen] at hseen
      cases hseen
  · exact (hspared.begun sweep now ids hsweeping).trans htime

theorem Spared.offlinePass (hspared : Spared interval nodeId recent state) (hinterval : 0 ≤ interval)
    {now : Time} {db : Database} {ids : List Uuid} (hclock : state.clock ≤ now)
    (hdate : |now| ≤ MAX_DATE) (sweep : ℕ)
    (hsoon : ∀ node ∈ state.db.nodes.rows, node.id = nodeId → ∀ seen, node.lastSeenAt = some seen →
      degradedBefore interval now ≤ seen)
    (hpass : offlinePass interval now state.db = some (db, ids)) :
    Spared interval nodeId recent
      ⟨db, now, Function.update state.sweeping sweep (some (now, ids)), none⟩ := by
  refine ⟨fun node hnode hid seen hseen => ?_, fun other began found hsweeping => ?_⟩
  · rw [show db = (passUpdate notOffline .offline (offlineBefore interval now) state.db).1 from
      congrArg Prod.fst (offlinePass_eq_some hpass)] at hnode
    obtain ⟨old, hold, ⟨hsel, rfl⟩ | ⟨-, rfl⟩⟩ := mem_passUpdate.1 hnode
    · obtain ⟨-, found, hfound, hlt⟩ := overdue_iff.1 hsel
      have hlater := hsoon old hold hid found hfound
      exact absurd (hlt.trans_le (offlineBefore_le_degradedBefore hinterval now)) (not_lt.2 hlater)
    · obtain ⟨honline, hrecent, hcutoffs⟩ := hspared.online node hold hid seen hseen
      refine ⟨honline, hrecent, fun other began found hsweeping => ?_⟩
      rcases sweeping_begin hsweeping with hown | hother
      · cases hown
        exact hsoon node hold hid seen hseen
      · exact hcutoffs other began found hother
  · rcases sweeping_begin hsweeping with hown | hother
    · cases hown
      exact degradedBefore_le hinterval hdate
    · exact (hspared.begun other began found hother).trans hclock

theorem Spared.degradedPass (hspared : Spared interval nodeId recent state) {now : Time}
    {sweep returned : ℕ} {ids degraded : List Uuid} {db : Database}
    (hsweeping : state.sweeping sweep = some (now, ids))
    (hpass : degradedPass interval now state.db = some (db, degraded)) :
    Spared interval nodeId recent { state with
      db := db
      sweeping := Function.update state.sweeping sweep none
      returned := some returned } := by
  refine ⟨fun node hnode hid seen hseen => ?_, fun other began found hother => ?_⟩
  · have hmem : node ∈ db.nodes.rows := hnode
    rw [show db = (passUpdate isOnline .degraded (degradedBefore interval now) state.db).1 from
      congrArg Prod.fst (degradedPass_eq_some hpass)] at hmem
    obtain ⟨old, hold, ⟨hsel, rfl⟩ | ⟨-, rfl⟩⟩ := mem_passUpdate.1 hmem
    · obtain ⟨-, found, hfound, hlt⟩ := overdue_iff.1 hsel
      have hlater := (hspared.online old hold hid found hfound).2.2 sweep now ids hsweeping
      exact absurd hlt (not_lt.2 hlater)
    · obtain ⟨honline, hrecent, hcutoffs⟩ := hspared.online node hold hid seen hseen
      exact ⟨honline, hrecent, fun other began found hother =>
        hcutoffs other began found (sweeping_end hother)⟩
  · exact hspared.begun other began found (sweeping_end hother)

/-- No step of the fleet touches the node, if no sweep begins later than three intervals
after its last contact. -/
theorem Spared.step {ms : UInt32} (hspared : Spared ms.toNat nodeId recent state)
    {event : FleetEvent} (hrecent : ∀ time, state.clock ≤ time → recent time)
    (hsoon : ∀ sweep now, event = .sweepOffline sweep now →
      Within (3 * ms.toNat) nodeId state.db now)
    (hstep : fleetStep ms.toNat state event = some next) : Spared ms.toNat nodeId recent next := by
  have hinterval : (0 : ℚ) ≤ ms.toNat := Nat.cast_nonneg _
  have hwrite : event.isPass = false → Spared ms.toNat nodeId recent next := by
    intro hpass
    obtain ⟨time, db, htime, rfl, hrows⟩ := fleetStep_write hpass hstep
    exact hspared.write htime (hrecent time htime) hrows
  cases event with
  | enroll time input orgId nodeName env => exact hwrite rfl
  | hello time orgId heard host => exact hwrite rfl
  | samples time orgId heard samples => exact hwrite rfl
  | sweepOffline sweep now =>
      obtain ⟨hclock, hdate, db, ids, hpass, rfl⟩ := fleetStep_sweepOffline hstep
      refine hspared.offlinePass hinterval hclock hdate sweep (fun node hnode hid seen hseen => ?_)
        hpass
      have hclose := hsoon sweep now rfl node hnode hid seen hseen
      rw [(cutoffs_of_pass hdate hpass).2]
      linarith
  | sweepDegraded sweep =>
      obtain ⟨now, ids, db, degraded, hsweeping, hpass, rfl⟩ := fleetStep_sweepDegraded hstep
      exact hspared.degradedPass hsweeping hpass

theorem spared_empty {db : Database} (hempty : db.nodes.rows = []) (clock : Time) :
    Spared interval nodeId recent ⟨db, clock, fun _ => none, none⟩ := by
  refine ⟨fun node hnode => ?_, fun sweep now ids hsweeping => ?_⟩
  · have hnone : node ∈ db.nodes.rows := hnode
    rw [hempty] at hnone
    cases hnone
  · cases hsweeping

/-! ## The two sides -/

/-- An event that is at most three intervals after the node's last contact, if it is a
heartbeat of the node or the start of a sweep. -/
def Prompt (interval : ℤ) (nodeId : Uuid) (state : FleetState) : FleetEvent → Prop
  | .hello time _ heard _ => heard = nodeId → Within (3 * interval) nodeId state.db time
  | .samples time _ heard _ => heard = nodeId → Within (3 * interval) nodeId state.db time
  | .sweepOffline _ now => Within (3 * interval) nodeId state.db now
  | .enroll _ _ _ _ _ => True
  | .sweepDegraded _ => True

instance {interval : ℤ} {nodeId : Uuid} {state : FleetState} (event : FleetEvent) :
    Decidable (Prompt interval nodeId state event) := by
  unfold Prompt
  split <;> infer_instance

/-- The thresholds are three and six of the agent's intervals. -/
def ThresholdsAgree (ms : UInt32) : Prop :=
  DEGRADED_AFTER_MS ms.toNat = ((3 * agentInterval ms : ℤ) : ℚ) ∧
    OFFLINE_AFTER_MS ms.toNat = ((6 * agentInterval ms : ℤ) : ℚ)

/-- As long as fewer than three whole intervals of the agent are missed, a node that has
been heard of is online in every state. -/
def NoFlapping (ms : UInt32) : Prop :=
  ∀ (nodeId : Uuid) (db : Database) (clock : Time) (events : List FleetEvent) (final : FleetState),
    db.nodes.rows = [] →
    (fleetSystem ms.toNat).run ⟨db, clock, fun _ => none, none⟩ events = some final →
    (fleetSystem ms.toNat).Along (Prompt (agentInterval ms) nodeId)
      ⟨db, clock, fun _ => none, none⟩ events →
    ∀ node ∈ final.db.nodes.rows, node.id = nodeId → node.lastSeenAt ≠ none → node.status = .online

theorem noFlapping {ms : UInt32} (hms : ms ≠ 0) : NoFlapping ms := by
  intro nodeId db clock events final hempty hrun hprompt node hnode hid hseen
  have hspared : Spared ms.toNat nodeId (fun _ => True) final := by
    apply System.along_invariant (Spared ms.toNat nodeId fun _ => True) _ (spared_empty hempty clock)
      hprompt hrun
    intro state event next hspared hprompt hstep
    refine hspared.step (fun _ _ => trivial) (fun sweep now hnow => ?_) hstep
    subst hnow
    rw [← agentInterval_of_ne_zero hms]
    exact hprompt
  obtain ⟨seen, hseen⟩ := Option.ne_none_iff_exists'.1 hseen
  exact (hspared.online node hnode hid seen hseen).1

/-- The node says hello, and a sweep comes a millisecond later. -/
def earlySweep : List FleetEvent := silentNode ++ [.sweepOffline 0 1001]

theorem earlySweep_flaps : ¬ NoFlapping 0 := by
  intro hclaim
  have hrun : ((fleetSystem (UInt32.toNat 0)).run sampleFleet earlySweep).map (fun final =>
      final.db.nodes.rows.map fun node => (node.id, node.status, node.lastSeenAt)) =
        some [(5, .offline, some 1000)] := by
    decide +kernel
  obtain ⟨final, hfinal, hrows⟩ := Option.map_eq_some_iff.1 hrun
  have hprompt : (fleetSystem (UInt32.toNat 0)).Along (Prompt (agentInterval 0) 5) sampleFleet
      earlySweep := by
    decide +kernel
  obtain ⟨node, hnode, hcolumns⟩ := List.mem_map.1 (hrows ▸ List.mem_singleton_self _ :
    (5, NodeStatus.offline, some 1000) ∈ final.db.nodes.rows.map fun node =>
      (node.id, node.status, node.lastSeenAt))
  obtain ⟨hid, hrest⟩ := Prod.mk.inj hcolumns
  obtain ⟨hstatus, hseen⟩ := Prod.mk.inj hrest
  have honline := hclaim 5 _ _ _ final rfl hfinal hprompt node hnode hid (by rw [hseen]; simp)
  rw [hstatus] at honline
  cases honline

/-- The two sides agree on the interval, and a healthy node does not flap, for every
interval but zero. -/
theorem sampleInterval_agrees_iff (ms : UInt32) :
    (ThresholdsAgree ms ↔ ms ≠ 0) ∧ (NoFlapping ms ↔ ms ≠ 0) := by
  refine ⟨⟨?_, fun hms => ?_⟩, ⟨?_, noFlapping⟩⟩
  · rintro ⟨hthree, -⟩ rfl
    rw [(thresholds_whole 0).1] at hthree
    revert hthree
    decide +kernel
  · unfold ThresholdsAgree
    rw [agentInterval_of_ne_zero hms]
    exact thresholds_whole ms
  · rintro hsteady rfl
    exact earlySweep_flaps hsteady

/-- The text "0" is an interval on which the two sides do not agree. -/
theorem sampleInterval_zero :
    ¬ ∀ (text : Option String) (ms : UInt32), readSampleInterval text = some (ms.toNat : ℚ) →
      ThresholdsAgree ms ∧ NoFlapping ms := by
  intro hclaim
  obtain ⟨-, hsteady⟩ := hclaim (some "0") 0 (by decide +kernel)
  exact earlySweep_flaps hsteady

end ModelHub.ControlPlane
