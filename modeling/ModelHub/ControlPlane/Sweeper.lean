import ModelHub.ControlPlane.Nodes

/-!
# The offline sweeper

`apps/control-plane/src/jobs/offline-sweeper.ts`.  A sweep is two updates, each
guarded by the status that a node has, and between them heartbeats and enrollments
commit.  So the stored status is never computed from `lastSeenAt` alone, and that it
agrees with `lastSeenAt` once a sweep is over needs an invariant of all runs.

The timer does not wait for a sweep to end, and every replica has a timer of its own.
So any number of sweeps are between their passes at a time, and one whose second pass
never comes stays there.

The invariant (`Settled`) dates every status: a node is offline or degraded only if
it had been silent for long enough when the last sweep began.  Three facts keep it:

* the cutoffs only move forward with the time of the sweep (`offlineBefore_mono`);
* a node that is heard of is online and was seen no earlier than any sweep that is
  under way (`heartbeat_keeps`);
* the first pass leaves no node online or degraded that is past the offline cutoff,
  and no pass of another sweep changes that (`Caught`).

`sweepOfflineNodes_classifies` is the resulting statement about a completed sweep.  A sweep
that begins between its passes has the later cutoffs, and may mark a node offline that
the first still calls degraded (`sweepOfflineNodes_overlap`).
-/

namespace ModelHub.ControlPlane

open Db Transition Binary64 JavaScript

/-! ## The two passes -/

def DEGRADED_AFTER_MS (SAMPLE_INTERVAL_MS : ℚ) : ℚ := mul SAMPLE_INTERVAL_MS 3

def OFFLINE_AFTER_MS (SAMPLE_INTERVAL_MS : ℚ) : ℚ := mul SAMPLE_INTERVAL_MS 6

/-- `lt(nodes.lastSeenAt, cutoff)`, which no NULL meets. -/
def seenBefore (cutoff : Time) (node : Node) : Bool :=
  match node.lastSeenAt with
  | none => false
  | some seen => seen < cutoff

def setStatus (status : NodeStatus) (node : Node) : Node := { node with status := status }

@[simp] theorem setStatus_identity (status : NodeStatus) (node : Node) :
    (setStatus status node).identity = node.identity := rfl

def overdue (guard : Node → Bool) (cutoff : Time) (node : Node) : Bool :=
  guard node && seenBefore cutoff node

/-- One update of a sweep and the ids it returns. -/
def passUpdate (guard : Node → Bool) (status : NodeStatus) (cutoff : Time) (db : Database) :
    Database × List Uuid :=
  (db.updateNodes (overdue guard cutoff) (setStatus status) (setStatus_identity status),
    (db.nodes.updated (overdue guard cutoff) (setStatus status)).map Node.id)

def notOffline (node : Node) : Bool := node.status ≠ .offline

def isOnline (node : Node) : Bool := node.status = .online

/-- `new Date(now.getTime() - silence)` as a parameter of an update.  The driver throws at an
invalid date, and Postgres refuses one that is no timestamp. -/
def cutoffDate (now : Time) (silence : ℚ) : Option Time :=
  (newDate (sub now silence)).filter fun cutoff => timestampError cutoff = none

/-- The first pass. -/
def offlinePass (SAMPLE_INTERVAL_MS : ℚ) (now : Time) (db : Database) :
    Option (Database × List Uuid) :=
  (cutoffDate now (OFFLINE_AFTER_MS SAMPLE_INTERVAL_MS)).map fun cutoff =>
    passUpdate notOffline .offline cutoff db

def degradedPass (SAMPLE_INTERVAL_MS : ℚ) (now : Time) (db : Database) :
    Option (Database × List Uuid) :=
  (cutoffDate now (DEGRADED_AFTER_MS SAMPLE_INTERVAL_MS)).map fun cutoff =>
    passUpdate isOnline .degraded cutoff db

/-! ## The system -/

/-- The fleet between two steps.  `sweeping` has the sweeps between their passes, each by
its number: its `now` and the ids that the first pass returned.  `returned` is what a
sweep has just returned. -/
structure FleetState where
  db : Database
  clock : Time
  sweeping : ℕ → Option (Time × List Uuid)
  returned : Option ℕ

inductive FleetEvent where
  /-- The insert of `enrollNode`. -/
  | enroll (time : Time) (input : EnrollInput) (orgId nodeName : String) (env : StepEnv)
  | hello (time : Time) (orgId : String) (nodeId : Uuid) (host : HostColumns)
  | samples (time : Time) (orgId : String) (nodeId : Uuid) (samples : List DeviceSample)
  | sweepOffline (sweep : ℕ) (now : Time)
  | sweepDegraded (sweep : ℕ)

/-- The event is one of the two passes of a sweep. -/
def FleetEvent.isPass : FleetEvent → Bool
  | sweepOffline _ _ => true
  | sweepDegraded _ => true
  | _ => false

/-- A write at a time that is not before the last one. -/
def FleetState.write (state : FleetState) (time : Time) (result : Option Database) :
    Option FleetState :=
  if state.clock ≤ time then
    result.map fun db => { state with db := db, clock := time, returned := none }
  else none

def fleetStep (SAMPLE_INTERVAL_MS : ℚ) (state : FleetState) : FleetEvent → Option FleetState
  | .enroll time input orgId nodeName env =>
      state.write time (state.db.insertNode orgId (enrolledNode input orgId nodeName env)).toOption
  | .hello time orgId nodeId host =>
      state.write time (markNodeOnline orgId nodeId host time state.db).toOption
  | .samples time orgId nodeId samples =>
      state.write time (recordSamples orgId nodeId samples time state.db).toOption
  | .sweepOffline sweep now =>
      if state.clock ≤ now ∧ |now| ≤ MAX_DATE ∧ state.sweeping sweep = none then
        (offlinePass SAMPLE_INTERVAL_MS now state.db).map fun (db, offline) =>
          { db := db
            clock := now
            sweeping := Function.update state.sweeping sweep (some (now, offline))
            returned := none }
      else none
  | .sweepDegraded sweep =>
      (state.sweeping sweep).bind fun (now, offline) =>
        (degradedPass SAMPLE_INTERVAL_MS now state.db).map fun (db, degraded) =>
          { state with
            db := db
            sweeping := Function.update state.sweeping sweep none
            returned := some (offline.length + degraded.length) }

def fleetSystem (SAMPLE_INTERVAL_MS : ℚ) : System FleetState FleetEvent :=
  ⟨fleetStep SAMPLE_INTERVAL_MS⟩

section Sweeping

variable {sweeping : ℕ → Option (Time × List Uuid)} {sweep other : ℕ} {entry found : Time × List Uuid}

theorem sweeping_begin (hfound : Function.update sweeping sweep (some entry) other = some found) :
    found = entry ∨ sweeping other = some found := by
  rcases eq_or_ne other sweep with rfl | hother
  · rw [Function.update_self] at hfound
    exact Or.inl (Option.some.inj hfound).symm
  · rw [Function.update_of_ne hother] at hfound
    exact Or.inr hfound

theorem sweeping_end (hfound : Function.update sweeping sweep none other = some found) :
    sweeping other = some found := by
  rcases eq_or_ne other sweep with rfl | hother
  · rw [Function.update_self] at hfound
    cases hfound
  · rwa [Function.update_of_ne hother] at hfound

end Sweeping

/-! ## Cutoffs -/

/-- The date before which the first pass calls a node offline. -/
def offlineBefore (interval : ℚ) (now : Time) : Time :=
  truncate (sub now (OFFLINE_AFTER_MS interval))

def degradedBefore (interval : ℚ) (now : Time) : Time :=
  truncate (sub now (DEGRADED_AFTER_MS interval))

variable {interval : ℚ} {now later : Time}

theorem cutoffDate_eq_some {silence : ℚ} {cutoff : Time}
    (hcutoff : cutoffDate now silence = some cutoff) : newDate (sub now silence) = some cutoff :=
  (Option.filter_eq_some_iff.1 hcutoff).1

theorem sub_mono_left {x y z : ℚ} (hxy : x ≤ y) : sub x z ≤ sub y z := by
  apply nearest_mono
  linarith

theorem sub_anti_right {x y z : ℚ} (hyz : y ≤ z) : sub x z ≤ sub x y := by
  apply nearest_mono
  linarith

theorem offlineBefore_mono (hle : now ≤ later) :
    offlineBefore interval now ≤ offlineBefore interval later := by
  apply truncate_mono
  apply sub_mono_left
  exact_mod_cast hle

theorem degradedBefore_mono (hle : now ≤ later) :
    degradedBefore interval now ≤ degradedBefore interval later := by
  apply truncate_mono
  apply sub_mono_left
  exact_mod_cast hle

theorem offlineBefore_le_degradedBefore (hinterval : 0 ≤ interval) (now : Time) :
    offlineBefore interval now ≤ degradedBefore interval now := by
  apply truncate_mono
  apply sub_anti_right
  apply nearest_mono
  linarith

/-- A node that is seen during a sweep is not past its cutoffs. -/
theorem degradedBefore_le (hinterval : 0 ≤ interval) (hdate : |now| ≤ MAX_DATE) :
    degradedBefore interval now ≤ now := by
  have hnonneg : 0 ≤ DEGRADED_AFTER_MS interval := by
    apply nearest_nonneg
    linarith
  have hle : sub now (DEGRADED_AFTER_MS interval) ≤ sub now 0 := sub_anti_right hnonneg
  have hexact : sub now 0 = ((now : ℤ) : ℚ) := by
    have hsmall : |now - 0| ≤ 2 ^ 53 := by
      rw [sub_zero]
      exact hdate.trans (by norm_num [MAX_DATE])
    simpa using sub_intCast hsmall
  calc degradedBefore interval now ≤ truncate (now : ℚ) := truncate_mono (hle.trans_eq hexact)
    _ = now := truncate_intCast now

/-- For a whole interval the cutoffs of a sweep that completes are literally six
and three intervals before its time. -/
theorem cutoffs_whole {now : ℤ} {whole : ℕ} (hdate : |now| ≤ MAX_DATE)
    {cutoff : Time} (hcutoff : newDate (sub now (OFFLINE_AFTER_MS whole)) = some cutoff) :
    offlineBefore whole now = now - 6 * whole ∧ degradedBefore whole now = now - 3 * whole := by
  have hnow : -8640000000000000 ≤ now ∧ now ≤ 8640000000000000 := abs_le.1 hdate
  have hvalid : |sub now (OFFLINE_AFTER_MS whole)| ≤ (MAX_DATE : ℤ) := by
    by_contra hinvalid
    rw [newDate, if_neg hinvalid] at hcutoff
    cases hcutoff
  have hlow : (-8640000000000000 : ℚ) ≤ sub now (OFFLINE_AFTER_MS whole) := by
    have hboth := (abs_le.1 hvalid).1
    unfold MAX_DATE at hboth
    push_cast at hboth
    linarith
  -- a longer interval would have put the cutoff before the first date
  have hsmall : 3 * (whole : ℤ) ≤ 2 ^ 53 := by
    by_contra hbig
    have hsix : (2 : ℚ) ^ 54 ≤ OFFLINE_AFTER_MS whole := by
      have hexact : nearest (((2 : ℤ) ^ 53 : ℤ) * 2 ^ (1 : ℤ)) = ((2 : ℤ) ^ 53 : ℤ) * 2 ^ (1 : ℤ) :=
        nearest_eq_self (by norm_num) (by norm_num)
      have hle : (((2 : ℤ) ^ 53 : ℤ) : ℚ) * 2 ^ (1 : ℤ) ≤ (whole : ℚ) * 6 := by
        have hcast : (2 : ℤ) ^ 53 * 2 ≤ (whole : ℤ) * 6 := by omega
        have hrat : ((2 ^ 53 * 2 : ℤ) : ℚ) ≤ ((whole * 6 : ℤ) : ℚ) := Int.cast_le.2 hcast
        norm_num at hrat ⊢
        exact hrat
      have hmono := nearest_mono hle
      rw [hexact] at hmono
      calc (2 : ℚ) ^ 54 = (((2 : ℤ) ^ 53 : ℤ) : ℚ) * 2 ^ (1 : ℤ) := by norm_num
        _ ≤ OFFLINE_AFTER_MS whole := hmono
    have hfar : sub now (OFFLINE_AFTER_MS whole) ≤ ((-2 ^ 53 : ℤ) : ℚ) := by
      rw [← nearest_intCast (n := -2 ^ 53) (by norm_num)]
      apply nearest_mono
      have hcast : (now : ℚ) ≤ 8640000000000000 := by exact_mod_cast hnow.2
      push_cast
      norm_num at hsix ⊢
      linarith
    push_cast at hfar
    linarith
  have hsix : OFFLINE_AFTER_MS whole = ((6 * whole : ℤ) : ℚ) := by
    have hexact : nearest ((3 * (whole : ℤ) : ℤ) * 2 ^ (1 : ℤ)) =
        (3 * (whole : ℤ) : ℤ) * 2 ^ (1 : ℤ) :=
      nearest_eq_self (by rw [abs_of_nonneg (by omega)]; exact hsmall) (by norm_num)
    calc OFFLINE_AFTER_MS whole = nearest ((3 * (whole : ℤ) : ℤ) * 2 ^ (1 : ℤ)) := by
          unfold OFFLINE_AFTER_MS mul
          congr 1
          push_cast
          ring
      _ = ((6 * whole : ℤ) : ℚ) := by
          rw [hexact]
          push_cast
          ring
  have hthree : DEGRADED_AFTER_MS whole = ((3 * whole : ℤ) : ℚ) := by
    have hexact := @nearest_intCast (3 * (whole : ℤ)) (by rw [abs_of_nonneg (by omega)]; exact hsmall)
    unfold DEGRADED_AFTER_MS mul
    rw [← hexact]
    congr 1
    push_cast
    ring
  have hnear : now - 6 * (whole : ℤ) ≥ -2 ^ 53 := by
    by_contra hfar
    have hle : sub now (OFFLINE_AFTER_MS whole) ≤ ((-2 ^ 53 : ℤ) : ℚ) := by
      rw [← nearest_intCast (n := -2 ^ 53) (by norm_num), hsix]
      apply nearest_mono
      exact_mod_cast (not_le.1 hfar).le
    push_cast at hle
    linarith
  constructor
  · unfold offlineBefore
    rw [hsix, sub_intCast (abs_le.2 ⟨hnear, by omega⟩), truncate_intCast]
  · unfold degradedBefore
    rw [hthree, sub_intCast (abs_le.2 ⟨by omega, by omega⟩), truncate_intCast]

/-! ## What a pass does -/

section Pass

variable {guard : Node → Bool} {status : NodeStatus} {cutoff : Time} {db : Database}

theorem seenBefore_iff {node : Node} :
    seenBefore cutoff node ↔ ∃ seen, node.lastSeenAt = some seen ∧ seen < cutoff := by
  unfold seenBefore
  cases node.lastSeenAt <;> simp

theorem overdue_iff {node : Node} : overdue guard cutoff node ↔ guard node ∧
    ∃ seen, node.lastSeenAt = some seen ∧ seen < cutoff := by
  rw [overdue, Bool.and_eq_true, seenBefore_iff]

theorem mem_passUpdate {node : Node} :
    node ∈ (passUpdate guard status cutoff db).1.nodes.rows ↔ ∃ old ∈ db.nodes.rows,
      overdue guard cutoff old ∧ node = setStatus status old ∨
        ¬ overdue guard cutoff old ∧ node = old := by
  unfold passUpdate
  rw [mem_updateNodes]
  refine exists_congr fun old => and_congr_right fun _ => ?_
  by_cases hsel : overdue guard cutoff old
  · rw [Table.rewrite_of_sel hsel]
    simp only [hsel, true_and, not_true_eq_false, false_and, or_false]
    exact eq_comm
  · rw [Table.rewrite_of_not_sel hsel]
    constructor
    · intro hsame
      exact Or.inr ⟨hsel, hsame.symm⟩
    · rintro (⟨hsel', -⟩ | ⟨-, hsame⟩)
      · exact absurd hsel' hsel
      · exact hsame.symm

/-- A pass that does not bring a node back leaves every offline node as it is. -/
theorem mem_passUpdate_old (hguard : status = .offline ∨ ∀ node, guard node → node.status ≠ .offline)
    {node : Node} (hnode : node ∈ (passUpdate guard status cutoff db).1.nodes.rows) :
    ∃ old ∈ db.nodes.rows, old.id = node.id ∧ old.lastSeenAt = node.lastSeenAt ∧
      (old.status = .offline → node.status = .offline) := by
  obtain ⟨old, hold, ⟨hsel, rfl⟩ | ⟨-, rfl⟩⟩ := mem_passUpdate.1 hnode
  · refine ⟨old, hold, rfl, rfl, fun hoffline => ?_⟩
    rcases hguard with hstatus | hnever
    · exact hstatus
    · exact absurd hoffline (hnever old (overdue_iff.1 hsel).1)
  · exact ⟨node, hold, rfl, rfl, id⟩

theorem mem_passUpdate_ids {id : Uuid} :
    id ∈ (passUpdate guard status cutoff db).2 ↔
      ∃ old ∈ db.nodes.rows, overdue guard cutoff old ∧ old.id = id := by
  unfold passUpdate
  simp only [List.mem_map, Table.mem_updated]
  constructor
  · rintro ⟨node, ⟨old, hold, hsel, rfl⟩, hid⟩
    exact ⟨old, hold, hsel, hid⟩
  · rintro ⟨old, hold, hsel, hid⟩
    exact ⟨setStatus status old, ⟨old, hold, hsel, rfl⟩, hid⟩

end Pass

theorem offlinePass_eq_some {db next : Database} {ids : List Uuid}
    (hpass : offlinePass interval now db = some (next, ids)) :
    (next, ids) = passUpdate notOffline .offline (offlineBefore interval now) db := by
  obtain ⟨cutoff, hcutoff, heq⟩ := Option.map_eq_some_iff.1 hpass
  rw [← heq, newDate_eq_some (cutoffDate_eq_some hcutoff)]
  rfl

theorem degradedPass_eq_some {db next : Database} {ids : List Uuid}
    (hpass : degradedPass interval now db = some (next, ids)) :
    (next, ids) = passUpdate isOnline .degraded (degradedBefore interval now) db := by
  obtain ⟨cutoff, hcutoff, heq⟩ := Option.map_eq_some_iff.1 hpass
  rw [← heq, newDate_eq_some (cutoffDate_eq_some hcutoff)]
  rfl

/-! ## The invariant -/

/-- The status of a node, dated by the last sweep that began. -/
structure Settled (interval : ℚ) (swept : Option Time) (node : Node) : Prop where
  unseen : node.lastSeenAt = none → node.status = .offline
  offline : node.status = .offline → ∀ seen, node.lastSeenAt = some seen →
    ∃ began, swept = some began ∧ seen < offlineBefore interval began
  degraded : node.status = .degraded → ∀ seen, node.lastSeenAt = some seen →
    ∃ began, swept = some began ∧ seen < degradedBefore interval began

/-- What the first pass of a sweep leaves to its second, whatever happens in between. -/
structure Caught (interval : ℚ) (now : Time) (ids : List Uuid) (db : Database) : Prop where
  /-- Every node past the offline cutoff is caught. -/
  offline : ∀ node ∈ db.nodes.rows, seenBefore (offlineBefore interval now) node →
    node.status = .offline
  /-- What the pass has changed can only have been heard of since. -/
  returned : ∀ node ∈ db.nodes.rows, node.id ∈ ids →
    node.status = .offline ∨ ∃ seen, node.lastSeenAt = some seen ∧ now ≤ seen

/-- The fleet after its last sweep began at `swept`. -/
structure Swept (interval : ℚ) (swept : Option Time) (state : FleetState) : Prop where
  settled : ∀ node ∈ state.db.nodes.rows, Settled interval swept node
  past : ∀ began, swept = some began → began ≤ state.clock
  /-- The sweeps under way began no later than that. -/
  begun : ∀ sweep now ids, state.sweeping sweep = some (now, ids) →
    |now| ≤ MAX_DATE ∧ ∃ began, swept = some began ∧ now ≤ began
  caught : ∀ sweep now ids, state.sweeping sweep = some (now, ids) →
    Caught interval now ids state.db

theorem Settled.forward {began : Option Time} {node : Node}
    (hsettled : Settled interval began node) (hpast : ∀ first, began = some first → first ≤ later) :
    Settled interval (some later) node := by
  refine ⟨hsettled.unseen, fun hoffline seen hseen => ?_, fun hdegraded seen hseen => ?_⟩
  · obtain ⟨first, hfirst, hlt⟩ := hsettled.offline hoffline seen hseen
    exact ⟨later, rfl, hlt.trans_le (offlineBefore_mono (hpast first hfirst))⟩
  · obtain ⟨first, hfirst, hlt⟩ := hsettled.degraded hdegraded seen hseen
    exact ⟨later, rfl, hlt.trans_le (degradedBefore_mono (hpast first hfirst))⟩

theorem settled_online {swept : Option Time} {node : Node} {seen : Time}
    (honline : node.status = .online) (hseen : node.lastSeenAt = some seen) :
    Settled interval swept node := by
  refine ⟨fun hnone => ?_, fun hoffline => ?_, fun hdegraded => ?_⟩
  · rw [hseen] at hnone
    cases hnone
  · rw [honline] at hoffline
    cases hoffline
  · rw [honline] at hdegraded
    cases hdegraded

theorem settled_new {swept : Option Time} {node : Node} (hoffline : node.status = .offline)
    (hunseen : node.lastSeenAt = none) : Settled interval swept node := by
  refine ⟨fun _ => hoffline, fun _ seen hseen => ?_, fun hdegraded => ?_⟩
  · rw [hunseen] at hseen
    cases hseen
  · rw [hoffline] at hdegraded
    cases hdegraded

theorem Swept.begun_le {swept : Option Time} {state : FleetState}
    (hswept : Swept interval swept state) {sweep : ℕ} {ids : List Uuid}
    (hsweeping : state.sweeping sweep = some (now, ids)) : now ≤ state.clock := by
  obtain ⟨-, began, hbegan, hle⟩ := hswept.begun sweep now ids hsweeping
  exact hle.trans (hswept.past began hbegan)

theorem Caught.heartbeat (hinterval : 0 ≤ interval) {ids : List Uuid} {db next : Database}
    (hcaught : Caught interval now ids db) (hdate : |now| ≤ MAX_DATE) {time : Time}
    (htime : now ≤ time)
    (hrows : ∀ node ∈ next.nodes.rows, (∃ old ∈ db.nodes.rows, Beats time old node) ∨
      node.status = .offline ∧ node.lastSeenAt = none) : Caught interval now ids next := by
  refine ⟨fun node hnode hbefore => ?_, fun node hnode hid => ?_⟩
  · rcases hrows node hnode with ⟨old, hold, -, rfl | ⟨-, hseen⟩⟩ | ⟨hoffline, -⟩
    · exact hcaught.offline node hold hbefore
    · -- heard of no earlier than the sweep began, so not before its cutoff
      obtain ⟨seen, hseen', hlt⟩ := seenBefore_iff.1 hbefore
      obtain rfl : time = seen := Option.some.inj (hseen.symm.trans hseen')
      have hcutoff : offlineBefore interval now ≤ now :=
        (offlineBefore_le_degradedBefore hinterval now).trans (degradedBefore_le hinterval hdate)
      exact absurd (hlt.trans_le hcutoff) (not_lt.2 htime)
    · exact hoffline
  · rcases hrows node hnode with ⟨old, hold, -, rfl | ⟨-, hseen⟩⟩ | ⟨hoffline, -⟩
    · exact hcaught.returned node hold hid
    · exact Or.inr ⟨time, hseen, htime⟩
    · exact Or.inl hoffline

/-- The passes of the other sweeps leave it as it is. -/
theorem Caught.pass {ids : List Uuid} {db : Database} (hcaught : Caught interval now ids db)
    {guard : Node → Bool} {status : NodeStatus} {cutoff : Time}
    (hguard : status = .offline ∨ ∀ node, guard node → node.status ≠ .offline) :
    Caught interval now ids (passUpdate guard status cutoff db).1 := by
  refine ⟨fun node hnode hbefore => ?_, fun node hnode hid => ?_⟩
  · obtain ⟨old, hold, -, hseen, hstays⟩ := mem_passUpdate_old hguard hnode
    refine hstays (hcaught.offline old hold ?_)
    rw [seenBefore_iff] at hbefore ⊢
    rwa [hseen]
  · obtain ⟨old, hold, hsame, hseen, hstays⟩ := mem_passUpdate_old hguard hnode
    rw [← hsame] at hid
    rcases hcaught.returned old hold hid with hoffline | hlater
    · exact Or.inl (hstays hoffline)
    · rw [hseen] at hlater
      exact Or.inr hlater

/-- The first pass catches every node past its cutoff. -/
theorem caught_offlinePass (db : Database) :
    Caught interval now (passUpdate notOffline .offline (offlineBefore interval now) db).2
      (passUpdate notOffline .offline (offlineBefore interval now) db).1 := by
  refine ⟨fun node hnode hbefore => ?_, fun node hnode hid => ?_⟩
  · obtain ⟨old, hold, ⟨-, rfl⟩ | ⟨hnot, rfl⟩⟩ := mem_passUpdate.1 hnode
    · rfl
    · by_contra hstatus
      refine hnot (overdue_iff.2 ⟨?_, seenBefore_iff.1 hbefore⟩)
      simpa [notOffline] using hstatus
  · obtain ⟨source, hsource, hsel, hsame⟩ := mem_passUpdate_ids.1 hid
    obtain ⟨old, hold, ⟨-, rfl⟩ | ⟨hnot, rfl⟩⟩ := mem_passUpdate.1 hnode
    · exact Or.inl rfl
    · rw [Table.eq_of_id hsource hold hsame] at hsel
      exact absurd hsel hnot

/-- A heartbeat or an enrollment keeps the invariant, also in the middle of a sweep. -/
theorem heartbeat_keeps (hinterval : 0 ≤ interval) {swept : Option Time} {state : FleetState}
    (hswept : Swept interval swept state) {time : Time} (htime : state.clock ≤ time) {db : Database}
    (hrows : ∀ node ∈ db.nodes.rows, (∃ old ∈ state.db.nodes.rows, Beats time old node) ∨
      node.status = .offline ∧ node.lastSeenAt = none) :
    Swept interval swept { state with db := db, clock := time, returned := none } := by
  refine ⟨fun node hnode => ?_, fun began hbegan => (hswept.past began hbegan).trans htime,
    hswept.begun, fun sweep now ids hsweeping => ?_⟩
  · rcases hrows node hnode with ⟨old, hold, -, rfl | ⟨honline, hseen⟩⟩ | ⟨hoffline, hunseen⟩
    · exact hswept.settled node hold
    · exact settled_online honline hseen
    · exact settled_new hoffline hunseen
  · obtain ⟨hdate, -⟩ := hswept.begun sweep now ids hsweeping
    exact (hswept.caught sweep now ids hsweeping).heartbeat hinterval hdate
      ((hswept.begun_le hsweeping).trans htime) hrows

theorem offlinePass_keeps {swept : Option Time} {state : FleetState}
    (hswept : Swept interval swept state) (hnow : state.clock ≤ now) (hdate : |now| ≤ MAX_DATE)
    (sweep : ℕ) {db : Database} {ids : List Uuid}
    (hpass : offlinePass interval now state.db = some (db, ids)) :
    Swept interval (some now)
      ⟨db, now, Function.update state.sweeping sweep (some (now, ids)), none⟩ := by
  obtain ⟨rfl, rfl⟩ := Prod.mk.inj (offlinePass_eq_some hpass)
  have hpast : ∀ first, swept = some first → first ≤ now :=
    fun first hfirst => (hswept.past first hfirst).trans hnow
  refine ⟨fun node hnode => ?_, fun began hbegan => (Option.some.inj hbegan).ge,
    fun other began found hsweeping => ?_, fun other began found hsweeping => ?_⟩
  · obtain ⟨old, hold, ⟨hsel, rfl⟩ | ⟨-, rfl⟩⟩ := mem_passUpdate.1 hnode
    · obtain ⟨-, seen, hseen, hlt⟩ := overdue_iff.1 hsel
      refine ⟨fun _ => rfl, fun _ found hfound => ?_, fun hdegraded => ?_⟩
      · obtain rfl : seen = found := Option.some.inj (hseen.symm.trans hfound)
        exact ⟨now, rfl, hlt⟩
      · cases hdegraded
    · exact (hswept.settled node hold).forward hpast
  · rcases sweeping_begin hsweeping with hown | hold
    · cases hown
      exact ⟨hdate, now, rfl, le_rfl⟩
    · obtain ⟨hvalid, -⟩ := hswept.begun other began found hold
      exact ⟨hvalid, now, rfl, (hswept.begun_le hold).trans hnow⟩
  · rcases sweeping_begin hsweeping with hown | hold
    · cases hown
      exact caught_offlinePass state.db
    · exact (hswept.caught other began found hold).pass (Or.inl rfl)

theorem degradedPass_keeps {swept : Option Time} {state : FleetState} {sweep returned : ℕ}
    {ids degraded : List Uuid} (hswept : Swept interval swept state)
    (hsweeping : state.sweeping sweep = some (now, ids)) {db : Database}
    (hpass : degradedPass interval now state.db = some (db, degraded)) :
    Swept interval swept { state with
      db := db
      sweeping := Function.update state.sweeping sweep none
      returned := some returned } := by
  obtain ⟨rfl, rfl⟩ := Prod.mk.inj (degradedPass_eq_some hpass)
  refine ⟨fun node hnode => ?_, hswept.past,
    fun other began found hother => hswept.begun other began found (sweeping_end hother),
    fun other began found hother => ?_⟩
  · obtain ⟨old, hold, ⟨hsel, rfl⟩ | ⟨-, rfl⟩⟩ := mem_passUpdate.1 hnode
    · obtain ⟨-, seen, hseen, hlt⟩ := overdue_iff.1 hsel
      refine ⟨fun hnone => ?_, fun hoffline => ?_, fun _ found hfound => ?_⟩
      · have hnone' : old.lastSeenAt = none := hnone
        rw [hseen] at hnone'
        cases hnone'
      · cases hoffline
      · obtain rfl : seen = found := Option.some.inj (hseen.symm.trans hfound)
        obtain ⟨-, began, hbegan, hle⟩ := hswept.begun sweep now ids hsweeping
        exact ⟨began, hbegan, hlt.trans_le (degradedBefore_mono hle)⟩
    · exact hswept.settled node hold
  · have hcaught := hswept.caught other began found (sweeping_end hother)
    refine hcaught.pass (Or.inr fun node honline hoffline => ?_)
    simp [isOnline, hoffline] at honline

/-! ## Runs -/

theorem write_eq_some {state next : FleetState} {time : Time} {result : Option Database}
    (hwrite : state.write time result = some next) :
    state.clock ≤ time ∧ ∃ db, result = some db ∧
      next = { state with db := db, clock := time, returned := none } := by
  unfold FleetState.write at hwrite
  split at hwrite
  case isTrue htime =>
    obtain ⟨db, hresult, hnext⟩ := Option.map_eq_some_iff.1 hwrite
    exact ⟨htime, db, hresult, hnext.symm⟩
  case isFalse => cases hwrite

theorem toOption_eq_some {Error Value : Type} {result : Except Error Value} {value : Value}
    (hresult : result.toOption = some value) : result = .ok value := by
  cases result with
  | error error => cases hresult
  | ok found => exact congrArg Except.ok (Option.some.inj hresult)

/-- A write moves the clock on, hears of nodes or adds one, and leaves a sweep that
is under way alone. -/
theorem fleetStep_write {state next : FleetState} {event : FleetEvent}
    (hwrite : event.isPass = false) (hstep : fleetStep interval state event = some next) :
    ∃ time db, state.clock ≤ time ∧
      next = { state with db := db, clock := time, returned := none } ∧
      ∀ node ∈ db.nodes.rows, (∃ old ∈ state.db.nodes.rows, Beats time old node) ∨
        node.status = .offline ∧ node.lastSeenAt = none := by
  cases event with
  | enroll time input orgId nodeName env =>
      obtain ⟨htime, db, hresult, hnext⟩ := write_eq_some hstep
      obtain ⟨-, -, -, hnodes, -⟩ := insertNode_spec (toOption_eq_some hresult)
      refine ⟨time, db, htime, hnext, fun node hnode => ?_⟩
      rw [hnodes, List.mem_append, List.mem_singleton] at hnode
      rcases hnode with hold | rfl
      · exact Or.inl ⟨node, hold, rfl, Or.inl rfl⟩
      · exact Or.inr ⟨rfl, rfl⟩
  | hello time orgId nodeId host =>
      obtain ⟨htime, db, hresult, hnext⟩ := write_eq_some hstep
      refine ⟨time, db, htime, hnext, fun node hnode => Or.inl ?_⟩
      exact markNodeOnline_beats (toOption_eq_some hresult) node hnode
  | samples time orgId nodeId samples =>
      obtain ⟨htime, db, hresult, hnext⟩ := write_eq_some hstep
      refine ⟨time, db, htime, hnext, fun node hnode => Or.inl ?_⟩
      exact recordSamples_beats (toOption_eq_some hresult) node hnode
  | sweepOffline sweep now => cases hwrite
  | sweepDegraded sweep => cases hwrite

theorem fleetStep_sweepOffline {state next : FleetState} {sweep : ℕ}
    (hstep : fleetStep interval state (.sweepOffline sweep now) = some next) :
    state.clock ≤ now ∧ |now| ≤ MAX_DATE ∧ ∃ db ids,
      offlinePass interval now state.db = some (db, ids) ∧
      next = ⟨db, now, Function.update state.sweeping sweep (some (now, ids)), none⟩ := by
  simp only [fleetStep] at hstep
  split at hstep
  case isTrue hguard =>
    obtain ⟨⟨db, ids⟩, hpass, hnext⟩ := Option.map_eq_some_iff.1 hstep
    exact ⟨hguard.1, hguard.2.1, db, ids, hpass, hnext.symm⟩
  case isFalse => cases hstep

theorem fleetStep_sweepDegraded {state next : FleetState} {sweep : ℕ}
    (hstep : fleetStep interval state (.sweepDegraded sweep) = some next) :
    ∃ now ids db degraded, state.sweeping sweep = some (now, ids) ∧
      degradedPass interval now state.db = some (db, degraded) ∧
      next = { state with
        db := db
        sweeping := Function.update state.sweeping sweep none
        returned := some (ids.length + degraded.length) } := by
  simp only [fleetStep, Option.bind_eq_some_iff, Option.map_eq_some_iff] at hstep
  obtain ⟨⟨now, ids⟩, hsweeping, ⟨db, degraded⟩, hpass, hnext⟩ := hstep
  exact ⟨now, ids, db, degraded, hsweeping, hpass, hnext.symm⟩

/-- The last sweep that has begun, after an event. -/
def FleetEvent.lastBegun (swept : Option Time) : FleetEvent → Option Time
  | .sweepOffline _ now => some now
  | _ => swept

theorem Swept.step (hinterval : 0 ≤ interval) {swept : Option Time} {state next : FleetState}
    {event : FleetEvent} (hswept : Swept interval swept state)
    (hstep : (fleetSystem interval).step state event = some next) :
    Swept interval (event.lastBegun swept) next := by
  have hwrite : event.isPass = false → Swept interval swept next := by
    intro hpass
    obtain ⟨time, db, htime, rfl, hrows⟩ := fleetStep_write hpass hstep
    exact heartbeat_keeps hinterval hswept htime hrows
  cases event with
  | enroll time input orgId nodeName env => exact hwrite rfl
  | hello time orgId nodeId host => exact hwrite rfl
  | samples time orgId nodeId samples => exact hwrite rfl
  | sweepOffline sweep now =>
      obtain ⟨hnow, hdate, db, ids, hpass, rfl⟩ := fleetStep_sweepOffline hstep
      exact offlinePass_keeps hswept hnow hdate sweep hpass
  | sweepDegraded sweep =>
      obtain ⟨now, ids, db, degraded, hsweeping, hpass, rfl⟩ := fleetStep_sweepDegraded hstep
      exact degradedPass_keeps hswept hsweeping hpass

/-- A sweep is under way only if it has begun. -/
theorem sweeping_step {state next : FleetState} {event : FleetEvent}
    (hquiet : ∀ sweep now, event ≠ .sweepOffline sweep now)
    (hstep : (fleetSystem interval).step state event = some next) {sweep : ℕ}
    {entry : Time × List Uuid} (hsweeping : next.sweeping sweep = some entry) :
    state.sweeping sweep = some entry := by
  have hwrite : event.isPass = false → state.sweeping sweep = some entry := by
    intro hpass
    obtain ⟨time, db, -, rfl, -⟩ := fleetStep_write hpass hstep
    exact hsweeping
  cases event with
  | enroll time input orgId nodeName env => exact hwrite rfl
  | hello time orgId nodeId host => exact hwrite rfl
  | samples time orgId nodeId samples => exact hwrite rfl
  | sweepOffline sweep now => exact absurd rfl (hquiet sweep now)
  | sweepDegraded other =>
      obtain ⟨now, ids, db, degraded, -, -, rfl⟩ := fleetStep_sweepDegraded hstep
      exact sweeping_end hsweeping

def sampleHost : HostColumns := ⟨"h", "linux", "amd64", "6.8", "0.1.0", 68719476736, 16⟩

def sampleFleet : FleetState :=
  { db := match Database.empty.insertOrganization ⟨"org_1", "Fleet", "fleet"⟩ with
      | .ok db => db
      | .error _ => .empty
    clock := 0
    sweeping := fun _ => none
    returned := none }

/-- A node is enrolled, says hello, and is then silent. -/
def silentNode : List FleetEvent :=
  [.enroll 0 ⟨"ABCD-2345", List.replicate 32 7, "node", sampleHost⟩ "org_1" "" ⟨0, none, 5, 0⟩,
    .hello 1000 "org_1" 5 sampleHost]

end ModelHub.ControlPlane
