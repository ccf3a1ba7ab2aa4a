import ModelHub.Agent.Session
import ModelHub.ControlPlane.StreamReplay

/-!
# A batch with a sample that cannot be stored

The wire carries numbers that the columns do not: a `uint64` may exceed a bigint, a time may
lie outside the years of a timestamp.  `recordSamples` stores a batch and refreshes the node in one
transaction, so one such sample takes the others and the heartbeat with it.

Whether a sample can be stored does not depend on the database (`applySample_isOk_iff`).  So
a batch is heard, all of it, exactly if each of its samples can be stored
(`recordSamples_hears_iff`).  The agent does send others: `cpuProbe.Sample` subtracts without
a check, and the difference wraps (`storable_cpuSample_iff`).
-/

namespace ModelHub.ControlPlane

open Db Replay

variable {orgId : String} {nodeId : Uuid} {db next : Database} {sample : DeviceSample}
  {samples : List DeviceSample} {now : Time}

/-! ## One sample -/

/-- The sample fits its columns: its time is from the year 1 to the year 9999. -/
structure Storable (sample : DeviceSample) : Prop where
  used : sample.usedBytes.toNat < 2 ^ 63
  managed : sample.managedBytes.toNat < 2 ^ 63
  date : -62135596800000 ≤ sample.sampledAtUnixMs.toInt ∧
    sample.sampledAtUnixMs.toInt ≤ 253402300799999
  text : Char.ofNat 0 ∉ sample.localId.toList

theorem bigintError_natCast {n : ℕ} : bigintError n = none ↔ n < 2 ^ 63 := by
  unfold bigintError
  split
  · simp only [true_iff]
    omega
  · simp only [reduceCtorEq, false_iff, not_lt]
    omega

theorem textError_eq_none {value : String} :
    textError value = none ↔ Char.ofNat 0 ∉ value.toList := by
  simp [textError]

theorem Storable.sampledAt (hstorable : Storable sample) :
    ControlPlane.sampledAt sample = some sample.sampledAtUnixMs.toInt := by
  obtain ⟨hlow, hhigh⟩ := hstorable.date
  rw [sampledAt_eq_some]
  refine ⟨abs_le.2 ⟨?_, ?_⟩, rfl⟩
  · norm_num [JavaScript.MAX_DATE]
    omega
  · norm_num [JavaScript.MAX_DATE]
    omega

theorem applySample_isOk_iff :
    (∃ next, applySample orgId nodeId sample db = .ok next) ↔ Storable sample := by
  simp only [applySample_eq_ok, firstError_eq_none, LastSample.checks, sampleColumns,
    Option.bind_some, List.cons_append, List.nil_append, List.forall_mem_cons, List.not_mem_nil,
    false_imp_iff, implies_true, and_true, bigintError_natCast, timestampError_eq_none,
    textError_eq_none]
  constructor
  · rintro ⟨next, date, hdate, ⟨hused, hmanaged, hyears, htext⟩, -⟩
    obtain ⟨-, rfl⟩ := sampledAt_eq_some.1 hdate
    exact ⟨hused, hmanaged, hyears, htext⟩
  · intro hstorable
    exact ⟨_, _, hstorable.sampledAt,
      ⟨hstorable.used, hstorable.managed, hstorable.date, hstorable.text⟩, rfl⟩

theorem recordSamples_isOk_iff :
    (∃ next, recordSamples orgId nodeId samples now db = .ok next) ↔
      ∀ sample ∈ samples, Storable sample := by
  rw [← replay_isOk_iff (fun sample db => @applySample_isOk_iff orgId nodeId db sample)]
  constructor
  · rintro ⟨next, hrecord⟩
    obtain ⟨middle, hmiddle, -⟩ := recordSamples_eq_ok.1 hrecord
    exact ⟨middle, hmiddle⟩
  · rintro ⟨middle, hmiddle⟩
    exact ⟨_, recordSamples_eq_ok.2 ⟨middle, hmiddle, rfl⟩⟩

/-! ## The batch -/

/-- The database after the call: a transaction that throws is rolled back. -/
def afterSamples (orgId : String) (nodeId : Uuid) (samples : List DeviceSample) (now : Time)
    (db : Database) : Database :=
  match recordSamples orgId nodeId samples now db with
  | .ok next => next
  | .error _ => db

/-- Every device holds its last sample that can be stored, and the node was seen. -/
structure Hears (nodeId : Uuid) (samples : List DeviceSample) (now : Time)
    (db next : Database) : Prop where
  devices : ∀ before sample after device, samples = before ++ sample :: after →
    rowOf db nodeId sample.localId = some device → Storable sample →
    (∀ later ∈ after, later.localId = sample.localId → ¬ Storable later) →
    ∃ date, sampledAt sample = some date ∧
      rowOf next nodeId sample.localId = some (setLast (sampleColumns sample date) device)
  node : ∃ node ∈ next.nodes.rows,
    node.id = nodeId ∧ node.lastSeenAt = some now ∧ node.status = .online

theorem sampleReports_last {before after : List DeviceSample} {date : Time}
    (hdate : sampledAt sample = some date)
    (hlast : ∀ later ∈ after, later.localId ≠ sample.localId) :
    (sampleReports sample.localId (.samples (before ++ sample :: after))).getLast? =
      some (sampleColumns sample date) := by
  have hafter : sampleReports sample.localId (.samples after) = [] := by
    refine List.filterMap_eq_nil_iff.2 fun later hlater => ?_
    rw [if_neg (hlast later hlater)]
  have hown : sampleReports sample.localId (.samples [sample]) = [sampleColumns sample date] := by
    simp [sampleReports, hdate]
  have hsplit : sampleReports sample.localId (.samples (before ++ sample :: after)) =
      sampleReports sample.localId (.samples before) ++ [sampleColumns sample date] := by
    calc sampleReports sample.localId (.samples (before ++ sample :: after))
        = sampleReports sample.localId (.samples before) ++
            sampleReports sample.localId (.samples (sample :: after)) := List.filterMap_append
      _ = sampleReports sample.localId (.samples before) ++ [sampleColumns sample date] := by
        rw [sampleReports_cons, hown, hafter, List.append_nil]
  rw [hsplit, List.getLast?_concat]

theorem recordSamples_node (hnode : HasNode orgId nodeId db)
    (hrecord : recordSamples orgId nodeId samples now db = .ok next) :
    ∃ node ∈ next.nodes.rows, node.id = nodeId ∧ node.lastSeenAt = some now ∧
      node.status = .online := by
  obtain ⟨middle, hsamples, rfl⟩ := recordSamples_eq_ok.1 hrecord
  obtain ⟨node, hmem, hid, horg⟩ := hnode
  rw [← applySamples_nodes hsamples] at hmem
  refine ⟨_, mem_updateNodes.2 ⟨node, hmem, rfl⟩, ?_⟩
  rw [Table.rewrite_of_sel (by simp [hid, horg])]
  exact ⟨hid, rfl, rfl⟩

theorem recordSamples_hears (hown : OwnDevices orgId nodeId db) (hnode : HasNode orgId nodeId db)
    (hall : ∀ sample ∈ samples, Storable sample)
    (hrecord : recordSamples orgId nodeId samples now db = .ok next) :
    Hears nodeId samples now db next := by
  refine ⟨?_, recordSamples_node hnode hrecord⟩
  rintro before sample after device rfl hrow hstorable hlater
  have hdate := hstorable.sampledAt
  -- every later sample can be stored, so none is of this device
  have hlast : ∀ later ∈ after, later.localId ≠ sample.localId := by
    intro later hmem hsame
    exact hlater later hmem hsame (hall later (by simp [hmem]))
  obtain ⟨middle, hsamples, rfl⟩ := recordSamples_eq_ok.1 hrecord
  refine ⟨_, hdate, ?_⟩
  have hfinal := @applySamples_row _ _ sample.localId _ _ _ hown hsamples
  rw [hrow, Option.map_some, sampleReports_last hdate hlast] at hfinal
  exact hfinal

/-- A batch is heard, at any time, exactly if each of its samples can be stored. -/
theorem recordSamples_hears_iff {orgId : String} {nodeId : Uuid} {db : Database}
    (samples : List DeviceSample) (hown : OwnDevices orgId nodeId db)
    (hnode : HasNode orgId nodeId db) :
    (∀ now, Hears nodeId samples now db (afterSamples orgId nodeId samples now db)) ↔
      ∀ sample ∈ samples, Storable sample := by
  constructor
  · intro hhears
    by_contra hnot
    -- nothing is written, whatever the clock shows
    have hafter : ∀ now, afterSamples orgId nodeId samples now db = db := by
      intro now
      unfold afterSamples
      split
      case h_1 next hrecord => exact absurd (recordSamples_isOk_iff.1 ⟨next, hrecord⟩) hnot
      case h_2 => rfl
    have hseen : ∀ now, ∃ node ∈ db.nodes.rows, node.id = nodeId ∧ node.lastSeenAt = some now := by
      intro now
      obtain ⟨node, hmem, hid, hlast, -⟩ := (hhears now).node
      rw [hafter] at hmem
      exact ⟨node, hmem, hid, hlast⟩
    obtain ⟨first, hfirst, hid, hone⟩ := hseen 0
    obtain ⟨second, hsecond, hsame, htwo⟩ := hseen 1
    have hboth : first = second := Table.eq_of_id hfirst hsecond (hid.trans hsame.symm)
    rw [hboth, htwo] at hone
    cases hone
  · intro hall now
    obtain ⟨next, hrecord⟩ := (@recordSamples_isOk_iff orgId nodeId db samples now).2 hall
    have hafter : afterSamples orgId nodeId samples now db = next := by
      unfold afterSamples
      rw [hrecord]
    rw [hafter]
    exact recordSamples_hears hown hnode hall hrecord

/-! ## The processor's sample -/

/-- What the memory probe reads can be stored if the difference does not wrap, and stays a
bigint. -/
theorem storable_cpuSample_iff {d : Agent.Device} {total available utilization : UInt64}
    {time : Int64} (hdate : -62135596800000 ≤ time.toInt ∧ time.toInt ≤ 253402300799999)
    (htext : Char.ofNat 0 ∉ d.localID.toList) :
    Storable (Agent.sampleProto (Agent.cpuSample d total available utilization time)) ↔
      (total - available).toNat < 2 ^ 63 := by
  constructor
  · intro hstorable
    exact hstorable.used
  · intro hused
    have hmanaged : (0 : UInt64).toNat < 2 ^ 63 := by decide
    exact ⟨hused, hmanaged, hdate, htext⟩

/-- A little more memory available than there is. -/
theorem not_storable_cpuSample {d : Agent.Device} {total available utilization : UInt64}
    {time : Int64} (hmore : total.toNat < available.toNat)
    (hless : available.toNat - total.toNat ≤ 2 ^ 63) :
    ¬ Storable (Agent.sampleProto (Agent.cpuSample d total available utilization time)) := by
  intro hstorable
  have hused : (total - available).toNat < 2 ^ 63 := hstorable.used
  have htotal := total.toNat_lt
  have havailable := available.toNat_lt
  rw [UInt64.toNat_sub] at hused
  omega

/-! ## Two cards and a processor -/

def rackReport : List DeviceReport :=
  [⟨"cpu:0", 1, 0, "amd64 CPU", 68719476736, "", "", 0⟩, ⟨"GPU-1", 2, 0, "A", 1024, "550", "8.9", 0⟩,
    ⟨"GPU-2", 2, 1, "B", 2048, "550", "8.9", 0⟩]

/-- The node of the sample rack, with its devices. -/
def fullRack : Database :=
  (recordInventory "org_1" 5 rackReport ⟨1000, 1000, fun place => BitVec.ofNat 128 (place + 9)⟩
    sampleRack).toOption.getD sampleRack

def cardSample : DeviceSample := ⟨"GPU-1", 512, 0, 0, 1, 1500⟩

def cpu0 : Agent.Device := ⟨"cpu:0", Agent.KindCPU, 0, "amd64 CPU", 68719476736, 0, "", ""⟩

/-- Of 64 GiB, a page more than all is available. -/
def wrappedSample : DeviceSample :=
  Agent.sampleProto (Agent.cpuSample cpu0 68719476736 68719480832 0 1500)

theorem fullRack_own : OwnDevices "org_1" 5 fullRack := by
  unfold OwnDevices
  decide +kernel

theorem fullRack_node : HasNode "org_1" 5 fullRack := by
  unfold HasNode
  decide +kernel

/-- The reading of the card is lost with the other. -/
theorem recordSamples_silences :
    ¬ ∀ orgId nodeId db samples now, OwnDevices orgId nodeId db → HasNode orgId nodeId db →
      Hears nodeId samples now db (afterSamples orgId nodeId samples now db) := by
  intro hclaim
  have hhears := hclaim "org_1" 5 fullRack [cardSample, wrappedSample] 1600
    fullRack_own fullRack_node
  obtain ⟨node, hnode, -, hseen, -⟩ := hhears.node
  have hold : (afterSamples "org_1" 5 [cardSample, wrappedSample] 1600 fullRack).nodes.rows.map
      Node.lastSeenAt = [some 0] := by
    decide +kernel
  have hmem := List.mem_map_of_mem (f := Node.lastSeenAt) hnode
  rw [hold, hseen] at hmem
  simp at hmem

/-- All three are sampled, the first card twice, and a card that the rack does not have. -/
def rackSamples : List DeviceSample :=
  [⟨"cpu:0", 1073741824, 0, 0, 2, 1400⟩, cardSample, ⟨"GPU-2", 1024, 256, 0, 0, 1500⟩,
    ⟨"GPU-9", 1, 1, 0, 3, 1500⟩, ⟨"GPU-1", 768, 128, 0, 3, -62135596800000⟩]

theorem recordSamples_hears_card :
    Hears 5 rackSamples 1600 fullRack (afterSamples "org_1" 5 rackSamples 1600 fullRack) := by
  refine (recordSamples_hears_iff rackSamples fullRack_own fullRack_node).2 ?_ 1600
  intro sample hsample
  have hall : ∀ sample ∈ rackSamples, sample.usedBytes.toNat < 2 ^ 63 ∧
      sample.managedBytes.toNat < 2 ^ 63 ∧ (-62135596800000 ≤ sample.sampledAtUnixMs.toInt ∧
        sample.sampledAtUnixMs.toInt ≤ 253402300799999) ∧
      Char.ofNat 0 ∉ sample.localId.toList := by
    decide +kernel
  obtain ⟨hused, hmanaged, hdate, htext⟩ := hall sample hsample
  exact ⟨hused, hmanaged, hdate, htext⟩

end ModelHub.ControlPlane
