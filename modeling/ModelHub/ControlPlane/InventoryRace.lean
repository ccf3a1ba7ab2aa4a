import ModelHub.ControlPlane.StreamReplay
import ModelHub.Foundations.Reconcile

/-!
# Two inventories at once

Nothing stops an old stream of a reconnected agent, so two transactions of `recordInventory`
can run at once for one node.  Here they interleave statement by statement, on the device
rows of the node, at READ COMMITTED (`overlapping`).

A transaction that nobody disturbs commits what `recordInventory` computes
(`recordInventory_alone`).  Two of them leave one of the reports, except if the delete of one
can start before the other has committed and still not have to wait for it
(`inventories_never_mix_iff`): then the rows that the other has inserted stay, next to those
of the report that came last.

Two random ids are taken to differ, and the rows of a node to be in its organization.
-/

namespace ModelHub.ControlPlane

open ModelHub.Core Db Replay ReadCommitted Transition

variable {orgId : String} {nodeId : Uuid} {db next : Database}

/-- The upsert of one known device, with its number in the loop. -/
def inventoryEntry (orgId : String) (nodeId : Uuid) (env : MessageEnv)
    (round : (String × DeviceFacts) × ℕ) : Entry String Device :=
  let proposed := proposedDevice orgId nodeId round.1 (env.newId round.2) env.createdAt
  { key := round.1.1
    valid := (firstError proposed.checks).isNone
    merged := fun row => (row.map (setFacts round.1.2)).getD proposed }

def inventoryEntries (orgId : String) (nodeId : Uuid) (reported : List DeviceReport)
    (env : MessageEnv) : List (Entry String Device) :=
  (knownDevices reported).zipIdx.map (inventoryEntry orgId nodeId env)

/-- The device rows of a node by their local ids. -/
def nodeDevices (db : Database) (nodeId : Uuid) : FinMap String Device where
  find := rowOf db nodeId
  keys := db.devices.rows.map Device.localId
  complete := by
    intro localId hsome
    obtain ⟨device, hrow⟩ := Option.isSome_iff_exists.1 hsome
    obtain ⟨hmem, -, hlocal⟩ := rowOf_eq_some.1 hrow
    exact List.mem_map.2 ⟨device, hmem, hlocal⟩

/-- Two `recordInventory` calls of one node before their first statements. -/
def overlapping (orgId : String) (nodeId : Uuid) (devices : FinMap String Device)
    (reported : Bool → List DeviceReport) (env : Bool → MessageEnv) : State Bool String Device :=
  start devices fun tx => inventoryEntries orgId nodeId (reported tx) (env tx)

def knownIds (reported : List DeviceReport) : Set String :=
  {localId | localId ∈ (knownDevices reported).map Prod.fst}

theorem map_key_inventoryEntries (reported : List DeviceReport) (env : MessageEnv) :
    (inventoryEntries orgId nodeId reported env).map Entry.key =
      (knownDevices reported).map Prod.fst := by
  calc (inventoryEntries orgId nodeId reported env).map Entry.key
      = (knownDevices reported).zipIdx.map (Prod.fst ∘ Prod.fst) := by
        rw [inventoryEntries, List.map_map]
        rfl
    _ = (knownDevices reported).map Prod.fst := by rw [← List.map_map, List.zipIdx_map_fst]

theorem keys_inventoryEntries (reported : List DeviceReport) (env : MessageEnv) :
    keys (inventoryEntries orgId nodeId reported env) = knownIds reported := by
  unfold keys knownIds
  rw [map_key_inventoryEntries]

/-! ## One of them alone -/

theorem upsertDevice_checks {device : Device} (hupsert : db.upsertDevice orgId device = .ok next) :
    firstError device.checks = none := by
  unfold Database.upsertDevice at hupsert
  split at hupsert
  · cases hupsert
  case h_2 hnone => exact hnone

theorem effects_upserts {env : MessageEnv} {rounds : List ((String × DeviceFacts) × ℕ)}
    (hreplay : replay (upsertKnown orgId nodeId env) rounds db = .ok next)
    (rest : List (Statement String Device)) :
    effects ((rounds.map (inventoryEntry orgId nodeId env)).map Entry.statement ++ rest)
      (rowOf db nodeId) = effects rest (rowOf next nodeId) := by
  induction rounds generalizing db with
  | nil =>
      cases hreplay
      rfl
  | cons round others ih =>
      obtain ⟨middle, hround, hrest⟩ := replay_cons.1 hreplay
      have hvalid := upsertDevice_checks (upsertKnown_ok hround)
      have hrow : rowOf middle nodeId = Function.update (rowOf db nodeId) round.1.1
          (some ((inventoryEntry orgId nodeId env round).merged (rowOf db nodeId round.1.1))) := by
        funext localId
        rw [upsertKnown_row hround, followUpsert]
        by_cases hlocal : round.1.1 = localId
        · rw [if_pos hlocal, ← hlocal, Function.update_self]
          rfl
        · rw [if_neg hlocal, Function.update_of_ne (Ne.symm hlocal)]
      rw [← ih hrest, hrow]
      simp [effects, Statement.effect, Entry.statement, inventoryEntry, hvalid]

/-- What the statements of `recordInventory` do to the rows of the node. -/
theorem effects_recordInventory {reported : List DeviceReport} {env : MessageEnv}
    (hown : OwnDevices orgId nodeId db)
    (hrecord : recordInventory orgId nodeId reported env db = .ok next) :
    effects (reconcile (inventoryEntries orgId nodeId reported env)) (rowOf db nodeId) =
      some (rowOf next nodeId) := by
  obtain ⟨middle, hupserts, rfl⟩ := recordInventory_eq_ok.1 hrecord
  have hmiddle : OwnDevices orgId nodeId middle :=
    replay_keeps _ (fun _ _ _ hown hround => own_upsertKnown hown hround) hown hupserts
  unfold reconcile remaining
  rw [map_key_inventoryEntries, inventoryEntries, effects_upserts hupserts]
  simp only [effects, Statement.effect, Option.bind_some, Option.some.injEq]
  funext localId
  unfold Database.deleteDevices
  show _ = Table.withKey (Table.delete _ _) (nodeId, localId)
  rw [Table.withKey_delete]
  cases hrow : rowOf middle nodeId localId with
  | none =>
      have hfound : middle.devices.withKey (nodeId, localId) = none := hrow
      rw [hfound]
      simp
  | some device =>
      have hfound : middle.devices.withKey (nodeId, localId) = some device := hrow
      obtain ⟨-, hnode, hlocal⟩ := rowOf_eq_some.1 hrow
      have horg := hmiddle.rowOf hrow
      rw [hfound]
      by_cases hmem : localId ∈ (knownDevices reported).map Prod.fst
      · simp [Option.filter, hmem, hlocal]
      · simp [Option.filter, hmem, hlocal, horg, hnode]

theorem recordInventory_alone {reported : List DeviceReport} {env : MessageEnv}
    (hown : OwnDevices orgId nodeId db)
    (hrecord : recordInventory orgId nodeId reported env db = .ok next)
    {state : State Bool String Device} {tx : Bool}
    (hprogress : state.progress tx =
      ⟨[], reconcile (inventoryEntries orgId nodeId reported env), false⟩)
    (hview : (state.store.view tx).find = rowOf db nodeId)
    (hfree : ∀ localId, state.store.Free tx localId) :
    (∃ labels final, (∀ label ∈ labels, label.1 = tx) ∧
        system.run state labels = some final ∧ (final.progress tx).committed) ∧
      ∀ labels final, (∀ label ∈ labels, label.1 = tx) → system.run state labels = some final →
        (final.progress tx).committed → final.store.committed.find = rowOf next nodeId := by
  have heffects := effects_recordInventory hown hrecord
  rw [← hview] at heffects
  constructor
  · obtain ⟨final, halone, hcommitted⟩ := exists_alone hprogress hfree (by rw [heffects]; rfl)
    obtain ⟨labels, hlabels, hrun⟩ := halone.exists_run
    exact ⟨labels, final, hlabels, hrun, hcommitted⟩
  · intro labels final hlabels hrun hcommitted
    have hcommits := (alone_of_run hlabels hrun).commits hprogress hcommitted
    rw [heffects] at hcommits
    exact (Option.some.inj hcommits).symm

/-- The first of the two to be handled, if the other waits, leaves what `recordInventory` does. -/
theorem overlapping_alone {reported : Bool → List DeviceReport} {env : Bool → MessageEnv} {tx : Bool}
    (hown : OwnDevices orgId nodeId db)
    (hrecord : recordInventory orgId nodeId (reported tx) (env tx) db = .ok next) :
    ∃ labels final,
      system.run (overlapping orgId nodeId (nodeDevices db nodeId) reported env) labels =
        some final ∧ (final.progress tx).committed ∧
      final.store.committed.find = rowOf next nodeId := by
  have hfree : ∀ localId, (overlapping orgId nodeId (nodeDevices db nodeId) reported env).store.Free
      tx localId := fun _ _ _ => rfl
  obtain ⟨⟨labels, final, hlabels, hrun, hcommitted⟩, hcommits⟩ :=
    recordInventory_alone hown hrecord rfl rfl hfree
  exact ⟨labels, final, hrun, hcommitted, hcommits labels final hlabels hrun hcommitted⟩

/-! ## Both -/

/-- The values of the reported devices fit their columns. -/
def StorableReport (orgId : String) (reported : List DeviceReport) : Prop :=
  textError orgId = none ∧ AgentMessage.Fits (.inventory reported)

/-- `second` can overlook rows that `first` inserts: it has no device in common with `first`
or with the table, and what it overlooks does not happen to be all that is left. -/
structure Overlooks (orgId : String) (stored : Set String) (first second : List DeviceReport) :
    Prop where
  storable_first : StorableReport orgId first
  storable_second : StorableReport orgId second
  apart : ∀ localId ∈ knownIds second, localId ∉ knownIds first ∪ stored
  inserts : (knownIds first \ stored).Nonempty
  leaves : (knownIds second).Nonempty ∨ (knownIds first ∩ stored).Nonempty

theorem inventoryEntry_valid {env : MessageEnv} {round : (String × DeviceFacts) × ℕ} :
    (inventoryEntry orgId nodeId env round).valid ↔ (∀ check ∈ round.1.2.checks, check = none) ∧
      textError orgId = none ∧ textError round.1.1 = none := by
  rw [inventoryEntry, Option.isNone_iff_eq_none, firstError_eq_none]
  simp only [proposedDevice, Device.checks, List.forall_mem_append, List.forall_mem_cons,
    List.not_mem_nil, false_imp_iff, implies_true, and_true]
  exact and_comm

theorem valid_inventoryEntries {reported : List DeviceReport} {env : MessageEnv} :
    (∀ entry ∈ inventoryEntries orgId nodeId reported env, entry.valid) ↔
      (knownDevices reported = [] ∨ textError orgId = none) ∧
        AgentMessage.Fits (.inventory reported) := by
  unfold inventoryEntries
  rw [List.forall_mem_map]
  simp only [inventoryEntry_valid]
  constructor
  · intro hall
    have hdevice : ∀ device ∈ knownDevices reported, (∀ check ∈ device.2.checks, check = none) ∧
        textError orgId = none ∧ textError device.1 = none := by
      intro device hmem
      rw [← List.zipIdx_map_fst 0 (knownDevices reported)] at hmem
      obtain ⟨round, hround, rfl⟩ := List.mem_map.1 hmem
      exact hall round hround
    refine ⟨?_, fun device hmem => ⟨(hdevice device hmem).1, (hdevice device hmem).2.2⟩⟩
    rcases List.eq_nil_or_concat (knownDevices reported) with hnil | ⟨rest, device, hsplit⟩
    · exact Or.inl hnil
    · exact Or.inr (hdevice device (by simp [hsplit])).2.1
  · rintro ⟨horg, hfits⟩ round hround
    have hmem := List.fst_mem_of_mem_zipIdx hround
    have hdevice := hfits round.1 hmem
    refine ⟨hdevice.1, horg.resolve_left ?_, hdevice.2⟩
    exact List.ne_nil_of_mem hmem

theorem canMix_iff {stored : Set String} {reported : Bool → List DeviceReport}
    {env : Bool → MessageEnv} {first : Bool} :
    CanMix stored (inventoryEntries orgId nodeId (reported first) (env first))
        (inventoryEntries orgId nodeId (reported !first) (env !first)) ↔
      Overlooks orgId stored (reported first) (reported !first) := by
  constructor
  · rintro ⟨hfirst, hsecond, hapart, hinserts, hleaves⟩
    simp only [keys_inventoryEntries] at hapart hinserts hleaves
    rw [valid_inventoryEntries] at hfirst hsecond
    have hknown := hinserts.mono Set.sdiff_subset
    obtain ⟨localId, hlocal⟩ := hknown
    obtain ⟨device, hmem, -⟩ := List.mem_map.1 (show localId ∈ (knownDevices _).map _ from hlocal)
    have horg := hfirst.1.resolve_left (List.ne_nil_of_mem hmem)
    exact ⟨⟨horg, hfirst.2⟩, ⟨horg, hsecond.2⟩, hapart, hinserts, hleaves⟩
  · rintro ⟨hfirst, hsecond, hapart, hinserts, hleaves⟩
    refine ⟨valid_inventoryEntries.2 ⟨Or.inr hfirst.1, hfirst.2⟩,
      valid_inventoryEntries.2 ⟨Or.inr hsecond.1, hsecond.2⟩, ?_, ?_, ?_⟩
    · rwa [keys_inventoryEntries, keys_inventoryEntries]
    · rwa [keys_inventoryEntries]
    · rwa [keys_inventoryEntries, keys_inventoryEntries]

/-- Two inventories at once never mix, but for reports that can overlook each other's rows. -/
theorem inventories_never_mix_iff (orgId : String) (nodeId : Uuid) (devices : FinMap String Device)
    (reported : Bool → List DeviceReport) (env : Bool → MessageEnv) :
    (∀ labels final, system.run (overlapping orgId nodeId devices reported env) labels =
        some final → Finished final →
      ∃ winner, final.store.committed.domain = knownIds (reported winner)) ↔
    ∀ first, ¬ Overlooks orgId devices.domain (reported first) (reported !first) := by
  have hiff := @never_mixed_iff _ _ _ (fun tx => inventoryEntries orgId nodeId (reported tx) (env tx))
    devices
  simp only [keys_inventoryEntries, canMix_iff] at hiff
  exact hiff

/-! ## Two reports of different cards -/

/-- One report has the first card, the other the second. -/
def sampleCards (tx : Bool) : List DeviceReport :=
  [⟨if tx then "GPU-1" else "GPU-2", 2, 0, "A", 1024, "550", "8.9", 0⟩]

/-- Each makes its upsert, and starts to delete before the other has committed. -/
def sampleOverlap : List (Bool × ReadCommitted.Move String) :=
  [(true, .next), (true, .next), (false, .next), (false, .next), (true, .commit), (false, .commit)]

theorem inventories_mixed :
    ¬ ∀ orgId nodeId devices reported env labels final,
      system.run (overlapping orgId nodeId devices reported env) labels = some final →
      Finished final → ∃ winner, final.store.committed.domain = knownIds (reported winner) := by
  intro hclaim
  have hends : ((system.run (overlapping "org_1" 5 .empty sampleCards
      fun tx => ⟨0, 0, fun place => BitVec.ofNat 128 (place + if tx then 9 else 8)⟩)
        sampleOverlap).map fun final => ((final.progress true).committed,
          (final.progress false).committed, (final.store.committed.find "GPU-1").isSome,
          (final.store.committed.find "GPU-2").isSome)) = some (true, true, true, true) := by
    decide +kernel
  obtain ⟨final, hrun, hfinal⟩ := Option.map_eq_some_iff.1 hends
  simp only [Prod.mk.injEq] at hfinal
  obtain ⟨htrue, hfalse, hone, htwo⟩ := hfinal
  obtain ⟨winner, hwinner⟩ := hclaim _ _ _ _ _ _ _ hrun (Bool.rec hfalse htrue)
  -- one of the two cards is in neither report alone
  cases winner with
  | true =>
      have hmem : "GPU-2" ∈ knownIds (sampleCards true) := hwinner ▸ htwo
      have hnot : "GPU-2" ∉ (knownDevices (sampleCards true)).map Prod.fst := by decide +kernel
      exact hnot hmem
  | false =>
      have hmem : "GPU-1" ∈ knownIds (sampleCards false) := hwinner ▸ hone
      have hnot : "GPU-1" ∉ (knownDevices (sampleCards false)).map Prod.fst := by decide +kernel
      exact hnot hmem

end ModelHub.ControlPlane
