import ModelHub.Agent.Identity
import ModelHub.Foundations.Replay
import Mathlib.Data.List.Nodup

/-!
# Discovering and sampling devices

`agent/internal/inventory/inventory.go`.  A probe is known by its identity only; what its
`Discover` returns is an argument of `collect`, and what its `Sample` returns for a device
is an argument of each round of samples.

The map from local ids to probes has exactly the devices of the inventory as its keys, so
the lookup in `sampleAll` never misses.  Both facts an inventory owes (no local id twice,
an owner for every device) are its fields; `calls_collect` says whom each device belongs to.
-/

namespace ModelHub.Agent

open Replay

/-! ## Devices and samples -/

abbrev Kind := String

def KindCPU : Kind := "cpu"

def KindCUDA : Kind := "cuda"

def KindMetal : Kind := "metal"

abbrev Pressure := String

def PressureNormal : Pressure := "normal"

def PressureWarn : Pressure := "warn"

def PressureCritical : Pressure := "critical"

structure Device where
  localID : String
  kind : Kind
  index : Int64
  name : String
  totalBytes : UInt64
  wiredLimitBytes : UInt64
  driverVersion : String
  computeCapability : String
  deriving DecidableEq, Repr

/-- A sample, without the two readings that nobody stores. -/
structure Sample where
  localID : String
  usedBytes : UInt64
  managedBytes : UInt64
  /-- The bits of a double. -/
  utilization : UInt64
  pressure : Pressure
  /-- In Unix milliseconds. -/
  sampledAt : Int64
  deriving DecidableEq, Repr

/-- `cpuProbe.Sample` of `probe_cpu.go`, for what `mem.VirtualMemory` says; nothing checks that
there is no more memory available than there is. -/
def cpuSample (d : Device) (total available utilization : UInt64) (now : Int64) : Sample where
  localID := d.localID
  usedBytes := total - available
  managedBytes := 0
  utilization := utilization
  pressure := PressureNormal
  sampledAt := now

/-! ## Inventories -/

/-- What a probe's `Discover` returns. -/
structure Discovery (Probe : Type) where
  probe : Probe
  name : String
  devices : Except GoError (List Device)

inductive CollectError where
  /-- "probe %s: %w" -/
  | discover (probe : String) (error : GoError)
  /-- "probe %s produced duplicate device id %q" -/
  | duplicate (probe localID : String)
  deriving DecidableEq, Repr

/-- One discovery pass: the devices found and the probe that owns each. -/
structure Inventory (Probe : Type) where
  devices : List Device
  owner : String → Option Probe
  nodup : (devices.map Device.localID).Nodup
  owned : ∀ localID, (owner localID).isSome ↔ localID ∈ devices.map Device.localID

variable {Probe : Type} {discovery : Discovery Probe} {inv next : Inventory Probe} {d : Device}

def Inventory.empty : Inventory Probe where
  devices := []
  owner := fun _ => none
  nodup := List.nodup_nil
  owned := by simp

/-- One round of the inner loop of `Collect`. -/
def addDevice (discovery : Discovery Probe) (d : Device) (inv : Inventory Probe) :
    Except CollectError (Inventory Probe) :=
  if hdup : (inv.owner d.localID).isSome then .error (.duplicate discovery.name d.localID)
  else .ok {
    devices := inv.devices ++ [d]
    owner := Function.update inv.owner d.localID (some discovery.probe)
    nodup := by
      rw [inv.owned] at hdup
      rw [List.map_append, List.map_singleton, List.nodup_append]
      refine ⟨inv.nodup, List.nodup_singleton _, ?_⟩
      intro found hfound other hother hsame
      rw [List.mem_singleton.1 hother] at hsame
      exact hdup (hsame ▸ hfound)
    owned := by
      intro localID
      rw [List.map_append, List.map_singleton, List.mem_append, List.mem_singleton, ← inv.owned]
      by_cases hlocal : localID = d.localID
      · subst hlocal
        simp
      · rw [Function.update_of_ne hlocal]
        simp [hlocal] }

def collectProbe (discovery : Discovery Probe) (inv : Inventory Probe) :
    Except CollectError (Inventory Probe) :=
  match discovery.devices with
  | .error error => .error (.discover discovery.name error)
  | .ok devices => replay (addDevice discovery) devices inv

/-- Fails if any probe fails to discover, or two report the same local id. -/
def collect (discoveries : List (Discovery Probe)) : Except CollectError (Inventory Probe) :=
  replay collectProbe discoveries .empty

namespace Inventory

/-- What the probes' `Sample` returns in one round. -/
abbrev Sampler (Probe : Type) := Probe → Device → Except GoError Sample

/-- Samples every device; one that fails to sample is skipped. -/
def sampleAll (sample : Sampler Probe) (inv : Inventory Probe) : List Sample :=
  inv.devices.filterMap fun d =>
    (inv.owner d.localID).bind fun probe => (sample probe d).toOption

/-- The calls of `Sample` that `sampleAll` makes, in order. -/
def calls (inv : Inventory Probe) : List (Probe × Device) :=
  inv.devices.filterMap fun d => (inv.owner d.localID).map fun probe => (probe, d)

theorem sampleAll_eq (sample : Sampler Probe) (inv : Inventory Probe) :
    inv.sampleAll sample = inv.calls.filterMap fun call => (sample call.1 call.2).toOption := by
  unfold sampleAll calls
  rw [List.filterMap_filterMap]
  apply List.filterMap_congr
  intro d _
  cases inv.owner d.localID <;> rfl

/-- Every device is asked, once. -/
theorem calls_devices (inv : Inventory Probe) : inv.calls.map Prod.snd = inv.devices := by
  unfold calls
  rw [List.map_filterMap]
  have hall : ∀ d ∈ inv.devices,
      (((inv.owner d.localID).map fun probe => (probe, d)).map Prod.snd) = some d := by
    intro d hd
    obtain ⟨probe, hprobe⟩ := Option.isSome_iff_exists.1
      ((inv.owned d.localID).2 (List.mem_map_of_mem hd))
    rw [hprobe]
    rfl
  rw [List.filterMap_congr hall]
  exact List.filterMap_some

end Inventory

open Inventory

/-! ## One device -/

theorem addDevice_ok (hadd : addDevice discovery d inv = .ok next) :
    next.devices = inv.devices ++ [d] ∧ next.calls = inv.calls ++ [(discovery.probe, d)] := by
  unfold addDevice at hadd
  split at hadd
  case isTrue => cases hadd
  case isFalse hnew =>
    cases hadd
    refine ⟨rfl, ?_⟩
    have hold : ∀ other ∈ inv.devices,
        (Function.update inv.owner d.localID (some discovery.probe) other.localID) =
          inv.owner other.localID := by
      intro other hother
      apply Function.update_of_ne
      intro hsame
      exact hnew ((inv.owned d.localID).2 (hsame ▸ List.mem_map_of_mem hother))
    simp only [calls, List.filterMap_append, List.filterMap_cons, List.filterMap_nil,
      Function.update_self, Option.map_some]
    congr 1
    apply List.filterMap_congr
    intro other hother
    rw [hold other hother]

theorem addDevice_isOk :
    (∃ next, addDevice discovery d inv = .ok next) ↔ d.localID ∉ inv.devices.map Device.localID := by
  rw [← inv.owned]
  unfold addDevice
  by_cases hdup : (inv.owner d.localID).isSome <;> simp [hdup]

/-! ## One probe -/

theorem addDevices_ok {devices : List Device}
    (hadd : replay (addDevice discovery) devices inv = .ok next) :
    next.devices = inv.devices ++ devices ∧
      next.calls = inv.calls ++ devices.map fun d => (discovery.probe, d) := by
  induction devices generalizing inv with
  | nil =>
      cases hadd
      simp
  | cons d rest ih =>
      obtain ⟨middle, hfirst, hrest⟩ := replay_cons.1 hadd
      obtain ⟨hdevices, hcalls⟩ := addDevice_ok hfirst
      obtain ⟨hdevices', hcalls'⟩ := ih hrest
      rw [hdevices', hdevices, hcalls', hcalls]
      simp

theorem addDevices_isOk {devices : List Device} :
    (∃ next, replay (addDevice discovery) devices inv = .ok next) ↔
      ((inv.devices ++ devices).map Device.localID).Nodup := by
  induction devices generalizing inv with
  | nil => simpa using inv.nodup
  | cons d rest ih =>
      have hassoc : inv.devices ++ d :: rest = inv.devices ++ [d] ++ rest := by simp
      constructor
      · rintro ⟨next, hreplay⟩
        obtain ⟨middle, hfirst, hrest⟩ := replay_cons.1 hreplay
        rw [hassoc, ← (addDevice_ok hfirst).1]
        exact ih.1 ⟨next, hrest⟩
      · intro hnodup
        have hnew : d.localID ∉ inv.devices.map Device.localID := by
          rw [List.map_append, List.map_cons, List.nodup_append] at hnodup
          intro hmem
          exact hnodup.2.2 _ hmem _ List.mem_cons_self rfl
        obtain ⟨middle, hfirst⟩ := (@addDevice_isOk _ discovery _ _).2 hnew
        rw [hassoc, ← (addDevice_ok hfirst).1] at hnodup
        obtain ⟨next, hrest⟩ := ih.2 hnodup
        exact ⟨next, replay_cons.2 ⟨middle, hfirst, hrest⟩⟩

/-! ## All probes -/

/-- The devices that were found, each with the probe that found it. -/
def discovered (discoveries : List (Discovery Probe)) : List (Probe × Device) :=
  discoveries.flatMap fun discovery =>
    ((discovery.devices.toOption).getD []).map fun d => (discovery.probe, d)

theorem discovered_cons_ok {rest : List (Discovery Probe)} {devices : List Device}
    (hdevices : discovery.devices = .ok devices) :
    discovered (discovery :: rest) =
      (devices.map fun d => (discovery.probe, d)) ++ discovered rest := by
  simp [discovered, hdevices, Except.toOption]

theorem collectProbe_eq_ok :
    collectProbe discovery inv = .ok next ↔
      ∃ devices, discovery.devices = .ok devices ∧
        replay (addDevice discovery) devices inv = .ok next := by
  unfold collectProbe
  cases discovery.devices with
  | error error => simp
  | ok devices => simp

theorem collectProbes_calls {discoveries : List (Discovery Probe)}
    (hcollect : replay collectProbe discoveries inv = .ok next) :
    next.calls = inv.calls ++ discovered discoveries := by
  induction discoveries generalizing inv with
  | nil =>
      cases hcollect
      simp [discovered]
  | cons discovery rest ih =>
      obtain ⟨middle, hfirst, hrest⟩ := replay_cons.1 hcollect
      obtain ⟨devices, hdevices, hadd⟩ := collectProbe_eq_ok.1 hfirst
      rw [ih hrest, (addDevices_ok hadd).2, discovered_cons_ok hdevices, List.append_assoc]

theorem collectProbes_isOk {discoveries : List (Discovery Probe)} :
    (∃ next, replay collectProbe discoveries inv = .ok next) ↔
      (∀ discovery ∈ discoveries, ∃ devices, discovery.devices = .ok devices) ∧
        ((inv.devices ++ (discovered discoveries).map Prod.snd).map Device.localID).Nodup := by
  induction discoveries generalizing inv with
  | nil => simpa [discovered] using inv.nodup
  | cons discovery rest ih =>
      have hdevices : ∀ {devices}, discovery.devices = .ok devices →
          inv.devices ++ (discovered (discovery :: rest)).map Prod.snd =
            inv.devices ++ devices ++ (discovered rest).map Prod.snd := by
        intro devices hok
        rw [discovered_cons_ok hok, List.map_append, List.map_map, List.append_assoc]
        simp [Function.comp_def]
      constructor
      · rintro ⟨next, hreplay⟩
        obtain ⟨middle, hfirst, hrest⟩ := replay_cons.1 hreplay
        obtain ⟨devices, hok, hadd⟩ := collectProbe_eq_ok.1 hfirst
        obtain ⟨hall, hnodup⟩ := ih.1 ⟨next, hrest⟩
        rw [(addDevices_ok hadd).1] at hnodup
        rw [hdevices hok]
        exact ⟨List.forall_mem_cons.2 ⟨⟨devices, hok⟩, hall⟩, hnodup⟩
      · rintro ⟨hall, hnodup⟩
        obtain ⟨⟨devices, hok⟩, hrest⟩ := List.forall_mem_cons.1 hall
        rw [hdevices hok] at hnodup
        obtain ⟨middle, hadd⟩ := (@addDevices_isOk _ discovery _ _).2 (by
          rw [List.map_append] at hnodup
          exact (List.nodup_append.1 hnodup).1)
        rw [← (addDevices_ok hadd).1] at hnodup
        obtain ⟨next, hreplay⟩ := ih.2 ⟨hrest, hnodup⟩
        exact ⟨next, replay_cons.2 ⟨middle, collectProbe_eq_ok.2 ⟨devices, hok, hadd⟩, hreplay⟩⟩

/-- Each device belongs to the probe that found it. -/
theorem calls_collect {discoveries : List (Discovery Probe)}
    (hcollect : collect discoveries = .ok inv) : inv.calls = discovered discoveries :=
  collectProbes_calls hcollect

theorem collect_isOk {discoveries : List (Discovery Probe)} :
    (∃ inv, collect discoveries = .ok inv) ↔
      (∀ discovery ∈ discoveries, ∃ devices, discovery.devices = .ok devices) ∧
        (((discovered discoveries).map Prod.snd).map Device.localID).Nodup :=
  collectProbes_isOk

theorem collect_isError {discoveries : List (Discovery Probe)} :
    (∃ error, collect discoveries = .error error) ↔
      (∃ discovery ∈ discoveries, ∃ error, discovery.devices = .error error) ∨
        ¬ ((discovered discoveries).map fun call => call.2.localID).Nodup := by
  have hids : ((discovered discoveries).map fun call => call.2.localID) =
      ((discovered discoveries).map Prod.snd).map Device.localID := by
    rw [List.map_map]
    rfl
  have herror : (∃ error, collect discoveries = .error error) ↔
      ¬ ∃ inv, collect discoveries = .ok inv := by
    cases collect discoveries <;> simp
  have hfails : ∀ discovery : Discovery Probe, (∃ error, discovery.devices = .error error) ↔
      ¬ ∃ devices, discovery.devices = .ok devices := by
    intro discovery
    cases discovery.devices <;> simp
  simp only [herror, collect_isOk, hids, hfails, not_and_or, not_forall, exists_prop]

theorem devices_collect {discoveries : List (Discovery Probe)}
    (hcollect : collect discoveries = .ok inv) :
    inv.devices = (discovered discoveries).map Prod.snd := by
  rw [← calls_collect hcollect, calls_devices]

end ModelHub.Agent
