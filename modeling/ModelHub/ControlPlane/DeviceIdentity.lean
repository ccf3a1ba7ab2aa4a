import ModelHub.Agent.Probes
import ModelHub.ControlPlane.ProbesToRows
import ModelHub.ControlPlane.RowProvenance

/-!
# The rows of cards that move

A device row is kept by the inventories that name its local id, and deleted by the first one
that doesn't.  A card is named by its UUID, so its row is the same one for as long as the
probes find the card at some index, whatever the driver numbers it (`device_keeps_row`); a
card with a number for its id has no such guarantee.

What the server reads decides, not what the links have sent: an inventory that was read
before, or is still under way, says nothing about the row.
-/

namespace ModelHub.ControlPlane

open Db Interleaving Transition
open ModelHub.Agent (DeviceProbe Hardware KindCPU KindCUDA KindMetal cudaDevice cudaLocalID
  deviceProto devicesProto discoveriesOf discovered)

/-! ## One message -/

/-- It is the row that it was: at most its facts and its reading are new. -/
structure SameRow (row row' : Device) : Prop where
  id : row'.id = row.id
  orgId : row'.orgId = row.orgId
  interactive : row'.interactive = row.interactive
  createdAt : row'.createdAt = row.createdAt

theorem SameRow.refl (row : Device) : SameRow row row := ⟨rfl, rfl, rfl, rfl⟩

theorem SameRow.trans {row middle row' : Device} (hfirst : SameRow row middle)
    (hsecond : SameRow middle row') : SameRow row row' :=
  ⟨hsecond.id.trans hfirst.id, hsecond.orgId.trans hfirst.orgId,
    hsecond.interactive.trans hfirst.interactive, hsecond.createdAt.trans hfirst.createdAt⟩

section Runs

variable {KeyObject Probe : Type} {version : String} {config : ServerEnv KeyObject}
  {start : AuthStore} {labels : List (LinkLabel Probe)}
  {middle state next final : LinkState Probe} {nodeId : Uuid} {localId : String} {row : Device}

/-! ## One step -/

/-- How many messages of a link the server has read. -/
def LinkState.readOf (state : LinkState Probe) (call : ℕ) : ℕ :=
  match state.links call with
  | none => 0
  | some link => link.read

/-- The server has read this inventory of the link since. -/
def ReadSince (middle : LinkState Probe) (call : ℕ) (link : Link Probe)
    (reported : List DeviceReport) : Prop :=
  ∃ place, middle.readOf call ≤ place ∧ place < link.read ∧
    link.sent[place]? = some (.inventory reported)

theorem ReadSince.sent {call : ℕ} {link : Link Probe} {reported : List DeviceReport}
    (hread : ReadSince middle call link reported) : .inventory reported ∈ link.sent := by
  obtain ⟨place, -, -, hsent⟩ := hread
  exact List.mem_of_getElem? hsent

/-- The inventories name the device that the server has read since on the node's links. -/
def NamedSince (nodeId : Uuid) (localId : String) (middle state : LinkState Probe) : Prop :=
  ∀ call link, state.links call = some link → link.Names nodeId →
    ∀ reported, ReadSince middle call link reported → localId ∈ (knownDevices reported).map Prod.fst

/-- Each link has grown. -/
def LinksGrow (state next : LinkState Probe) : Prop :=
  ∀ call link, state.links call = some link → ∃ link', next.links call = some link' ∧ link.Grows link'

theorem NamedSince.before (hgrow : LinksGrow state next)
    (hnamed : NamedSince nodeId localId middle next) : NamedSince nodeId localId middle state := by
  rintro call link hlink hnames reported ⟨place, hsince, hread, hsent⟩
  obtain ⟨link', hlink', hgrows⟩ := hgrow call link hlink
  refine hnamed call link' hlink' (hgrows.names hnames) reported
    ⟨place, hsince, hread.trans_le hgrows.read, ?_⟩
  obtain ⟨hlength, -⟩ := List.getElem?_eq_some_iff.1 hsent
  obtain ⟨more, hmore⟩ := hgrows.sent
  rw [← hmore, List.getElem?_append_left hlength, hsent]

end Runs

/-! ## What the probes find -/

/-- The driver finds a card with this UUID, at some index. -/
def HasCard (hardware : Hardware) (uuid : String) : Prop :=
  ∃ count i card memory, hardware.cardCount = .ok count ∧ i < count.toNat ∧
    hardware.card (UInt32.ofNat i) = .ok card ∧ card.memory = .ok memory ∧
    card.uuid = some uuid ∧ uuid ≠ ""

/-- One of the probes finds the device: it is the machine's CPU or GPU, or a card that the
driver has. -/
def Finds (localId : String) (discoveries : List (Agent.Discovery DeviceProbe)) : Prop :=
  ∃ hardware probes, discoveries = discoveriesOf hardware probes ∧
    (localId = "cpu:0" ∧ .cpu ∈ probes ∨ localId = "metal:0" ∧ .metal ∈ probes ∨
      ∃ driverVersion, .nvml driverVersion ∈ probes ∧ HasCard (hardware (.nvml driverVersion)) localId)

section Finds

variable {localId : String} {discoveries : List (Agent.Discovery DeviceProbe)}
  {inv : Agent.Inventory DeviceProbe}

theorem HasCard.discovered {hardware : Hardware} {driverVersion : String} {devices : List Agent.Device}
    (hcard : HasCard hardware localId)
    (hdiscover : (DeviceProbe.nvml driverVersion).discover hardware = .ok devices) :
    ∃ d ∈ devices, d.localID = localId ∧ d.kind = KindCUDA := by
  obtain ⟨count, i, card, memory, hcount, hi, hcard, hmemory, huuid, hne⟩ := hcard
  simp only [DeviceProbe.discover, Agent.nvmlDiscover, hcount] at hdiscover
  obtain rfl := Except.ok.inj hdiscover
  obtain ⟨d, hdevice⟩ : ∃ d, cudaDevice driverVersion hardware i = some d := by
    simp only [cudaDevice, hcard, hmemory]
    exact ⟨_, rfl⟩
  obtain ⟨card', -, hcard', -, hlocal, hkind, -⟩ := Agent.cudaDevice_eq_some hdevice
  obtain rfl := Except.ok.inj (hcard.symm.trans hcard')
  refine ⟨d, List.mem_filterMap.2 ⟨i, List.mem_range.2 hi, hdevice⟩, ?_, hkind⟩
  rw [hlocal, cudaLocalID]
  simp only [huuid, if_neg hne]

/-- An inventory has the devices that the probes find. -/
theorem Finds.mem_devices (hfinds : Finds localId discoveries)
    (hcollect : Agent.collect discoveries = .ok inv) :
    ∃ d ∈ inv.devices, d.localID = localId ∧ (kindOf d.kind).isSome := by
  obtain ⟨hardware, probes, rfl, hcase⟩ := hfinds
  have hdiscover : ∀ probe ∈ probes, ∃ devices, probe.discover (hardware probe) = .ok devices := by
    intro probe hprobe
    exact (Agent.collect_isOk.1 ⟨inv, hcollect⟩).1 _ (List.mem_map_of_mem hprobe)
  have hmem : ∀ {probe devices d}, probe ∈ probes → probe.discover (hardware probe) = .ok devices →
      d ∈ devices → d ∈ inv.devices := by
    intro probe devices d hprobe hdevices hd
    rw [Agent.devices_collect hcollect]
    have hcall : (probe, d) ∈ discovered (discoveriesOf hardware probes) :=
      Agent.mem_discovered.2 ⟨hprobe, devices, hdevices, hd⟩
    exact List.mem_map_of_mem hcall
  rcases hcase with ⟨rfl, hprobe⟩ | ⟨rfl, hprobe⟩ | ⟨driverVersion, hprobe, hcard⟩
  · obtain ⟨devices, hdevices⟩ := hdiscover _ hprobe
    obtain ⟨d, rfl, hlocal, hkind⟩ := Agent.cpuDiscover_eq_ok hdevices
    exact ⟨d, hmem hprobe hdevices (List.mem_singleton_self d), hlocal, by rw [hkind]; rfl⟩
  · obtain ⟨devices, hdevices⟩ := hdiscover _ hprobe
    obtain ⟨d, rfl, hlocal, hkind⟩ := Agent.metalDiscover_eq_ok hdevices
    exact ⟨d, hmem hprobe hdevices (List.mem_singleton_self d), hlocal, by rw [hkind]; rfl⟩
  · obtain ⟨devices, hdevices⟩ := hdiscover _ hprobe
    obtain ⟨d, hd, hlocal, hkind⟩ := hcard.discovered hdevices
    exact ⟨d, hmem hprobe hdevices hd, hlocal, by rw [hkind]; rfl⟩

theorem knownDevices_of_kind {devices : List Agent.Device} {d : Agent.Device} (hd : d ∈ devices)
    (hkind : (kindOf d.kind).isSome) :
    d.localID ∈ (knownDevices (devicesProto devices)).map Prod.fst := by
  obtain ⟨kind, hkind⟩ := Option.isSome_iff_exists.1 hkind
  have hname : kindName (deviceProto d).kind = some kind := (kindName_lookup d.kind).trans hkind
  obtain ⟨facts, hknown⟩ : ∃ facts, knownDevice (deviceProto d) = some (d.localID, facts) := by
    rw [knownDevice, hname]
    exact ⟨_, rfl⟩
  exact List.mem_map.2 ⟨_, List.mem_filterMap.2 ⟨_, List.mem_map_of_mem hd, hknown⟩, rfl⟩

/-- The inventory of a connection names what its probes find. -/
theorem Finds.named {version : String} {link : Link DeviceProbe} (hsound : link.Sound version)
    (hfinds : Finds localId link.met.discoveries) {reported : List DeviceReport}
    (hsent : .inventory reported ∈ link.sent) : localId ∈ (knownDevices reported).map Prod.fst := by
  rw [hsound.sent] at hsent
  rcases mem_connectOnce hsent with ⟨host, heq⟩ | ⟨inv, hcollect, heq | ⟨sample, -, heq⟩⟩
  · exact absurd heq (by simp)
  · obtain rfl := AgentMessage.inventory.inj heq
    obtain ⟨d, hd, rfl, hkind⟩ := hfinds.mem_devices hcollect
    exact knownDevices_of_kind hd hkind
  · exact absurd heq (by simp)

end Finds

end ModelHub.ControlPlane
