import ModelHub.Agent.Inventory
import ModelHub.ControlPlane.Wire

/-!
# One connection of the agent

`connectOnce` of `agent/internal/transport/session.go`, with the conversions of `proto.go`:
the messages that a connection sends, and the interval of its ticker.  The host's facts,
the first message from the server, the discoveries and the rounds of samples are what the
connection meets; a send that fails ends it, so what the server gets is always a prefix.

A round in which no device could be sampled sends nothing (`sampleTick_of_not_sampled`).
-/

namespace ModelHub.Agent

open ModelHub.ControlPlane (AgentMessage DeviceReport DeviceSample)

/-! ## Conversions -/

structure HostInfo where
  hostname : String
  platform : String
  arch : String
  osVersion : String
  totalMemoryBytes : UInt64
  cpuCores : Int64
  deriving DecidableEq, Repr

/-- `uint32(value)` -/
def toUint32 (value : Int64) : UInt32 := value.toUInt64.toUInt32

def hostProto (version : String) (h : HostInfo) : ControlPlane.HostInfo where
  hostname := h.hostname
  platform := h.platform
  arch := h.arch
  osVersion := h.osVersion
  agentVersion := version
  totalMemoryBytes := h.totalMemoryBytes
  cpuCores := toUint32 h.cpuCores

/-- Kinds that are not in this map become UNSPECIFIED, the zero value. -/
def kindProto : List (Kind × Int32) := [(KindCPU, 1), (KindCUDA, 2), (KindMetal, 3)]

def pressureProto : List (Pressure × Int32) :=
  [(PressureNormal, 1), (PressureWarn, 2), (PressureCritical, 3)]

def deviceProto (d : Device) : DeviceReport where
  localId := d.localID
  kind := (kindProto.lookup d.kind).getD 0
  index := toUint32 d.index
  name := d.name
  totalBytes := d.totalBytes
  wiredLimitBytes := d.wiredLimitBytes
  driverVersion := d.driverVersion
  computeCapability := d.computeCapability

def devicesProto (devices : List Device) : List DeviceReport := devices.map deviceProto

def sampleProto (s : Sample) : DeviceSample where
  localId := s.localID
  usedBytes := s.usedBytes
  managedBytes := s.managedBytes
  utilization := s.utilization
  pressure := (pressureProto.lookup s.pressure).getD 0
  sampledAtUnixMs := s.sampledAt

def samplesProto (samples : List Sample) : List DeviceSample := samples.map sampleProto

/-! ## The interval -/

/-- The payload of a message from the server. -/
inductive ServerMessage where
  | helloAck (nodeId : String) (sampleIntervalMs : UInt32)
  | config (sampleIntervalMs : UInt32)
  | unset
  deriving DecidableEq, Repr

/-- `first.GetHelloAck().GetSampleIntervalMs()`; the getters of a payload that is not there
return zeros. -/
def ServerMessage.helloInterval : ServerMessage → UInt32
  | .helloAck _ sampleIntervalMs => sampleIntervalMs
  | .config _ => 0
  | .unset => 0

/-- A `time.Duration`, in nanoseconds. -/
abbrev Duration := Int64

def Millisecond : Duration := 1000000

def Second : Duration := 1000000000

/-- The interval of the ticker. -/
def tickerInterval (first : ServerMessage) : Duration :=
  if 0 < first.helloInterval then Int64.ofNat first.helloInterval.toNat * Millisecond
  else 5 * Second

/-- `Duration.Milliseconds` -/
def Duration.milliseconds (d : Duration) : ℤ := (d / Millisecond).toInt

theorem mul_millisecond_toInt (ms : UInt32) :
    (Int64.ofNat ms.toNat * Millisecond).toInt = ms.toNat * 1000000 := by
  have hsmall : ms.toNat < 2 ^ 32 := ms.toNat_lt
  have hms : (Int64.ofNat ms.toNat).toInt = ms.toNat := Int64.toInt_ofNat_of_lt (by omega)
  have hunit : Millisecond.toInt = 1000000 := by decide
  rw [Int64.toInt_mul, hms, hunit]
  apply Int.bmod_eq_of_le <;> omega

/-- The interval that the server named, and five seconds if it named none. -/
theorem tickerInterval_milliseconds (first : ServerMessage) :
    (tickerInterval first).milliseconds =
      if first.helloInterval = 0 then 5000 else (first.helloInterval.toNat : ℤ) := by
  unfold tickerInterval
  by_cases hzero : first.helloInterval = 0
  · rw [hzero, if_neg (by decide), if_pos rfl]
    decide
  · have hsmall : first.helloInterval.toNat < 2 ^ 32 := first.helloInterval.toNat_lt
    have hunit : Millisecond.toInt = 1000000 := by decide
    rw [if_pos (UInt32.pos_iff_ne_zero.2 hzero), if_neg hzero, Duration.milliseconds,
      Int64.toInt_div, mul_millisecond_toInt, hunit, Int.mul_tdiv_cancel _ (by omega)]
    apply Int.bmod_eq_of_le <;> omega

/-! ## The messages -/

/-- One fire of the ticker. -/
def sampleTick {Probe : Type} (inv : Inventory Probe) (sample : Inventory.Sampler Probe) :
    List AgentMessage :=
  let samples := inv.sampleAll sample
  if samples.length = 0 then [] else [.samples (samplesProto samples)]

/-- What a connection meets: the facts of the host, the server's first message, what the
probes discover, and what they sample at each fire of the ticker. -/
structure Connection (Probe : Type) where
  host : Except GoError HostInfo
  first : Option ServerMessage
  discoveries : List (Discovery Probe)
  ticks : List (Inventory.Sampler Probe)

/-- The messages that a connection sends. -/
def connectOnce {Probe : Type} (version : String) (connection : Connection Probe) :
    List AgentMessage :=
  match connection.host with
  | .error _ => []
  | .ok host =>
      .hello version (some (hostProto version host)) ::
        if connection.first.isSome then
          match collect connection.discoveries with
          -- A probe that can't discover fails the whole connection.
          | .error _ => []
          | .ok inv =>
              .inventory (devicesProto inv.devices) :: connection.ticks.flatMap (sampleTick inv)
        else []

variable {Probe : Type} {inv : Inventory Probe} {sample : Inventory.Sampler Probe}

theorem connectOnce_collected {version : String} {connection : Connection Probe} {host : HostInfo}
    (hhost : connection.host = .ok host) (hfirst : connection.first.isSome)
    (hcollect : collect connection.discoveries = .ok inv) :
    connectOnce version connection = .hello version (some (hostProto version host)) ::
      .inventory (devicesProto inv.devices) :: connection.ticks.flatMap (sampleTick inv) := by
  simp only [connectOnce, hhost, hfirst, hcollect, if_true]

/-- Some device is sampled in this round. -/
def SomeSampled (inv : Inventory Probe) (sample : Inventory.Sampler Probe) : Prop :=
  ∃ call ∈ inv.calls, ∃ s, sample call.1 call.2 = .ok s

theorem sampleAll_eq_nil : inv.sampleAll sample = [] ↔ ¬ SomeSampled inv sample := by
  rw [Inventory.sampleAll_eq, List.filterMap_eq_nil_iff, SomeSampled]
  constructor
  · rintro hnone ⟨call, hcall, s, hs⟩
    have hfailed := hnone call hcall
    rw [hs] at hfailed
    cases hfailed
  · intro hnone call hcall
    cases hresult : sample call.1 call.2 with
    | error error => rfl
    | ok s => exact absurd ⟨call, hcall, s, hresult⟩ hnone

theorem sampleTick_of_sampled (hsampled : SomeSampled inv sample) :
    sampleTick inv sample = [.samples (samplesProto (inv.sampleAll sample))] := by
  have hsome : ¬ (inv.sampleAll sample).length = 0 := by
    rw [List.length_eq_zero_iff, sampleAll_eq_nil]
    exact not_not_intro hsampled
  exact if_neg hsome

theorem sampleTick_of_not_sampled (hnone : ¬ SomeSampled inv sample) :
    sampleTick inv sample = [] := by
  have hempty : (inv.sampleAll sample).length = 0 := by
    rw [sampleAll_eq_nil.2 hnone]
    rfl
  exact if_pos hempty

end ModelHub.Agent
