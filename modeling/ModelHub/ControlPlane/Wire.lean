import ModelHub.Db.Schema
import ModelHub.Foundations.Binary64
import ModelHub.Foundations.JavaScript

/-!
# Messages from the agents

The messages of `proto/modelhub/v1` that the control plane acts on, and
`apps/control-plane/src/domain/wire.ts`: what becomes of them on the way to the
database.  Enum fields are open in proto3, so a kind or a pressure is any number;
one that this build does not know has no name.
-/

namespace ModelHub.ControlPlane

open ModelHub.Core Db

/-! ## Messages -/

structure HostInfo where
  hostname : String
  platform : String
  arch : String
  osVersion : String
  agentVersion : String
  totalMemoryBytes : UInt64
  cpuCores : UInt32
  deriving DecidableEq, Repr

/-- `message Device` -/
structure DeviceReport where
  localId : String
  kind : Int32
  index : UInt32
  name : String
  totalBytes : UInt64
  driverVersion : String
  computeCapability : String
  wiredLimitBytes : UInt64
  deriving DecidableEq, Repr

/-- `message DeviceSample`, without the two readings that nobody stores. -/
structure DeviceSample where
  localId : String
  usedBytes : UInt64
  managedBytes : UInt64
  /-- The bits of a double. -/
  utilization : UInt64
  pressure : Int32
  sampledAtUnixMs : Int64
  deriving DecidableEq, Repr

/-- The payload of an `AgentMessage`. -/
inductive AgentMessage where
  | hello (agentVersion : String) (host : Option HostInfo)
  | inventory (devices : List DeviceReport)
  | samples (samples : List DeviceSample)
  deriving DecidableEq, Repr

/-! ## Names -/

def KINDS : List (DeviceKind × Int32) := [(.cpu, 1), (.cuda, 2), (.metal, 3)]

def PRESSURES : List (MemoryPressure × Int32) := [(.normal, 1), (.warn, 2), (.critical, 3)]

def nameOf {Name : Type} (table : List (Name × Int32)) (value : Int32) : Option Name :=
  (table.find? fun entry => entry.2 = value).map Prod.fst

theorem nameOf_mem {Name : Type} {table : List (Name × Int32)} {value : Int32} {name : Name}
    (hname : nameOf table value = some name) : name ∈ table.map Prod.fst := by
  obtain ⟨entry, hfound, rfl⟩ := Option.map_eq_some_iff.1 hname
  exact List.mem_map.2 ⟨entry, List.mem_of_find?_eq_some hfound, rfl⟩

/-- `none` for UNSPECIFIED or a kind this build doesn't know. -/
def kindName (kind : Int32) : Option DeviceKind := nameOf KINDS kind

def pressureName (pressure : Int32) : Option MemoryPressure := nameOf PRESSURES pressure

/-- The `nodes` columns a HostInfo fills in. -/
def hostColumns (host : Option HostInfo) : HostColumns where
  hostname := (host.map HostInfo.hostname).getD ""
  platform := (host.map HostInfo.platform).getD ""
  arch := (host.map HostInfo.arch).getD ""
  osVersion := (host.map HostInfo.osVersion).getD ""
  agentVersion := (host.map HostInfo.agentVersion).getD ""
  totalMemoryBytes := (host.map fun host => (host.totalMemoryBytes.toNat : ℤ)).getD 0
  cpuCores := (host.map fun host => (host.cpuCores.toNat : ℤ)).getD 0

/-! ## What a report says -/

/-- A reported device of a known kind: its local id and the columns it fills in. -/
def knownDevice (device : DeviceReport) : Option (String × DeviceFacts) :=
  (kindName device.kind).map fun kind =>
    (device.localId,
      { kind := kind
        index := device.index.toNat
        name := device.name
        totalBytes := device.totalBytes.toNat
        wiredLimitBytes := device.wiredLimitBytes.toNat
        driverVersion := device.driverVersion
        computeCapability := device.computeCapability })

/-- The devices of a report that are stored; the others are skipped with a warning. -/
def knownDevices (reported : List DeviceReport) : List (String × DeviceFacts) :=
  reported.filterMap knownDevice

/-- The double that the column holds: it is sent as text, in which -0 is 0 and every NaN is
the same. -/
def storedDouble (bits : UInt64) : UInt64 :=
  if bits = 0x8000000000000000 then 0
  else if 0x7FF0000000000000 < bits &&& 0x7FFFFFFFFFFFFFFF then 0x7FF8000000000000
  else bits

/-- The columns that a sample fills in, for a date that is valid. -/
def sampleColumns (sample : DeviceSample) (sampledAt : Time) : LastSample where
  lastUsedBytes := sample.usedBytes.toNat
  lastManagedBytes := sample.managedBytes.toNat
  lastUtilization := storedDouble sample.utilization
  lastPressure := (pressureName sample.pressure).getD .normal
  lastSampleAt := some sampledAt

/-- `new Date(Number(s.sampledAtUnixMs))`, unless that is invalid, which makes the driver
throw; a date that the column does not take is refused later (`LastSample.checks`). -/
def sampledAt (sample : DeviceSample) : Option Time :=
  JavaScript.newDate (Binary64.nearest (sample.sampledAtUnixMs.toInt : ℚ))

def LastSample.checks (sample : LastSample) : List (Option PgError) :=
  [bigintError sample.lastUsedBytes, bigintError sample.lastManagedBytes,
    sample.lastSampleAt.bind timestampError]

/-- Every date is a whole number of milliseconds that a double holds. -/
theorem sampledAt_eq_some {sample : DeviceSample} {date : Time} :
    sampledAt sample = some date ↔
      |sample.sampledAtUnixMs.toInt| ≤ JavaScript.MAX_DATE ∧
        date = sample.sampledAtUnixMs.toInt := by
  have hvalid := @Binary64.abs_nearest_intCast_le sample.sampledAtUnixMs.toInt JavaScript.MAX_DATE
    (by norm_num [JavaScript.MAX_DATE])
  unfold sampledAt JavaScript.newDate
  split
  case isTrue hdate =>
    have hsmall := hvalid.1 hdate
    have hexact : Binary64.nearest (sample.sampledAtUnixMs.toInt : ℚ) =
        (sample.sampledAtUnixMs.toInt : ℚ) :=
      Binary64.nearest_intCast (hsmall.trans (by norm_num [JavaScript.MAX_DATE]))
    rw [hexact, JavaScript.truncate_intCast, Option.some.injEq, eq_comm]
    exact (and_iff_right hsmall).symm
  case isFalse hdate =>
    simp only [← hvalid, hdate, reduceCtorEq, false_and]

end ModelHub.ControlPlane
