import ModelHub.Agent.Session
import Mathlib.Data.List.Nodup

/-!
# The probes

`probe_cpu.go`, `probe_darwin.go`, `probe_nvml.go` and `probe_fake.go` of
`agent/internal/inventory`.  `Hardware` is what a machine answers when a probe asks it:
the memory, what `sysctl` prints, and the driver's cards by index.  Two questions need not
get the same answer, so each probe's discovery and each of its samples has its own.

The local id of a device is the probe's name and a number, but for a card whose driver
reports a UUID, which is the card's id wherever it is plugged in.  So probes with
different names never report an id twice (`Owns.name_eq`), and a discovery fails only if
a probe can't discover (`collect_probes`).  A card is asked by its index later, and it is
the card of that id as long as the driver keeps its order (`sample_samples`).  Nothing checks
what is read: that no more is used than there is takes readings that are consistent
(`Hardware.Consistent`).
-/

namespace ModelHub.Agent

open Replay

/-! ## What a machine answers -/

/-- `mem.VirtualMemory` -/
structure VirtualMemory where
  total : UInt64
  available : UInt64
  deriving DecidableEq, Repr

/-- `GetMemoryInfo` -/
structure CardMemory where
  total : UInt64
  used : UInt64
  deriving DecidableEq, Repr

/-- What the driver says of a card behind a handle. -/
structure Card where
  /-- Empty if `GetName` fails. -/
  name : String
  memory : Except String CardMemory
  /-- Zeros if `GetCudaComputeCapability` fails. -/
  computeCapability : Int64 × Int64
  /-- None if `GetUUID` fails. -/
  uuid : Option String
  /-- The bits of the reading between 0 and 1. -/
  utilization : UInt64
  deriving DecidableEq, Repr

structure Hardware where
  GOARCH : String
  memory : Except GoError VirtualMemory
  /-- The models that `cpu.Info` lists, unless it fails. -/
  modelNames : Option (List String)
  /-- The bits of the reading between 0 and 1. -/
  utilization : UInt64
  /-- What `sysctl -n` prints, unless it fails. -/
  sysctl : String → Option String
  cardCount : Except String UInt32
  card : UInt32 → Except String Card

/-! ## The CPU -/

def cpuName (hardware : Hardware) : String :=
  match hardware.modelNames with
  | some (name :: _) => if name = "" then hardware.GOARCH ++ " CPU" else name
  | _ => hardware.GOARCH ++ " CPU"

/-- `cpuProbe.Discover` -/
def cpuDiscover (hardware : Hardware) : Except GoError (List Device) :=
  match hardware.memory with
  | .error err => .error err
  | .ok vm => .ok [{
      localID := "cpu:0"
      kind := KindCPU
      index := 0
      name := cpuName hardware
      totalBytes := vm.total
      wiredLimitBytes := 0
      driverVersion := ""
      computeCapability := "" }]

/-! ## Apple's unified memory -/

def sysctlString (hardware : Hardware) (key : String) : String :=
  match hardware.sysctl key with
  | none => ""
  | some out => trimSpace out

/-- `strconv.ParseUint` with base 10 for 64 bits. -/
def parseUint (text : String) : Option UInt64 :=
  if text ≠ "" ∧ text.toList.all Char.isDigit then
    let value := Nat.ofDigitChars 10 text.toList 0
    if value < 2 ^ 64 then some (UInt64.ofNat value) else none
  else none

def wiredLimitBytes (hardware : Hardware) : UInt64 :=
  match parseUint (sysctlString hardware "iogpu.wired_limit_mb") with
  | none => 0
  | some mb => if mb = 0 then 0 else mb * 1024 * 1024

def memoryPressure (hardware : Hardware) : Pressure :=
  match sysctlString hardware "kern.memorystatus_vm_pressure_level" with
  | "2" => PressureWarn
  | "4" => PressureCritical
  | _ => PressureNormal

/-- `metalProbe.Discover` -/
def metalDiscover (hardware : Hardware) : Except GoError (List Device) :=
  match hardware.memory with
  | .error err => .error err
  | .ok vm =>
      let name := trimSpace (sysctlString hardware "machdep.cpu.brand_string")
      .ok [{
        localID := "metal:0"
        kind := KindMetal
        index := 0
        name := if name = "" then "Apple Silicon GPU" else name
        totalBytes := vm.total
        wiredLimitBytes := wiredLimitBytes hardware
        driverVersion := ""
        computeCapability := "" }]

/-- `metalProbe.Sample` -/
def metalSample (hardware : Hardware) (now : Int64) (d : Device) : Except GoError Sample :=
  match hardware.memory with
  | .error err => .error err
  | .ok vm => .ok {
      localID := d.localID
      usedBytes := vm.total - vm.available
      managedBytes := 0
      utilization := 0
      pressure := memoryPressure hardware
      sampledAt := now }

/-! ## CUDA cards -/

/-- The id of the card at an index. -/
def cudaLocalID (i : ℕ) (card : Card) : String :=
  match card.uuid with
  | none => "cuda:" ++ toString i
  | some uuid => if uuid = "" then "cuda:" ++ toString i else uuid

/-- One round of the loop of `nvmlProbe.Discover`. -/
def cudaDevice (driverVersion : String) (hardware : Hardware) (i : ℕ) : Option Device :=
  match hardware.card (UInt32.ofNat i) with
  | .error _ => none
  | .ok card =>
      match card.memory with
      | .error _ => none
      | .ok memory => some {
          localID := cudaLocalID i card
          kind := KindCUDA
          index := Int64.ofNat i
          name := card.name
          totalBytes := memory.total
          wiredLimitBytes := 0
          driverVersion := driverVersion
          computeCapability :=
            toString card.computeCapability.1 ++ "." ++ toString card.computeCapability.2 }

/-- `nvmlProbe.Discover` -/
def nvmlDiscover (driverVersion : String) (hardware : Hardware) : Except GoError (List Device) :=
  match hardware.cardCount with
  | .error text => .error (.other ("nvml device count: " ++ text))
  | .ok count => .ok ((List.range count.toNat).filterMap (cudaDevice driverVersion hardware))

/-- `nvmlProbe.Sample`.  The library passes the index on in 32 bits. -/
def nvmlSample (hardware : Hardware) (now : Int64) (d : Device) : Except GoError Sample :=
  match hardware.card (toUint32 d.index) with
  | .error text => .error (.other ("nvml handle " ++ toString d.index ++ ": " ++ text))
  | .ok card =>
      match card.memory with
      | .error text => .error (.other ("nvml memory " ++ toString d.index ++ ": " ++ text))
      | .ok memory => .ok {
          localID := d.localID
          usedBytes := memory.used
          managedBytes := 0
          utilization := card.utilization
          pressure := PressureNormal
          sampledAt := now }

/-! ## Any probe -/

/-- A probe with its fields; a fake one also has its number. -/
inductive DeviceProbe where
  | cpu
  | metal
  | nvml (driverVersion : String)
  | fake (id count : ℕ) (sampleErr : Option GoError)
  deriving DecidableEq, Repr

def DeviceProbe.name : DeviceProbe → String
  | .cpu => "cpu"
  | .metal => "metal"
  | .nvml _ => "cuda"
  | .fake id _ _ => "fake-" ++ toString id

/-- `FakeProbe.Discover` -/
def fakeDiscover (name : String) (count : ℕ) : List Device :=
  (List.range count).map fun i => {
    localID := name ++ ":" ++ toString i
    kind := KindCUDA
    index := Int64.ofNat i
    name := "Fake Accelerator"
    totalBytes := (24 : UInt64) <<< 30
    wiredLimitBytes := 0
    driverVersion := ""
    computeCapability := "" }

/-- `FakeProbe.Sample`, with the bits of 0.25. -/
def fakeSample (sampleErr : Option GoError) (now : Int64) (d : Device) : Except GoError Sample :=
  match sampleErr with
  | some err => .error err
  | none => .ok {
      localID := d.localID
      usedBytes := (2 : UInt64) <<< 30
      managedBytes := 0
      utilization := 0x3FD0000000000000
      pressure := PressureNormal
      sampledAt := now }

def DeviceProbe.discover (hardware : Hardware) : DeviceProbe → Except GoError (List Device)
  | .cpu => cpuDiscover hardware
  | .metal => metalDiscover hardware
  | .nvml driverVersion => nvmlDiscover driverVersion hardware
  | .fake id count sampleErr => .ok (fakeDiscover (DeviceProbe.fake id count sampleErr).name count)

def DeviceProbe.sample (hardware : Hardware) (now : Int64) (d : Device) :
    DeviceProbe → Except GoError Sample
  | .cpu => hardware.memory.map fun vm => cpuSample d vm.total vm.available hardware.utilization now
  | .metal => metalSample hardware now d
  | .nvml _ => nvmlSample hardware now d
  | .fake _ _ sampleErr => fakeSample sampleErr now d

/-- The probes of a build that runs on macOS or not. -/
def newPlatformProbes (darwin : Bool) : List DeviceProbe := if darwin then [.metal] else []

/-- The probes of a build with support for cards, if there is a driver: its version. -/
def newCUDAProbes (driver : Option String) : List DeviceProbe :=
  match driver with
  | none => []
  | some version => [.nvml version]

def DefaultProbes (darwin : Bool) (driver : Option String) : List DeviceProbe :=
  [.cpu] ++ newPlatformProbes darwin ++ newCUDAProbes driver

/-- The probes of `runCmd`. -/
def runProbes (fakeProbe darwin : Bool) (driver : Option String) : List DeviceProbe :=
  if fakeProbe then [.fake 1 2 none] else DefaultProbes darwin driver

/-- The discoveries of the probes, each with what the machine answers it. -/
def discoveriesOf (hardware : DeviceProbe → Hardware) (probes : List DeviceProbe) :
    List (Discovery DeviceProbe) :=
  probes.map fun probe => ⟨probe, probe.name, probe.discover (hardware probe)⟩

/-! ## Local ids -/

/-- The ids that a probe may report. -/
def DeviceProbe.Owns (localID : String) (probe : DeviceProbe) : Prop :=
  (∃ i : ℕ, localID = probe.name ++ ":" ++ toString i) ∨
    (∃ driverVersion, probe = .nvml driverVersion) ∧ "GPU-".toList <+: localID.toList

/-- What the driver promises of the UUIDs it reports. -/
structure Hardware.CardsIdentified (hardware : Hardware) : Prop where
  marked : ∀ i card uuid, hardware.card i = .ok card → card.uuid = some uuid → uuid ≠ "" →
    "GPU-".toList <+: uuid.toList
  unique : ∀ i j card other uuid, hardware.card i = .ok card → hardware.card j = .ok other →
    card.uuid = some uuid → other.uuid = some uuid → uuid ≠ "" → i = j

theorem toString_injective : Function.Injective (toString : ℕ → String) := by
  intro i j hsame
  have hdigits : Nat.toDigits 10 i = Nat.toDigits 10 j := by
    rw [← Nat.toList_repr, ← Nat.toList_repr]
    exact congrArg String.toList hsame
  have hvalue := congrArg (fun digits => Nat.ofDigitChars 10 digits 0) hdigits
  simpa using hvalue

theorem colon_notMem_toString (i : ℕ) : ':' ∉ (toString i).toList := by
  intro hmem
  have hdigit := Nat.isDigit_of_mem_toDigits (by norm_num) (by norm_num)
    (show ':' ∈ Nat.toDigits 10 i by rw [← Nat.toList_repr]; exact hmem)
  exact absurd hdigit (by decide)

theorem DeviceProbe.colon_notMem_name (probe : DeviceProbe) : ':' ∉ probe.name.toList := by
  rcases probe with _ | _ | driverVersion | ⟨id, count, sampleErr⟩
  · decide
  · decide
  · show ':' ∉ "cuda".toList
    decide
  · rw [DeviceProbe.name, String.toList_append, List.mem_append, not_or]
    exact ⟨by decide, colon_notMem_toString id⟩

/-- A name without a colon ends at the first one. -/
theorem numbered_inj {name name' : String} {i i' : ℕ} (hname : ':' ∉ name.toList)
    (hname' : ':' ∉ name'.toList)
    (hsame : name ++ ":" ++ toString i = name' ++ ":" ++ toString i') : name = name' ∧ i = i' := by
  have htake : ∀ {name : String} {rest : List Char}, ':' ∉ name.toList →
      (name.toList ++ ':' :: rest).takeWhile (· ≠ ':') = name.toList := by
    intro name rest hname
    have hall : ∀ c ∈ name.toList, decide (c ≠ ':') = true := by
      intro c hc
      simpa using fun heq : c = ':' => hname (heq ▸ hc)
    rw [List.takeWhile_append_of_pos hall, List.takeWhile_cons_of_neg (by simp), List.append_nil]
  have hlists : name.toList ++ ':' :: (toString i).toList =
      name'.toList ++ ':' :: (toString i').toList := by
    simpa using congrArg String.toList hsame
  have hnames : name.toList = name'.toList := by
    rw [← htake hname, hlists, htake hname']
  rw [hnames] at hlists
  have hnumbers : (toString i).toList = (toString i').toList :=
    (List.cons.inj (List.append_cancel_left hlists)).2
  exact ⟨String.toList_injective hnames, toString_injective (String.toList_injective hnumbers)⟩

theorem DeviceProbe.marked_ne_numbered (probe : DeviceProbe) (i : ℕ) :
    ¬ "GPU-".toList <+: (probe.name ++ ":" ++ toString i).toList := by
  obtain ⟨first, rest, hname, hfirst⟩ : ∃ first rest, probe.name.toList = first :: rest ∧
      first ≠ 'G' := by
    rcases probe with _ | _ | driverVersion | ⟨id, count, sampleErr⟩
    · exact ⟨'c', ['p', 'u'], by decide, by decide⟩
    · exact ⟨'m', ['e', 't', 'a', 'l'], by decide, by decide⟩
    · have hcuda : "cuda".toList = ['c', 'u', 'd', 'a'] := by decide
      exact ⟨'c', ['u', 'd', 'a'], hcuda, by decide⟩
    · exact ⟨'f', ['a', 'k', 'e', '-'] ++ (toString id).toList, by simp [DeviceProbe.name], by decide⟩
  intro hmarked
  have hhead : 'G' = first := by
    simpa [String.toList_append, hname] using (List.cons_prefix_cons.1
      (by simpa [String.toList_append, hname] using hmarked)).1
  exact hfirst hhead.symm

/-- An id tells the name of its probe. -/
theorem DeviceProbe.Owns.name_eq {localID : String} {probe other : DeviceProbe}
    (hprobe : probe.Owns localID) (hother : other.Owns localID) : probe.name = other.name := by
  rcases hprobe with ⟨i, hi⟩ | ⟨⟨driverVersion, rfl⟩, hmarked⟩
  · rcases hother with ⟨j, hj⟩ | ⟨-, hmarked⟩
    · exact (numbered_inj probe.colon_notMem_name other.colon_notMem_name (hi ▸ hj)).1
    · exact absurd (hi ▸ hmarked) (probe.marked_ne_numbered i)
  · rcases hother with ⟨j, hj⟩ | ⟨⟨driverVersion', rfl⟩, -⟩
    · exact absurd (hj ▸ hmarked) (other.marked_ne_numbered j)
    · rfl

theorem DeviceProbe.Owns.ne_empty {localID : String} {probe : DeviceProbe}
    (hprobe : probe.Owns localID) : localID ≠ "" := by
  rintro rfl
  rcases hprobe with ⟨i, hi⟩ | ⟨-, hmarked⟩
  · have hlength : 0 = (probe.name ++ ":" ++ toString i).length := congrArg String.length hi
    rw [String.length_append, String.length_append] at hlength
    have hcolon : ":".length = 1 := rfl
    omega
  · exact absurd (List.prefix_nil.1 hmarked) (by decide)

/-! ## What a probe discovers -/

section Discover

variable {hardware : Hardware} {driverVersion : String} {d : Device} {i j : ℕ}

theorem cudaDevice_eq_some (hdevice : cudaDevice driverVersion hardware i = some d) :
    ∃ card memory, hardware.card (UInt32.ofNat i) = .ok card ∧ card.memory = .ok memory ∧
      d.localID = cudaLocalID i card ∧ d.kind = KindCUDA ∧ d.index = Int64.ofNat i ∧
      d.totalBytes = memory.total := by
  unfold cudaDevice at hdevice
  split at hdevice
  case h_1 => exact absurd hdevice (by simp)
  case h_2 card hcard =>
    split at hdevice
    case h_1 => exact absurd hdevice (by simp)
    case h_2 memory hmemory =>
      obtain rfl := Option.some.inj hdevice
      exact ⟨card, memory, hcard, hmemory, rfl, rfl, rfl, rfl⟩

/-- A card has its UUID as its id, or a number. -/
theorem cudaLocalID_cases (i : ℕ) (card : Card) :
    (∃ uuid, card.uuid = some uuid ∧ uuid ≠ "" ∧ cudaLocalID i card = uuid) ∨
      cudaLocalID i card = "cuda" ++ ":" ++ toString i := by
  unfold cudaLocalID
  split
  case h_1 => exact Or.inr rfl
  case h_2 uuid huuid =>
    split
    case isTrue => exact Or.inr rfl
    case isFalse hne => exact Or.inl ⟨uuid, huuid, hne, rfl⟩

theorem cudaLocalID_owns (hcards : hardware.CardsIdentified) {card : Card}
    (hcard : hardware.card (UInt32.ofNat i) = .ok card) :
    (DeviceProbe.nvml driverVersion).Owns (cudaLocalID i card) := by
  rcases cudaLocalID_cases i card with ⟨uuid, huuid, hne, heq⟩ | heq
  · rw [heq]
    exact Or.inr ⟨⟨driverVersion, rfl⟩, hcards.marked _ card uuid hcard huuid hne⟩
  · exact Or.inl ⟨i, heq⟩

theorem ofNat_inj (hi : i < 2 ^ 32) (hj : j < 2 ^ 32) (hsame : UInt32.ofNat i = UInt32.ofNat j) :
    i = j := by
  have hvalues := congrArg UInt32.toNat hsame
  rwa [UInt32.toNat_ofNat_of_lt' hi, UInt32.toNat_ofNat_of_lt' hj] at hvalues

/-- Two cards don't have one id. -/
theorem cudaLocalID_inj (hcards : hardware.CardsIdentified) (hi : i < 2 ^ 32) (hj : j < 2 ^ 32)
    {card other : Card} (hcard : hardware.card (UInt32.ofNat i) = .ok card)
    (hother : hardware.card (UInt32.ofNat j) = .ok other)
    (hsame : cudaLocalID i card = cudaLocalID j other) : i = j := by
  rcases cudaLocalID_cases i card with ⟨uuid, huuid, hne, heq⟩ | heq
  · rcases cudaLocalID_cases j other with ⟨uuid', huuid', -, heq'⟩ | heq'
    · obtain rfl : uuid = uuid' := by rw [← heq, hsame, heq']
      exact ofNat_inj hi hj (hcards.unique _ _ card other uuid hcard hother huuid huuid' hne)
    · have hmarked := hcards.marked _ card uuid hcard huuid hne
      rw [← heq, hsame, heq'] at hmarked
      exact absurd hmarked ((DeviceProbe.nvml "").marked_ne_numbered j)
  · rcases cudaLocalID_cases j other with ⟨uuid', huuid', hne', heq'⟩ | heq'
    · have hmarked := hcards.marked _ other uuid' hother huuid' hne'
      rw [← heq', ← hsame, heq] at hmarked
      exact absurd hmarked ((DeviceProbe.nvml "").marked_ne_numbered i)
    · rw [heq, heq'] at hsame
      exact (numbered_inj (by decide) (by decide) hsame).2

/-- What a discovery owes to the others. -/
structure DeviceProbe.Reports (probe : DeviceProbe) (devices : List Device) : Prop where
  owns : ∀ d ∈ devices, probe.Owns d.localID
  kind : ∀ d ∈ devices, (kindProto.lookup d.kind).isSome
  nodup : (devices.map Device.localID).Nodup

theorem reports_nvml (hcards : hardware.CardsIdentified) (count : UInt32) :
    (DeviceProbe.nvml driverVersion).Reports
      ((List.range count.toNat).filterMap (cudaDevice driverVersion hardware)) where
  owns := by
    intro d hd
    obtain ⟨i, -, hdevice⟩ := List.mem_filterMap.1 hd
    obtain ⟨card, memory, hcard, -, hlocal, -⟩ := cudaDevice_eq_some hdevice
    rw [hlocal]
    exact cudaLocalID_owns hcards hcard
  kind := by
    intro d hd
    obtain ⟨i, -, hdevice⟩ := List.mem_filterMap.1 hd
    obtain ⟨card, memory, -, -, -, hkind, -⟩ := cudaDevice_eq_some hdevice
    rw [hkind]
    rfl
  nodup := by
    rw [List.map_filterMap, List.Nodup, List.pairwise_filterMap]
    refine List.Pairwise.imp_of_mem ?_ List.nodup_range
    intro i j hi hj hne localID hlocalID localID' hlocalID' hsame
    have hbound : count.toNat < 2 ^ 32 := count.toNat_lt
    have hi' : i < 2 ^ 32 := (List.mem_range.1 hi).trans hbound
    have hj' : j < 2 ^ 32 := (List.mem_range.1 hj).trans hbound
    obtain ⟨d, hdevice, rfl⟩ := Option.map_eq_some_iff.1 hlocalID
    obtain ⟨d', hdevice', rfl⟩ := Option.map_eq_some_iff.1 hlocalID'
    obtain ⟨card, memory, hcard, -, hlocal, -⟩ := cudaDevice_eq_some hdevice
    obtain ⟨other, memory', hother, -, hlocal', -⟩ := cudaDevice_eq_some hdevice'
    rw [hlocal, hlocal'] at hsame
    exact hne (cudaLocalID_inj hcards hi' hj' hcard hother hsame)

theorem reports_fake (probe : DeviceProbe) (count : ℕ) :
    probe.Reports (fakeDiscover probe.name count) where
  owns := by
    intro d hd
    obtain ⟨i, -, rfl⟩ := List.mem_map.1 hd
    exact Or.inl ⟨i, rfl⟩
  kind := by
    intro d hd
    obtain ⟨i, -, rfl⟩ := List.mem_map.1 hd
    rfl
  nodup := by
    rw [fakeDiscover, List.map_map]
    refine List.nodup_range.map ?_
    intro i j hsame
    exact (numbered_inj probe.colon_notMem_name probe.colon_notMem_name hsame).2

theorem reports_single {probe : DeviceProbe} (howns : probe.Owns d.localID)
    (hkind : (kindProto.lookup d.kind).isSome) : probe.Reports [d] where
  owns := fun other hother => by rwa [List.mem_singleton.1 hother]
  kind := fun other hother => by rwa [List.mem_singleton.1 hother]
  nodup := List.nodup_singleton _

theorem cpuDiscover_eq_ok {devices : List Device} (hdiscover : cpuDiscover hardware = .ok devices) :
    ∃ d, devices = [d] ∧ d.localID = "cpu:0" ∧ d.kind = KindCPU := by
  unfold cpuDiscover at hdiscover
  split at hdiscover
  case h_1 => exact absurd hdiscover (by simp)
  case h_2 => exact ⟨_, (Except.ok.inj hdiscover).symm, rfl, rfl⟩

theorem metalDiscover_eq_ok {devices : List Device}
    (hdiscover : metalDiscover hardware = .ok devices) :
    ∃ d, devices = [d] ∧ d.localID = "metal:0" ∧ d.kind = KindMetal := by
  unfold metalDiscover at hdiscover
  split at hdiscover
  case h_1 => exact absurd hdiscover (by simp)
  case h_2 => exact ⟨_, (Except.ok.inj hdiscover).symm, rfl, rfl⟩

theorem discover_reports {probe : DeviceProbe} {devices : List Device}
    (hcards : hardware.CardsIdentified) (hdiscover : probe.discover hardware = .ok devices) :
    probe.Reports devices := by
  rcases probe with _ | _ | driverVersion | ⟨id, count, sampleErr⟩
  · obtain ⟨d, rfl, hlocal, hkind⟩ := cpuDiscover_eq_ok hdiscover
    have hnumbered : "cpu:0" = DeviceProbe.cpu.name ++ ":" ++ toString 0 := by decide
    exact reports_single (Or.inl ⟨0, hlocal.trans hnumbered⟩) (by rw [hkind]; rfl)
  · obtain ⟨d, rfl, hlocal, hkind⟩ := metalDiscover_eq_ok hdiscover
    have hnumbered : "metal:0" = DeviceProbe.metal.name ++ ":" ++ toString 0 := by decide
    exact reports_single (Or.inl ⟨0, hlocal.trans hnumbered⟩) (by rw [hkind]; rfl)
  · simp only [DeviceProbe.discover, nvmlDiscover] at hdiscover
    split at hdiscover
    case h_1 => exact absurd hdiscover (by simp)
    case h_2 count hcount =>
      obtain rfl := Except.ok.inj hdiscover
      exact reports_nvml hcards count
  · obtain rfl := Except.ok.inj hdiscover
    exact reports_fake _ count

/-! ## What a probe samples -/

/-- The machine is still what it was: it has as much memory, and the driver has the same
cards in the same order. -/
structure Hardware.Still (hardware later : Hardware) : Prop where
  memory : ∀ vm before, later.memory = .ok vm → hardware.memory = .ok before →
    vm.total = before.total
  card : ∀ i card before, later.card i = .ok card → hardware.card i = .ok before →
    card.uuid = before.uuid ∧ ∀ memory held, card.memory = .ok memory →
      before.memory = .ok held → memory.total = held.total

/-- No more memory is available than there is, and no more of a card is used than it has. -/
structure Hardware.Consistent (hardware : Hardware) : Prop where
  memory : ∀ vm, hardware.memory = .ok vm → vm.available ≤ vm.total
  card : ∀ i card memory, hardware.card i = .ok card → card.memory = .ok memory →
    memory.used ≤ memory.total

theorem Hardware.Still.used_le {later : Hardware} (hstill : hardware.Still later)
    (hconsistent : later.Consistent) {vm before : VirtualMemory} (hmemory : later.memory = .ok vm)
    (hbefore : hardware.memory = .ok before) : vm.total - vm.available ≤ before.total := by
  rw [← hstill.memory vm before hmemory hbefore]
  exact UInt64.sub_le (hconsistent.memory vm hmemory)

theorem toUint32_ofNat (i : ℕ) : toUint32 (Int64.ofNat i) = UInt32.ofNat i := by
  simp [toUint32]

/-- A sample is for its device: of the machine's memory it is what is not available, and of
a card it is the reading of the card with that id. -/
structure DeviceProbe.Samples (later : Hardware) (probe : DeviceProbe) (d : Device) (s : Sample) :
    Prop where
  localID : s.localID = d.localID
  memory : probe = .cpu ∨ probe = .metal → ∃ vm, later.memory = .ok vm ∧
    s.usedBytes = vm.total - vm.available
  card : ∀ driverVersion, probe = .nvml driverVersion → ∃ i card memory,
    later.card (UInt32.ofNat i) = .ok card ∧ cudaLocalID i card = s.localID ∧
      card.memory = .ok memory ∧ s.usedBytes = memory.used
  used : later.Consistent → s.usedBytes ≤ d.totalBytes

/-- A reading of the machine's memory. -/
theorem samples_of_memory {later : Hardware} {probe : DeviceProbe} {s : Sample}
    {vm before : VirtualMemory} (hprobe : probe = .cpu ∨ probe = .metal)
    (hstill : hardware.Still later) (hbefore : hardware.memory = .ok before)
    (htotal : d.totalBytes = before.total) (hmemory : later.memory = .ok vm)
    (hlocal : s.localID = d.localID) (hused : s.usedBytes = vm.total - vm.available) :
    probe.Samples later d s where
  localID := hlocal
  memory := fun _ => ⟨vm, hmemory, hused⟩
  card := by
    rintro driverVersion rfl
    rcases hprobe with heq | heq <;> cases heq
  used := fun hconsistent => by
    rw [hused, htotal]
    exact hstill.used_le hconsistent hmemory hbefore

/-- A reading of a card, which is asked by its index. -/
theorem nvmlSample_samples {later : Hardware} {driverVersion : String} {i : ℕ} {now : Int64}
    {s : Sample} (hstill : hardware.Still later) (hdevice : cudaDevice driverVersion hardware i = some d)
    (hsample : nvmlSample later now d = .ok s) :
    (DeviceProbe.nvml driverVersion).Samples later d s := by
  obtain ⟨before, held, hbefore, hheld, hlocal, -, hindex, htotal⟩ := cudaDevice_eq_some hdevice
  rw [nvmlSample, hindex, toUint32_ofNat] at hsample
  split at hsample
  case h_1 => exact absurd hsample (by simp)
  case h_2 card hcard =>
    split at hsample
    case h_1 => exact absurd hsample (by simp)
    case h_2 memory hmemory =>
      obtain rfl := Except.ok.inj hsample
      obtain ⟨huuid, hsize⟩ := hstill.card _ card before hcard hbefore
      have hsame : cudaLocalID i card = d.localID := by
        rw [hlocal, cudaLocalID, cudaLocalID, huuid]
      refine ⟨rfl, ?_, fun _ _ => ⟨i, card, memory, hcard, hsame, hmemory, rfl⟩, ?_⟩
      · rintro (heq | heq) <;> cases heq
      · intro hconsistent
        calc memory.used ≤ memory.total := hconsistent.card _ card memory hcard hmemory
          _ = d.totalBytes := by rw [htotal, hsize memory held hmemory hheld]

theorem sample_samples {later : Hardware} {probe : DeviceProbe} {devices : List Device} {now : Int64}
    {s : Sample} (hstill : hardware.Still later) (hdiscover : probe.discover hardware = .ok devices)
    (hd : d ∈ devices) (hsample : probe.sample later now d = .ok s) : probe.Samples later d s := by
  cases probe with
  | cpu =>
      simp only [DeviceProbe.discover, cpuDiscover] at hdiscover
      split at hdiscover
      case h_1 => exact absurd hdiscover (by simp)
      case h_2 before hbefore =>
        obtain rfl := Except.ok.inj hdiscover
        obtain rfl := List.mem_singleton.1 hd
        simp only [DeviceProbe.sample] at hsample
        cases hmemory : later.memory with
        | error err => rw [hmemory] at hsample; exact absurd hsample (by simp [Except.map])
        | ok vm =>
            rw [hmemory] at hsample
            obtain rfl := Except.ok.inj hsample
            exact samples_of_memory (Or.inl rfl) hstill hbefore rfl hmemory rfl rfl
  | metal =>
      simp only [DeviceProbe.discover, metalDiscover] at hdiscover
      split at hdiscover
      case h_1 => exact absurd hdiscover (by simp)
      case h_2 before hbefore =>
        obtain rfl := Except.ok.inj hdiscover
        obtain rfl := List.mem_singleton.1 hd
        simp only [DeviceProbe.sample, metalSample] at hsample
        split at hsample
        case h_1 => exact absurd hsample (by simp)
        case h_2 vm hmemory =>
          obtain rfl := Except.ok.inj hsample
          exact samples_of_memory (Or.inr rfl) hstill hbefore rfl hmemory rfl rfl
  | nvml driverVersion =>
      simp only [DeviceProbe.discover, nvmlDiscover] at hdiscover
      split at hdiscover
      case h_1 => exact absurd hdiscover (by simp)
      case h_2 count hcount =>
        obtain rfl := Except.ok.inj hdiscover
        obtain ⟨i, -, hdevice⟩ := List.mem_filterMap.1 hd
        exact nvmlSample_samples hstill hdevice hsample
  | fake id count sampleErr =>
      obtain rfl := Except.ok.inj hdiscover
      obtain ⟨i, -, rfl⟩ := List.mem_map.1 hd
      simp only [DeviceProbe.sample, fakeSample] at hsample
      split at hsample
      case h_1 => exact absurd hsample (by simp)
      case h_2 =>
        obtain rfl := Except.ok.inj hsample
        refine ⟨rfl, by simp, fun _ heq => absurd heq (by simp), fun _ => ?_⟩
        show (2 : UInt64) <<< 30 ≤ (24 : UInt64) <<< 30
        decide

end Discover

/-! ## All probes together -/

section Collect

variable {hardware : DeviceProbe → Hardware} {probes : List DeviceProbe}

theorem mem_discovered {call : DeviceProbe × Device} :
    call ∈ discovered (discoveriesOf hardware probes) ↔ call.1 ∈ probes ∧
      ∃ devices, call.1.discover (hardware call.1) = .ok devices ∧ call.2 ∈ devices := by
  obtain ⟨probe, d⟩ := call
  simp only [discovered, discoveriesOf, List.mem_flatMap, List.mem_map, Prod.mk.injEq]
  constructor
  · rintro ⟨discovery, ⟨found, hprobe, rfl⟩, d', hd', rfl, rfl⟩
    cases hdiscover : found.discover (hardware found) with
    | error err => simp [hdiscover, Except.toOption] at hd'
    | ok devices => exact ⟨hprobe, devices, rfl, by simpa [hdiscover, Except.toOption] using hd'⟩
  · rintro ⟨hprobe, devices, hdiscover, hd⟩
    exact ⟨_, ⟨probe, hprobe, rfl⟩, d, by simpa [hdiscover, Except.toOption] using hd, rfl, rfl⟩

/-- No id is reported twice. -/
theorem nodup_discovered (hnames : (probes.map DeviceProbe.name).Nodup)
    (hcards : ∀ probe, (hardware probe).CardsIdentified) :
    (((discovered (discoveriesOf hardware probes)).map Prod.snd).map Device.localID).Nodup := by
  have hids : ((discovered (discoveriesOf hardware probes)).map Prod.snd).map Device.localID =
      probes.flatMap fun probe =>
        (((probe.discover (hardware probe)).toOption).getD []).map Device.localID := by
    simp only [discovered, discoveriesOf, List.map_flatMap, List.flatMap_map, List.map_map]
    rfl
  have hreports : ∀ probe : DeviceProbe,
      probe.Reports (((probe.discover (hardware probe)).toOption).getD []) := by
    intro probe
    cases hdiscover : probe.discover (hardware probe) with
    | error err => exact ⟨by simp [Except.toOption], by simp [Except.toOption], List.nodup_nil⟩
    | ok devices => exact discover_reports (hcards probe) hdiscover
  rw [hids, List.nodup_flatMap]
  refine ⟨fun probe _ => (hreports probe).nodup, (List.pairwise_map.1 hnames).imp ?_⟩
  intro probe other hne localID hlocalID hlocalID'
  obtain ⟨d, hd, rfl⟩ := List.mem_map.1 hlocalID
  obtain ⟨d', hd', hsame⟩ := List.mem_map.1 hlocalID'
  exact hne (((hreports probe).owns d hd).name_eq (hsame ▸ (hreports other).owns d' hd'))

theorem nodup_runProbes (fakeProbe darwin : Bool) (driver : Option String) :
    ((runProbes fakeProbe darwin driver).map DeviceProbe.name).Nodup := by
  rcases fakeProbe with _ | _
  · rcases darwin with _ | _ <;> rcases driver with _ | version
    · decide
    · show ["cpu", "cuda"].Nodup
      decide
    · decide
    · show ["cpu", "metal", "cuda"].Nodup
      decide
  · exact List.nodup_singleton _

/-- Probes with different names, as those of `run` are, can always be collected together,
unless one of them fails: every device has an id of its own and a kind that the wire knows,
and as long as the machine stays the same its samples are its own. -/
theorem collect_probes :
    (∀ fakeProbe darwin driver, ((runProbes fakeProbe darwin driver).map DeviceProbe.name).Nodup) ∧
    ∀ (probes : List DeviceProbe) (hardware : DeviceProbe → Hardware),
      (probes.map DeviceProbe.name).Nodup → (∀ probe, (hardware probe).CardsIdentified) →
      ((∃ inv, collect (discoveriesOf hardware probes) = .ok inv) ↔
        ∀ probe ∈ probes, ∃ devices, probe.discover (hardware probe) = .ok devices) ∧
      ∀ inv, collect (discoveriesOf hardware probes) = .ok inv →
        (inv.devices.map Device.localID).Nodup ∧ ∀ call ∈ inv.calls,
          call.2.localID ≠ "" ∧ (kindProto.lookup call.2.kind).isSome ∧
          ∀ later now s, (hardware call.1).Still later → call.1.sample later now call.2 = .ok s →
            call.1.Samples later call.2 s := by
  refine ⟨nodup_runProbes, fun probes hardware hnames hcards => ⟨?_, fun inv hcollect => ?_⟩⟩
  · rw [collect_isOk, and_iff_left (nodup_discovered hnames hcards)]
    simp [discoveriesOf]
  · refine ⟨?_, fun call hcall => ?_⟩
    · rw [devices_collect hcollect]
      exact nodup_discovered hnames hcards
    · rw [calls_collect hcollect] at hcall
      obtain ⟨-, devices, hdiscover, hd⟩ := mem_discovered.1 hcall
      have hreports := discover_reports (hcards call.1) hdiscover
      exact ⟨(hreports.owns _ hd).ne_empty, hreports.kind _ hd,
        fun later now s hstill hsample => sample_samples hstill hdiscover hd hsample⟩

end Collect

/-! ### Two cards, one without an id -/

/-- The driver has two cards, and no handle for the index between them. -/
def twoCards : Hardware where
  GOARCH := "amd64"
  memory := .ok ⟨8589934592, 4294967296⟩
  modelNames := none
  utilization := 0
  sysctl := fun _ => none
  cardCount := .ok 3
  card := fun i =>
    if i = 0 then .ok ⟨"A", .ok ⟨1024, 512⟩, (8, 9), some "GPU-1", 0⟩
    else if i = 2 then .ok ⟨"B", .ok ⟨2048, 0⟩, (8, 9), none, 0⟩
    else .error "unknown error"

theorem twoCards_uuid {i : UInt32} {card : Card} {uuid : String} (hcard : twoCards.card i = .ok card)
    (huuid : card.uuid = some uuid) : i = 0 ∧ uuid = "GPU-1" := by
  simp only [twoCards] at hcard
  split at hcard
  case isTrue heq =>
    obtain rfl := Except.ok.inj hcard
    exact ⟨heq, (Option.some.inj huuid).symm⟩
  case isFalse =>
    split at hcard
    case isTrue =>
      obtain rfl := Except.ok.inj hcard
      exact absurd huuid (by simp)
    case isFalse => exact absurd hcard (by simp)

theorem twoCards_identified : twoCards.CardsIdentified where
  marked := by
    intro i card uuid hcard huuid _
    rw [(twoCards_uuid hcard huuid).2]
    decide
  unique := by
    intro i j card other uuid hcard hother huuid huuid' _
    rw [(twoCards_uuid hcard huuid).1, (twoCards_uuid hother huuid').1]

/-- The same cards, each with more in use than it has. -/
def crowdedCards : Hardware :=
  { twoCards with
    card := fun i => (twoCards.card i).map fun card =>
      { card with memory := card.memory.map fun memory => { memory with used := 4096 } } }

theorem twoCards_still : twoCards.Still crowdedCards := by
  refine ⟨fun vm before hvm hbefore => ?_, fun i card before hcard hbefore => ?_⟩
  · rw [Except.ok.inj (hvm.symm.trans hbefore)]
  · have hmap : (twoCards.card i).map (fun card =>
        { card with memory := card.memory.map fun memory => { memory with used := 4096 } }) =
          .ok card := hcard
    rw [hbefore] at hmap
    obtain rfl := Except.ok.inj hmap
    refine ⟨rfl, fun memory held hmemory hheld => ?_⟩
    change before.memory.map _ = .ok memory at hmemory
    rw [hheld] at hmemory
    obtain rfl := Except.ok.inj hmemory
    rfl

theorem collect_probes_twoCards :
    ∃ inv, collect (discoveriesOf (fun _ => twoCards) [.cpu, .nvml "550", .fake 1 1 none]) =
        .ok inv ∧
      inv.devices.map Device.localID = ["cpu:0", "GPU-1", "cuda:2", "fake-1:0"] ∧
      ∀ call ∈ inv.calls, call.2.localID ≠ "" ∧
        ∀ now s, call.1.sample crowdedCards now call.2 = .ok s →
          call.1.Samples crowdedCards call.2 s := by
  obtain ⟨hcollects, hconforms⟩ := collect_probes.2 [.cpu, .nvml "550", .fake 1 1 none]
    (fun _ => twoCards) (by decide) fun _ => twoCards_identified
  obtain ⟨inv, hcollect⟩ := hcollects.2 (by
    intro probe hprobe
    rcases probe with _ | _ | driverVersion | ⟨id, count, sampleErr⟩
    · exact ⟨_, rfl⟩
    · exact ⟨_, rfl⟩
    · exact ⟨_, rfl⟩
    · exact ⟨_, rfl⟩)
  obtain ⟨-, hcalls⟩ := hconforms inv hcollect
  refine ⟨inv, hcollect, ?_, fun call hcall => ?_⟩
  · rw [devices_collect hcollect]
    decide +kernel
  · obtain ⟨hid, -, hsamples⟩ := hcalls call hcall
    exact ⟨hid, fun now s hsample => hsamples crowdedCards now s twoCards_still hsample⟩

end ModelHub.Agent
