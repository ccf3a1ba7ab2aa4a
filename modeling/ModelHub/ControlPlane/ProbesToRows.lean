import ModelHub.ControlPlane.Heartbeat
import ModelHub.Foundations.OrderBy

/-!
# From probes to rows

What a connection of the agent leaves in the database: the devices that its probes found,
each with the readings of its last sample.

The local ids of an inventory are unique, because `collect` fails otherwise.  So none of
the rules by which the server resolves duplicates ever applies: the last entry for a local
id is the only one, and the samples for a local id are those of one device.  What is left
is to follow the values through the two conversions (`knownDevice_deviceProto`,
`sampleColumns_sampleProto`), which lose nothing of a value that fits its column.
-/

namespace ModelHub.ControlPlane

open ModelHub.Core Db
open ModelHub.Agent (Connection Discovery Inventory KindCPU KindCUDA KindMetal PressureCritical
  PressureNormal PressureWarn calls_collect collect collect_isError connectOnce
  connectOnce_collected deviceProto devices_collect devicesProto discovered hostProto sampleProto
  sampleTick samplesProto toUint32)

/-! ## What a row should hold -/

/-- The known kinds. -/
def kindOf (kind : Agent.Kind) : Option DeviceKind :=
  [(KindCPU, .cpu), (KindCUDA, .cuda), (KindMetal, .metal)].lookup kind

/-- A pressure that is not known counts as normal. -/
def pressureOf (pressure : Agent.Pressure) : MemoryPressure :=
  ([(PressureNormal, .normal), (PressureWarn, .warn), (PressureCritical, .critical)].lookup
    pressure).getD .normal

/-- The local id and the static facts of a device of a known kind. -/
def deviceColumns (d : Agent.Device) : Option (String × DeviceFacts) :=
  (kindOf d.kind).map fun kind =>
    (d.localID,
      { kind := kind
        index := d.index.toInt
        name := d.name
        totalBytes := d.totalBytes.toNat
        wiredLimitBytes := d.wiredLimitBytes.toNat
        driverVersion := d.driverVersion
        computeCapability := d.computeCapability })

/-- The dynamic columns of a row after a sample. -/
def lastOf (s : Agent.Sample) : LastSample where
  lastUsedBytes := s.usedBytes.toNat
  lastManagedBytes := s.managedBytes.toNat
  lastUtilization := storedDouble s.utilization
  lastPressure := pressureOf s.pressure
  lastSampleAt := some s.sampledAt.toInt

/-! ## Values that fit -/

/-- The values of a device fit their columns, and its index the wire. -/
structure DeviceFits (d : Agent.Device) : Prop where
  index : 0 ≤ d.index.toInt
  columns : ∀ columns, deviceColumns d = some columns →
    (∀ check ∈ columns.2.checks, check = none) ∧ textError columns.1 = none

/-- The values of a sample fit their columns. -/
structure SampleFits (s : Agent.Sample) : Prop where
  checks : ∀ check ∈ LastSample.checks (lastOf s), check = none
  localID : textError s.localID = none

theorem integerError_eq_none {value : ℤ} :
    integerError value = none ↔ -2147483648 ≤ value ∧ value ≤ 2147483647 := by
  unfold integerError
  split <;> simp_all

theorem toUint32_toNat {value : Int64} (hlow : 0 ≤ value.toInt) (hhigh : value.toInt < 2 ^ 32) :
    ((toUint32 value).toNat : ℤ) = value.toInt := by
  have hnonneg : 0 ≤ value := Int64.le_iff_toInt_le.2 hlow
  have hwide : value.toUInt64.toNat = value.toInt.toNat := Int64.toNat_toUInt64_of_le hnonneg
  rw [toUint32, UInt64.toNat_toUInt32, hwide]
  omega

theorem kindName_lookup (kind : Agent.Kind) :
    kindName ((Agent.kindProto.lookup kind).getD 0) = kindOf kind := by
  simp only [Agent.kindProto, kindOf, List.lookup_cons, List.lookup_nil]
  split
  · rfl
  · split
    · rfl
    · split <;> rfl

theorem pressureName_lookup (pressure : Agent.Pressure) :
    (pressureName ((Agent.pressureProto.lookup pressure).getD 0)).getD .normal =
      pressureOf pressure := by
  simp only [Agent.pressureProto, pressureOf, List.lookup_cons, List.lookup_nil]
  split
  · rfl
  · split
    · rfl
    · split <;> rfl

/-- A device that fits arrives as it is. -/
theorem knownDevice_deviceProto {d : Agent.Device}
    (hfits : (kindOf d.kind).isSome → DeviceFits d) :
    knownDevice (deviceProto d) = deviceColumns d := by
  unfold knownDevice deviceColumns
  rw [show kindName (deviceProto d).kind = kindOf d.kind from kindName_lookup d.kind]
  cases hkind : kindOf d.kind with
  | none => rfl
  | some kind =>
      have hdevice := hfits (by rw [hkind]; rfl)
      have hcolumns := hdevice.columns _ (by rw [deviceColumns, hkind, Option.map_some])
      have hindex : integerError d.index.toInt = none := hcolumns.1 _ List.mem_cons_self
      have hrange := integerError_eq_none.1 hindex
      have hsame := toUint32_toNat hdevice.index (by omega)
      simp only [Option.map_some, deviceProto, hsame]

/-- So does a sample. -/
theorem sampleColumns_sampleProto {s : Agent.Sample} (hfits : SampleFits s) :
    sampledAt (sampleProto s) = some s.sampledAt.toInt ∧
      sampleColumns (sampleProto s) s.sampledAt.toInt = lastOf s := by
  have htime : timestampError s.sampledAt.toInt = none :=
    hfits.checks _ (by simp [LastSample.checks, lastOf])
  have hyears := timestampError_eq_none.1 htime
  constructor
  · refine sampledAt_eq_some.2 ⟨abs_le.2 ?_, rfl⟩
    show -JavaScript.MAX_DATE ≤ s.sampledAt.toInt ∧ s.sampledAt.toInt ≤ JavaScript.MAX_DATE
    norm_num [JavaScript.MAX_DATE]
    omega
  · simp only [sampleColumns, lastOf, sampleProto, pressureName_lookup]

theorem knownDevices_devicesProto {devices : List Agent.Device}
    (hfits : ∀ d ∈ devices, (kindOf d.kind).isSome → DeviceFits d) :
    knownDevices (devicesProto devices) = devices.filterMap deviceColumns := by
  unfold knownDevices devicesProto
  rw [List.filterMap_map]
  exact List.filterMap_congr fun d hd => knownDevice_deviceProto (hfits d hd)

/-! ## The samples of one device -/

section Samples

variable {Probe : Type} {inv : Inventory Probe} {call : Probe × Agent.Device}
  {sample : Inventory.Sampler Probe}

/-- A probe's samples carry their device's local id, and their values fit. -/
def SamplesFit (inv : Inventory Probe) (sample : Inventory.Sampler Probe) : Prop :=
  ∀ call ∈ inv.calls, ∀ s, sample call.1 call.2 = .ok s → s.localID = call.2.localID ∧ SampleFits s

theorem calls_nodup (inv : Inventory Probe) :
    (inv.calls.map fun call => call.2.localID).Nodup := by
  have hids : (inv.calls.map fun call => call.2.localID) =
      (inv.calls.map Prod.snd).map Agent.Device.localID := by
    rw [List.map_map]
    rfl
  rw [hids, inv.calls_devices]
  exact inv.nodup

/-- In a round the server finds one sample at most for a local id: the device's own. -/
theorem sampleReports_sampleAll (hfits : SamplesFit inv sample) (hcall : call ∈ inv.calls) :
    sampleReports call.2.localID (.samples (samplesProto (inv.sampleAll sample))) =
      ((sample call.1 call.2).toOption.map lastOf).toList := by
  have hround : ∀ other ∈ inv.calls,
      ((sample other.1 other.2).toOption.bind fun s =>
        if (sampleProto s).localId = call.2.localID then
          (sampledAt (sampleProto s)).map (sampleColumns (sampleProto s))
        else none) =
      if other.2.localID = call.2.localID then (sample other.1 other.2).toOption.map lastOf
      else none := by
    intro other hother
    cases hresult : sample other.1 other.2 with
    | error error =>
        simp only [Except.toOption, Option.bind_none, Option.map_none, ite_self]
    | ok s =>
        obtain ⟨hlocal, hsample⟩ := hfits other hother s hresult
        obtain ⟨hdate, hcolumns⟩ := sampleColumns_sampleProto hsample
        have hsame : (sampleProto s).localId = other.2.localID := hlocal
        simp only [Except.toOption, Option.bind_some, Option.map_some, hsame, hdate, hcolumns]
  calc sampleReports call.2.localID (.samples (samplesProto (inv.sampleAll sample)))
      = inv.calls.filterMap fun other => (sample other.1 other.2).toOption.bind fun s =>
          if (sampleProto s).localId = call.2.localID then
            (sampledAt (sampleProto s)).map (sampleColumns (sampleProto s))
          else none := by
        simp only [sampleReports, samplesProto, Inventory.sampleAll_eq, List.filterMap_map,
          List.filterMap_filterMap, Function.comp_def]
    _ = inv.calls.filterMap fun other =>
          if other.2.localID = call.2.localID then (sample other.1 other.2).toOption.map lastOf
          else none := List.filterMap_congr hround
    _ = (inv.calls.filter fun other => other.2.localID = call.2.localID).filterMap fun other =>
          (sample other.1 other.2).toOption.map lastOf := by
        rw [List.filterMap_filter]
        simp only [decide_eq_true_eq]
    _ = ((sample call.1 call.2).toOption.map lastOf).toList := by
        rw [filter_unique (calls_nodup inv) hcall]
        simp only [List.filterMap_cons, List.filterMap_nil]
        cases (sample call.1 call.2).toOption <;> rfl

/-- What a device's probe has returned, round by round. -/
def readings (ticks : List (Inventory.Sampler Probe)) (call : Probe × Agent.Device) :
    List Agent.Sample :=
  ticks.filterMap fun sample => (sample call.1 call.2).toOption

/-- The batches of a connection say about a device what its probe has returned. -/
theorem sampleReports_ticks {ticks : List (Inventory.Sampler Probe)}
    (hfits : ∀ sample ∈ ticks, SamplesFit inv sample) (hcall : call ∈ inv.calls) :
    (ticks.flatMap (sampleTick inv)).flatMap (sampleReports call.2.localID) =
      (readings ticks call).map lastOf := by
  induction ticks with
  | nil => rfl
  | cons sample rest ih =>
      have hround : (sampleTick inv sample).flatMap (sampleReports call.2.localID) =
          ((sample call.1 call.2).toOption.map lastOf).toList := by
        rw [← sampleReports_sampleAll (hfits sample List.mem_cons_self) hcall]
        unfold sampleTick
        by_cases hnone : (inv.sampleAll sample).length = 0
        · -- no batch is sent, and an empty one would have said nothing
          rw [List.length_eq_zero_iff.1 hnone]
          rfl
        · simp only [if_neg hnone, List.flatMap_cons, List.flatMap_nil, List.append_nil]
      rw [List.flatMap_cons, List.flatMap_append, hround,
        ih fun other hother => hfits other (List.mem_cons_of_mem _ hother)]
      unfold readings
      cases hresult : (sample call.1 call.2).toOption with
      | none => simp [hresult]
      | some s => simp [hresult]

end Samples

/-! ## A stream with one inventory -/

variable {orgId : String} {nodeId : Uuid} {localId : String} {db next final : Database}

/-- Without inventories a row only changes its dynamic columns. -/
theorem connect_batches {messages : List Delivery} (hown : OwnDevices orgId nodeId db)
    (hnone : ∀ message ∈ messages, message.1.isInventory = false)
    (hconnect : connect orgId nodeId messages db = .ok final) :
    rowOf final nodeId localId = (rowOf db nodeId localId).map fun device =>
      setLast ((reportsOf localId messages).getLast?.getD device.last) device := by
  induction messages generalizing db with
  | nil =>
      cases hconnect
      cases rowOf final nodeId localId <;> rfl
  | cons message rest ih =>
      obtain ⟨middle, hhandle, hrest⟩ := connect_cons.1 hconnect
      have hfollows := @handleMessage_follows _ _ localId _ _ _ _ hown hhandle
      have hlater := ih (own_handleMessage hown hhandle)
        (fun other hother => hnone other (List.mem_cons_of_mem _ hother)) hrest
      have hquiet := hnone message List.mem_cons_self
      obtain ⟨payload, env⟩ := message
      rw [hlater, reportsOf_cons, List.getLast?_append]
      cases payload with
      | hello agentVersion host =>
          rw [show rowOf middle nodeId localId = _ from hfollows]
          congr 1
          funext device
          cases (reportsOf localId rest).getLast? <;> rfl
      | inventory reported => cases hquiet
      | samples samples =>
          rw [show rowOf middle nodeId localId = _ from hfollows, Option.map_map]
          congr 1
          funext device
          cases (reportsOf localId rest).getLast? <;> rfl

/-- With distinct local ids the last entry is the only one. -/
theorem lastFacts_of_nodup {devices : List (String × DeviceFacts)}
    (hnodup : (devices.map Prod.fst).Nodup) {facts : DeviceFacts} :
    lastFacts localId devices = some facts ↔ (localId, facts) ∈ devices := by
  unfold lastFacts
  constructor
  · intro hlast
    obtain ⟨device, hdevice, rfl⟩ := Option.map_eq_some_iff.1 hlast
    obtain ⟨hmem, hlocal⟩ := List.mem_filter.1 (List.mem_of_getLast? hdevice)
    rw [decide_eq_true_eq] at hlocal
    subst hlocal
    exact hmem
  · intro hmem
    have hown : devices.filter (fun device => device.1 = localId) = [(localId, facts)] :=
      filter_unique hnodup hmem
    rw [hown]
    rfl

/-! ## A connection -/

section Connection

variable {Probe : Type} {inv : Inventory Probe} {version : String} {connection : Connection Probe}
  {host : Agent.HostInfo}

/-- What a connection sends fits its columns. -/
structure ConnectionFits (version : String) (host : Agent.HostInfo) (inv : Inventory Probe)
    (ticks : List (Inventory.Sampler Probe)) : Prop where
  host : (AgentMessage.hello version (some (hostProto version host))).Fits
  devices : ∀ d ∈ inv.devices, (kindOf d.kind).isSome → DeviceFits d
  samples : ∀ sample ∈ ticks, SamplesFit inv sample

theorem ConnectionFits.inventory {ticks : List (Inventory.Sampler Probe)}
    (hfits : ConnectionFits version host inv ticks) :
    (AgentMessage.inventory (devicesProto inv.devices)).Fits := by
  intro device hdevice
  rw [knownDevices_devicesProto hfits.devices] at hdevice
  obtain ⟨d, hd, hcolumns⟩ := List.mem_filterMap.1 hdevice
  have hkind : (kindOf d.kind).isSome := by
    obtain ⟨kind, hkind, -⟩ := Option.map_eq_some_iff.1 hcolumns
    rw [hkind]
    rfl
  exact (hfits.devices d hd hkind).columns device hcolumns

theorem SamplesFit.batch {sample : Inventory.Sampler Probe} (hfits : SamplesFit inv sample) :
    ∀ message ∈ sampleTick inv sample, message.Fits := by
  intro message hmessage
  unfold sampleTick at hmessage
  by_cases hnone : (inv.sampleAll sample).length = 0
  · simp only [if_pos hnone, List.not_mem_nil] at hmessage
  · simp only [if_neg hnone, List.mem_singleton] at hmessage
    subst hmessage
    intro received hreceived
    obtain ⟨s, hs, rfl⟩ := List.mem_map.1 hreceived
    rw [Inventory.sampleAll_eq] at hs
    obtain ⟨call, hcall, hresult⟩ := List.mem_filterMap.1 hs
    obtain ⟨-, hsample⟩ := hfits call hcall s (by
      cases hreturned : sample call.1 call.2 with
      | error error => simp [hreturned, Except.toOption] at hresult
      | ok found => simpa [hreturned, Except.toOption] using hresult)
    obtain ⟨hdate, hcolumns⟩ := sampleColumns_sampleProto hsample
    refine ⟨_, hdate, ?_, hsample.localID⟩
    rw [hcolumns]
    exact hsample.checks

theorem ConnectionFits.messages (hfits : ConnectionFits version host inv connection.ticks)
    (hhost : connection.host = .ok host) (hfirst : connection.first.isSome)
    (hcollect : collect connection.discoveries = .ok inv) :
    ∀ message ∈ connectOnce version connection, message.Fits := by
  rw [connectOnce_collected hhost hfirst hcollect]
  intro message hmessage
  rcases List.mem_cons.1 hmessage with rfl | hmessage
  · exact hfits.host
  rcases List.mem_cons.1 hmessage with rfl | hmessage
  · exact hfits.inventory
  · obtain ⟨sample, hsample, hbatch⟩ := List.mem_flatMap.1 hmessage
    exact (hfits.samples sample hsample).batch message hbatch

/-- The rows of the node are those of the devices that were found, and a row holds the
readings of its device's last sample, else what it held before. -/
structure Stored (nodeId : Uuid) (inv : Inventory Probe) (ticks : List (Inventory.Sampler Probe))
    (db final : Database) : Prop where
  devices : ((final.devices.rows.filter fun row => row.nodeId = nodeId).map fun row =>
    (row.localId, row.facts)).Perm (inv.devices.filterMap deviceColumns)
  last : ∀ call ∈ inv.calls, (kindOf call.2.kind).isSome →
    ∃ row, rowOf final nodeId call.2.localID = some row ∧
      row.last = ((readings ticks call).getLast?.map lastOf).getD
        (((rowOf db nodeId call.2.localID).map Device.last).getD .default)

/-- Rows and devices are told apart by their local ids. -/
theorem stored_perm {known : List (String × DeviceFacts)} (hnodup : (known.map Prod.fst).Nodup)
    (hfacts : ∀ localId, (rowOf final nodeId localId).map Device.facts = lastFacts localId known) :
    ((final.devices.rows.filter fun row => row.nodeId = nodeId).map fun row =>
      (row.localId, row.facts)).Perm known := by
  have hrows : ((final.devices.rows.filter fun row => row.nodeId = nodeId).map fun row =>
      (row.localId, row.facts)).Nodup := by
    have hplaces : (final.devices.rows.filter fun row => row.nodeId = nodeId).Pairwise
        fun row other => row.localId ≠ other.localId := by
      have hall := List.Pairwise.filter (fun row : Device => decide (row.nodeId = nodeId))
        (List.pairwise_map.1 final.devices.key_nodup)
      refine (List.Pairwise.imp_of_mem ?_ hall)
      intro row other hrow hother hplace hsame
      have hnode := (List.mem_filter.1 hrow).2
      have hnode' := (List.mem_filter.1 hother).2
      rw [decide_eq_true_eq] at hnode hnode'
      exact hplace (by rw [Device.place, Device.place, hnode, hnode', hsame])
    refine List.pairwise_map.2 (hplaces.imp fun hlocal hsame => hlocal (congrArg Prod.fst hsame))
  refine (List.perm_ext_iff_of_nodup hrows (List.Nodup.of_map _ hnodup)).2 ?_
  rintro ⟨localId, facts⟩
  rw [← lastFacts_of_nodup hnodup, ← hfacts, List.mem_map, Option.map_eq_some_iff]
  constructor
  · rintro ⟨row, hrow, hcolumns⟩
    obtain ⟨hmem, hnode⟩ := List.mem_filter.1 hrow
    rw [decide_eq_true_eq] at hnode
    obtain ⟨hlocal, hfacts⟩ := Prod.mk.inj hcolumns
    exact ⟨row, rowOf_eq_some.2 ⟨hmem, hnode, hlocal⟩, hfacts⟩
  · rintro ⟨row, hrow, rfl⟩
    obtain ⟨hmem, hnode, hlocal⟩ := rowOf_eq_some.1 hrow
    refine ⟨row, List.mem_filter.2 ⟨hmem, ?_⟩, by rw [hlocal]⟩
    rw [decide_eq_true_eq]
    exact hnode

theorem deviceColumns_sublist (devices : List Agent.Device) :
    ((devices.filterMap deviceColumns).map Prod.fst).Sublist (devices.map Agent.Device.localID) := by
  induction devices with
  | nil => exact List.Sublist.slnil
  | cons d rest ih =>
      cases hcolumns : deviceColumns d with
      | none =>
          rw [List.filterMap_cons_none hcolumns, List.map_cons]
          exact ih.cons _
      | some columns =>
          have hlocal : columns.1 = d.localID := by
            obtain ⟨kind, -, rfl⟩ := Option.map_eq_some_iff.1 hcolumns
            rfl
          rw [List.filterMap_cons_some hcolumns, List.map_cons, List.map_cons, hlocal]
          exact ih.cons_cons _

/-- What the server makes of a connection. -/
theorem connect_stored {deliveries : List Delivery} (hhost : connection.host = .ok host)
    (hfirst : connection.first.isSome) (hcollect : collect connection.discoveries = .ok inv)
    (hmessages : deliveries.map Prod.fst = connectOnce version connection)
    (hfits : ConnectionFits version host inv connection.ticks) (hown : OwnDevices orgId nodeId db)
    (hconnect : connect orgId nodeId deliveries db = .ok final) :
    Stored nodeId inv connection.ticks db final := by
  have hnodup : ((inv.devices.filterMap deviceColumns).map Prod.fst).Nodup :=
    (deviceColumns_sublist inv.devices).nodup inv.nodup
  rw [connectOnce_collected hhost hfirst hcollect] at hmessages
  obtain ⟨⟨hello, helloEnv⟩, later, rfl, rfl, hlater⟩ := List.map_eq_cons_iff.1 hmessages
  obtain ⟨⟨inventory, env⟩, batches, rfl, rfl, hbatches⟩ := List.map_eq_cons_iff.1 hlater
  have hquiet : ∀ message ∈ batches, message.1.isInventory = false := by
    intro message hmessage
    have hmem := @List.mem_map_of_mem _ _ _ _ Prod.fst hmessage
    rw [hbatches] at hmem
    obtain ⟨sample, -, hbatch⟩ := List.mem_flatMap.1 hmem
    unfold sampleTick at hbatch
    by_cases hnone : (inv.sampleAll sample).length = 0
    · simp only [if_pos hnone, List.not_mem_nil] at hbatch
    · simp only [if_neg hnone, List.mem_singleton] at hbatch
      rw [hbatch]
      rfl
  have hfacts : ∀ localId, (rowOf final nodeId localId).map Device.facts =
      lastFacts localId (inv.devices.filterMap deviceColumns) := by
    intro localId
    have hrow := @connect_inventory _ _ _ _ [(.hello version (some (hostProto version host)), helloEnv)]
      batches (devicesProto inv.devices) env hown hquiet hconnect localId
    rwa [knownDevices_devicesProto hfits.devices] at hrow
  refine ⟨stored_perm hnodup hfacts, ?_⟩
  intro call hcall hkind
  -- the row after the Hello, after the inventory and after the batches
  obtain ⟨greeted, hhello, hrest⟩ := connect_cons.1 hconnect
  obtain ⟨reported, hinventory, hsamples⟩ := connect_cons.1 hrest
  have howned := own_handleMessage hown hhello
  have hgreeted := @handleMessage_follows _ _ call.2.localID _ _ _ _ hown hhello
  obtain ⟨new, hnew, hreported⟩ :=
    @handleMessage_follows _ _ call.2.localID _ _ _ _ howned hinventory
  have hfinal := @connect_batches _ _ call.2.localID _ _ _ (own_handleMessage howned hinventory)
    hquiet hsamples
  obtain ⟨kind, hkind⟩ := Option.isSome_iff_exists.1 hkind
  have hentry : ∃ facts, deviceColumns call.2 = some (call.2.localID, facts) := by
    rw [deviceColumns, hkind]
    exact ⟨_, rfl⟩
  obtain ⟨facts, hcolumns⟩ := hentry
  have hdevice : call.2 ∈ inv.devices := by
    rw [← inv.calls_devices]
    exact List.mem_map_of_mem hcall
  have hlast : lastFacts call.2.localID (inv.devices.filterMap deviceColumns) = some facts :=
    (lastFacts_of_nodup hnodup).2 (List.mem_filterMap.2 ⟨call.2, hdevice, hcolumns⟩)
  rw [knownDevices_devicesProto hfits.devices, hlast, Option.map_some] at hreported
  rw [hreported, Option.map_some] at hfinal
  have hreports : reportsOf call.2.localID batches =
      (readings connection.ticks call).map lastOf := by
    rw [← sampleReports_ticks hfits.samples hcall, ← hbatches, List.flatMap_map]
    rfl
  refine ⟨_, hfinal, ?_⟩
  have hold : rowOf greeted nodeId call.2.localID = rowOf db nodeId call.2.localID := hgreeted
  rw [hold, hreports, List.getLast?_map]
  cases hfound : rowOf db nodeId call.2.localID with
  | none => simp [setLast, setFacts, hnew]
  | some row => simp [setLast, setFacts]

end Connection

/-- `collect` fails exactly if a probe fails or two devices share a local id; an inventory
asks each device's own probe, in order; and a connection stores the devices it found and
their last samples, if its values fit. -/
theorem probes_to_rows {Probe : Type} :
    (∀ discoveries : List (Discovery Probe),
      (∃ error, collect discoveries = .error error) ↔
        (∃ discovery ∈ discoveries, ∃ error, discovery.devices = .error error) ∨
        ¬ ((discovered discoveries).map fun call => call.2.localID).Nodup) ∧
    (∀ (discoveries : List (Discovery Probe)) (inv : Inventory Probe),
      collect discoveries = .ok inv →
        inv.devices = (discovered discoveries).map Prod.snd ∧ inv.calls = discovered discoveries ∧
        ∀ sample, inv.sampleAll sample =
          (discovered discoveries).filterMap fun call => (sample call.1 call.2).toOption) ∧
    ∀ (version : String) (connection : Connection Probe) (host : Agent.HostInfo)
      (inv : Inventory Probe) (orgId : String) (nodeId : Uuid) (db : Database)
      (deliveries : List Delivery),
      connection.host = .ok host → connection.first.isSome →
      collect connection.discoveries = .ok inv →
      deliveries.map Prod.fst = connectOnce version connection →
      ConnectionFits version host inv connection.ticks →
      HasNode orgId nodeId db → OwnDevices orgId nodeId db →
      FreshIds db (deliveries.flatMap drawnIds) →
      ∃ final, connect orgId nodeId deliveries db = .ok final ∧
        Stored nodeId inv connection.ticks db final := by
  refine ⟨fun discoveries => collect_isError, fun discoveries inv hcollect => ?_, ?_⟩
  · refine ⟨devices_collect hcollect, calls_collect hcollect, fun sample => ?_⟩
    rw [Inventory.sampleAll_eq, calls_collect hcollect]
  · intro version connection host inv orgId nodeId db deliveries hhost hfirst hcollect hmessages
      hfits hnode hown hfresh
    have hready : StreamReady orgId nodeId db deliveries := by
      refine ⟨hnode, hown, fun message hmessage => ?_, hfresh⟩
      apply hfits.messages hhost hfirst hcollect
      rw [← hmessages]
      exact List.mem_map_of_mem hmessage
    obtain ⟨final, hfinal⟩ := connect_succeeds hready
    exact ⟨final, hfinal, connect_stored hhost hfirst hcollect hmessages hfits hown hfinal⟩

/-! ### A machine with a processor and three cards -/

inductive RackProbe where
  | cpu
  | driver
  deriving DecidableEq

def rackDiscoveries : List (Discovery RackProbe) :=
  [⟨.cpu, "cpu", .ok [⟨"cpu:0", KindCPU, 0, "amd64 CPU", 68719476736, 0, "", ""⟩]⟩,
    ⟨.driver, "cuda", .ok [⟨"GPU-1", KindCUDA, 0, "A", 1024, 0, "550", "8.9"⟩,
      ⟨"GPU-2", KindCUDA, 1, "B", 2048, 0, "550", "8.9"⟩, ⟨"NPU-1", "npu", 2, "C", 512, 0, "", ""⟩]⟩]

def rackInventory : Inventory RackProbe := (collect rackDiscoveries).toOption.getD .empty

theorem rackInventory_collect : collect rackDiscoveries = .ok rackInventory := rfl

/-- All but the second card are sampled. -/
def firstRound : Inventory.Sampler RackProbe
  | .cpu, d => .ok ⟨d.localID, 1073741824, 0, 4605380978949069210, PressureWarn, 1760000000000⟩
  | .driver, d =>
      if d.localID = "GPU-2" then .error (.other "no data")
      else .ok ⟨d.localID, 256, 128, 0, PressureNormal, 1760000000000⟩

def secondRound : Inventory.Sampler RackProbe
  | .cpu, _ => .error (.other "no data")
  | .driver, d =>
      if d.localID = "GPU-2" then .error (.other "no data")
      else .ok ⟨d.localID, 512, 512, 0, PressureCritical, 1760000005000⟩

def rackConnection : Connection RackProbe where
  host := .ok ⟨"h", "linux", "amd64", "6.8", 68719476736, 16⟩
  first := some (.helloAck "" 5000)
  discoveries := rackDiscoveries
  ticks := [firstRound, secondRound]

/-- A card that is gone, and one that had another driver. -/
def oldRack : Database :=
  (recordInventory "org_1" 5
    [⟨"GPU-0", 2, 0, "Z", 4096, "545", "8.0", 0⟩, ⟨"GPU-1", 2, 1, "A", 1024, "545", "8.9", 0⟩]
    ⟨1000, 1000, fun place => BitVec.ofNat 128 (place + 9)⟩ sampleRack).toOption.getD sampleRack

def rackDeliveries : List Delivery :=
  (connectOnce "0.1.0" rackConnection).map fun message =>
    (message, ⟨1000, 1000, fun place => BitVec.ofNat 128 (place + 20)⟩)

theorem rackConnection_fits : ConnectionFits "0.1.0"
    ⟨"h", "linux", "amd64", "6.8", 68719476736, 16⟩ rackInventory rackConnection.ticks := by
  refine ⟨?_, fun d hd hkind => ?_, fun sample hsample call hcall s hs => ?_⟩
  · show ∀ check ∈ HostColumns.checks _, check = none
    decide +kernel
  · have hall : ∀ d ∈ rackInventory.devices, (kindOf d.kind).isSome → 0 ≤ d.index.toInt ∧
        ∀ columns ∈ deviceColumns d,
          (∀ check ∈ columns.2.checks, check = none) ∧ textError columns.1 = none := by
      decide +kernel
    obtain ⟨hindex, hcolumns⟩ := hall d hd hkind
    exact ⟨hindex, hcolumns⟩
  · have hall : ∀ sample ∈ rackConnection.ticks, ∀ call ∈ rackInventory.calls,
        ∀ s ∈ (sample call.1 call.2).toOption, s.localID = call.2.localID ∧
          (∀ check ∈ LastSample.checks (lastOf s), check = none) ∧ textError s.localID = none := by
      decide +kernel
    obtain ⟨hlocal, hchecks, htext⟩ := hall sample hsample call hcall s (by rw [hs]; rfl)
    exact ⟨hlocal, hchecks, htext⟩

theorem probes_to_rows_rack :
    ∃ final, connect "org_1" 5 rackDeliveries oldRack = .ok final ∧
      Stored 5 rackInventory rackConnection.ticks oldRack final := by
  have hnode : HasNode "org_1" 5 oldRack := by
    unfold HasNode
    decide +kernel
  have hown : OwnDevices "org_1" 5 oldRack := by
    unfold OwnDevices
    decide +kernel
  have hmessages : rackDeliveries.map Prod.fst = connectOnce "0.1.0" rackConnection := by
    simp only [rackDeliveries, List.map_map, Function.comp_def, List.map_id']
  have hids : rackDeliveries.flatMap drawnIds = [20, 21, 22] := by decide +kernel
  have hheld : oldRack.devices.rows.map Device.id = [9, 10] := by decide +kernel
  have hfresh : FreshIds oldRack (rackDeliveries.flatMap drawnIds) := by
    rw [hids]
    refine ⟨by decide, fun id hid => ?_⟩
    rw [hheld]
    simp only [List.mem_cons, List.not_mem_nil, or_false] at hid
    rcases hid with rfl | rfl | rfl <;> decide
  exact probes_to_rows.2.2 "0.1.0" rackConnection _ rackInventory "org_1" 5 oldRack rackDeliveries
    rfl rfl rackInventory_collect hmessages rackConnection_fits hnode hown hfresh

end ModelHub.ControlPlane
