import ModelHub.ControlPlane.Fleet
import ModelHub.ControlPlane.StreamFrame

/-!
# Reads that no agent can break

One device row that a view cannot be made of would make `listNodes` fail for its whole
organization.  `RowRule` is the rule for such statements: what the proposed rows have,
and what new facts and new samples keep, every row has in every run (`RowRule.run`).

With it, a stored kind is always one that `computeBudget` knows, whatever numbers the
agents sent, so a view can be made of every row (`deviceView_eq`); and where the byte
counts on the wire stay below `2 ^ 53`, the bytes of a view are in range
(`fleet_reads_sound`).
-/

namespace ModelHub.ControlPlane

open ModelHub.Core Db Interleaving Binary64

variable {KeyObject : Type} {config : ServerEnv KeyObject} {orgId : String} {nodeId : Uuid}
  {db next : Database} {device : Device}

/-! ## What every row has -/

/-- The messages that a run hands over. -/
def messagesOf (labels : List (Label ServerFrame ServerStep ServerEvent)) : List AgentMessage :=
  labels.filterMap fun
    | .advance _ (.message message _) => some message
    | _ => none

theorem mem_messagesOf {labels : List (Label ServerFrame ServerStep ServerEvent)} {call : ℕ}
    {message : AgentMessage} {env : MessageEnv}
    (hmem : .advance call (.message message env) ∈ labels) : message ∈ messagesOf labels :=
  List.mem_filterMap.2 ⟨_, hmem, rfl⟩

/-- `good` is kept by every write of a device row, for messages that meet `fits`. -/
structure RowRule (fits : AgentMessage → Prop) (good : Device → Prop) : Prop where
  new : ∀ message, fits message → ∀ device ∈ knownDevices message.devices,
    ∀ orgId nodeId id createdAt, good (proposedDevice orgId nodeId device id createdAt)
  facts : ∀ message, fits message → ∀ device ∈ knownDevices message.devices, ∀ row, good row →
    good (setFacts device.2 row)
  last : ∀ message, fits message → ∀ sample ∈ message.batch, ∀ date row, good row →
    good (setLast (sampleColumns sample date) row)

namespace RowRule

variable {fits : AgentMessage → Prop} {good : Device → Prop}

theorem handleMessage (rule : RowRule fits good) {message : AgentMessage} {env : MessageEnv}
    (hfits : fits message) (hgood : ∀ row ∈ db.devices.rows, good row)
    (hhandle : handleMessage orgId nodeId message env db = .ok next) :
    ∀ row ∈ next.devices.rows, good row := by
  apply handleMessage_keeps (fun state => ∀ row ∈ state.devices.rows, good row) _ _ _ _ hgood hhandle
  · intro env round state following hround hgood hupsert row hrow
    obtain ⟨-, -, -, -, ⟨-, hrows⟩ | ⟨-, hrows⟩⟩ := upsertDevice_cases (upsertKnown_ok hupsert)
    · rw [hrows, List.mem_map] at hrow
      obtain ⟨old, hold, rfl⟩ := hrow
      unfold Table.rewrite
      split
      · exact rule.facts message hfits round.1 hround old (hgood old hold)
      · exact hgood old hold
    · rw [hrows, List.mem_append, List.mem_singleton] at hrow
      rcases hrow with hold | rfl
      · exact hgood row hold
      · exact rule.new message hfits round.1 hround _ _ _ _
  · intro keep state hgood row hrow
    exact hgood row (Table.mem_delete.1 hrow).1
  · intro sample hsample state following hgood happly row hrow
    obtain ⟨date, -, -, rfl⟩ := applySample_eq_ok.1 happly
    obtain ⟨old, hold, rfl⟩ := mem_updateDevices.1 hrow
    unfold Table.rewrite
    split
    · exact rule.last message hfits sample hsample date old (hgood old hold)
    · exact hgood old hold
  · intro set hset state _ hgood
    exact hgood

/-- The step hands over a message only if it meets `fits`. -/
def Admits (fits : AgentMessage → Prop) (step : ServerStep) : Prop :=
  ∀ message env, step = .message message env → fits message

theorem outline (rule : RowRule fits good) :
    Service.Outline ((serverService config).guarded (fun step _ _ => Admits fits step)
        fun _ _ => True)
      (fun store => Tenanted store.db ∧ ∀ row ∈ store.db.devices.rows, good row)
      (fun store frame => frame.Known store) where
  entry := fun store frame hstore hentry =>
    (@serverOutline _ config).entry store frame hstore.1 hentry
  advance_store := by
    rintro step store frame store' frame' ⟨htenanted, hgood⟩ hknown hadvance
    obtain ⟨hadmits, hadvance⟩ := Service.guarded_advance.1 hadvance
    refine ⟨(serverAdvance_known htenanted hknown hadvance).1, ?_⟩
    rcases serverAdvance_cases hknown hadvance with ⟨hdevices, -, -⟩ |
      ⟨header, read, org, message, env, hstep, -, -, hhandle⟩
    · rw [hdevices]
      exact hgood
    · exact rule.handleMessage (hadmits message env hstep) hgood hhandle
  advance_frame := fun _ _ _ _ _ hstore hknown hadvance =>
    (serverAdvance_known hstore.1 hknown (Service.guarded_advance.1 hadvance).2).2.2
  advance_stable := fun _ _ _ _ _ _ hstore hknown hother hadvance =>
    hother.mono (serverAdvance_known hstore.1 hknown (Service.guarded_advance.1 hadvance).2).2.1
  ambient_store := by
    rintro event store store' ⟨htenanted, hgood⟩ hambient
    obtain ⟨hdevices, hkeeps⟩ := serverAmbient_spec (Service.guarded_ambient.1 hambient).2
    refine ⟨htenanted.of_eq hkeeps hdevices, ?_⟩
    rw [hdevices]
    exact hgood
  ambient_stable := fun _ _ _ _ _ hother hambient =>
    hother.mono (serverAmbient_spec (Service.guarded_ambient.1 hambient).2).2

theorem run (rule : RowRule fits good) {start : AuthStore} (hempty : start.db.nodes.rows = [])
    {labels : List (Label ServerFrame ServerStep ServerEvent)}
    (hfits : ∀ message ∈ messagesOf labels, fits message)
    {state : State AuthStore ServerFrame}
    (hrun : (serverService config).system.run (State.idle start) labels = some state) :
    ∀ row ∈ state.store.db.devices.rows, good row := by
  have hstart : Tenanted start.db ∧ ∀ row ∈ start.db.devices.rows, good row := by
    refine ⟨.of_no_nodes hempty, fun row hrow => ?_⟩
    rw [no_devices hempty] at hrow
    cases hrow
  have halong : (serverService config).system.Along
      (Service.Meets (fun step _ _ => Admits fits step) fun _ _ => True) (State.idle start) labels := by
    have hlabels : (serverService config).system.Along (fun _ label => label ∈ labels)
        (State.idle start) labels :=
      Transition.System.along_of_forall (fun _ hlabel => hlabel) _
    refine Transition.System.along_mono (fun state label hlabel => ?_) hlabels
    cases label with
    | start call frame => trivial
    | advance call step =>
        intro _ _ message env hstep
        subst hstep
        exact hfits message (mem_messagesOf hlabel)
    | ambient event => trivial
  exact (rule.outline.run (Service.holds_idle hstart) (Service.guarded_run halong hrun)).1.2

end RowRule

/-! ## Every kind and pressure is known -/

/-- The row has a kind that `computeBudget` knows, and one of the three pressures. -/
structure Device.Named (device : Device) : Prop where
  kind : device.facts.kind.Known
  pressure : device.last.lastPressure.Known

theorem kindName_known {kind : Int32} {name : DeviceKind} (hname : kindName kind = some name) :
    name.Known := by
  have hmem : name ∈ KINDS.map Prod.fst := nameOf_mem hname
  simpa [KINDS, DeviceKind.Known] using hmem

theorem pressureName_known (pressure : Int32) :
    ((pressureName pressure).getD .normal).Known := by
  cases hname : pressureName pressure with
  | none => exact Or.inl rfl
  | some name =>
      have hmem : name ∈ PRESSURES.map Prod.fst := nameOf_mem hname
      simpa [PRESSURES, MemoryPressure.Known] using hmem

theorem mem_knownDevices {reported : List DeviceReport} {known : String × DeviceFacts}
    (hmem : known ∈ knownDevices reported) :
    ∃ report ∈ reported, kindName report.kind = some known.2.kind ∧
      known.1 = report.localId ∧ known.2.totalBytes = report.totalBytes.toNat ∧
      known.2.wiredLimitBytes = report.wiredLimitBytes.toNat := by
  obtain ⟨report, hreport, hknown⟩ := List.mem_filterMap.1 hmem
  obtain ⟨kind, hkind, rfl⟩ := Option.map_eq_some_iff.1 hknown
  exact ⟨report, hreport, hkind, rfl, rfl, rfl⟩

/-- Whatever the agents send. -/
theorem namedRule : RowRule (fun _ => True) Device.Named where
  new := by
    intro message _ device hdevice orgId nodeId id createdAt
    obtain ⟨report, -, hkind, -⟩ := mem_knownDevices hdevice
    exact ⟨kindName_known hkind, Or.inl rfl⟩
  facts := by
    intro message _ device hdevice row hrow
    obtain ⟨report, -, hkind, -⟩ := mem_knownDevices hdevice
    exact ⟨kindName_known hkind, hrow.pressure⟩
  last := by
    intro message _ sample _ date row hrow
    exact ⟨hrow.kind, pressureName_known sample.pressure⟩

/-! ## A view can be made of every row -/

@[simp] theorem bigInt_intCast (n : ℤ) : bigInt n = .ok n := by
  simp [bigInt]

/-- The budget of a row, where it has one. -/
def budgetOf (device : Device) : MemoryBudget :=
  (computeBudget (budgetInput device)).toOption.getD ⟨0, 0, 0, 0, 0, false⟩

/-- The view of a row of a known kind. -/
def viewOf (device : Device) : DeviceView where
  id := device.id
  localId := device.localId
  kind := (KINDS.lookup device.facts.kind).getD UNSPECIFIED
  name := device.facts.name
  totalBytes := ⌊(budgetOf device).totalBytes⌋
  managedBytes := ⌊(budgetOf device).managedBytes⌋
  foreignBytes := ⌊(budgetOf device).foreignBytes⌋
  headroomBytes := ⌊(budgetOf device).headroomBytes⌋
  availableBytes := ⌊(budgetOf device).availableBytes⌋
  utilization := device.last.lastUtilization
  pressure := (PRESSURES.lookup device.last.lastPressure).getD NORMAL
  schedulable := (budgetOf device).schedulable

def nodeViewOf (node : Node) (deviceRows : List Device) : NodeView where
  id := node.id
  name := node.name
  status := node.status
  lastSeenUnixMs := node.lastSeenAt.getD 0
  host := node.host
  devices := deviceRows.map viewOf

theorem computeBudget_of_row (hkind : device.facts.kind.Known) :
    computeBudget (budgetInput device) = .ok (budgetOf device) ∧ (budgetOf device).Whole := by
  obtain ⟨budget, hbudget, hwhole⟩ := @computeBudget_of_known (budgetInput device) hkind
    (nearest_intCast_isInt _) (nearest_intCast_isInt _) (nearest_intCast_isInt _)
    (fun limit hlimit => by
      rw [← Option.some.inj hlimit]
      exact nearest_intCast_isInt _)
  have hsame : budgetOf device = budget := by
    rw [budgetOf, hbudget]
    rfl
  rw [hsame]
  exact ⟨hbudget, hwhole⟩

theorem deviceView_eq (hkind : device.facts.kind.Known) : deviceView device = .ok (viewOf device) := by
  obtain ⟨hbudget, ⟨total, htotal⟩, ⟨managed, hmanaged⟩, ⟨foreign, hforeign⟩,
    ⟨headroom, hheadroom⟩, ⟨available, havailable⟩⟩ := computeBudget_of_row hkind
  unfold deviceView viewOf
  rw [hbudget]
  simp only [htotal, hmanaged, hforeign, hheadroom, havailable, bigInt_intCast, Int.floor_intCast]
  rfl

theorem mapM_eq_ok {Row View : Type} {make : Row → Except FleetError View} {view : Row → View}
    {rows : List Row} (hmake : ∀ row ∈ rows, make row = .ok (view row)) :
    rows.mapM make = .ok (rows.map view) := by
  induction rows with
  | nil => rfl
  | cons row rest ih =>
      rw [List.mapM_cons, hmake row List.mem_cons_self,
        ih fun other hother => hmake other (List.mem_cons_of_mem _ hother)]
      rfl

theorem nodeView_eq {node : Node} {deviceRows : List Device}
    (hkinds : ∀ device ∈ deviceRows, device.facts.kind.Known) :
    nodeView node deviceRows = .ok (nodeViewOf node deviceRows) := by
  rw [nodeView, mapM_eq_ok fun device hdevice => deviceView_eq (hkinds device hdevice)]
  rfl

/-! ## The bytes of a view -/

/-- The byte counts of a row are what a double holds exactly. -/
structure Device.Small (device : Device) : Prop where
  total : 0 ≤ device.facts.totalBytes ∧ device.facts.totalBytes < 2 ^ 53
  wired : 0 ≤ device.facts.wiredLimitBytes ∧ device.facts.wiredLimitBytes < 2 ^ 53
  used : 0 ≤ device.last.lastUsedBytes ∧ device.last.lastUsedBytes < 2 ^ 53
  managed : 0 ≤ device.last.lastManagedBytes ∧ device.last.lastManagedBytes < 2 ^ 53

/-- The byte counts in a message are below `2 ^ 53`. -/
structure AgentMessage.Small (message : AgentMessage) : Prop where
  devices : ∀ report ∈ message.devices,
    report.totalBytes.toNat < 2 ^ 53 ∧ report.wiredLimitBytes.toNat < 2 ^ 53
  samples : ∀ sample ∈ message.batch,
    sample.usedBytes.toNat < 2 ^ 53 ∧ sample.managedBytes.toNat < 2 ^ 53

theorem smallRule : RowRule AgentMessage.Small Device.Small := by
  have hreported : ∀ message : AgentMessage, message.Small →
      ∀ device ∈ knownDevices message.devices,
        (0 ≤ device.2.totalBytes ∧ device.2.totalBytes < 2 ^ 53) ∧
          (0 ≤ device.2.wiredLimitBytes ∧ device.2.wiredLimitBytes < 2 ^ 53) := by
    intro message hsmall device hdevice
    obtain ⟨report, hreport, -, -, htotal, hwired⟩ := mem_knownDevices hdevice
    obtain ⟨htotal', hwired'⟩ := hsmall.devices report hreport
    omega
  have hdefault : 0 ≤ LastSample.default.lastUsedBytes ∧
      LastSample.default.lastUsedBytes < 2 ^ 53 := by decide
  refine ⟨?_, ?_, ?_⟩
  · intro message hsmall device hdevice orgId nodeId id createdAt
    obtain ⟨htotal, hwired⟩ := hreported message hsmall device hdevice
    exact ⟨htotal, hwired, hdefault, hdefault⟩
  · intro message hsmall device hdevice row hrow
    obtain ⟨htotal, hwired⟩ := hreported message hsmall device hdevice
    exact ⟨htotal, hwired, hrow.used, hrow.managed⟩
  · intro message hsmall sample hsample date row hrow
    obtain ⟨hused, hmanaged⟩ := hsmall.samples sample hsample
    refine ⟨hrow.total, hrow.wired, ?_, ?_⟩
    · show 0 ≤ (sample.usedBytes.toNat : ℤ) ∧ (sample.usedBytes.toNat : ℤ) < 2 ^ 53
      omega
    · show 0 ≤ (sample.managedBytes.toNat : ℤ) ∧ (sample.managedBytes.toNat : ℤ) < 2 ^ 53
      omega

/-- The bytes of a budget are in range. -/
structure BudgetInRange (budget : MemoryBudget) : Prop where
  total : 0 ≤ budget.totalBytes ∧ budget.totalBytes ≤ 2 ^ 53
  managed : 0 ≤ budget.managedBytes ∧ budget.managedBytes ≤ 2 ^ 53
  foreign : 0 ≤ budget.foreignBytes ∧ budget.foreignBytes ≤ 2 ^ 53
  headroom : 0 ≤ budget.headroomBytes ∧ budget.headroomBytes ≤ 2 ^ 53
  available : 0 ≤ budget.availableBytes ∧ budget.availableBytes ≤ budget.totalBytes
  unschedulable : budget.schedulable = false → budget.availableBytes = 0

theorem clamp_mem {v hi : ℚ} (hhi : 0 ≤ hi) : 0 ≤ clamp v 0 hi ∧ clamp v 0 hi ≤ hi :=
  ⟨le_min (le_max_right _ _) hhi, min_le_right _ _⟩

theorem computeBudget_inRange {kind : DeviceKind} (hkind : kind.Known) {total used managed : ℕ}
    (htotal : total < 2 ^ 53) (hmanaged : managed < 2 ^ 53) (wired : Option ℕ)
    (interactive : Option Bool) (pressure : Option MemoryPressure) {budget : MemoryBudget}
    (hbudget : computeBudget (wholeInput kind total used managed wired interactive pressure) =
      .ok budget) : BudgetInRange budget := by
  unfold computeBudget at hbudget
  split at hbudget
  · cases hbudget
    exact ⟨by norm_num, by norm_num, by norm_num, by norm_num, by norm_num, fun _ => rfl⟩
  · rw [headroomAndCeiling_whole hkind htotal] at hbudget
    cases hbudget
    have htotal0 : (0 : ℚ) ≤ total := by positivity
    have htotal1 : (total : ℚ) ≤ 2 ^ 53 := by exact_mod_cast htotal.le
    obtain ⟨hheadroom, hheadroom'⟩ := headroomOf_mem htotal kind interactive
    have hmanaged0 : (0 : ℚ) ≤ managed ∧ (managed : ℚ) ≤ 2 ^ 53 :=
      ⟨by positivity, by exact_mod_cast hmanaged.le⟩
    have hheadroom0 : (0 : ℚ) ≤ (headroomOf kind total interactive : ℤ) ∧
        ((headroomOf kind total interactive : ℤ) : ℚ) ≤ 2 ^ 53 :=
      ⟨by exact_mod_cast hheadroom, by exact_mod_cast hheadroom'⟩
    have hforeign := @clamp_mem (sub (used : ℚ) managed) total htotal0
    have havailable : ∀ (schedulable : Bool) (raw : ℚ),
        0 ≤ (if schedulable then clamp raw 0 total else 0) ∧
          (if schedulable then clamp raw 0 total else 0) ≤ total := by
      intro schedulable raw
      split
      · exact clamp_mem htotal0
      · exact ⟨le_rfl, htotal0⟩
    refine ⟨⟨htotal0, htotal1⟩, hmanaged0, ⟨hforeign.1, hforeign.2.trans htotal1⟩, hheadroom0,
      havailable _ _, fun hnot => ?_⟩
    simp only [budgetBelow] at hnot ⊢
    rw [hnot]
    rfl

theorem budgetOf_inRange (hkind : device.facts.kind.Known) (hsmall : Device.Small device) :
    BudgetInRange (budgetOf device) := by
  obtain ⟨⟨htotal, htotal'⟩, ⟨hwired, hwired'⟩, ⟨hused, hused'⟩, ⟨hmanaged, hmanaged'⟩⟩ := hsmall
  obtain ⟨total, htotalEq⟩ := Int.eq_ofNat_of_zero_le htotal
  obtain ⟨wired, hwiredEq⟩ := Int.eq_ofNat_of_zero_le hwired
  obtain ⟨used, husedEq⟩ := Int.eq_ofNat_of_zero_le hused
  obtain ⟨managed, hmanagedEq⟩ := Int.eq_ofNat_of_zero_le hmanaged
  rw [htotalEq] at htotal'
  rw [hwiredEq] at hwired'
  rw [husedEq] at hused'
  rw [hmanagedEq] at hmanaged'
  have hinput : budgetInput device = wholeInput device.facts.kind total used managed (some wired)
      (some device.interactive) (some device.last.lastPressure) := by
    unfold budgetInput wholeInput
    rw [htotalEq, hwiredEq, husedEq, hmanagedEq, @nearest_natCast total (by omega),
      @nearest_natCast wired (by omega), @nearest_natCast used (by omega),
      @nearest_natCast managed (by omega)]
    rfl
  have hbudget := (computeBudget_of_row hkind).1
  rw [hinput] at hbudget
  exact computeBudget_inRange hkind (by exact_mod_cast htotal') (by exact_mod_cast hmanaged') _ _ _
    hbudget

/-- What the web app can rely on. -/
structure DeviceView.Sound (view : DeviceView) : Prop where
  bytes : ∀ count ∈ [view.totalBytes, view.managedBytes, view.foreignBytes, view.headroomBytes,
    view.availableBytes], 0 ≤ count ∧ count < 2 ^ 64
  available : view.availableBytes ≤ view.totalBytes
  unschedulable : view.schedulable = false → view.availableBytes = 0
  kind : view.kind ≠ UNSPECIFIED

theorem floor_mem {x : ℚ} (hx : 0 ≤ x ∧ x ≤ 2 ^ 53) : 0 ≤ ⌊x⌋ ∧ ⌊x⌋ < 2 ^ 64 := by
  refine ⟨Int.floor_nonneg.2 hx.1, Int.floor_lt.2 (hx.2.trans_lt ?_)⟩
  norm_num

theorem viewOf_sound (hkind : device.facts.kind.Known) (hsmall : Device.Small device) :
    (viewOf device).Sound := by
  have hrange := budgetOf_inRange hkind hsmall
  refine ⟨?_, Int.floor_le_floor hrange.available.2, fun hnot => ?_, ?_⟩
  · simp only [viewOf, List.forall_mem_cons, List.not_mem_nil, false_implies, implies_true, and_true]
    exact ⟨floor_mem hrange.total, floor_mem hrange.managed, floor_mem hrange.foreign,
      floor_mem hrange.headroom,
      floor_mem ⟨hrange.available.1, hrange.available.2.trans hrange.total.2⟩⟩
  · have hzero := hrange.unschedulable hnot
    simp only [viewOf, hzero, Int.floor_zero]
  · rcases hkind with hkind | hkind | hkind <;> simp only [viewOf, hkind] <;> decide

/-! ## The reads -/

section Reads

variable {env : ReadEnv}

theorem visibleDevices_mem {node : Node}
    (hmem : device ∈ (visibleDevices orgId db).filter fun device => device.nodeId = node.id) :
    device ∈ db.devices.rows :=
  List.mem_of_mem_filter (List.mem_of_mem_filter hmem)

theorem listNodes_eq (hkinds : ∀ device ∈ db.devices.rows, device.facts.kind.Known) :
    listNodes env orgId db =
      .ok ((env.collation.select Node.name env.nodes (visibleNodes orgId db)).map fun node =>
        nodeViewOf node ((env.collation.select Device.localId env.devices
          (visibleDevices orgId db)).filter fun device => device.nodeId = node.id)) := by
  unfold listNodes
  refine mapM_eq_ok fun node _ => nodeView_eq fun device hdevice => hkinds device ?_
  exact List.mem_of_mem_filter (KeyOrder.select_perm _ |>.mem_iff.1 (List.mem_of_mem_filter hdevice))

theorem getNode_eq_some {id : Uuid} {text : String} (hid : parseUuid text = some id) {node : Node}
    (hnode : (env.nodes.rows ((visibleNodes orgId db).filter fun node => node.id = id)).head? =
      some node)
    (hkinds : ∀ device ∈ db.devices.rows, device.facts.kind.Known) :
    getNode env orgId text db = .ok (nodeViewOf node (env.collation.select Device.localId env.devices
      ((visibleDevices orgId db).filter fun device => device.nodeId = node.id))) := by
  unfold getNode
  rw [hid]
  simp only [hnode]
  refine nodeView_eq fun device hdevice => hkinds device ?_
  exact visibleDevices_mem (KeyOrder.select_perm _ |>.mem_iff.1 hdevice)

/-- A read finds no such node, or returns one whose views are made of rows. -/
theorem getNode_cases {text : String}
    (hkinds : ∀ device ∈ db.devices.rows, device.facts.kind.Known) :
    getNode env orgId text db = .error .notFound ∨
      ∃ node ∈ visibleNodes orgId db, ∃ rows : List Device,
        (∀ device ∈ rows, device ∈ db.devices.rows) ∧
        getNode env orgId text db = .ok (nodeViewOf node rows) := by
  cases hid : parseUuid text with
  | none => exact Or.inl (by simp only [getNode, hid])
  | some id =>
      cases hnode : (env.nodes.rows ((visibleNodes orgId db).filter fun node => node.id = id)).head? with
      | none => exact Or.inl (by simp only [getNode, hid, hnode])
      | some node =>
          have hmem : node ∈ (visibleNodes orgId db).filter fun node => node.id = id :=
            (env.nodes.perm _).mem_iff.1 (List.mem_of_head? hnode)
          refine Or.inr ⟨node, List.mem_of_mem_filter hmem, _, fun device hdevice => ?_,
            getNode_eq_some hid hnode hkinds⟩
          exact visibleDevices_mem (KeyOrder.select_perm _ |>.mem_iff.1 hdevice)

end Reads

/-- Whatever the agents send, every stored kind and pressure is known and every read
returns; and as long as the byte counts they send are below `2 ^ 53`, the bytes of every
view are in range. -/
theorem fleet_reads_sound (config : ServerEnv KeyObject) {start : AuthStore}
    (hempty : start.db.nodes.rows = []) {labels : List (Label ServerFrame ServerStep ServerEvent)}
    (hsmall : ∀ message ∈ messagesOf labels, message.Small) {state : State AuthStore ServerFrame}
    (hrun : (serverService config).system.run (State.idle start) labels = some state) :
    (∀ device ∈ state.store.db.devices.rows, Device.Named device ∧
      ∃ budget, computeBudget (budgetInput device) = .ok budget) ∧
    ∀ env orgId,
      (∃ views, listNodes env orgId state.store.db = .ok views ∧
        ∀ view ∈ views, ∀ device ∈ view.devices, device.Sound) ∧
      ∀ nodeId, getNode env orgId nodeId state.store.db = .error .notFound ∨
        ∃ view, getNode env orgId nodeId state.store.db = .ok view ∧
          ∀ device ∈ view.devices, device.Sound := by
  have hnamed := namedRule.run hempty (fun _ _ => trivial) hrun
  have hcounts := smallRule.run hempty hsmall hrun
  have hkinds : ∀ device ∈ state.store.db.devices.rows, device.facts.kind.Known :=
    fun device hdevice => (hnamed device hdevice).kind
  have hsound : ∀ rows : List Device, (∀ row ∈ rows, row ∈ state.store.db.devices.rows) →
      ∀ view ∈ rows.map viewOf, view.Sound := by
    intro rows hrows view hview
    obtain ⟨row, hrow, rfl⟩ := List.mem_map.1 hview
    exact viewOf_sound (hkinds row (hrows row hrow)) (hcounts row (hrows row hrow))
  refine ⟨fun device hdevice => ⟨hnamed device hdevice, budgetOf device, ?_⟩,
    fun env orgId => ⟨?_, fun nodeId => ?_⟩⟩
  · exact (computeBudget_of_row (hkinds device hdevice)).1
  · refine ⟨_, listNodes_eq hkinds, fun view hview => ?_⟩
    obtain ⟨node, -, rfl⟩ := List.mem_map.1 hview
    refine hsound _ fun row hrow => ?_
    exact List.mem_of_mem_filter
      (KeyOrder.select_perm _ |>.mem_iff.1 (List.mem_of_mem_filter hrow))
  · rcases @getNode_cases orgId state.store.db env nodeId hkinds with
      hnone | ⟨node, -, rows, hrows, hview⟩
    · exact Or.inl hnone
    · exact Or.inr ⟨_, hview, hsound rows hrows⟩

/-! ### A run -/

/-- A report of a device of an unknown kind and of one with no memory. -/
def oddReport : AgentMessage :=
  .inventory [⟨"X", 9, 0, "X", 5, "", "", 0⟩, ⟨"GPU-1", 2, 0, "A", 0, "550", "8.9", 0⟩]

/-- More in use than there is, and a pressure of an unknown number. -/
def oddSamples : AgentMessage := .samples [⟨"GPU-1", 512, 1024, 0, 77, 1760000000000⟩]

/-- The enrolled machine opens a stream and sends both. -/
def oddStreamRun : List (Label ServerFrame ServerStep ServerEvent) :=
  enrollmentRun ++ .start 1 (.stream ⟨aheadHeader, .start⟩) ::
    List.replicate 5 (.advance 1 (.reply .arrives)) ++
    [.advance 1 (.message oddReport
        ⟨1760000000000, 1760000000000, fun place => BitVec.ofNat 128 (place + 9)⟩),
      .advance 1 (.message oddSamples ⟨1760000000000, 1760000000000, fun _ => 0⟩)]

theorem fleet_reads_sound_odd :
    ∃ state, (serverService sampleServer).system.run (State.idle emptyServer) oddStreamRun =
        some state ∧
      state.store.db.devices.rows.map (fun device => (device.localId, device.facts.kind)) =
        [("GPU-1", .cuda)] ∧
      ∀ device ∈ state.store.db.devices.rows, Device.Named device := by
  have hrows : ((serverService sampleServer).system.run (State.idle emptyServer) oddStreamRun).map
      (fun state => state.store.db.devices.rows.map fun device =>
        (device.localId, device.facts.kind)) = some [("GPU-1", .cuda)] := by
    decide +kernel
  obtain ⟨state, hrun, hcolumns⟩ := Option.map_eq_some_iff.1 hrows
  have hsmall : ∀ message ∈ messagesOf oddStreamRun, message.Small := by
    have hmessages : messagesOf oddStreamRun = [oddReport, oddSamples] := rfl
    rw [hmessages]
    intro message hmem
    rcases List.mem_pair.1 hmem with rfl | rfl
    · exact ⟨by decide, by decide⟩
    · exact ⟨by decide, by decide⟩
  exact ⟨state, hrun, hcolumns, fun device hdevice =>
    ((fleet_reads_sound sampleServer rfl hsmall hrun).1 device hdevice).1⟩

end ModelHub.ControlPlane
