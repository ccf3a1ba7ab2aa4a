import ModelHub.Db.Schema
import ModelHub.Foundations.Simulation
import Mathlib.Data.List.Induction
import Mathlib.Logic.Function.Basic

/-!
# What a fleet is

The abstract model of what the control plane keeps of the machines: a partial map from
ids to members.  A member joins with an identity that nothing changes, reports what it
consists of, and is given up by the sweeps when it is silent.  What the identities, the
facts of a device and the readings are does not matter here, and a report is a function
of the local ids: which devices it names, and what it says about each.

The system acts at each id for itself (`step_eq_some`), so what becomes of a device is a
fold of its member's reports (`devices_run`).  `Explained` reads that fold: a device that
the fleet has was named by every inventory since the one that brought it, its facts are
those of the last of them, and its reading is the last one since it was brought.
-/

namespace ModelHub.FleetSpec

open Db Transition

/-- A machine, as far as the fleet knows it. -/
structure Member (Identity Host LocalId Facts Reading : Type*) where
  identity : Identity
  host : Host
  status : NodeStatus
  lastSeen : Option Time
  devices : LocalId → Option (Facts × Reading)

/-- What a member says. -/
inductive Report (Host LocalId Facts Reading : Type*) where
  | hello (host : Host) (now : Time)
  | inventory (named : LocalId → Option Facts)
  | samples (readings : LocalId → Option Reading) (now : Time)

inductive Change (Id Identity Host LocalId Facts Reading : Type*) where
  | enrolled (id : Id) (identity : Identity) (host : Host)
  | told (id : Id) (report : Report Host LocalId Facts Reading)
  /-- Every member that is not offline and was last seen before the cutoff. -/
  | offline (cutoff : Time)
  /-- Every member that is online and was last seen before the cutoff. -/
  | degraded (cutoff : Time)

variable {Id Identity Host LocalId Facts Reading Key : Type*}

/-! ## Members -/

/-- A member that has said nothing yet. -/
def Member.new (identity : Identity) (host : Host) :
    Member Identity Host LocalId Facts Reading where
  identity := identity
  host := host
  status := .offline
  lastSeen := none
  devices := fun _ => none

/-- What a report does to a device. -/
def Report.device (initial : Reading) (localId : LocalId) :
    Report Host LocalId Facts Reading → Option (Facts × Reading) → Option (Facts × Reading)
  | .hello _ _, device => device
  | .inventory named, device =>
      (named localId).map fun facts => (facts, (device.map Prod.snd).getD initial)
  | .samples readings _, device =>
      device.map fun device => (device.1, (readings localId).getD device.2)

/-- What a report does to its member. -/
def Member.tell (initial : Reading) (report : Report Host LocalId Facts Reading)
    (member : Member Identity Host LocalId Facts Reading) :
    Member Identity Host LocalId Facts Reading :=
  let devices := fun localId => report.device initial localId (member.devices localId)
  match report with
  | .hello host now =>
      { member with host := host, status := .online, lastSeen := some now, devices := devices }
  | .inventory _ => { member with devices := devices }
  | .samples _ now => { member with status := .online, lastSeen := some now, devices := devices }

def Member.seenBefore (cutoff : Time) (member : Member Identity Host LocalId Facts Reading) :
    Prop :=
  ∃ seen, member.lastSeen = some seen ∧ seen < cutoff

open Classical in
/-- A sweep gives a member that meets `guard` and has been silent its new status. -/
noncomputable def Member.sweep (guard : NodeStatus → Prop) (status : NodeStatus) (cutoff : Time)
    (member : Member Identity Host LocalId Facts Reading) :
    Member Identity Host LocalId Facts Reading :=
  if guard member.status ∧ member.seenBefore cutoff then { member with status := status } else member

section Members

variable {initial : Reading} {member : Member Identity Host LocalId Facts Reading}
  {report : Report Host LocalId Facts Reading}

@[simp] theorem Member.tell_identity : (member.tell initial report).identity = member.identity := by
  cases report <;> rfl

@[simp] theorem Member.tell_devices (localId : LocalId) :
    (member.tell initial report).devices localId =
      report.device initial localId (member.devices localId) := by
  cases report <;> rfl

@[simp] theorem Member.sweep_identity {guard : NodeStatus → Prop} {status : NodeStatus}
    {cutoff : Time} : (member.sweep guard status cutoff).identity = member.identity := by
  unfold Member.sweep
  split <;> rfl

@[simp] theorem Member.sweep_devices {guard : NodeStatus → Prop} {status : NodeStatus}
    {cutoff : Time} : (member.sweep guard status cutoff).devices = member.devices := by
  unfold Member.sweep
  split <;> rfl

end Members

/-! ## The fleet -/

abbrev Fleet (Id Identity Host LocalId Facts Reading : Type*) :=
  Id → Option (Member Identity Host LocalId Facts Reading)

/-- Whether an id and a key are both free. -/
def Free (key : Identity → Key) (fleet : Fleet Id Identity Host LocalId Facts Reading) (id : Id)
    (identity : Identity) : Prop :=
  fleet id = none ∧
    ∀ other member, fleet other = some member → key member.identity ≠ key identity

/-- What a change does to the member with an id. -/
noncomputable def Change.part [DecidableEq Id] (initial : Reading) (id : Id) :
    Change Id Identity Host LocalId Facts Reading →
    Option (Member Identity Host LocalId Facts Reading) →
    Option (Member Identity Host LocalId Facts Reading)
  | .enrolled other identity host, member =>
      if id = other then some (.new identity host) else member
  | .told other report, member => if id = other then member.map (Member.tell initial report) else member
  | .offline cutoff, member => member.map (Member.sweep (· ≠ .offline) .offline cutoff)
  | .degraded cutoff, member => member.map (Member.sweep (· = .online) .degraded cutoff)

/-- Whether a change can happen: a member joins under a free id with a free key, and only
a member reports. -/
def Change.Enabled (key : Identity → Key) (fleet : Fleet Id Identity Host LocalId Facts Reading) :
    Change Id Identity Host LocalId Facts Reading → Prop
  | .enrolled id identity _ => Free key fleet id identity
  | .told id _ => (fleet id).isSome
  | .offline _ => True
  | .degraded _ => True

open Classical in
noncomputable def system [DecidableEq Id] (key : Identity → Key) (initial : Reading) :
    System (Fleet Id Identity Host LocalId Facts Reading)
      (Change Id Identity Host LocalId Facts Reading) where
  step := fun fleet change =>
    if change.Enabled key fleet then some fun id => change.part initial id (fleet id) else none

section Runs

variable [DecidableEq Id] {key : Identity → Key} {initial : Reading}
  {fleet next final : Fleet Id Identity Host LocalId Facts Reading}
  {change : Change Id Identity Host LocalId Facts Reading}
  {changes : List (Change Id Identity Host LocalId Facts Reading)} {id : Id}
  {member : Member Identity Host LocalId Facts Reading}

theorem step_eq_some : (system key initial).step fleet change = some next ↔
    change.Enabled key fleet ∧ next = fun id => change.part initial id (fleet id) := by
  unfold system
  simp only
  split
  case isTrue henabled => simp [henabled, eq_comm]
  case isFalse hdisabled => simp [hdisabled]

/-! ### Identities -/

/-- A member stays, with its identity. -/
theorem step_identity (hstep : (system key initial).step fleet change = some next)
    (hmember : fleet id = some member) :
    ∃ later, next id = some later ∧ later.identity = member.identity := by
  obtain ⟨henabled, rfl⟩ := step_eq_some.1 hstep
  cases change with
  | enrolled other identity host =>
      have hne : id ≠ other := by
        rintro rfl
        rw [henabled.1] at hmember
        cases hmember
      exact ⟨member, by simp only [Change.part, if_neg hne, hmember], rfl⟩
  | told other report =>
      by_cases heq : id = other
      · exact ⟨member.tell initial report,
          by simp only [Change.part, if_pos heq, hmember, Option.map_some], Member.tell_identity⟩
      · exact ⟨member, by simp only [Change.part, if_neg heq, hmember], rfl⟩
  | offline cutoff =>
      exact ⟨member.sweep (· ≠ .offline) .offline cutoff,
        by simp only [Change.part, hmember, Option.map_some], Member.sweep_identity⟩
  | degraded cutoff =>
      exact ⟨member.sweep (· = .online) .degraded cutoff,
        by simp only [Change.part, hmember, Option.map_some], Member.sweep_identity⟩

theorem run_identity (hrun : (system key initial).run fleet changes = some final)
    (hmember : fleet id = some member) :
    ∃ later, final id = some later ∧ later.identity = member.identity := by
  refine System.run_invariant (fun fleet : Fleet Id Identity Host LocalId Facts Reading =>
    ∃ later, fleet id = some later ∧ later.identity = member.identity) ?_ ⟨member, hmember, rfl⟩ hrun
  rintro fleet change next ⟨later, hlater, hsame⟩ hstep
  obtain ⟨last, hlast, hsame'⟩ := step_identity hstep hlater
  exact ⟨last, hlast, hsame'.trans hsame⟩

/-- The reports of a member, in their order. -/
def reportsOf (id : Id) (changes : List (Change Id Identity Host LocalId Facts Reading)) :
    List (Report Host LocalId Facts Reading) :=
  changes.filterMap fun
    | .told other report => if id = other then some report else none
    | _ => none

/-- The devices of an id, if it has a member. -/
def devicesAt (fleet : Fleet Id Identity Host LocalId Facts Reading) (id : Id)
    (localId : LocalId) : Option (Facts × Reading) :=
  (fleet id).bind fun member => member.devices localId

theorem devices_step (hstep : (system key initial).step fleet change = some next)
    (localId : LocalId) :
    devicesAt next id localId =
      (reportsOf id [change]).foldl (fun device report => report.device initial localId device)
        (devicesAt fleet id localId) := by
  obtain ⟨henabled, rfl⟩ := step_eq_some.1 hstep
  cases change with
  | enrolled other identity host =>
      simp only [devicesAt, Change.part, reportsOf, List.filterMap_cons, List.filterMap_nil,
        List.foldl_nil]
      split
      case isTrue heq =>
        subst heq
        rw [henabled.1]
        rfl
      case isFalse => rfl
  | told other report =>
      by_cases heq : id = other
      · subst heq
        obtain ⟨member, hmember⟩ := Option.isSome_iff_exists.1 henabled
        simp [devicesAt, Change.part, reportsOf, hmember]
      · simp [devicesAt, Change.part, reportsOf, heq]
  | offline cutoff =>
      cases hmember : fleet id <;> simp [devicesAt, Change.part, reportsOf, hmember]
  | degraded cutoff =>
      cases hmember : fleet id <;> simp [devicesAt, Change.part, reportsOf, hmember]

/-- What becomes of a device is a fold of its member's reports. -/
theorem devices_run (hrun : (system key initial).run fleet changes = some final)
    (localId : LocalId) :
    devicesAt final id localId =
      (reportsOf id changes).foldl (fun device report => report.device initial localId device)
        (devicesAt fleet id localId) := by
  induction changes generalizing fleet with
  | nil =>
      cases hrun
      rfl
  | cons change rest ih =>
      obtain ⟨next, hstep, hrest⟩ := System.run_cons.1 hrun
      have hsplit : reportsOf id (change :: rest) = reportsOf id [change] ++ reportsOf id rest := by
        rw [reportsOf, reportsOf, reportsOf, ← List.filterMap_append]
        rfl
      rw [ih hrest, devices_step hstep, hsplit, List.foldl_append]

end Runs

/-! ## What a device has to show for itself -/

variable {initial : Reading} {localId : LocalId}
  {reports before since : List (Report Host LocalId Facts Reading)}

/-- The devices that a report names, if it is an inventory. -/
def Report.named : Report Host LocalId Facts Reading → Option (LocalId → Option Facts)
  | .inventory named => some named
  | _ => none

/-- What a report says about a device, if it is a batch of samples. -/
def Report.reading (localId : LocalId) : Report Host LocalId Facts Reading → Option Reading
  | .samples readings _ => readings localId
  | _ => none

/-- A device as a list of reports leaves it. -/
def deviceAfter (initial : Reading) (localId : LocalId)
    (reports : List (Report Host LocalId Facts Reading)) : Option (Facts × Reading) :=
  reports.foldl (fun device report => report.device initial localId device) none

/-- The last inventory. -/
def lastNamed (reports : List (Report Host LocalId Facts Reading)) :
    Option (LocalId → Option Facts) :=
  (reports.filterMap Report.named).getLast?

/-- The reports account for a device with these facts and this reading. -/
structure Explained (initial : Reading) (localId : LocalId)
    (reports : List (Report Host LocalId Facts Reading)) (facts : Facts) (reading : Reading) :
    Prop where
  /-- The last inventory names it with its facts. -/
  facts : (lastNamed reports).bind (fun named => named localId) = some facts
  /-- An inventory brought it, the later ones name it too, and the reading is the last
  since. -/
  reading : ∃ before named since, reports = before ++ .inventory named :: since ∧
    deviceAfter initial localId before = none ∧ (named localId).isSome ∧
    (∀ later, .inventory later ∈ since → (later localId).isSome) ∧
    reading = ((since.filterMap (Report.reading localId)).getLast?).getD initial

theorem deviceAfter_concat (report : Report Host LocalId Facts Reading) :
    deviceAfter initial localId (reports ++ [report]) =
      report.device initial localId (deviceAfter initial localId reports) := by
  rw [deviceAfter, List.foldl_append]
  rfl

theorem lastNamed_concat (report : Report Host LocalId Facts Reading) :
    lastNamed (reports ++ [report]) = report.named.or (lastNamed reports) := by
  unfold lastNamed
  rw [List.filterMap_append]
  cases hnamed : report.named <;> simp [hnamed]

/-- The devices are those that the last inventory names. -/
theorem deviceAfter_facts :
    (deviceAfter initial localId reports).map Prod.fst =
      (lastNamed reports).bind fun named => named localId := by
  induction reports using List.reverseRecOn with
  | nil => rfl
  | append_singleton reports report ih =>
      rw [deviceAfter_concat, lastNamed_concat]
      cases report with
      | hello host now => simpa [Report.device, Report.named] using ih
      | inventory named =>
          simp only [Report.device, Report.named, Option.map_map, Option.some_or, Option.bind_some]
          cases named localId <;> rfl
      | samples readings now =>
          simp only [Report.device, Report.named, Option.none_or]
          rw [← ih, Option.map_map]
          rfl

theorem reading_explained {facts : Facts} {reading : Reading}
    (hdevice : deviceAfter initial localId reports = some (facts, reading)) :
    ∃ before named since, reports = before ++ .inventory named :: since ∧
      deviceAfter initial localId before = none ∧ (named localId).isSome ∧
      (∀ later, .inventory later ∈ since → (later localId).isSome) ∧
      reading = ((since.filterMap (Report.reading localId)).getLast?).getD initial := by
  induction reports using List.reverseRecOn generalizing facts reading with
  | nil => cases hdevice
  | append_singleton reports report ih =>
      rw [deviceAfter_concat] at hdevice
      cases hold : deviceAfter initial localId reports with
      | none =>
          -- an inventory has just brought it
          rw [hold] at hdevice
          cases report with
          | hello host now => cases hdevice
          | inventory named =>
              obtain ⟨found, hfound, heq⟩ := Option.map_eq_some_iff.1 hdevice
              cases heq
              exact ⟨reports, named, [], rfl, hold, by rw [hfound]; rfl, by simp, rfl⟩
          | samples readings now => cases hdevice
      | some device =>
          rw [hold] at hdevice
          obtain ⟨old, oldReading⟩ := device
          obtain ⟨before, brought, since, rfl, habsent, hbrought, hnamed, hreading⟩ := ih hold
          have hsplit : before ++ .inventory brought :: since ++ [report] =
              before ++ .inventory brought :: (since ++ [report]) := by simp
          refine ⟨before, brought, since ++ [report], hsplit, habsent, hbrought, ?_, ?_⟩
          · intro later hlater
            rcases List.mem_append.1 hlater with hlater | hlater
            · exact hnamed later hlater
            · rw [List.mem_singleton] at hlater
              rw [← hlater] at hdevice
              obtain ⟨found, hfound, -⟩ := Option.map_eq_some_iff.1 hdevice
              rw [hfound]
              rfl
          · rw [List.filterMap_append]
            cases report with
            | hello host now =>
                cases hdevice
                simpa [Report.reading] using hreading
            | inventory named =>
                obtain ⟨found, hfound, heq⟩ := Option.map_eq_some_iff.1 hdevice
                cases heq
                simpa [Report.reading] using hreading
            | samples readings now =>
                cases hdevice
                rw [hreading]
                cases hlast : readings localId <;> simp [Report.reading, hlast]

theorem explained {facts : Facts} {reading : Reading}
    (hdevice : deviceAfter initial localId reports = some (facts, reading)) :
    Explained initial localId reports facts reading := by
  refine ⟨?_, reading_explained hdevice⟩
  rw [← @deviceAfter_facts _ _ _ _ initial, hdevice]
  rfl

end ModelHub.FleetSpec
