import ModelHub.Core.Memory
import ModelHub.Foundations.Table

/-!
# The fleet tables

`packages/db/src/schema/fleet.ts` and the part of `auth.ts` that it refers to.
A `Database` holds the four tables with their primary keys, unique indexes and
foreign keys as fields, so a database that violates its schema cannot be built.
The statements that can be refused return `Except PgError`; the checks are made
in the order in which Postgres makes them: the parameters are read into their
column types first, then row level security, the unique indexes and the foreign
keys have their say.

The application role only sees the rows of one organization.  Statements that run
inside `withOrg` therefore take that organization as an argument, and those on the
owner's connection do not.
-/

namespace ModelHub.Db

open ModelHub.Core

abbrev Uuid := BitVec 128

/-- Unix milliseconds, the resolution of a JavaScript date. -/
abbrev Time := ℤ

/-- The fields of a database error that the program looks at. -/
structure PgError where
  code : String
  constraint_name : Option String
  deriving DecidableEq, Repr

/-! ## Rows -/

structure Organization where
  id : String
  name : String
  slug : String
  deriving DecidableEq, Repr

inductive NodeStatus where
  | online
  | degraded
  | offline
  deriving DecidableEq, Repr

/-- The columns of a node that its `HostInfo` fills in. -/
structure HostColumns where
  hostname : String
  platform : String
  arch : String
  osVersion : String
  agentVersion : String
  totalMemoryBytes : ℤ
  cpuCores : ℤ
  deriving DecidableEq, Repr

structure Node where
  id : Uuid
  orgId : String
  name : String
  status : NodeStatus
  host : HostColumns
  publicKey : List UInt8
  lastSeenAt : Option Time
  createdAt : Time
  deriving DecidableEq, Repr

/-- The static facts of a device: what an inventory reports. -/
structure DeviceFacts where
  kind : DeviceKind
  index : ℤ
  name : String
  totalBytes : ℤ
  wiredLimitBytes : ℤ
  driverVersion : String
  computeCapability : String
  deriving DecidableEq, Repr

/-- The dynamic facts of a device: what a sample reports.  The utilization is
only passed on, so it stays the bits of a double. -/
structure LastSample where
  lastUsedBytes : ℤ
  lastManagedBytes : ℤ
  lastUtilization : UInt64
  lastPressure : MemoryPressure
  lastSampleAt : Option Time
  deriving DecidableEq, Repr

/-- The column defaults. -/
def LastSample.default : LastSample where
  lastUsedBytes := 0
  lastManagedBytes := 0
  lastUtilization := 0
  lastPressure := .normal
  lastSampleAt := none

structure Device where
  id : Uuid
  orgId : String
  nodeId : Uuid
  localId : String
  facts : DeviceFacts
  interactive : Bool
  last : LastSample
  createdAt : Time
  deriving DecidableEq, Repr

structure PairingCode where
  id : Uuid
  orgId : String
  codeHash : String
  nodeName : String
  createdBy : String
  expiresAt : Time
  usedAt : Option Time
  createdAt : Time
  deriving DecidableEq, Repr

/-- The columns that no statement of the program updates. -/
def Node.identity (node : Node) : Uuid × String × List UInt8 :=
  (node.id, node.orgId, node.publicKey)

def Device.place (device : Device) : Uuid × String := (device.nodeId, device.localId)

def Device.identity (device : Device) : Uuid × String × Uuid × String :=
  (device.id, device.orgId, device.nodeId, device.localId)

def PairingCode.identity (code : PairingCode) : Uuid × String × String :=
  (code.id, code.orgId, code.codeHash)

def setFacts (facts : DeviceFacts) (device : Device) : Device := { device with facts := facts }

@[simp] theorem setFacts_identity (facts : DeviceFacts) (device : Device) :
    (setFacts facts device).identity = device.identity := rfl

section Identity

variable {node node' : Node} {device device' : Device} {code code' : PairingCode}

theorem Node.id_eq (hsame : node.identity = node'.identity) : node.id = node'.id :=
  congrArg Prod.fst hsame

theorem Node.orgId_eq (hsame : node.identity = node'.identity) : node.orgId = node'.orgId :=
  congrArg (fun columns => columns.2.1) hsame

theorem Node.publicKey_eq (hsame : node.identity = node'.identity) :
    node.publicKey = node'.publicKey :=
  congrArg (fun columns => columns.2.2) hsame

theorem Device.id_eq (hsame : device.identity = device'.identity) : device.id = device'.id :=
  congrArg Prod.fst hsame

theorem Device.orgId_eq (hsame : device.identity = device'.identity) :
    device.orgId = device'.orgId :=
  congrArg (fun columns => columns.2.1) hsame

theorem Device.nodeId_eq (hsame : device.identity = device'.identity) :
    device.nodeId = device'.nodeId :=
  congrArg (fun columns => columns.2.2.1) hsame

theorem Device.place_eq (hsame : device.identity = device'.identity) :
    device.place = device'.place :=
  congrArg (fun columns => columns.2.2) hsame

theorem PairingCode.id_eq (hsame : code.identity = code'.identity) : code.id = code'.id :=
  congrArg Prod.fst hsame

theorem PairingCode.orgId_eq (hsame : code.identity = code'.identity) :
    code.orgId = code'.orgId :=
  congrArg (fun columns => columns.2.1) hsame

theorem PairingCode.codeHash_eq (hsame : code.identity = code'.identity) :
    code.codeHash = code'.codeHash :=
  congrArg (fun columns => columns.2.2) hsame

end Identity

/-! ## Column types -/

def invalidText : PgError := ⟨"22021", none⟩

def outOfRange : PgError := ⟨"22003", none⟩

/-- A text column holds every string without a NUL. -/
def textError (value : String) : Option PgError :=
  if value.toList.contains (Char.ofNat 0) then some invalidText else none

/-- A bigint holds the integers from -2 ^ 63 to 2 ^ 63 - 1. -/
def bigintError (value : ℤ) : Option PgError :=
  if -9223372036854775808 ≤ value ∧ value ≤ 9223372036854775807 then none else some outOfRange

/-- An integer column holds those from -2 ^ 31 to 2 ^ 31 - 1. -/
def integerError (value : ℤ) : Option PgError :=
  if -2147483648 ≤ value ∧ value ≤ 2147483647 then none else some outOfRange

/-- A date goes to the database as text with its year, which Postgres reads from year 1
to year 9999.  Which class 22 error it reports depends on the year, and nothing looks. -/
def timestampError (value : Time) : Option PgError :=
  if -62135596800000 ≤ value ∧ value ≤ 253402300799999 then none else some ⟨"22008", none⟩

theorem timestampError_eq_none {value : ℤ} :
    timestampError value = none ↔ -62135596800000 ≤ value ∧ value ≤ 253402300799999 := by
  unfold timestampError
  split <;> simp_all

/-- The first parameter that does not fit its column. -/
def firstError (checks : List (Option PgError)) : Option PgError := checks.findSome? id

def HostColumns.checks (host : HostColumns) : List (Option PgError) :=
  [textError host.platform, textError host.arch, textError host.osVersion,
    textError host.agentVersion, textError host.hostname, bigintError host.totalMemoryBytes,
    integerError host.cpuCores]

def Node.checks (node : Node) : List (Option PgError) :=
  [textError node.orgId, textError node.name] ++ node.host.checks

def DeviceFacts.checks (facts : DeviceFacts) : List (Option PgError) :=
  [integerError facts.index, textError facts.name, bigintError facts.totalBytes,
    bigintError facts.wiredLimitBytes, textError facts.driverVersion,
    textError facts.computeCapability]

def Device.checks (device : Device) : List (Option PgError) :=
  [textError device.orgId, textError device.localId] ++ device.facts.checks

def PairingCode.checks (code : PairingCode) : List (Option PgError) :=
  [textError code.orgId, textError code.codeHash, textError code.nodeName,
    textError code.createdBy, timestampError code.expiresAt]

theorem firstError_eq_none {checks : List (Option PgError)} :
    firstError checks = none ↔ ∀ check ∈ checks, check = none := by
  simp [firstError]

/-! ## The database -/

structure Database where
  organizations : Table Organization.id Organization.slug
  nodes : Table Node.id Node.publicKey
  devices : Table Device.id Device.place
  pairingCodes : Table PairingCode.id PairingCode.codeHash
  organizations_text : ∀ organization ∈ organizations.rows, textError organization.id = none
  nodes_org : ∀ node ∈ nodes.rows, node.orgId ∈ organizations.rows.map Organization.id
  devices_org : ∀ device ∈ devices.rows, device.orgId ∈ organizations.rows.map Organization.id
  devices_node : ∀ device ∈ devices.rows, device.nodeId ∈ nodes.rows.map Node.id
  pairingCodes_org : ∀ code ∈ pairingCodes.rows,
    code.orgId ∈ organizations.rows.map Organization.id

def Database.empty : Database where
  organizations := .empty
  nodes := .empty
  devices := .empty
  pairingCodes := .empty
  organizations_text := by simp
  nodes_org := by simp
  devices_org := by simp
  devices_node := by simp
  pairingCodes_org := by simp

def uniqueViolation (constraint : String) : PgError := ⟨"23505", some constraint⟩

def foreignKeyViolation (constraint : String) : PgError := ⟨"23503", some constraint⟩

/-- A row that `WITH CHECK` of a policy does not admit. -/
def rlsViolation : PgError := ⟨"42501", none⟩

namespace Database

/-! ### Organizations and pairing codes -/

def insertOrganization (db : Database) (organization : Organization) : Except PgError Database :=
  if htext : textError organization.id ≠ none ∨ textError organization.name ≠ none ∨
      textError organization.slug ≠ none then
    .error invalidText
  else if hid : organization.id ∈ db.organizations.rows.map Organization.id then
    .error (uniqueViolation "organization_pkey")
  else if hslug : organization.slug ∈ db.organizations.rows.map Organization.slug then
    .error (uniqueViolation "organization_slug_uidx")
  else .ok { db with
    organizations := db.organizations.insert organization hid hslug
    organizations_text := fun found hfound => by
      rcases Table.mem_insert.1 hfound with hold | hnew
      · exact db.organizations_text found hold
      · rw [hnew]
        by_contra hid
        exact htext (Or.inl hid)
    nodes_org := fun node hnode => by
      have hfound := db.nodes_org node hnode
      simp only [Table.insert, List.map_append, List.mem_append]
      exact Or.inl hfound
    devices_org := fun device hdevice => by
      have hfound := db.devices_org device hdevice
      simp only [Table.insert, List.map_append, List.mem_append]
      exact Or.inl hfound
    pairingCodes_org := fun code hcode => by
      have hfound := db.pairingCodes_org code hcode
      simp only [Table.insert, List.map_append, List.mem_append]
      exact Or.inl hfound }

def insertPairingCode (db : Database) (currentOrg : String) (code : PairingCode) :
    Except PgError Database :=
  match firstError code.checks with
  | some error => .error error
  | none =>
      if code.orgId ≠ currentOrg then .error rlsViolation
      else if hid : code.id ∈ db.pairingCodes.rows.map PairingCode.id then
        .error (uniqueViolation "pairing_codes_pkey")
      else if hhash : code.codeHash ∈ db.pairingCodes.rows.map PairingCode.codeHash then
        .error (uniqueViolation "pairing_codes_code_hash_unique")
      else if horg : code.orgId ∈ db.organizations.rows.map Organization.id then
        .ok { db with
          pairingCodes := db.pairingCodes.insert code hid hhash
          pairingCodes_org := fun found hfound => by
            rcases Table.mem_insert.1 hfound with hold | hnew
            · exact db.pairingCodes_org found hold
            · rw [hnew]
              exact horg }
      else .error (foreignKeyViolation "pairing_codes_org_id_organization_id_fk")

def updatePairingCodes (db : Database) (sel : PairingCode → Bool) (set : PairingCode → PairingCode)
    (hset : ∀ code, (set code).identity = code.identity) : Database :=
  { db with
    pairingCodes := db.pairingCodes.update sel set
      (fun code => PairingCode.id_eq (hset code))
      (fun code => PairingCode.codeHash_eq (hset code))
    pairingCodes_org := fun code hcode => by
      obtain ⟨old, hold, rfl⟩ := Table.mem_update.1 hcode
      rw [Table.rewrite_same PairingCode.orgId fun code => PairingCode.orgId_eq (hset code)]
      exact db.pairingCodes_org old hold }

/-! ### Nodes -/

def insertNode (db : Database) (currentOrg : String) (node : Node) : Except PgError Database :=
  match firstError node.checks with
  | some error => .error error
  | none =>
      if node.orgId ≠ currentOrg then .error rlsViolation
      else if hid : node.id ∈ db.nodes.rows.map Node.id then
        .error (uniqueViolation "nodes_pkey")
      else if hkey : node.publicKey ∈ db.nodes.rows.map Node.publicKey then
        .error (uniqueViolation "nodes_public_key_idx")
      else if horg : node.orgId ∈ db.organizations.rows.map Organization.id then
        .ok { db with
          nodes := db.nodes.insert node hid hkey
          nodes_org := fun found hfound => by
            rcases Table.mem_insert.1 hfound with hold | hnew
            · exact db.nodes_org found hold
            · rw [hnew]
              exact horg
          devices_node := fun device hdevice => by
            have hfound := db.devices_node device hdevice
            simp only [Table.insert, List.map_append, List.mem_append]
            exact Or.inl hfound }
      else .error (foreignKeyViolation "nodes_org_id_organization_id_fk")

def updateNodes (db : Database) (sel : Node → Bool) (set : Node → Node)
    (hset : ∀ node, (set node).identity = node.identity) : Database :=
  { db with
    nodes := db.nodes.update sel set (fun node => Node.id_eq (hset node))
      (fun node => Node.publicKey_eq (hset node))
    nodes_org := fun node hnode => by
      obtain ⟨old, hold, rfl⟩ := Table.mem_update.1 hnode
      rw [Table.rewrite_same Node.orgId fun node => Node.orgId_eq (hset node)]
      exact db.nodes_org old hold
    devices_node := fun device hdevice => by
      obtain ⟨node, hnode, hid⟩ := List.mem_map.1 (db.devices_node device hdevice)
      refine List.mem_map.2 ⟨Table.rewrite sel set node, Table.mem_update.2 ⟨node, hnode, rfl⟩, ?_⟩
      rw [← hid]
      exact Table.rewrite_same Node.id (fun node => Node.id_eq (hset node)) node }

/-! ### Devices -/

def updateDevices (db : Database) (sel : Device → Bool) (set : Device → Device)
    (hset : ∀ device, (set device).identity = device.identity) : Database :=
  { db with
    devices := db.devices.update sel set (fun device => Device.id_eq (hset device))
      (fun device => Device.place_eq (hset device))
    devices_org := fun device hdevice => by
      obtain ⟨old, hold, rfl⟩ := Table.mem_update.1 hdevice
      rw [Table.rewrite_same Device.orgId fun device => Device.orgId_eq (hset device)]
      exact db.devices_org old hold
    devices_node := fun device hdevice => by
      obtain ⟨old, hold, rfl⟩ := Table.mem_update.1 hdevice
      rw [Table.rewrite_same Device.nodeId fun device => Device.nodeId_eq (hset device)]
      exact db.devices_node old hold }

def deleteDevices (db : Database) (sel : Device → Bool) : Database :=
  { db with
    devices := db.devices.delete sel
    devices_org := fun device hdevice => db.devices_org device (Table.mem_delete.1 hdevice).1
    devices_node := fun device hdevice => db.devices_node device (Table.mem_delete.1 hdevice).1 }

def insertDevice (db : Database) (device : Device)
    (hplace : device.place ∉ db.devices.rows.map Device.place) : Except PgError Database :=
  if hid : device.id ∈ db.devices.rows.map Device.id then
    .error (uniqueViolation "devices_pkey")
  else if horg : device.orgId ∈ db.organizations.rows.map Organization.id then
    if hnode : device.nodeId ∈ db.nodes.rows.map Node.id then
      .ok { db with
        devices := db.devices.insert device hid hplace
        devices_org := fun found hfound => by
          rcases Table.mem_insert.1 hfound with hold | hnew
          · exact db.devices_org found hold
          · rw [hnew]
            exact horg
        devices_node := fun found hfound => by
          rcases Table.mem_insert.1 hfound with hold | hnew
          · exact db.devices_node found hold
          · rw [hnew]
            exact hnode }
    else .error (foreignKeyViolation "devices_node_id_nodes_id_fk")
  else .error (foreignKeyViolation "devices_org_id_organization_id_fk")

/-- `INSERT ... ON CONFLICT (node_id, local_id) DO UPDATE SET facts`.  A
conflicting row that the policy hides is an error, not an update. -/
def upsertDevice (db : Database) (currentOrg : String) (device : Device) :
    Except PgError Database :=
  match firstError device.checks with
  | some error => .error error
  | none =>
      if device.orgId ≠ currentOrg then .error rlsViolation
      else if hplace : device.place ∈ db.devices.rows.map Device.place then
        if ∃ old ∈ db.devices.rows, old.place = device.place ∧ old.orgId ≠ currentOrg then
          .error rlsViolation
        else
          .ok (db.updateDevices (fun old => old.place = device.place) (setFacts device.facts)
            (setFacts_identity _))
      else db.insertDevice device hplace

end Database

/-! ## What the statements do -/

theorem mem_updatePairingCodes {db : Database} {sel : PairingCode → Bool}
    {set : PairingCode → PairingCode} {hset : ∀ code, (set code).identity = code.identity}
    {code : PairingCode} :
    code ∈ (db.updatePairingCodes sel set hset).pairingCodes.rows ↔
      ∃ old ∈ db.pairingCodes.rows, Table.rewrite sel set old = code := by
  unfold Database.updatePairingCodes
  rw [Table.mem_update]

theorem mem_updateNodes {db : Database} {sel : Node → Bool} {set : Node → Node}
    {hset : ∀ node, (set node).identity = node.identity} {node : Node} :
    node ∈ (db.updateNodes sel set hset).nodes.rows ↔
      ∃ old ∈ db.nodes.rows, Table.rewrite sel set old = node := by
  unfold Database.updateNodes
  rw [Table.mem_update]

section Insert

variable {db next : Database} {currentOrg : String}

theorem insertOrganization_spec {organization : Organization}
    (hinsert : db.insertOrganization organization = .ok next) :
    next.nodes = db.nodes ∧ next.devices = db.devices := by
  unfold Database.insertOrganization at hinsert
  split at hinsert
  · cases hinsert
  split at hinsert
  · cases hinsert
  split at hinsert <;> cases hinsert
  exact ⟨rfl, rfl⟩

theorem insertNode_eq_ok {node : Node} :
    (∃ next, db.insertNode currentOrg node = .ok next) ↔
      (∀ check ∈ node.checks, check = none) ∧ node.orgId = currentOrg ∧
        node.id ∉ db.nodes.rows.map Node.id ∧ node.publicKey ∉ db.nodes.rows.map Node.publicKey ∧
        node.orgId ∈ db.organizations.rows.map Organization.id := by
  rw [← firstError_eq_none, Database.insertNode]
  split
  case h_1 error herror => simp [herror]
  case h_2 hnone =>
    simp only [hnone, true_and]
    split
    case isTrue hother => simp [hother]
    case isFalse hown =>
      split
      case isTrue hid => simp only [hid, not_true_eq_false, false_and, and_false, reduceCtorEq,
        exists_false]
      case isFalse hid =>
        split
        case isTrue hkey => simp only [hkey, not_true_eq_false, false_and, and_false,
          reduceCtorEq, exists_false]
        case isFalse hkey =>
          split
          case isTrue horg =>
            exact ⟨fun _ => ⟨not_not.1 hown, hid, hkey, horg⟩, fun _ => ⟨_, rfl⟩⟩
          case isFalse horg => simp only [horg, and_false, reduceCtorEq, exists_false]

theorem insertNode_spec {node : Node} (hinsert : db.insertNode currentOrg node = .ok next) :
    next.organizations = db.organizations ∧ next.devices = db.devices ∧
      next.pairingCodes = db.pairingCodes ∧ next.nodes.rows = db.nodes.rows ++ [node] ∧
      node.orgId = currentOrg := by
  unfold Database.insertNode at hinsert
  split at hinsert
  · cases hinsert
  split at hinsert
  · cases hinsert
  case isFalse horg =>
    split at hinsert
    · cases hinsert
    split at hinsert
    · cases hinsert
    split at hinsert
    · cases hinsert
      exact ⟨rfl, rfl, rfl, rfl, not_not.1 horg⟩
    · cases hinsert

theorem insertPairingCode_spec {code : PairingCode}
    (hinsert : db.insertPairingCode currentOrg code = .ok next) :
    next.organizations = db.organizations ∧ next.nodes = db.nodes ∧ next.devices = db.devices ∧
      next.pairingCodes.rows = db.pairingCodes.rows ++ [code] ∧
      code.codeHash ∉ db.pairingCodes.rows.map PairingCode.codeHash ∧
      code.orgId = currentOrg := by
  unfold Database.insertPairingCode at hinsert
  split at hinsert
  · cases hinsert
  split at hinsert
  · cases hinsert
  case isFalse horg =>
    split at hinsert
    · cases hinsert
    split at hinsert
    · cases hinsert
    case isFalse hhash =>
      split at hinsert
      · cases hinsert
        exact ⟨rfl, rfl, rfl, rfl, hhash, not_not.1 horg⟩
      · cases hinsert

theorem insertDevice_spec {device : Device}
    {hplace : device.place ∉ db.devices.rows.map Device.place}
    (hinsert : db.insertDevice device hplace = .ok next) :
    next.organizations = db.organizations ∧ next.nodes = db.nodes ∧
      next.pairingCodes = db.pairingCodes ∧ next.devices.rows = db.devices.rows ++ [device] := by
  unfold Database.insertDevice at hinsert
  split at hinsert
  · cases hinsert
  split at hinsert
  · split at hinsert
    · cases hinsert
      exact ⟨rfl, rfl, rfl, rfl⟩
    · cases hinsert
  · cases hinsert

theorem insertDevice_succeeds {device : Device}
    (hplace : device.place ∉ db.devices.rows.map Device.place)
    (hid : device.id ∉ db.devices.rows.map Device.id)
    (horg : device.orgId ∈ db.organizations.rows.map Organization.id)
    (hnode : device.nodeId ∈ db.nodes.rows.map Node.id) :
    ∃ next, db.insertDevice device hplace = .ok next := by
  unfold Database.insertDevice
  rw [dif_neg hid, dif_pos horg, dif_pos hnode]
  exact ⟨_, rfl⟩

end Insert

/-! ### The upsert of a device -/

section Upsert

variable {db next : Database} {currentOrg : String} {device : Device}

/-- Everything an upsert can do: change the facts of the row in its place, or add the row. -/
theorem upsertDevice_cases (hupsert : db.upsertDevice currentOrg device = .ok next) :
    next.organizations = db.organizations ∧ next.nodes = db.nodes ∧
      next.pairingCodes = db.pairingCodes ∧ device.orgId = currentOrg ∧
      (device.place ∈ db.devices.rows.map Device.place ∧
          next.devices.rows = db.devices.rows.map
            (Table.rewrite (fun old => old.place = device.place) (setFacts device.facts)) ∨
        device.place ∉ db.devices.rows.map Device.place ∧
          next.devices.rows = db.devices.rows ++ [device]) := by
  unfold Database.upsertDevice at hupsert
  split at hupsert
  · cases hupsert
  split at hupsert
  · cases hupsert
  case isFalse horg =>
    split at hupsert
    case isTrue hplace =>
      split at hupsert
      · cases hupsert
      · rw [← Except.ok.inj hupsert]
        exact ⟨rfl, rfl, rfl, not_not.1 horg, Or.inl ⟨hplace, rfl⟩⟩
    case isFalse hplace =>
      obtain ⟨horganizations, hnodes, hcodes, hrows⟩ := insertDevice_spec hupsert
      exact ⟨horganizations, hnodes, hcodes, not_not.1 horg, Or.inr ⟨hplace, hrows⟩⟩

/-- A row of another organization is not changed. -/
theorem upsertDevice_own (hupsert : db.upsertDevice currentOrg device = .ok next) {old : Device}
    (hold : old ∈ db.devices.rows) (hsame : old.place = device.place) : old.orgId = currentOrg := by
  unfold Database.upsertDevice at hupsert
  split at hupsert
  · cases hupsert
  split at hupsert
  · cases hupsert
  split at hupsert
  case isTrue =>
    split at hupsert
    · cases hupsert
    case isFalse hnone =>
      by_contra hother
      exact hnone ⟨old, hold, hsame, hother⟩
  case isFalse hplace => exact absurd (List.mem_map.2 ⟨old, hold, hsame⟩) hplace

/-- The row that an upsert leaves in a place. -/
theorem upsertDevice_withKey (hupsert : db.upsertDevice currentOrg device = .ok next)
    (place : Uuid × String) :
    next.devices.withKey place = if device.place = place then
        some (((db.devices.withKey place).map (setFacts device.facts)).getD device)
      else db.devices.withKey place := by
  obtain ⟨-, -, -, -, ⟨hplace, hrows⟩ | ⟨hplace, hrows⟩⟩ := upsertDevice_cases hupsert
  · have hupdate : next.devices = (db.updateDevices (fun old => old.place = device.place)
        (setFacts device.facts) (setFacts_identity _)).devices := Table.ext_rows hrows
    rw [hupdate]
    unfold Database.updateDevices
    rw [Table.withKey_update]
    split
    case isTrue heq =>
      subst heq
      obtain ⟨old, hold, hsame⟩ := List.mem_map.1 hplace
      have hfound : db.devices.withKey device.place = some old :=
        Table.withKey_eq_some.2 ⟨hold, hsame⟩
      rw [hfound, Option.map_some, Table.rewrite_of_sel (by simpa using hsame)]
      rfl
    case isFalse hne =>
      cases hfound : db.devices.withKey place with
      | none => rfl
      | some old =>
          have hother : old.place ≠ device.place := by
            rw [(Table.withKey_eq_some.1 hfound).2]
            exact Ne.symm hne
          rw [Option.map_some, Table.rewrite_of_not_sel (by simpa using hother)]
  · split
    case isTrue heq =>
      subst heq
      rw [Table.withKey_eq_none.2 hplace, Table.withKey_eq_some, hrows]
      exact ⟨by simp, rfl⟩
    case isFalse hne =>
      ext row
      rw [Table.withKey_eq_some, Table.withKey_eq_some, hrows, List.mem_append, List.mem_singleton]
      constructor
      · rintro ⟨hold | rfl, hsame⟩
        · exact ⟨hold, hsame⟩
        · exact absurd hsame hne
      · rintro ⟨hold, hsame⟩
        exact ⟨Or.inl hold, hsame⟩

theorem upsertDevice_succeeds (hchecks : ∀ check ∈ device.checks, check = none)
    (horg : device.orgId = currentOrg)
    (hown : ∀ old ∈ db.devices.rows, old.place = device.place → old.orgId = currentOrg)
    (hid : device.id ∉ db.devices.rows.map Device.id)
    (horgs : device.orgId ∈ db.organizations.rows.map Organization.id)
    (hnode : device.nodeId ∈ db.nodes.rows.map Node.id) :
    ∃ next, db.upsertDevice currentOrg device = .ok next := by
  unfold Database.upsertDevice
  rw [firstError_eq_none.2 hchecks]
  simp only
  rw [if_neg (not_not.2 horg)]
  split
  · rw [if_neg]
    · exact ⟨_, rfl⟩
    · rintro ⟨old, hold, hsame, hother⟩
      exact hother (hown old hold hsame)
  case isFalse hplace => exact insertDevice_succeeds hplace hid horgs hnode

end Upsert

end ModelHub.Db
