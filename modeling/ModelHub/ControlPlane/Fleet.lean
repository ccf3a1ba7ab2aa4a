import ModelHub.ControlPlane.NodeAuth
import ModelHub.ControlPlane.Wire
import ModelHub.Foundations.OrderBy

/-!
# Reading the fleet

`listNodes` and `getNode` of `apps/control-plane/src/rpc/fleet-service.ts`, for the
organization of the session, and the views of `domain/wire.ts` that they return.

Both read under `withOrg`, so they see the rows of one organization.  `listNodes` reads
the two tables whole and puts the devices to their nodes in memory; `getNode` has the
database select both by the node's id.  The collation of the names and the order of a
scan are the database's.

A view can fail to be made: `computeBudget` throws for a kind that it does not know, and
`BigInt` for a number that is not whole.
-/

namespace ModelHub.ControlPlane

open ModelHub.Core Db Binary64

/-- What a read throws. -/
inductive FleetError where
  /-- `notFound()` -/
  | notFound
  /-- `computeBudget` threw. -/
  | budget (message : String)
  /-- `BigInt` of a number that is not whole. -/
  | notWhole
  deriving DecidableEq, Repr

/-! ## Views -/

structure DeviceView where
  id : Uuid
  localId : String
  kind : Int32
  name : String
  totalBytes : ℤ
  managedBytes : ℤ
  foreignBytes : ℤ
  headroomBytes : ℤ
  availableBytes : ℤ
  utilization : UInt64
  pressure : Int32
  schedulable : Bool
  deriving DecidableEq, Repr

structure NodeView where
  id : Uuid
  name : String
  status : NodeStatus
  lastSeenUnixMs : ℤ
  host : HostColumns
  devices : List DeviceView
  deriving DecidableEq, Repr

/-- `BigInt(x)` of a number. -/
def bigInt (x : ℚ) : Except FleetError ℤ := if x.den = 1 then .ok x.num else .error .notWhole

/-- What `deviceView` hands to `computeBudget`: each bigint becomes the nearest double. -/
def budgetInput (device : Device) : MemoryInput where
  kind := device.facts.kind
  totalBytes := nearest device.facts.totalBytes
  usedBytes := nearest device.last.lastUsedBytes
  managedBytes := nearest device.last.lastManagedBytes
  wiredLimitBytes := some (nearest device.facts.wiredLimitBytes)
  pressure := some device.last.lastPressure
  interactive := some device.interactive

def UNSPECIFIED : Int32 := 0

def NORMAL : Int32 := 1

/-- A `DeviceView` with its memory budget computed; the browser does no arithmetic. -/
def deviceView (device : Device) : Except FleetError DeviceView :=
  match computeBudget (budgetInput device) with
  | .error message => .error (.budget message)
  | .ok budget => do
      let totalBytes ← bigInt budget.totalBytes
      let managedBytes ← bigInt budget.managedBytes
      let foreignBytes ← bigInt budget.foreignBytes
      let headroomBytes ← bigInt budget.headroomBytes
      let availableBytes ← bigInt budget.availableBytes
      return {
        id := device.id
        localId := device.localId
        kind := (KINDS.lookup device.facts.kind).getD UNSPECIFIED
        name := device.facts.name
        totalBytes := totalBytes
        managedBytes := managedBytes
        foreignBytes := foreignBytes
        headroomBytes := headroomBytes
        availableBytes := availableBytes
        utilization := device.last.lastUtilization
        pressure := (PRESSURES.lookup device.last.lastPressure).getD NORMAL
        schedulable := budget.schedulable }

def nodeView (node : Node) (deviceRows : List Device) : Except FleetError NodeView := do
  let devices ← deviceRows.mapM deviceView
  return {
    id := node.id
    name := node.name
    status := node.status
    lastSeenUnixMs := node.lastSeenAt.getD 0
    host := node.host
    devices := devices }

/-! ## The reads -/

/-- The order of text and the order in which a call's queries find their rows. -/
structure ReadEnv where
  collation : KeyOrder String
  nodes : Scan Node
  devices : Scan Device

/-- The nodes that the policy shows to an organization. -/
def visibleNodes (orgId : String) (db : Database) : List Node :=
  db.nodes.rows.filter fun node => node.orgId = orgId

def visibleDevices (orgId : String) (db : Database) : List Device :=
  db.devices.rows.filter fun device => device.orgId = orgId

def listNodes (env : ReadEnv) (orgId : String) (db : Database) :
    Except FleetError (List NodeView) :=
  let nodeRows := env.collation.select Node.name env.nodes (visibleNodes orgId db)
  let deviceRows := env.collation.select Device.localId env.devices (visibleDevices orgId db)
  nodeRows.mapM fun node =>
    nodeView node (deviceRows.filter fun device => device.nodeId = node.id)

/-- A malformed id, an absent id, and another organization's id are all the same
`notFound`. -/
def getNode (env : ReadEnv) (orgId : String) (nodeId : String) (db : Database) :
    Except FleetError NodeView :=
  match parseUuid nodeId with
  | none => .error .notFound
  | some id =>
      match (env.nodes.rows ((visibleNodes orgId db).filter fun node => node.id = id)).head? with
      | none => .error .notFound
      | some node =>
          nodeView node (env.collation.select Device.localId env.devices
            ((visibleDevices orgId db).filter fun device => device.nodeId = node.id))

end ModelHub.ControlPlane
