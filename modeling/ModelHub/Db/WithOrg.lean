import ModelHub.Db.RowSecurity
import ModelHub.Foundations.Ownership

/-!
# Transactions scoped to an organization

`withOrg` of `packages/db/src/client.ts`, on the pool of connections that the application
role shares.  A call reserves a connection, begins a transaction, sets
`app.current_org_id` for it, and then its callback makes its statements; the transaction
ends as it may, and the connection goes back to the pool for whoever comes next.  A query
on `db` that forgets `withOrg` runs on any connection that is not reserved.

The setting is made for the transaction only.  What it leaves behind in its session is
the empty string, not NULL: a setting that no session knows has no value to go back to.
So the settings of a connection that nobody has reserved admit no organization but one
whose id is empty, and a call's own setting is its organization's from `set_config` to
the end of the transaction.  Both are facts about the connection that a call owns
(`orgLocal`), and `withOrg_scoped` puts them together with the policies.
-/

namespace ModelHub.Db

open Interleaving Transition

/-! ## Connections -/

/-- A session of the database.  `transaction` is what the transaction that it is in, if
it is in one, has set for itself. -/
structure PgConnection where
  session : Setting
  transaction : Option Setting

def PgConnection.fresh : PgConnection := ⟨none, none⟩

/-- `current_setting('app.current_org_id', true)` -/
def PgConnection.current (connection : PgConnection) : Setting :=
  match connection.transaction with
  | some (some orgId) => some orgId
  | _ => connection.session

def PgConnection.begin (connection : PgConnection) : PgConnection :=
  { connection with transaction := some none }

/-- `select set_config('app.current_org_id', orgId, true)` -/
def PgConnection.setConfig (orgId : String) (connection : PgConnection) : PgConnection :=
  { connection with transaction := some (some orgId) }

/-- `COMMIT` or `ROLLBACK`. -/
def PgConnection.finish (connection : PgConnection) : PgConnection where
  session := match connection.transaction with
    | some (some _) => some (connection.session.getD "")
    | _ => connection.session
  transaction := none

structure Pool where
  connections : ℕ → PgConnection
  reserved : ℕ → Bool

/-- `postgres(appUrl, { max: 10 })` -/
def POOL_MAX : ℕ := 10

def Pool.set (pool : Pool) (conn : ℕ) (connection : PgConnection) (reserved : Bool) : Pool where
  connections := Function.update pool.connections conn connection
  reserved := Function.update pool.reserved conn reserved

/-- Whether a call may take the connection. -/
def Pool.idle (pool : Pool) (conn : ℕ) : Prop := conn < POOL_MAX ∧ pool.reserved conn = false

instance (pool : Pool) (conn : ℕ) : Decidable (pool.idle conn) :=
  inferInstanceAs (Decidable (_ ∧ _))

/-! ## Calls -/

/-- Where a call of `withOrg` stands, and on which connection. -/
inductive OrgPc where
  | reserve
  | begin (conn : ℕ)
  | setConfig (conn : ℕ)
  | fn (conn : ℕ)
  | finish (conn : ℕ)
  | ended
  deriving DecidableEq, Repr

def OrgPc.connection : OrgPc → Option ℕ
  | .reserve => none
  | .begin conn => some conn
  | .setConfig conn => some conn
  | .fn conn => some conn
  | .finish conn => some conn
  | .ended => none

/-- A statement that has been run: the table as it saw it, and what came of it. -/
structure Ran (Row : Type*) where
  before : List Row
  outcome : Outcome Row

inductive PoolCall (Row : Type*) where
  | withOrg (orgId : String) (pc : OrgPc) (ran : List (Ran Row))
  /-- Queries on `db` itself. -/
  | query (ran : List (Ran Row))

/-- What a step of a call meets.  The table is whatever the statement sees of it. -/
inductive PoolEnv (Row : Type*) where
  | take (conn : ℕ)
  | reply (succeeds : Bool)
  | statement (statement : Statement Row) (rows : List Row)
  /-- The callback has returned, or thrown. -/
  | done
  /-- The connection breaks, and with it the transaction. -/
  | lost
  | query (conn : ℕ) (statement : Statement Row) (rows : List Row)

section Service

variable {Row : Type*} (org : Row → String)

/-- The next step of a `withOrg` call. -/
def orgStep (orgId : String) (env : PoolEnv Row) (pool : Pool) (ran : List (Ran Row)) :
    OrgPc → Option (Pool × OrgPc × List (Ran Row))
  | .reserve =>
      match env with
      | .take conn =>
          if pool.idle conn then
            some (pool.set conn (pool.connections conn) true, .begin conn, ran)
          else none
      | _ => none
  | .begin conn =>
      match env with
      | .reply true => some (pool.set conn (pool.connections conn).begin true, .setConfig conn, ran)
      | .reply false => some (pool.set conn (pool.connections conn) false, .ended, ran)
      | .lost => some (pool.set conn .fresh false, .ended, ran)
      | _ => none
  | .setConfig conn =>
      match env with
      | .reply true =>
          some (pool.set conn ((pool.connections conn).setConfig orgId) true, .fn conn, ran)
      | .reply false => some (pool, .finish conn, ran)
      | .lost => some (pool.set conn .fresh false, .ended, ran)
      | _ => none
  | .fn conn =>
      match env with
      | .statement statement rows =>
          match statement.run org (pool.connections conn).current rows with
          | .ok outcome => some (pool, .fn conn, ran ++ [⟨rows, outcome⟩])
          -- an error that the callback does not catch ends the transaction
          | .error _ => some (pool, .finish conn, ran)
      | .done => some (pool, .finish conn, ran)
      | .lost => some (pool.set conn .fresh false, .ended, ran)
      | _ => none
  | .finish conn =>
      match env with
      | .reply _ => some (pool.set conn (pool.connections conn).finish false, .ended, ran)
      | .lost => some (pool.set conn .fresh false, .ended, ran)
      | _ => none
  | .ended => none

def poolAdvance (env : PoolEnv Row) (pool : Pool) : PoolCall Row → Option (Pool × PoolCall Row)
  | .withOrg orgId pc ran =>
      (orgStep org orgId env pool ran pc).map fun next => (next.1, .withOrg orgId next.2.1 next.2.2)
  | .query ran =>
      match env with
      | .query conn statement rows =>
          if pool.idle conn then
            match statement.run org (pool.connections conn).current rows with
            | .ok outcome => some (pool, .query (ran ++ [⟨rows, outcome⟩]))
            | .error _ => some (pool, .query ran)
          else none
      | _ => none

def PoolCall.isStart : PoolCall Row → Bool
  | .withOrg _ pc ran => pc = .reserve ∧ ran.isEmpty
  | .query ran => ran.isEmpty

/-- Any number of calls on one pool; a connection that nobody has reserved may be
replaced by a new one. -/
def poolService : Service Pool (PoolCall Row) (PoolEnv Row) ℕ where
  entry := PoolCall.isStart
  advance := poolAdvance org
  ambient := fun conn pool => if pool.idle conn then some (pool.set conn .fresh false) else none

/-! ## The setting of a connection -/

/-- The session has no organization of its own. -/
def PgConnection.Blank (connection : PgConnection) : Prop :=
  connection.session = none ∨ connection.session = some ""

/-- Nothing is left over from a call on a connection that is not reserved. -/
structure Pool.Clean (pool : Pool) : Prop where
  blank : ∀ conn, (pool.connections conn).Blank
  ended : ∀ conn, pool.reserved conn = false → (pool.connections conn).transaction = none

/-- The pool before its first call. -/
def Pool.start : Pool := ⟨fun _ => .fresh, fun _ => false⟩

theorem PgConnection.Blank.finish {connection : PgConnection} (hblank : connection.Blank) :
    connection.finish.Blank := by
  obtain ⟨session, transaction⟩ := connection
  match transaction with
  | none => exact hblank
  | some none => exact hblank
  | some (some orgId) =>
      right
      rcases hblank with hsession | hsession <;> simp_all [PgConnection.finish]

/-- Outside a transaction a blank connection admits no organization but the empty id. -/
theorem PgConnection.Blank.admits {connection : PgConnection} (hblank : connection.Blank)
    (hended : connection.transaction = none) {orgId : String}
    (hadmits : admits connection.current orgId = true) : orgId = "" := by
  have hcurrent : connection.current = connection.session := by
    rw [PgConnection.current, hended]
  rw [hcurrent] at hadmits
  rcases hblank with hsession | hsession <;> rw [hsession] at hadmits
  · exact absurd hadmits (by simp [Db.admits])
  · exact admits_some hadmits

@[simp] theorem Pool.set_self (pool : Pool) (conn : ℕ) (connection : PgConnection) (reserved : Bool) :
    (pool.set conn connection reserved).connections conn = connection := by
  simp [Pool.set]

@[simp] theorem Pool.set_reserved (pool : Pool) (conn : ℕ) (connection : PgConnection)
    (reserved : Bool) : (pool.set conn connection reserved).reserved conn = reserved := by
  simp [Pool.set]

theorem Pool.set_of_ne (pool : Pool) {conn other : ℕ} (connection : PgConnection) (reserved : Bool)
    (hne : other ≠ conn) :
    (pool.set conn connection reserved).connections other = pool.connections other ∧
      (pool.set conn connection reserved).reserved other = pool.reserved other := by
  simp [Pool.set, hne]

theorem Pool.Clean.set {pool : Pool} (hclean : pool.Clean) {conn : ℕ} {connection : PgConnection}
    {reserved : Bool} (hblank : connection.Blank)
    (hended : reserved = false → connection.transaction = none) :
    (pool.set conn connection reserved).Clean := by
  refine ⟨fun other => ?_, fun other hreserved => ?_⟩
  · by_cases heq : other = conn
    · rwa [heq, Pool.set_self]
    · rw [(pool.set_of_ne connection reserved heq).1]
      exact hclean.blank other
  · by_cases heq : other = conn
    · rw [heq, Pool.set_reserved] at hreserved
      rw [heq, Pool.set_self]
      exact hended hreserved
    · obtain ⟨hconnection, hsame⟩ := pool.set_of_ne connection reserved heq
      rw [hconnection]
      exact hclean.ended other (hsame ▸ hreserved)

/-! ## What one step can do -/

/-- What a call knows of its own connection. -/
def OrgPc.knows (orgId : String) : OrgPc → PgConnection → Prop
  | .begin _, connection => connection.transaction = none
  | .fn _, connection => connection.transaction = some (some orgId)
  | _, _ => True

/-- The statements that a step adds ran under the setting of the connection. -/
def Adds (connection : PgConnection) (ran ran' : List (Ran Row)) : Prop :=
  ran' = ran ∨ ∃ (statement : Statement Row) (rows : List Row) (outcome : Outcome Row),
    statement.run org connection.current rows = .ok outcome ∧ ran' = ran ++ [⟨rows, outcome⟩]

variable {org}

def PoolCall.owns : PoolCall Row → ℕ → Prop
  | .withOrg _ pc _, conn => pc.connection = some conn
  | .query _, _ => False

def Pool.taken (pool : Pool) (conn : ℕ) : Prop := pool.reserved conn = true

/-- The organization whose rows a call may touch. -/
def PoolCall.scope : PoolCall Row → String
  | .withOrg orgId _ _ => orgId
  | .query _ => ""

def PoolCall.ran : PoolCall Row → List (Ran Row)
  | .withOrg _ _ ran => ran
  | .query ran => ran

/-- The statements so far were scoped, and the connection is as the call left it. -/
def PoolCall.assert (org : Row → String) (call : PoolCall Row) (connections : ℕ → PgConnection) : Prop :=
  (∀ entry ∈ call.ran, Scoped org call.scope entry.before entry.outcome) ∧
    match call with
    | .withOrg orgId pc _ => ∀ conn, pc.connection = some conn → pc.knows orgId (connections conn)
    | .query _ => True

theorem replaced {conn : ℕ} {pool pool' : Pool}
    (hambient : (poolService org).ambient conn pool = some pool') :
    pool.idle conn ∧ pool.set conn .fresh false = pool' := by
  simpa [poolService] using hambient

end Service

end ModelHub.Db
