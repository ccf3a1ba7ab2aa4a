import ModelHub.Db.Auth
import ModelHub.Foundations.Interleaving

/-!
# Sessions and their organization

`requireSession` of `apps/control-plane/src/auth/session.ts`, which decides for
every request of a browser which organization it acts for, and the service in which
any number of requests run while users sign up, sign in and manage their
organizations through Better Auth.

A request makes up to three calls to Better Auth (read the session, list the user's
organizations, create one) and answers with the last of them, so these calls are its
steps.  Better Auth is not part of the repository.  What the list of organizations
contains is an assumption here, its order is not; removing a member or deleting an
organization may reset the active organization of sessions of the acting user, and
of nobody else.
-/

namespace ModelHub.ControlPlane

open Db Interleaving

/-- `auth.api.listOrganizations`: a user's current organizations, in some order. -/
structure BetterAuth where
  listOrganizations : AuthTables → String → List Organization
  mem_listOrganizations : ∀ db userId organization,
    organization ∈ listOrganizations db userId ↔
      organization ∈ db.organizations.rows ∧ db.Belongs userId organization.id

/-! ## A request -/

inductive SessionError where
  /-- `HttpError` -/
  | http (statusCode : ℕ) (code message : String)
  /-- A call to Better Auth threw. -/
  | betterAuth
  deriving DecidableEq, Repr

structure SessionContext where
  userId : String
  orgId : String
  user : User
  deriving DecidableEq, Repr

/-- Where a call of `requireSession` stands. -/
inductive RequestPc where
  | getSession
  | listOrganizations (user : User)
  | selfHeal (user : User)
  | returned (context : SessionContext)
  | threw (error : SessionError)
  deriving DecidableEq, Repr

/-- A call: the session token in its headers, and where it stands. -/
structure Request where
  token : Option String
  pc : RequestPc
  deriving DecidableEq, Repr

/-- What a call to Better Auth meets: whether it throws, and the random ids it draws. -/
structure BetterAuthCall where
  throws : Bool
  organizationHex : String
  slugHex : String
  memberHex : String
  deriving DecidableEq, Repr

/-- `auth.api.getSession`: the stored session of the token, with its user. -/
def getSession (db : AuthTables) (token : Option String) : Option (Session × User) :=
  (token.bind db.sessions.withKey).bind fun session =>
    (db.users.withId session.userId).map fun user => (session, user)

/-- `auth.api.createOrganization`: the organization and its first member. -/
def createOrganization (organization : Organization) (memberId userId : String) (db : AuthTables) :
    Option AuthTables :=
  (db.insertOrganization organization).bind fun db' =>
    db'.insertMember ⟨memberId, organization.id, userId⟩

/-- The organization that `ensurePersonalOrganization` creates for a user. -/
def personalOrganization (user : User) (call : BetterAuthCall) : Organization where
  id := "org_" ++ call.organizationHex
  name := (if user.name = "" then user.email else user.name) ++ "'s fleet"
  slug := "org-" ++ call.slugHex

def ensurePersonalOrganization (user : User) (call : BetterAuthCall) (db : AuthTables) :
    Option AuthTables :=
  if call.throws then none
  else createOrganization (personalOrganization user call) call.memberHex user.id db

/-- The end of a request; an empty id is as good as none. -/
def answer (user : User) (orgId : Option String) : RequestPc :=
  match orgId.filter (· ≠ "") with
  | none => .threw (.http 403 "no_organization" "user has no organization")
  | some orgId => .returned ⟨user.id, orgId, user⟩

/-- The next step of a `requireSession` call. -/
def requireSessionStep (auth : BetterAuth) (token : Option String) (call : BetterAuthCall)
    (db : AuthTables) : RequestPc → Option (AuthTables × RequestPc)
  | .getSession =>
      if call.throws then some (db, .threw .betterAuth)
      else match getSession db token with
      | none => some (db, .threw (.http 401 "unauthenticated" "sign in required"))
      | some (session, user) =>
          match session.activeOrganizationId with
          | some orgId => some (db, answer user (some orgId))
          | none => some (db, .listOrganizations user)
  | .listOrganizations user =>
      if call.throws then some (db, .threw .betterAuth)
      else match (auth.listOrganizations db user.id).head? with
      | some organization => some (db, answer user (some organization.id))
      | none => some (db, .selfHeal user)
  | .selfHeal user =>
      match ensurePersonalOrganization user call db with
      | some db' => some (db', answer user (some (personalOrganization user call).id))
      -- creation failed: logged, and the user has no organization
      | none => some (db, answer user none)
  | .returned _ => none
  | .threw _ => none

/-! ## Organizations are managed -/

/-- What users do through Better Auth. -/
inductive AuthOp where
  | signUp (user : User)
  | signIn (sessionId token userId : String)
  /-- With the session of the creator that becomes active in it, if there is one. -/
  | createOrganization (organization : Organization) (memberId userId : String)
      (sessionId : Option String)
  | addMember (member : Member)
  | setActive (sessionId : String) (orgId : Option String)
  /-- The sessions of the acting user that are reset are listed. -/
  | removeMember (actor memberId : String) (reset : List String)
  | deleteOrganization (actor orgId : String) (reset : List String)

/-- The actor's sessions among those listed that have the organization active. -/
def isReset (actor orgId : String) (reset : List String) (session : Session) : Bool :=
  session.userId = actor ∧ session.id ∈ reset ∧ session.activeOrganizationId = some orgId

def AuthOp.apply (db : AuthTables) : AuthOp → Option AuthTables
  | .signUp user => db.insertUser user
  | .signIn sessionId token userId => db.insertSession ⟨sessionId, token, userId, none⟩
  | .createOrganization organization memberId userId sessionId =>
      (ControlPlane.createOrganization organization memberId userId db).map fun db' =>
        db'.updateSessions (fun session => some session.id = sessionId ∧ session.userId = userId)
          (some organization.id)
  | .addMember member => db.insertMember member
  | .setActive sessionId none =>
      some (db.updateSessions (fun session => session.id = sessionId) none)
  | .setActive sessionId (some orgId) =>
      -- only for a current member
      some (db.updateSessions
        (fun session => session.id = sessionId ∧ db.Belongs session.userId orgId) (some orgId))
  | .removeMember actor memberId reset =>
      (db.members.withId memberId).map fun member =>
        (db.deleteMembers fun row => row.id = memberId).updateSessions
          (isReset actor member.organizationId reset) none
  | .deleteOrganization actor orgId reset =>
      some ((db.deleteOrganization orgId).updateSessions (isReset actor orgId reset) none)

/-- Requests in any number and order, while organizations are managed. -/
def sessionService (auth : BetterAuth) : Service AuthTables Request BetterAuthCall AuthOp where
  entry := fun request => request.pc = .getSession
  advance := fun call db request =>
    (requireSessionStep auth request.token call db request.pc).map fun next =>
      (next.1, { request with pc := next.2 })
  ambient := fun op db => op.apply db

end ModelHub.ControlPlane
