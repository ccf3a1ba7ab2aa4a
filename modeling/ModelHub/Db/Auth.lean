import ModelHub.Db.Schema

/-!
# Better Auth's tables

The tables of `packages/db/src/schema/auth.ts` that say who is signed in and who
belongs to which organization.  A member row references a user and an
organization, and goes with either of them (`onDelete: "cascade"`); a session
references its user.  The active organization of a session is a plain text column:
nothing in the schema ties it to a member or to an organization.

As in `Schema`, unique columns and foreign keys are fields, so that every statement
has to show that it keeps them.
-/

namespace ModelHub.Db

structure User where
  id : String
  name : String
  email : String
  deriving DecidableEq, Repr

structure Session where
  id : String
  token : String
  userId : String
  activeOrganizationId : Option String
  deriving DecidableEq, Repr

structure Member where
  id : String
  organizationId : String
  userId : String
  deriving DecidableEq, Repr

structure AuthTables where
  users : Table User.id User.email
  organizations : Table Organization.id Organization.slug
  members : Table Member.id Member.id
  sessions : Table Session.id Session.token
  members_org : ∀ member ∈ members.rows,
    member.organizationId ∈ organizations.rows.map Organization.id
  members_user : ∀ member ∈ members.rows, member.userId ∈ users.rows.map User.id
  sessions_user : ∀ session ∈ sessions.rows, session.userId ∈ users.rows.map User.id

namespace AuthTables

def empty : AuthTables where
  users := .empty
  organizations := .empty
  members := .empty
  sessions := .empty
  members_org := by simp
  members_user := by simp
  sessions_user := by simp

/-! ## Statements -/

def insertUser (db : AuthTables) (user : User) : Option AuthTables :=
  if hid : user.id ∈ db.users.rows.map User.id then none
  else if hemail : user.email ∈ db.users.rows.map User.email then none
  else some { db with
    users := db.users.insert user hid hemail
    members_user := fun member hmember => by
      rw [Table.insert, List.map_append]
      exact List.mem_append_left _ (db.members_user member hmember)
    sessions_user := fun session hsession => by
      rw [Table.insert, List.map_append]
      exact List.mem_append_left _ (db.sessions_user session hsession) }

def insertSession (db : AuthTables) (session : Session) : Option AuthTables :=
  if hid : session.id ∈ db.sessions.rows.map Session.id then none
  else if htoken : session.token ∈ db.sessions.rows.map Session.token then none
  else if huser : session.userId ∈ db.users.rows.map User.id then
    some { db with
      sessions := db.sessions.insert session hid htoken
      sessions_user := fun found hfound => by
        rcases Table.mem_insert.1 hfound with hold | rfl
        · exact db.sessions_user found hold
        · exact huser }
  else none

def insertOrganization (db : AuthTables) (organization : Organization) : Option AuthTables :=
  if hid : organization.id ∈ db.organizations.rows.map Organization.id then none
  else if hslug : organization.slug ∈ db.organizations.rows.map Organization.slug then none
  else some { db with
    organizations := db.organizations.insert organization hid hslug
    members_org := fun member hmember => by
      rw [Table.insert, List.map_append]
      exact List.mem_append_left _ (db.members_org member hmember) }

def insertMember (db : AuthTables) (member : Member) : Option AuthTables :=
  if hid : member.id ∈ db.members.rows.map Member.id then none
  else if horg : member.organizationId ∈ db.organizations.rows.map Organization.id then
    if huser : member.userId ∈ db.users.rows.map User.id then
      some { db with
        members := db.members.insert member hid hid
        members_org := fun found hfound => by
          rcases Table.mem_insert.1 hfound with hold | rfl
          · exact db.members_org found hold
          · exact horg
        members_user := fun found hfound => by
          rcases Table.mem_insert.1 hfound with hold | rfl
          · exact db.members_user found hold
          · exact huser }
    else none
  else none

def setActive (active : Option String) (session : Session) : Session :=
  { session with activeOrganizationId := active }

@[simp] theorem setActive_id (active : Option String) (session : Session) :
    (setActive active session).id = session.id := rfl

@[simp] theorem setActive_token (active : Option String) (session : Session) :
    (setActive active session).token = session.token := rfl

@[simp] theorem setActive_userId (active : Option String) (session : Session) :
    (setActive active session).userId = session.userId := rfl

theorem rewrite_setActive_userId (sel : Session → Bool) (active : Option String) (session : Session) :
    (Table.rewrite sel (setActive active) session).userId = session.userId :=
  Table.rewrite_same Session.userId (setActive_userId active) session

theorem rewrite_setActive_token (sel : Session → Bool) (active : Option String) (session : Session) :
    (Table.rewrite sel (setActive active) session).token = session.token :=
  Table.rewrite_same Session.token (setActive_token active) session

/-- The sessions that are selected get this active organization, or none. -/
def updateSessions (db : AuthTables) (sel : Session → Bool) (active : Option String) : AuthTables :=
  { db with
    sessions := db.sessions.update sel (setActive active) (setActive_id active) (setActive_token active)
    sessions_user := fun session hsession => by
      obtain ⟨old, hold, rfl⟩ := Table.mem_update.1 hsession
      rw [rewrite_setActive_userId]
      exact db.sessions_user old hold }

def deleteMembers (db : AuthTables) (sel : Member → Bool) : AuthTables :=
  { db with
    members := db.members.delete sel
    members_org := fun member hmember => db.members_org member (Table.mem_delete.1 hmember).1
    members_user := fun member hmember => db.members_user member (Table.mem_delete.1 hmember).1 }

/-- The organization and, by the cascade, its members. -/
def deleteOrganization (db : AuthTables) (orgId : String) : AuthTables :=
  { db with
    organizations := db.organizations.delete fun organization => organization.id = orgId
    members := db.members.delete fun member => member.organizationId = orgId
    members_org := fun member hmember => by
      obtain ⟨hold, hother⟩ := Table.mem_delete.1 hmember
      obtain ⟨organization, horganization, hid⟩ := List.mem_map.1 (db.members_org member hold)
      refine List.mem_map.2 ⟨organization, Table.mem_delete.2 ⟨horganization, ?_⟩, hid⟩
      rw [hid]
      exact hother
    members_user := fun member hmember => db.members_user member (Table.mem_delete.1 hmember).1 }

/-! ## Membership -/

/-- The user is a member of the organization. -/
def Belongs (db : AuthTables) (userId orgId : String) : Prop :=
  ∃ member ∈ db.members.rows, member.userId = userId ∧ member.organizationId = orgId

instance (db : AuthTables) (userId orgId : String) : Decidable (db.Belongs userId orgId) :=
  inferInstanceAs (Decidable (∃ member ∈ db.members.rows,
    member.userId = userId ∧ member.organizationId = orgId))

/-- An organization with a member exists. -/
theorem Belongs.org_mem {db : AuthTables} {userId orgId : String} (hbelongs : db.Belongs userId orgId) :
    orgId ∈ db.organizations.rows.map Organization.id := by
  obtain ⟨member, hmember, -, rfl⟩ := hbelongs
  exact db.members_org member hmember

theorem Belongs.mono {db next : AuthTables} {userId orgId : String}
    (hbelongs : db.Belongs userId orgId) (hmembers : ∀ member ∈ db.members.rows, member ∈ next.members.rows) :
    next.Belongs userId orgId := by
  obtain ⟨member, hmember, hcolumns⟩ := hbelongs
  exact ⟨member, hmembers member hmember, hcolumns⟩

/-! ## What the statements leave alone -/

variable {db next : AuthTables}

theorem insertUser_spec {user : User} (hinsert : db.insertUser user = some next) :
    next.members = db.members ∧ next.sessions = db.sessions := by
  unfold insertUser at hinsert
  split at hinsert
  · cases hinsert
  · split at hinsert <;> cases hinsert
    exact ⟨rfl, rfl⟩

theorem insertSession_spec {session : Session} (hinsert : db.insertSession session = some next) :
    next.members = db.members ∧
      ∀ found, found ∈ next.sessions.rows ↔ found ∈ db.sessions.rows ∨ found = session := by
  unfold insertSession at hinsert
  split at hinsert
  · cases hinsert
  · split at hinsert
    · cases hinsert
    · split at hinsert <;> cases hinsert
      refine ⟨rfl, fun found => ?_⟩
      rw [Table.mem_insert]

theorem insertOrganization_spec {organization : Organization}
    (hinsert : db.insertOrganization organization = some next) :
    next.members = db.members ∧ next.sessions = db.sessions := by
  unfold insertOrganization at hinsert
  split at hinsert
  · cases hinsert
  · split at hinsert <;> cases hinsert
    exact ⟨rfl, rfl⟩

theorem insertMember_spec {member : Member} (hinsert : db.insertMember member = some next) :
    next.sessions = db.sessions ∧
      ∀ found, found ∈ next.members.rows ↔ found ∈ db.members.rows ∨ found = member := by
  unfold insertMember at hinsert
  split at hinsert
  · cases hinsert
  · split at hinsert
    · split at hinsert <;> cases hinsert
      refine ⟨rfl, fun found => ?_⟩
      rw [Table.mem_insert]
    · cases hinsert

theorem mem_updateSessions {sel : Session → Bool} {active : Option String} {session : Session} :
    session ∈ (db.updateSessions sel active).sessions.rows ↔
      ∃ old ∈ db.sessions.rows, Table.rewrite sel (setActive active) old = session := by
  unfold updateSessions
  rw [Table.mem_update]

end AuthTables

end ModelHub.Db
