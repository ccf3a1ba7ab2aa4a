import ModelHub.ControlPlane.TenantIsolation

/-!
# Self-heal at once

A user without an organization gets one from `requireSession`, which lists the user's
organizations and creates one if there are none.  These are two calls to Better Auth, and
what makes a second organization fail is a slug that was just drawn: if several requests of
the user list before the first of them creates, each creates its own.

`healed_iff` says when it is one: if each creation finds the user still without an
organization, and one of them draws a slug that is not in use.  The argument is a count of
memberships: a creation adds one (`Healing.creates`), no other step adds any
(`Healing.others`), and none takes one away.
-/

namespace ModelHub.ControlPlane

open Db Interleaving Transition

variable {auth : BetterAuth} {db next : AuthTables} {userId : String}

/-! ## Creating a personal organization -/

/-- The slug that the call draws is not in use. -/
def FreeSlug (call : BetterAuthCall) (db : AuthTables) : Prop :=
  "org-" ++ call.slugHex ∉ db.organizations.rows.map Organization.slug

instance (call : BetterAuthCall) (db : AuthTables) : Decidable (FreeSlug call db) :=
  inferInstanceAs (Decidable (_ ∉ _))

/-- A call to Better Auth does not throw, and the ids that it draws are not in use. -/
structure Works (call : BetterAuthCall) (db : AuthTables) : Prop where
  answers : call.throws = false
  organization : "org_" ++ call.organizationHex ∉ db.organizations.rows.map Organization.id
  member : call.memberHex ∉ db.members.rows.map Member.id

/-- What an organization adds: one membership. -/
structure Adds (db next : AuthTables) (userId orgId : String) : Prop where
  users : next.users = db.users
  sessions : next.sessions = db.sessions
  belongs : ∀ other organization, next.Belongs other organization ↔
    db.Belongs other organization ∨ other = userId ∧ organization = orgId

theorem createOrganization_succeeds {organization : Organization} {memberId : String}
    (hid : organization.id ∉ db.organizations.rows.map Organization.id)
    (hslug : organization.slug ∉ db.organizations.rows.map Organization.slug)
    (hmember : memberId ∉ db.members.rows.map Member.id)
    (huser : userId ∈ db.users.rows.map User.id) :
    ∃ next, createOrganization organization memberId userId db = some next ∧
      Adds db next userId organization.id := by
  have horg : organization.id ∈ (db.organizations.insert organization hid hslug).rows.map
      Organization.id := by
    rw [Table.insert, List.map_append]
    exact List.mem_append_right _ (by simp)
  unfold createOrganization AuthTables.insertOrganization
  rw [dif_neg hid, dif_neg hslug, Option.bind_some]
  unfold AuthTables.insertMember
  rw [dif_neg hmember, dif_pos horg, dif_pos huser]
  refine ⟨_, rfl, rfl, rfl, fun other found => ?_⟩
  unfold AuthTables.Belongs
  simp only [Table.mem_insert]
  constructor
  · rintro ⟨member, hold | rfl, hsame, hfound⟩
    · exact Or.inl ⟨member, hold, hsame, hfound⟩
    · exact Or.inr ⟨hsame.symm, hfound.symm⟩
  · rintro (⟨member, hold, hcolumns⟩ | ⟨rfl, rfl⟩)
    · exact ⟨member, Or.inl hold, hcolumns⟩
    · exact ⟨_, Or.inr rfl, rfl, rfl⟩

theorem ensurePersonalOrganization_creates {user : User} {call : BetterAuthCall}
    (hworks : Works call db) (hslug : FreeSlug call db)
    (huser : user.id ∈ db.users.rows.map User.id) :
    ∃ next, ensurePersonalOrganization user call db = some next ∧
      Adds db next user.id (personalOrganization user call).id := by
  unfold ensurePersonalOrganization
  rw [hworks.answers, if_neg (by simp)]
  exact createOrganization_succeeds hworks.organization hslug hworks.member huser

/-- A slug in use is refused. -/
theorem ensurePersonalOrganization_refused {user : User} {call : BetterAuthCall}
    (hslug : ¬ FreeSlug call db) : ensurePersonalOrganization user call db = none := by
  have hused : (personalOrganization user call).slug ∈
      db.organizations.rows.map Organization.slug := not_not.1 hslug
  have hrefused : db.insertOrganization (personalOrganization user call) = none := by
    unfold AuthTables.insertOrganization
    by_cases hid : (personalOrganization user call).id ∈ db.organizations.rows.map Organization.id
    · rw [dif_pos hid]
    · rw [dif_neg hid, dif_pos hused]
  unfold ensurePersonalOrganization createOrganization
  rw [hrefused, Option.bind_none, ite_self]

/-! ## Requests of one user -/

/-- What the answers of earlier calls say about the user. -/
def RequestPc.Of (userId : String) (db : AuthTables) : RequestPc → Prop
  | .getSession => True
  | .listOrganizations user => user.id = userId
  | .selfHeal user => user.id = userId
  | .returned context => db.Belongs userId context.orgId
  | .threw _ => True

/-- No session of the user has an active organization. -/
def NoneActive (userId : String) (db : AuthTables) : Prop :=
  ∀ session ∈ db.sessions.rows, session.userId = userId → session.activeOrganizationId = none

theorem RequestPc.Of.mono {pc : RequestPc} (hof : pc.Of userId db)
    (hbelongs : ∀ orgId, db.Belongs userId orgId → next.Belongs userId orgId) :
    pc.Of userId next := by
  cases pc with
  | returned context => exact hbelongs _ hof
  | getSession => trivial
  | listOrganizations user => exact hof
  | selfHeal user => exact hof
  | threw error => trivial

theorem answer_of {user : User} {orgId : Option String}
    (hbelongs : ∀ id, orgId = some id → db.Belongs userId id) : (answer user orgId).Of userId db := by
  cases hanswer : answer user orgId with
  | returned context => exact hbelongs _ (answer_returned hanswer).2
  | threw error => trivial
  | getSession => trivial
  | listOrganizations found => simp [answer] at hanswer; split at hanswer <;> cases hanswer
  | selfHeal found => simp [answer] at hanswer; split at hanswer <;> cases hanswer

/-- The session of the token is the user's. -/
theorem getSession_of {token : Option String} {session : Session} {user : User}
    (hhas : HasSession db token userId) (hget : getSession db token = some (session, user)) :
    session ∈ db.sessions.rows ∧ session.userId = userId ∧ user.id = userId := by
  obtain ⟨hsession, htoken, huser⟩ := getSession_spec hget
  obtain ⟨found, hfound, hsame, rfl⟩ := hhas
  have hone : session = found :=
    Table.eq_of_key hsession hfound (Option.some.inj (htoken.symm.trans hsame))
  rw [← huser, hone]
  exact ⟨hone ▸ hsession, rfl, rfl⟩

/-- A step that does not create changes nothing. -/
theorem requireSessionStep_quiet {token : Option String} {call : BetterAuthCall}
    {pc pc' : RequestPc} (hactive : NoneActive userId db) (hhas : HasSession db token userId)
    (hof : pc.Of userId db) (hquiet : ∀ user, pc = .selfHeal user → ¬ FreeSlug call db)
    (hstep : requireSessionStep auth token call db pc = some (next, pc')) :
    next = db ∧ pc'.Of userId db := by
  cases pc with
  | getSession =>
      simp only [requireSessionStep] at hstep
      split at hstep
      · cases hstep
        exact ⟨rfl, trivial⟩
      split at hstep
      · cases hstep
        exact ⟨rfl, trivial⟩
      case h_2 session user hget =>
        obtain ⟨hsession, hown, huser⟩ := getSession_of hhas hget
        rw [hactive session hsession hown] at hstep
        cases hstep
        exact ⟨rfl, huser⟩
  | listOrganizations user =>
      simp only [requireSessionStep] at hstep
      split at hstep
      · cases hstep
        exact ⟨rfl, trivial⟩
      split at hstep <;> cases hstep
      case h_1 organization hhead =>
        refine ⟨rfl, answer_of fun orgId horg => ?_⟩
        rw [← Option.some.inj horg, ← show user.id = userId from hof]
        exact ((auth.mem_listOrganizations _ user.id organization).1 (List.mem_of_head? hhead)).2
      · exact ⟨rfl, hof⟩
  | selfHeal user =>
      simp only [requireSessionStep] at hstep
      rw [ensurePersonalOrganization_refused (hquiet user rfl)] at hstep
      cases hstep
      exact ⟨rfl, answer_of fun orgId horg => by cases horg⟩
  | returned context => cases hstep
  | threw error => cases hstep

theorem requireSessionStep_creates {token : Option String} {call : BetterAuthCall}
    {user : User} {pc' : RequestPc} (hworks : Works call db) (hslug : FreeSlug call db)
    (huser : user.id ∈ db.users.rows.map User.id)
    (hstep : requireSessionStep auth token call db (.selfHeal user) = some (next, pc')) :
    Adds db next user.id (personalOrganization user call).id ∧ pc'.Of user.id next := by
  obtain ⟨db', hensure, hadds⟩ := ensurePersonalOrganization_creates hworks hslug huser
  simp only [requireSessionStep, hensure] at hstep
  cases hstep
  refine ⟨hadds, answer_of fun orgId horg => ?_⟩
  rw [← Option.some.inj horg, hadds.belongs]
  exact Or.inr ⟨rfl, rfl⟩

/-! ## Runs -/

/-- The next step of the request creates an organization. -/
def creating (state : State AuthTables Request) (request : ℕ) : Bool :=
  match state.frames request with
  | some ⟨_, .selfHeal _⟩ => true
  | _ => false

/-- A step of the requests of one user: none of them has another user's session, and an
organization is refused only for its slug. -/
def OfUser (userId : String) (state : State AuthTables Request) :
    Label Request BetterAuthCall AuthOp → Prop
  | .start _ request => HasSession state.store request.token userId
  | .advance request call => creating state request → Works call state.store
  | .ambient _ => False

/-- A request creates an organization, with a slug that is not in use. -/
def Creates (state : State AuthTables Request) : Label Request BetterAuthCall AuthOp → Prop
  | .advance request call => creating state request ∧ FreeSlug call state.store
  | _ => False

/-- The user is in no organization. -/
def Homeless (userId : String) (db : AuthTables) : Prop :=
  ∀ member ∈ db.members.rows, member.userId ≠ userId

/-- If a request creates, the user is still in no organization. -/
def StillNone (userId : String) (state : State AuthTables Request)
    (label : Label Request BetterAuthCall AuthOp) : Prop :=
  Creates state label → Homeless userId state.store

/-- The user belongs to one organization, and every request that returns, returns it. -/
structure Healed (userId : String) (state : State AuthTables Request) : Prop where
  one : ∃! orgId, state.store.Belongs userId orgId
  answers : ∀ first second token token' context context',
    state.frames first = some ⟨token, .returned context⟩ →
    state.frames second = some ⟨token', .returned context'⟩ → context.orgId = context'.orgId

/-- What every step keeps. -/
structure Healing (userId : String) (state : State AuthTables Request) : Prop where
  active : NoneActive userId state.store
  session : ∀ request token pc, state.frames request = some ⟨token, pc⟩ →
    HasSession state.store token userId
  of : ∀ request token pc, state.frames request = some ⟨token, pc⟩ → pc.Of userId state.store

theorem homeless_iff : Homeless userId db ↔ ∀ orgId, ¬ db.Belongs userId orgId := by
  constructor
  · rintro hnone orgId ⟨member, hmember, huser, -⟩
    exact hnone member hmember huser
  · intro hnone member hmember huser
    exact hnone member.organizationId ⟨member, hmember, huser, rfl⟩

theorem creating_iff {state : State AuthTables Request} {request : ℕ} :
    creating state request ↔ ∃ token user, state.frames request = some ⟨token, .selfHeal user⟩ := by
  unfold creating
  split
  case h_1 token user hframe => simp [hframe]
  case h_2 hother =>
    simp only [Bool.false_eq_true, false_iff, not_exists]
    exact fun token user hframe => hother token user hframe

theorem HasSession.user_mem {token : Option String} (hhas : HasSession db token userId) :
    userId ∈ db.users.rows.map User.id := by
  obtain ⟨session, hsession, -, rfl⟩ := hhas
  exact db.sessions_user session hsession

variable {state following final : State AuthTables Request}
  {label : Label Request BetterAuthCall AuthOp}

theorem Healing.others (hhealing : Healing userId state) (hof : OfUser userId state label)
    (hquiet : ¬ Creates state label)
    (hstep : (sessionService auth).system.step state label = some following) :
    Healing userId following ∧ following.store = state.store := by
  rcases Service.step_cases hstep with ⟨request, frame, rfl, hentry, -, rfl⟩ |
    ⟨request, call, ⟨token, pc⟩, db, frame', rfl, hframe, hadvance, rfl⟩ | ⟨_, _, rfl, -⟩
  · have hpc : frame.pc = .getSession := by simpa [sessionService] using hentry
    refine ⟨⟨hhealing.active, fun other token pc hfound => ?_, fun other token pc hfound => ?_⟩, rfl⟩
    · rcases Service.frames_setFrame hfound with ⟨-, hnew⟩ | ⟨-, hold⟩
      · rw [show token = frame.token from congrArg Request.token hnew]
        exact hof
      · exact hhealing.session other token pc hold
    · rcases Service.frames_setFrame hfound with ⟨-, hnew⟩ | ⟨-, hold⟩
      · rw [show pc = frame.pc from congrArg Request.pc hnew, hpc]
        trivial
      · exact hhealing.of other token pc hold
  · obtain ⟨⟨db', pc'⟩, hadvanced, hsame⟩ := Option.map_eq_some_iff.1 hadvance
    obtain ⟨rfl, rfl⟩ := Prod.mk.inj hsame
    have hhas := hhealing.session request token pc hframe
    obtain ⟨rfl, hpc⟩ := requireSessionStep_quiet hhealing.active hhas
      (hhealing.of request token pc hframe) (fun user hheal hfree =>
        hquiet ⟨creating_iff.2 ⟨token, user, by rw [hframe, hheal]⟩, hfree⟩) hadvanced
    refine ⟨⟨hhealing.active, fun other found pc hfound => ?_, fun other found pc hfound => ?_⟩, rfl⟩
    · rcases Service.frames_setFrame hfound with ⟨-, hnew⟩ | ⟨-, hold⟩
      · rw [show found = token from congrArg Request.token hnew]
        exact hhas
      · exact hhealing.session other found pc hold
    · rcases Service.frames_setFrame hfound with ⟨-, hnew⟩ | ⟨-, hold⟩
      · rw [show pc = pc' from congrArg Request.pc hnew]
        exact hpc
      · exact hhealing.of other found pc hold
  · exact hof.elim

/-- A creation adds an organization of the user, whose id was not in use. -/
theorem Healing.creates (hhealing : Healing userId state) (hof : OfUser userId state label)
    (hcreates : Creates state label)
    (hstep : (sessionService auth).system.step state label = some following) :
    Healing userId following ∧ ∃ orgId, ¬ state.store.Belongs userId orgId ∧
      ∀ other, following.store.Belongs userId other ↔
        state.store.Belongs userId other ∨ other = orgId := by
  rcases Service.step_cases hstep with ⟨_, _, rfl, -⟩ |
    ⟨request, call, frame, db, frame', rfl, hframe, hadvance, rfl⟩ | ⟨_, _, rfl, -⟩
  · exact hcreates.elim
  · obtain ⟨hcreating, hslug⟩ := hcreates
    have hworks : Works call state.store := hof hcreating
    obtain ⟨token, user, hheal⟩ := creating_iff.1 hcreating
    rw [hframe] at hheal
    cases hheal
    obtain ⟨⟨db', pc'⟩, hadvanced, hsame⟩ := Option.map_eq_some_iff.1 hadvance
    obtain ⟨rfl, rfl⟩ := Prod.mk.inj hsame
    have hhas := hhealing.session request token _ hframe
    obtain rfl : user.id = userId := hhealing.of request token _ hframe
    obtain ⟨hadds, hpc⟩ := requireSessionStep_creates hworks hslug hhas.user_mem hadvanced
    have hgrows : ∀ other, db'.Belongs user.id other ↔ state.store.Belongs user.id other ∨
        other = (personalOrganization user call).id := by
      intro other
      rw [hadds.belongs]
      simp
    have hkeeps : KeepsSessions state.store db' := .of_eq hadds.sessions
    refine ⟨⟨?_, fun other found pc hfound => ?_, fun other found pc hfound => ?_⟩, _, ?_, hgrows⟩
    · intro session hsession
      rw [State.setFrame_store, hadds.sessions] at hsession
      exact hhealing.active session hsession
    · rcases Service.frames_setFrame hfound with ⟨-, hnew⟩ | ⟨-, hold⟩
      · rw [show found = token from congrArg Request.token hnew]
        exact hhas.mono hkeeps
      · exact (hhealing.session other found pc hold).mono hkeeps
    · rcases Service.frames_setFrame hfound with ⟨-, hnew⟩ | ⟨-, hold⟩
      · rw [show pc = pc' from congrArg Request.pc hnew]
        exact hpc
      · exact (hhealing.of other found pc hold).mono fun orgId hbelongs =>
          (hgrows orgId).2 (Or.inl hbelongs)
    · intro hbelongs
      exact hworks.organization hbelongs.org_mem
  · exact hcreates.elim

theorem Healing.step (hhealing : Healing userId state) (hof : OfUser userId state label)
    (hstep : (sessionService auth).system.step state label = some following) :
    Healing userId following ∧
      ∀ orgId, state.store.Belongs userId orgId → following.store.Belongs userId orgId := by
  by_cases hcreates : Creates state label
  · obtain ⟨hnext, new, -, hgrows⟩ := hhealing.creates hof hcreates hstep
    exact ⟨hnext, fun orgId hbelongs => (hgrows orgId).2 (Or.inl hbelongs)⟩
  · obtain ⟨hnext, hsame⟩ := hhealing.others hof hcreates hstep
    exact ⟨hnext, fun orgId hbelongs => hsame ▸ hbelongs⟩

theorem healing_idle (hactive : NoneActive userId db) :
    Healing userId (State.idle db : State AuthTables Request) where
  active := hactive
  session := fun _ _ _ hframe => by simp at hframe
  of := fun _ _ _ hframe => by simp at hframe

theorem Healing.run {labels : List (Label Request BetterAuthCall AuthOp)}
    (hhealing : Healing userId state)
    (hof : (sessionService auth).system.Along (OfUser userId) state labels)
    (hrun : (sessionService auth).system.run state labels = some final) :
    Healing userId final ∧
      ∀ orgId, state.store.Belongs userId orgId → final.store.Belongs userId orgId := by
  apply System.along_invariant (fun later => Healing userId later ∧
    ∀ orgId, state.store.Belongs userId orgId → later.store.Belongs userId orgId) _
    ⟨hhealing, fun _ => id⟩ hof hrun
  rintro middle label later ⟨hmiddle, hgrown⟩ hcond hstep
  obtain ⟨hlater, hgrows⟩ := hmiddle.step hcond hstep
  exact ⟨hlater, fun orgId hbelongs => hgrows orgId (hgrown orgId hbelongs)⟩

/-- Without a creation there is no organization. -/
theorem none_of_not_creates {labels : List (Label Request BetterAuthCall AuthOp)}
    (hhealing : Healing userId state) (hnone : Homeless userId state.store)
    (hof : (sessionService auth).system.Along (OfUser userId) state labels)
    (hquiet : (sessionService auth).system.Along (fun state label => ¬ Creates state label)
      state labels)
    (hrun : (sessionService auth).system.run state labels = some final) :
    Homeless userId final.store := by
  have hboth := System.along_and hof hquiet
  refine (System.along_invariant (fun later => Healing userId later ∧
    Homeless userId later.store) ?_ ⟨hhealing, hnone⟩ hboth hrun).2
  rintro middle label later ⟨hmiddle, hempty⟩ ⟨hcond, hnot⟩ hstep
  obtain ⟨hlater, hsame⟩ := hmiddle.others hcond hnot hstep
  exact ⟨hlater, by rwa [hsame]⟩

/-- If every creation finds the user without an organization, there is at most one. -/
theorem unique_of_stillNone {labels : List (Label Request BetterAuthCall AuthOp)}
    (hhealing : Healing userId state) (hnone : Homeless userId state.store)
    (hof : (sessionService auth).system.Along (OfUser userId) state labels)
    (hstill : (sessionService auth).system.Along (StillNone userId) state labels)
    (hrun : (sessionService auth).system.run state labels = some final) :
    ∀ orgId other, final.store.Belongs userId orgId → final.store.Belongs userId other →
      orgId = other := by
  have hboth := System.along_and hof hstill
  refine (System.along_invariant (fun later => Healing userId later ∧ ∀ orgId other,
    later.store.Belongs userId orgId → later.store.Belongs userId other → orgId = other) ?_
    ⟨hhealing, fun orgId _ hbelongs => absurd hbelongs (homeless_iff.1 hnone orgId)⟩ hboth hrun).2
  rintro middle label later ⟨hmiddle, hunique⟩ ⟨hcond, hempty⟩ hstep
  by_cases hcreates : Creates middle label
  · obtain ⟨hlater, new, -, hgrows⟩ := hmiddle.creates hcond hcreates hstep
    have hnew : ∀ orgId, later.store.Belongs userId orgId → orgId = new := fun orgId hbelongs =>
      ((hgrows orgId).1 hbelongs).resolve_left (homeless_iff.1 (hempty hcreates) orgId)
    refine ⟨hlater, fun orgId other horg hother => ?_⟩
    rw [hnew orgId horg, hnew other hother]
  · obtain ⟨hlater, hsame⟩ := hmiddle.others hcond hcreates hstep
    refine ⟨hlater, ?_⟩
    rwa [hsame]

/-- A user without an organization gets one, the same from every request, if and only if a
request creates with a slug that is not in use, and none does so after another. -/
theorem healed_iff {auth : BetterAuth} {db : AuthTables} {userId : String}
    {labels : List (Label Request BetterAuthCall AuthOp)} {final : State AuthTables Request}
    (hnone : Homeless userId db) (hactive : NoneActive userId db)
    (hof : (sessionService auth).system.Along (OfUser userId) (State.idle db) labels)
    (hrun : (sessionService auth).system.run (State.idle db) labels = some final) :
    Healed userId final ↔
      (sessionService auth).system.Along (StillNone userId) (State.idle db) labels ∧
        ∃ before label after state, labels = before ++ label :: after ∧
          (sessionService auth).system.run (State.idle db) before = some state ∧
          Creates state label := by
  have hidle := healing_idle hactive
  have hfinal := (hidle.run hof hrun).1
  constructor
  · rintro ⟨⟨orgId, hbelongs, hunique⟩, -⟩
    constructor
    · by_contra hnot
      obtain ⟨before, label, after, state, next, rfl, hbefore, hbad, hstep, hafter⟩ :=
        (System.not_along_iff hrun).1 hnot
      obtain ⟨hcreates, hsome⟩ := Classical.not_imp.1 hbad
      rw [homeless_iff, not_forall] at hsome
      obtain ⟨found, hfound⟩ := hsome
      obtain ⟨hofBefore, hofAfter⟩ := (System.along_append hbefore).1 hof
      have hstate := (hidle.run hofBefore hbefore).1
      obtain ⟨hnext, new, hnew, hgrows⟩ := hstate.creates hofAfter.1 hcreates hstep
      have hkept := (hnext.run (hofAfter.2 next hstep) hafter).2
      -- the one that was there and the new one are both there at the end
      have hold := hunique found (hkept found ((hgrows found).2 (Or.inl (not_not.1 hfound))))
      have hlast := hunique new (hkept new ((hgrows new).2 (Or.inr rfl)))
      exact hnew (hlast.trans hold.symm ▸ not_not.1 hfound)
    · by_contra hnever
      have hquiet : (sessionService auth).system.Along (fun state label => ¬ Creates state label)
          (State.idle db) labels := by
        by_contra hnot
        obtain ⟨before, label, after, state, next, hsplit, hbefore, hbad, -, -⟩ :=
          (System.not_along_iff hrun).1 hnot
        exact hnever ⟨before, label, after, state, hsplit, hbefore, not_not.1 hbad⟩
      exact homeless_iff.1 (none_of_not_creates hidle hnone hof hquiet hrun) orgId hbelongs
  · rintro ⟨hstill, before, label, after, state, rfl, hbefore, hcreates⟩
    obtain ⟨hofBefore, hofAfter⟩ := (System.along_append hbefore).1 hof
    obtain ⟨middle, hmiddle, hrest⟩ := System.run_append.1 hrun
    obtain rfl := Option.some.inj (hbefore.symm.trans hmiddle)
    obtain ⟨next, hstep, hafter⟩ := System.run_cons.1 hrest
    obtain ⟨hnext, new, -, hgrows⟩ :=
      (hidle.run hofBefore hbefore).1.creates hofAfter.1 hcreates hstep
    have hkept := (hnext.run (hofAfter.2 next hstep) hafter).2 new ((hgrows new).2 (Or.inr rfl))
    have hunique := unique_of_stillNone hidle hnone hof hstill hrun
    refine ⟨⟨new, hkept, fun other hother => hunique other new hother hkept⟩, ?_⟩
    intro first second token token' context context' hfirst hsecond
    exact hunique _ _ (hfinal.of first token _ hfirst) (hfinal.of second token' _ hsecond)

/-! ## Two requests of a browser -/

instance (userId : String) (db : AuthTables) : Decidable (Homeless userId db) :=
  inferInstanceAs (Decidable (∀ member ∈ db.members.rows, member.userId ≠ userId))

instance (call : BetterAuthCall) (db : AuthTables) : Decidable (Works call db) :=
  decidable_of_iff (call.throws = false ∧
      "org_" ++ call.organizationHex ∉ db.organizations.rows.map Organization.id ∧
      call.memberHex ∉ db.members.rows.map Member.id)
    ⟨fun hall => ⟨hall.1, hall.2.1, hall.2.2⟩,
      fun hworks => ⟨hworks.answers, hworks.organization, hworks.member⟩⟩

instance (userId : String) (state : State AuthTables Request)
    (label : Label Request BetterAuthCall AuthOp) : Decidable (OfUser userId state label) :=
  match label with
  | .start _ request => inferInstanceAs (Decidable (∃ session ∈ state.store.sessions.rows,
      request.token = some session.token ∧ session.userId = userId))
  | .advance request call => inferInstanceAs (Decidable (creating state request → Works call _))
  | .ambient _ => isFalse id

instance (state : State AuthTables Request) (label : Label Request BetterAuthCall AuthOp) :
    Decidable (Creates state label) :=
  match label with
  | .start _ _ => isFalse id
  | .advance request call =>
      inferInstanceAs (Decidable (creating state request ∧ FreeSlug call state.store))
  | .ambient _ => isFalse id

instance (userId : String) (state : State AuthTables Request)
    (label : Label Request BetterAuthCall AuthOp) : Decidable (StillNone userId state label) :=
  inferInstanceAs (Decidable (Creates state label → Homeless userId state.store))

/-- Ada is signed in and in no organization. -/
def adaSignedIn : AuthTables :=
  ((AuthTables.empty.insertUser ⟨"ada", "Ada", "ada@example.com"⟩).bind fun db =>
    db.insertSession ⟨"session_a", "token_a", "ada", none⟩).getD .empty

def adaCall (hex : String) : BetterAuthCall := ⟨false, hex, hex, hex⟩

/-- Two requests start, and read the session. -/
def adaStarts : List (Label Request BetterAuthCall AuthOp) :=
  [.start 0 ⟨some "token_a", .getSession⟩, .start 1 ⟨some "token_a", .getSession⟩,
    .advance 0 noCall, .advance 1 noCall]

/-- Both list before the first creates. -/
def adaTwice : List (Label Request BetterAuthCall AuthOp) :=
  adaStarts ++ [.advance 0 noCall, .advance 1 noCall, .advance 0 (adaCall "1"),
    .advance 1 (adaCall "2")]

/-- The first creates before the second lists. -/
def adaOnce : List (Label Request BetterAuthCall AuthOp) :=
  adaStarts ++ [.advance 0 noCall] ++ .advance 0 (adaCall "1") :: [.advance 1 noCall]

/-- The request has returned or thrown. -/
def Over (state : State AuthTables Request) (request : ℕ) : Prop :=
  ∀ token pc, state.frames request = some ⟨token, pc⟩ →
    (∃ context, pc = .returned context) ∨ ∃ error, pc = .threw error

def adaContext (orgId : String) : SessionContext := ⟨"ada", orgId, ⟨"ada", "Ada", "ada@example.com"⟩⟩

/-- Both requests return, and the user is in two organizations. -/
theorem selfHeal_creates_two :
    ¬ ∀ (auth : BetterAuth) (db : AuthTables) (userId : String)
      (labels : List (Label Request BetterAuthCall AuthOp)) (final : State AuthTables Request),
      Homeless userId db → NoneActive userId db →
      (sessionService auth).system.Along (OfUser userId) (State.idle db) labels →
      (sessionService auth).system.run (State.idle db) labels = some final →
      (∃ request, (final.frames request).isSome) → (∀ request, Over final request) →
      Healed userId final := by
  intro hclaim
  have hends : ((sessionService sampleBetterAuth).system.run (State.idle adaSignedIn) adaTwice).map
      (fun final => (final.frames 0, final.frames 1)) =
        some (some ⟨some "token_a", .returned (adaContext "org_1")⟩,
          some ⟨some "token_a", .returned (adaContext "org_2")⟩) := by
    decide +kernel
  obtain ⟨final, hrun, hframes⟩ := Option.map_eq_some_iff.1 hends
  obtain ⟨hfirst, hsecond⟩ := Prod.mk.inj hframes
  have hover : ∀ request, Over final request := by
    intro request token pc hframe
    by_cases hzero : request = 0
    · rw [hzero, hfirst] at hframe
      cases hframe
      exact Or.inl ⟨_, rfl⟩
    · by_cases hone : request = 1
      · rw [hone, hsecond] at hframe
        cases hframe
        exact Or.inl ⟨_, rfl⟩
      · rw [Service.frames_none_run rfl (by simp [adaTwice, adaStarts, hzero, hone]) hrun] at hframe
        cases hframe
  have hhealed := hclaim sampleBetterAuth adaSignedIn "ada" adaTwice final (by decide +kernel)
    (by unfold NoneActive; decide +kernel) (by decide +kernel) hrun ⟨0, by rw [hfirst]; rfl⟩ hover
  have hsame := hhealed.answers 0 1 _ _ _ _ hfirst hsecond
  exact absurd hsame (by decide)

theorem healed_ada :
    ∃ final, (sessionService sampleBetterAuth).system.run (State.idle adaSignedIn) adaOnce =
      some final ∧ Healed "ada" final := by
  have hends : ((sessionService sampleBetterAuth).system.run (State.idle adaSignedIn)
      adaOnce).isSome := by
    decide +kernel
  obtain ⟨final, hrun⟩ := Option.isSome_iff_exists.1 hends
  refine ⟨final, hrun, (healed_iff (by decide +kernel) (by unfold NoneActive; decide +kernel)
    (by decide +kernel) hrun).2 ⟨by decide +kernel, adaStarts ++ [.advance 0 noCall],
      .advance 0 (adaCall "1"), [.advance 1 noCall], ?_⟩⟩
  have hcreates : (((sessionService sampleBetterAuth).system.run (State.idle adaSignedIn)
      (adaStarts ++ [.advance 0 noCall])).map fun state =>
        decide (Creates state (.advance 0 (adaCall "1")))) = some true := by
    decide +kernel
  obtain ⟨state, hbefore, hstate⟩ := Option.map_eq_some_iff.1 hcreates
  exact ⟨state, rfl, hbefore, of_decide_eq_true hstate⟩

end ModelHub.ControlPlane
