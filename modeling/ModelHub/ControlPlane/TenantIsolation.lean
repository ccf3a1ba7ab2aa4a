import ModelHub.ControlPlane.Sessions

/-!
# The organization of a request

Every tenant's nodes are read and its pairing codes minted under the organization
that `requireSession` returns.  Two of its three sources are safe: the list of the
user's organizations and an organization that was just created.  The third one, the
active organization of the session, was a membership when it was set, and nobody
takes it back: `requireSession` returns it without asking again, and a removed member
keeps the organization for as long as the session lives
(`requireSession_returns_stranger`).

`requireSession_returns_member` says when the user of the session is a member:
in every run in which no removal or deletion takes away the membership behind the
active organization of a session that it does not reset.  `ActiveBelongs` is the
invariant, and each operation keeps it.
-/

namespace ModelHub.ControlPlane

open Db Interleaving Transition

variable {auth : BetterAuth} {db next : AuthTables}

/-- Who has an organization active in a session is a member of it. -/
def ActiveBelongs (db : AuthTables) : Prop :=
  ∀ session ∈ db.sessions.rows, ∀ orgId, session.activeOrganizationId = some orgId →
    db.Belongs session.userId orgId

/-- The token is that of a session of this user. -/
def HasSession (db : AuthTables) (token : Option String) (userId : String) : Prop :=
  ∃ session ∈ db.sessions.rows, token = some session.token ∧ session.userId = userId

/-- A request knows the user of its session. -/
def Request.Known (db : AuthTables) (request : Request) : Prop :=
  match request.pc with
  | .listOrganizations user => HasSession db request.token user.id
  | .selfHeal user => HasSession db request.token user.id
  | .returned context => HasSession db request.token context.userId
  | .getSession => True
  | .threw _ => True

/-! ## Sessions stay -/

/-- No session goes away, and none changes its user. -/
def KeepsSessions (db next : AuthTables) : Prop :=
  ∀ session ∈ db.sessions.rows, ∃ later ∈ next.sessions.rows,
    later.token = session.token ∧ later.userId = session.userId

theorem KeepsSessions.of_subset (hsubset : ∀ session ∈ db.sessions.rows, session ∈ next.sessions.rows) :
    KeepsSessions db next :=
  fun session hsession => ⟨session, hsubset session hsession, rfl, rfl⟩

theorem KeepsSessions.of_eq (hsame : next.sessions = db.sessions) : KeepsSessions db next :=
  .of_subset fun session hsession => by rw [hsame]; exact hsession

theorem KeepsSessions.updateSessions {middle : AuthTables} (hkeeps : KeepsSessions db middle)
    (sel : Session → Bool) (active : Option String) :
    KeepsSessions db (middle.updateSessions sel active) := by
  intro session hsession
  obtain ⟨later, hlater, htoken, huser⟩ := hkeeps session hsession
  refine ⟨_, AuthTables.mem_updateSessions.2 ⟨later, hlater, rfl⟩, ?_, ?_⟩
  · rw [AuthTables.rewrite_setActive_token, htoken]
  · rw [AuthTables.rewrite_setActive_userId, huser]

theorem HasSession.mono {token : Option String} {userId : String} (hkeeps : KeepsSessions db next)
    (hhas : HasSession db token userId) : HasSession next token userId := by
  obtain ⟨session, hsession, rfl, rfl⟩ := hhas
  obtain ⟨later, hlater, htoken, huser⟩ := hkeeps session hsession
  exact ⟨later, hlater, by rw [htoken], huser⟩

theorem Request.Known.mono {request : Request} (hkeeps : KeepsSessions db next)
    (hknown : request.Known db) : request.Known next := by
  unfold Request.Known at hknown ⊢
  cases hpc : request.pc with
  | getSession => trivial
  | listOrganizations user =>
      rw [hpc] at hknown
      exact HasSession.mono hkeeps hknown
  | selfHeal user =>
      rw [hpc] at hknown
      exact HasSession.mono hkeeps hknown
  | returned context =>
      rw [hpc] at hknown
      exact HasSession.mono hkeeps hknown
  | threw error => trivial

/-! ## Creating an organization -/

theorem createOrganization_spec {organization : Organization} {memberId userId : String}
    (hcreate : createOrganization organization memberId userId db = some next) :
    next.sessions = db.sessions ∧ (∀ member ∈ db.members.rows, member ∈ next.members.rows) ∧
      next.Belongs userId organization.id := by
  obtain ⟨middle, horganization, hmember⟩ := Option.bind_eq_some_iff.1 hcreate
  obtain ⟨hmembers, hsessions⟩ := AuthTables.insertOrganization_spec horganization
  obtain ⟨hsessions', hrows⟩ := AuthTables.insertMember_spec hmember
  refine ⟨hsessions'.trans hsessions, ?_, _, (hrows _).2 (Or.inr rfl), rfl, rfl⟩
  intro member hold
  rw [← hmembers] at hold
  exact (hrows member).2 (Or.inl hold)

theorem ensurePersonalOrganization_spec {user : User} {call : BetterAuthCall}
    (hensure : ensurePersonalOrganization user call db = some next) :
    next.sessions = db.sessions ∧ (∀ member ∈ db.members.rows, member ∈ next.members.rows) ∧
      next.Belongs user.id (personalOrganization user call).id := by
  unfold ensurePersonalOrganization at hensure
  split at hensure
  · cases hensure
  · exact createOrganization_spec hensure

/-! ## What keeps the invariant -/

/-- More members, the same sessions. -/
theorem ActiveBelongs.grow (hactive : ActiveBelongs db) (hsessions : next.sessions = db.sessions)
    (hmembers : ∀ member ∈ db.members.rows, member ∈ next.members.rows) : ActiveBelongs next := by
  intro session hsession orgId horg
  rw [hsessions] at hsession
  exact (hactive session hsession orgId horg).mono hmembers

/-- Sessions that are given an organization are those of members. -/
theorem ActiveBelongs.setActive (hactive : ActiveBelongs db) {sel : Session → Bool} {orgId : String}
    (hsel : ∀ session, sel session → db.Belongs session.userId orgId) :
    ActiveBelongs (db.updateSessions sel (some orgId)) := by
  intro session hsession org horg
  obtain ⟨old, hold, rfl⟩ := AuthTables.mem_updateSessions.1 hsession
  by_cases hselected : sel old
  · rw [Table.rewrite_of_sel hselected] at horg ⊢
    rw [← Option.some.inj horg]
    exact hsel old hselected
  · rw [Table.rewrite_of_not_sel hselected] at horg ⊢
    exact hactive old hold org horg

/-- Sessions that lose their organization need no membership, the others do. -/
theorem activeBelongs_reset {sel : Session → Bool}
    (hothers : ∀ session ∈ db.sessions.rows, ¬ sel session → ∀ orgId,
      session.activeOrganizationId = some orgId → db.Belongs session.userId orgId) :
    ActiveBelongs (db.updateSessions sel none) := by
  intro session hsession orgId horg
  obtain ⟨old, hold, rfl⟩ := AuthTables.mem_updateSessions.1 hsession
  by_cases hselected : sel old
  · rw [Table.rewrite_of_sel hselected] at horg
    cases horg
  · rw [Table.rewrite_of_not_sel hselected] at horg ⊢
    exact hothers old hold hselected orgId horg

/-! ## The condition -/

/-- The operation takes no membership away that stands behind the active organization
of a session, unless it resets the session or there is a second membership. -/
def KeepsActive (op : AuthOp) (db : AuthTables) : Prop :=
  match op with
  | .removeMember actor memberId reset =>
      ∀ session ∈ db.sessions.rows, ∀ member ∈ db.members.rows, member.id = memberId →
        session.userId = member.userId →
        session.activeOrganizationId = some member.organizationId →
        isReset actor member.organizationId reset session ∨
          ∃ other ∈ db.members.rows, other.id ≠ memberId ∧ other.userId = member.userId ∧
            other.organizationId = member.organizationId
  | .deleteOrganization actor orgId reset =>
      ∀ session ∈ db.sessions.rows, session.activeOrganizationId = some orgId →
        isReset actor orgId reset session
  | _ => True

instance (op : AuthOp) (db : AuthTables) : Decidable (KeepsActive op db) :=
  match op with
  | .removeMember _ _ _ => by unfold KeepsActive; infer_instance
  | .deleteOrganization _ _ _ => by unfold KeepsActive; infer_instance
  | .signUp _ => isTrue trivial
  | .signIn _ _ _ => isTrue trivial
  | .createOrganization _ _ _ _ => isTrue trivial
  | .addMember _ => isTrue trivial
  | .setActive _ _ => isTrue trivial

theorem removeMember_keeps {actor memberId : String} {reset : List String}
    (hactive : ActiveBelongs db) (hkeeps : KeepsActive (.removeMember actor memberId reset) db)
    (happly : (AuthOp.removeMember actor memberId reset).apply db = some next) :
    ActiveBelongs next := by
  obtain ⟨member, hmember, rfl⟩ := Option.map_eq_some_iff.1 happly
  obtain ⟨hrow, hid⟩ := Table.withId_eq_some.1 hmember
  apply activeBelongs_reset
  intro session hsession hkept orgId horg
  obtain ⟨found, hfound, huser, hfoundOrg⟩ := hactive session hsession orgId horg
  by_cases hremoved : found.id = memberId
  · -- the membership goes: the session is reset or has another one
    have hsame : found = member := Table.eq_of_id hfound hrow (hremoved.trans hid.symm)
    subst hsame
    have hsessionOrg : session.activeOrganizationId = some found.organizationId := by
      rw [horg, hfoundOrg]
    rcases hkeeps session hsession found hfound hid huser.symm hsessionOrg with
      hreset | ⟨other, hother, hne, hotherUser, hotherOrg⟩
    · exact absurd hreset hkept
    · exact ⟨other, Table.mem_delete.2 ⟨hother, by simpa using hne⟩, hotherUser.trans huser,
        hotherOrg.trans hfoundOrg⟩
  · exact ⟨found, Table.mem_delete.2 ⟨hfound, by simpa using hremoved⟩, huser, hfoundOrg⟩

theorem deleteOrganization_keeps {actor orgId : String} {reset : List String}
    (hactive : ActiveBelongs db) (hkeeps : KeepsActive (.deleteOrganization actor orgId reset) db)
    (happly : (AuthOp.deleteOrganization actor orgId reset).apply db = some next) :
    ActiveBelongs next := by
  rw [← Option.some.inj happly]
  apply activeBelongs_reset
  intro session hsession hkept org horg
  obtain ⟨found, hfound, huser, hfoundOrg⟩ := hactive session hsession org horg
  have hother : org ≠ orgId := by
    intro hsame
    rw [hsame] at horg
    exact hkept (hkeeps session hsession horg)
  refine ⟨found, Table.mem_delete.2 ⟨hfound, ?_⟩, huser, hfoundOrg⟩
  rw [hfoundOrg]
  simpa using hother

theorem apply_keeps {op : AuthOp} (hactive : ActiveBelongs db) (hkeeps : KeepsActive op db)
    (happly : op.apply db = some next) : ActiveBelongs next := by
  cases op with
  | signUp user =>
      obtain ⟨hmembers, hsessions⟩ := AuthTables.insertUser_spec happly
      exact hactive.grow hsessions fun member hmember => by rw [hmembers]; exact hmember
  | signIn sessionId token userId =>
      obtain ⟨hmembers, hsessions⟩ := AuthTables.insertSession_spec happly
      intro session hsession orgId horg
      rcases (hsessions session).1 hsession with hold | rfl
      · exact (hactive session hold orgId horg).mono fun member hmember => by
          rw [hmembers]
          exact hmember
      · cases horg
  | createOrganization organization memberId userId sessionId =>
      obtain ⟨middle, hcreate, rfl⟩ := Option.map_eq_some_iff.1 happly
      obtain ⟨hsessions, hmembers, hbelongs⟩ := createOrganization_spec hcreate
      apply (hactive.grow hsessions hmembers).setActive
      intro session hsel
      have huser : some session.id = sessionId ∧ session.userId = userId := by simpa using hsel
      rw [huser.2]
      exact hbelongs
  | addMember member =>
      obtain ⟨hsessions, hmembers⟩ := AuthTables.insertMember_spec happly
      exact hactive.grow hsessions fun found hfound => (hmembers found).2 (Or.inl hfound)
  | setActive sessionId orgId =>
      cases orgId with
      | none =>
          rw [← Option.some.inj happly]
          exact activeBelongs_reset fun session hsession _ => hactive session hsession
      | some orgId =>
          rw [← Option.some.inj happly]
          apply hactive.setActive
          intro session hsel
          have hmember : session.id = sessionId ∧ db.Belongs session.userId orgId := by
            simpa using hsel
          exact hmember.2
  | removeMember actor memberId reset => exact removeMember_keeps hactive hkeeps happly
  | deleteOrganization actor orgId reset => exact deleteOrganization_keeps hactive hkeeps happly

theorem apply_keepsSessions {op : AuthOp} (happly : op.apply db = some next) :
    KeepsSessions db next := by
  cases op with
  | signUp user => exact .of_eq (AuthTables.insertUser_spec happly).2
  | signIn sessionId token userId =>
      exact .of_subset fun session hsession =>
        ((AuthTables.insertSession_spec happly).2 session).2 (Or.inl hsession)
  | createOrganization organization memberId userId sessionId =>
      obtain ⟨middle, hcreate, rfl⟩ := Option.map_eq_some_iff.1 happly
      exact (KeepsSessions.of_eq (createOrganization_spec hcreate).1).updateSessions _ _
  | addMember member => exact .of_eq (AuthTables.insertMember_spec happly).1
  | setActive sessionId orgId =>
      cases orgId with
      | none =>
          rw [← Option.some.inj happly]
          exact (KeepsSessions.of_eq rfl).updateSessions _ _
      | some orgId =>
          rw [← Option.some.inj happly]
          exact (KeepsSessions.of_eq rfl).updateSessions _ _
  | removeMember actor memberId reset =>
      obtain ⟨member, -, rfl⟩ := Option.map_eq_some_iff.1 happly
      exact (KeepsSessions.of_eq rfl).updateSessions _ _
  | deleteOrganization actor orgId reset =>
      rw [← Option.some.inj happly]
      exact (KeepsSessions.of_eq rfl).updateSessions _ _

/-! ## Requests -/

theorem getSession_spec {token : Option String} {session : Session} {user : User}
    (hget : getSession db token = some (session, user)) :
    session ∈ db.sessions.rows ∧ token = some session.token ∧ session.userId = user.id := by
  obtain ⟨found, hfound, huser⟩ := Option.bind_eq_some_iff.1 hget
  obtain ⟨text, rfl, hrow⟩ := Option.bind_eq_some_iff.1 hfound
  obtain ⟨row, hid, hpair⟩ := Option.map_eq_some_iff.1 huser
  obtain ⟨rfl, rfl⟩ := Prod.mk.inj hpair
  obtain ⟨hmem, htoken⟩ := Table.withKey_eq_some.1 hrow
  exact ⟨hmem, by rw [htoken], (Table.withId_eq_some.1 hid).2.symm⟩

theorem answer_known {token : Option String} {user : User} (orgId : Option String)
    (hhas : HasSession db token user.id) : Request.Known db ⟨token, answer user orgId⟩ := by
  unfold answer
  cases orgId.filter (· ≠ "") with
  | none => trivial
  | some id => exact hhas

theorem answer_returned {user : User} {orgId : Option String} {context : SessionContext}
    (hanswer : answer user orgId = .returned context) :
    context.userId = user.id ∧ orgId = some context.orgId := by
  unfold answer at hanswer
  split at hanswer
  · cases hanswer
  case h_2 id hid =>
    cases hanswer
    exact ⟨rfl, (Option.filter_eq_some_iff.1 hid).1⟩

/-- What a step of a request does, and what an answer it gives is worth. -/
structure RequestStep (db next : AuthTables) (token : Option String) (pc' : RequestPc) : Prop where
  active : ActiveBelongs next
  sessions : KeepsSessions db next
  known : Request.Known next ⟨token, pc'⟩
  belongs : ∀ context, pc' = .returned context → next.Belongs context.userId context.orgId

theorem requireSessionStep_spec {token : Option String} {call : BetterAuthCall} {pc pc' : RequestPc}
    (hactive : ActiveBelongs db) (hknown : Request.Known db ⟨token, pc⟩)
    (hstep : requireSessionStep auth token call db pc = some (next, pc')) :
    RequestStep db next token pc' := by
  cases pc with
  | getSession =>
      simp only [requireSessionStep] at hstep
      split at hstep
      · cases hstep
        exact ⟨hactive, .of_eq rfl, trivial, fun _ hpc => by cases hpc⟩
      split at hstep
      · cases hstep
        exact ⟨hactive, .of_eq rfl, trivial, fun _ hpc => by cases hpc⟩
      case h_2 session user hget =>
        obtain ⟨hsession, htoken, huser⟩ := getSession_spec hget
        have hhas : HasSession db token user.id := ⟨session, hsession, htoken, huser⟩
        split at hstep <;> cases hstep
        case h_1 orgId horg =>
          -- the active organization is returned without asking again
          refine ⟨hactive, .of_eq rfl, answer_known _ hhas, fun context hcontext => ?_⟩
          obtain ⟨huser', horg'⟩ := answer_returned hcontext
          rw [huser', ← huser, ← Option.some.inj horg']
          exact hactive session hsession orgId horg
        · exact ⟨hactive, .of_eq rfl, hhas, fun _ hpc => by cases hpc⟩
  | listOrganizations user =>
      simp only [requireSessionStep] at hstep
      split at hstep
      · cases hstep
        exact ⟨hactive, .of_eq rfl, trivial, fun _ hpc => by cases hpc⟩
      split at hstep <;> cases hstep
      case h_1 organization hhead =>
        refine ⟨hactive, .of_eq rfl, answer_known _ hknown, fun context hcontext => ?_⟩
        obtain ⟨huser, horg⟩ := answer_returned hcontext
        rw [huser, ← Option.some.inj horg]
        exact ((auth.mem_listOrganizations db user.id organization).1
          (List.mem_of_head? hhead)).2
      · exact ⟨hactive, .of_eq rfl, hknown, fun _ hpc => by cases hpc⟩
  | selfHeal user =>
      simp only [requireSessionStep] at hstep
      split at hstep <;> cases hstep
      case h_1 hensure =>
        obtain ⟨hsessions, hmembers, hbelongs⟩ := ensurePersonalOrganization_spec hensure
        have hkeeps : KeepsSessions db next := .of_eq hsessions
        refine ⟨hactive.grow hsessions hmembers, hkeeps,
          answer_known _ (HasSession.mono hkeeps hknown), fun context hcontext => ?_⟩
        obtain ⟨huser, horg⟩ := answer_returned hcontext
        rw [huser, ← Option.some.inj horg]
        exact hbelongs
      · refine ⟨hactive, .of_eq rfl, answer_known _ hknown, fun context hcontext => ?_⟩
        obtain ⟨-, horg⟩ := answer_returned hcontext
        cases horg
  | returned context => cases hstep
  | threw error => cases hstep

/-! ## Whole runs -/

/-- The service without the operations outside the condition. -/
noncomputable def keepingService (auth : BetterAuth) :
    Service AuthTables Request BetterAuthCall AuthOp :=
  (sessionService auth).guarded (fun _ _ _ => True) KeepsActive

theorem request_spec {call : BetterAuthCall} {request request' : Request}
    (hactive : ActiveBelongs db) (hknown : request.Known db)
    (hadvance : (sessionService auth).advance call db request = some (next, request')) :
    RequestStep db next request'.token request'.pc := by
  obtain ⟨⟨db', pc'⟩, hstep, hsame⟩ := Option.map_eq_some_iff.1 hadvance
  obtain ⟨rfl, rfl⟩ := Prod.mk.inj hsame
  exact requireSessionStep_spec hactive hknown hstep

theorem keeping_spec {call : BetterAuthCall} {request request' : Request}
    (hactive : ActiveBelongs db) (hknown : request.Known db)
    (hadvance : (keepingService auth).advance call db request = some (next, request')) :
    RequestStep db next request'.token request'.pc :=
  request_spec hactive hknown (Service.guarded_advance.1 hadvance).2

theorem sessionOutline (auth : BetterAuth) :
    Service.Outline (keepingService auth) ActiveBelongs fun db request => request.Known db where
  entry db request _ hentry := by
    have hpc : request.pc = .getSession := by
      simpa [keepingService, sessionService] using hentry
    unfold Request.Known
    rw [hpc]
    trivial
  advance_store _ _ _ _ _ hactive hknown hadvance := (keeping_spec hactive hknown hadvance).active
  advance_frame _ _ _ _ _ hactive hknown hadvance := (keeping_spec hactive hknown hadvance).known
  advance_stable _ _ _ _ _ _ hactive hknown hother hadvance :=
    hother.mono (keeping_spec hactive hknown hadvance).sessions
  ambient_store _ _ _ hactive hambient := by
    obtain ⟨hkeeps, happly⟩ := Service.guarded_ambient.1 hambient
    exact apply_keeps hactive hkeeps happly
  ambient_stable _ _ _ _ _ hknown hambient :=
    hknown.mono (apply_keepsSessions (Service.guarded_ambient.1 hambient).2)

/-- A request that returns an organization does so for a member: the user of its
session belongs to the organization, which exists, at that moment. -/
theorem requireSession_returns_member {auth : BetterAuth}
    {labels : List (Label Request BetterAuthCall AuthOp)} {state next : State AuthTables Request}
    {request : ℕ} {call : BetterAuthCall} {token : Option String} {context : SessionContext}
    (hkeeps : (sessionService auth).system.Along (Service.Meets (fun _ _ _ => True) KeepsActive)
      (State.idle .empty) labels)
    (hrun : (sessionService auth).system.run (State.idle .empty) labels = some state)
    (hstep : (sessionService auth).system.step state (.advance request call) = some next)
    (hreturned : next.frames request = some ⟨token, .returned context⟩) :
    HasSession next.store token context.userId ∧
      next.store.Belongs context.userId context.orgId ∧
      context.orgId ∈ next.store.organizations.rows.map Organization.id := by
  have hempty : ActiveBelongs .empty := by
    intro session hsession
    cases hsession
  obtain ⟨hactive, hframes⟩ := (sessionOutline auth).run
    (Service.holds_idle hempty) (Service.guarded_run hkeeps hrun)
  rcases Service.step_cases hstep with ⟨_, _, hlabel, -⟩ |
    ⟨_, _, frame, db', frame', hlabel, hframe, hadvance, rfl⟩ | ⟨_, _, hlabel, -⟩
  · cases hlabel
  · cases hlabel
    have hspec := request_spec hactive (hframes request frame hframe) hadvance
    rw [State.setFrame_frames_self] at hreturned
    rw [Option.some.inj hreturned] at hspec
    have hbelongs := hspec.belongs context rfl
    exact ⟨hspec.known, hbelongs, hbelongs.org_mem⟩
  · cases hlabel

/-! ## A removed member -/

/-- Organizations in the order in which they were created. -/
def sampleBetterAuth : BetterAuth where
  listOrganizations := fun db userId =>
    db.organizations.rows.filter fun organization => db.Belongs userId organization.id
  mem_listOrganizations := by
    intro db userId organization
    simp

def noCall : BetterAuthCall := ⟨false, "", "", ""⟩

/-- Ada adds Bob to her organization, and Bob makes it the active one of his session. -/
def bobJoins : List (Label Request BetterAuthCall AuthOp) :=
  [.ambient (.signUp ⟨"ada", "Ada", "ada@example.com"⟩),
    .ambient (.signUp ⟨"bob", "Bob", "bob@example.com"⟩),
    .ambient (.signIn "session_a" "token_a" "ada"),
    .ambient (.signIn "session_b" "token_b" "bob"),
    .ambient (.createOrganization ⟨"org_1", "Fleet", "fleet"⟩ "member_a" "ada" (some "session_a")),
    .ambient (.addMember ⟨"member_b", "org_1", "bob"⟩),
    .ambient (.setActive "session_b" (some "org_1"))]

/-- Ada removes him, and his next request comes in. -/
def bobIsRemoved : List (Label Request BetterAuthCall AuthOp) :=
  bobJoins ++ [.ambient (.removeMember "ada" "member_b" []), .start 0 ⟨some "token_b", .getSession⟩]

def bobRequest : List (Label Request BetterAuthCall AuthOp) :=
  bobJoins ++ [.start 0 ⟨some "token_b", .getSession⟩]

def bobContext : SessionContext := ⟨"bob", "org_1", ⟨"bob", "Bob", "bob@example.com"⟩⟩

/-- `requireSession` returns an organization to a user who is not a member of it. -/
theorem requireSession_returns_stranger :
    ¬ ∀ (auth : BetterAuth) (labels : List (Label Request BetterAuthCall AuthOp))
      (state next : State AuthTables Request) (request : ℕ) (call : BetterAuthCall)
      (token : Option String) (context : SessionContext),
      (sessionService auth).system.run (State.idle .empty) labels = some state →
      (sessionService auth).system.step state (.advance request call) = some next →
      next.frames request = some ⟨token, .returned context⟩ →
      next.store.Belongs context.userId context.orgId := by
  intro hclaim
  have hanswer : ((sessionService sampleBetterAuth).system.run (State.idle .empty)
      (bobIsRemoved ++ [.advance 0 noCall])).map
        (fun next => (next.frames 0, decide (next.store.Belongs "bob" "org_1"))) =
      some (some ⟨some "token_b", .returned bobContext⟩, false) := by
    decide +kernel
  obtain ⟨next, hrun, hresult⟩ := Option.map_eq_some_iff.1 hanswer
  obtain ⟨hframe, hstranger⟩ := Prod.mk.inj hresult
  obtain ⟨state, hstate, hstep⟩ := System.run_concat.1 hrun
  exact of_decide_eq_false hstranger
    (hclaim sampleBetterAuth bobIsRemoved state next 0 noCall _ bobContext hstate hstep hframe)

/-- Before the removal the condition is met, and Bob is a member. -/
theorem requireSession_returns_member_bob :
    ∃ next, (sessionService sampleBetterAuth).system.run (State.idle .empty)
        (bobRequest ++ [.advance 0 noCall]) = some next ∧
      next.frames 0 = some ⟨some "token_b", .returned bobContext⟩ ∧
      HasSession next.store (some "token_b") "bob" ∧ next.store.Belongs "bob" "org_1" := by
  have hanswer : ((sessionService sampleBetterAuth).system.run (State.idle .empty)
      (bobRequest ++ [.advance 0 noCall])).map (fun next => next.frames 0) =
      some (some ⟨some "token_b", .returned bobContext⟩) := by
    decide +kernel
  obtain ⟨next, hrun, hframe⟩ := Option.map_eq_some_iff.1 hanswer
  obtain ⟨state, hstate, hstep⟩ := System.run_concat.1 hrun
  have hkeeps : (sessionService sampleBetterAuth).system.Along
      (Service.Meets (fun _ _ _ => True) KeepsActive) (State.idle .empty) bobRequest := by
    decide +kernel
  have hmember := requireSession_returns_member hkeeps hstate hstep hframe
  exact ⟨next, hrun, hframe, hmember.1, hmember.2.1⟩

end ModelHub.ControlPlane
