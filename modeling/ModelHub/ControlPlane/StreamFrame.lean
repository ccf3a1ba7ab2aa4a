import ModelHub.ControlPlane.NodeAuthReplay
import ModelHub.ControlPlane.PairingSafety
import ModelHub.ControlPlane.Service
import ModelHub.ControlPlane.StreamReplay

/-!
# What a stream can change

A stream that is rejected changes nothing.  One that is accepted for a node changes
that node's heartbeat columns, its devices and one nonce, whatever messages it sends
(`connect_frame`).

Two things are behind this.  What each statement of the handlers writes is a matter
of the statements (`OnlyNode`).  That the devices of the node carry its organization
is not: their `org_id` is a copy, and it is right because every writer got the pair of
organization and node from an enrollment or an authentication.  `serverOutline` proves
it of everything the control plane does, in any interleaving.
-/

namespace ModelHub.ControlPlane

open Db Interleaving Replay Transition

variable {KeyObject : Type} {config : ServerEnv KeyObject} {db next : Database}
  {store store' : AuthStore} {orgId : String} {nodeId : Uuid}

/-! ## The organization of a device -/

/-- Every device has the organization of its node. -/
def Tenanted (db : Database) : Prop :=
  ∀ device ∈ db.devices.rows, HasNode device.orgId device.nodeId db

/-- No node goes away or changes the columns that make it what it is. -/
def KeepsNodes (db next : Database) : Prop :=
  ∀ node ∈ db.nodes.rows, ∃ later ∈ next.nodes.rows, later.identity = node.identity

theorem KeepsNodes.of_subset (hsubset : ∀ node ∈ db.nodes.rows, node ∈ next.nodes.rows) :
    KeepsNodes db next :=
  fun node hnode => ⟨node, hsubset node hnode, rfl⟩

theorem KeepsNodes.refl (db : Database) : KeepsNodes db db := .of_subset fun _ hnode => hnode

theorem KeepsNodes.of_eq (hsame : next.nodes = db.nodes) : KeepsNodes db next :=
  .of_subset fun node hnode => by rw [hsame]; exact hnode

theorem KeepsNodes.trans {middle : Database} (hfirst : KeepsNodes db middle)
    (hsecond : KeepsNodes middle next) : KeepsNodes db next := by
  intro node hnode
  obtain ⟨later, hlater, hsame⟩ := hfirst node hnode
  obtain ⟨last, hlast, hsame'⟩ := hsecond later hlater
  exact ⟨last, hlast, hsame'.trans hsame⟩

theorem keepsNodes_updateNodes {sel : Node → Bool} {set : Node → Node}
    {hset : ∀ node, (set node).identity = node.identity} :
    KeepsNodes db (db.updateNodes sel set hset) :=
  fun node hnode => ⟨Table.rewrite sel set node, mem_updateNodes.2 ⟨node, hnode, rfl⟩,
    Table.rewrite_same Node.identity hset node⟩

theorem HasNode.mono (hkeeps : KeepsNodes db next) (hnode : HasNode orgId nodeId db) :
    HasNode orgId nodeId next := by
  obtain ⟨node, hmem, rfl, rfl⟩ := hnode
  obtain ⟨later, hlater, hsame⟩ := hkeeps node hmem
  exact ⟨later, hlater, Node.id_eq hsame, Node.orgId_eq hsame⟩

theorem Tenanted.of_subset (htenanted : Tenanted db) (hkeeps : KeepsNodes db next)
    (hsubset : ∀ device ∈ next.devices.rows, device ∈ db.devices.rows) : Tenanted next :=
  fun device hdevice => (htenanted device (hsubset device hdevice)).mono hkeeps

theorem Tenanted.of_eq (htenanted : Tenanted db) (hkeeps : KeepsNodes db next)
    (hsame : next.devices = db.devices) : Tenanted next :=
  htenanted.of_subset hkeeps fun device hdevice => by rw [← hsame]; exact hdevice

/-- An organization has one claim to a node only. -/
theorem HasNode.org_unique {other : String} (hnode : HasNode orgId nodeId db)
    (hother : HasNode other nodeId db) : other = orgId := by
  obtain ⟨node, hmem, hid, rfl⟩ := hnode
  obtain ⟨node', hmem', hid', rfl⟩ := hother
  rw [Table.eq_of_id hmem' hmem (hid'.trans hid.symm)]

theorem Tenanted.own (htenanted : Tenanted db) (hnode : HasNode orgId nodeId db) :
    OwnDevices orgId nodeId db := by
  intro device hdevice hsame
  have hdeviceNode := htenanted device hdevice
  rw [hsame] at hdeviceNode
  exact hnode.org_unique hdeviceNode

theorem handleMessage_tenanted {message : AgentMessage} {env : MessageEnv} (htenanted : Tenanted db)
    (hnode : HasNode orgId nodeId db)
    (hhandle : handleMessage orgId nodeId message env db = .ok next) :
    Tenanted next ∧ KeepsNodes db next := by
  have hkept : Tenanted next ∧ HasNode orgId nodeId next ∧ KeepsNodes db next := by
    apply handleMessage_keeps
      (fun state => Tenanted state ∧ HasNode orgId nodeId state ∧ KeepsNodes db state) _ _ _ _
      ⟨htenanted, hnode, KeepsNodes.refl db⟩ hhandle
    · rintro env round state following - ⟨htenanted, hnode, hkeeps⟩ hround
      obtain ⟨-, hnodes, -, -, hrows⟩ := upsertDevice_cases (upsertKnown_ok hround)
      have hsame := KeepsNodes.of_eq hnodes
      refine ⟨?_, hnode.mono hsame, hkeeps.trans hsame⟩
      intro device hdevice
      rcases hrows with ⟨-, hrows⟩ | ⟨-, hrows⟩
      · rw [hrows, List.mem_map] at hdevice
        obtain ⟨old, hold, rfl⟩ := hdevice
        rw [Table.rewrite_same Device.orgId fun row => Device.orgId_eq (setFacts_identity _ row),
          Table.rewrite_same Device.nodeId fun row => Device.nodeId_eq (setFacts_identity _ row)]
        exact (htenanted old hold).mono hsame
      · rw [hrows, List.mem_append, List.mem_singleton] at hdevice
        rcases hdevice with hold | rfl
        · exact (htenanted device hold).mono hsame
        · exact hnode.mono hsame
    · rintro keep state ⟨htenanted, hnode, hkeeps⟩
      have hsame : ∀ sel, KeepsNodes state (state.deleteDevices sel) := fun _ => .of_eq rfl
      exact ⟨htenanted.of_subset (hsame _) fun device hdevice => (Table.mem_delete.1 hdevice).1,
        hnode.mono (hsame _), hkeeps.trans (hsame _)⟩
    · rintro sample - state following ⟨htenanted, hnode, hkeeps⟩ happly
      have hsame := KeepsNodes.of_eq (applySample_nodes happly)
      refine ⟨?_, hnode.mono hsame, hkeeps.trans hsame⟩
      obtain ⟨date, -, -, rfl⟩ := applySample_eq_ok.1 happly
      intro device hdevice
      obtain ⟨old, hold, rfl⟩ := mem_updateDevices.1 hdevice
      rw [Table.rewrite_same Device.orgId fun row => Device.orgId_eq (setLast_identity _ row),
        Table.rewrite_same Device.nodeId fun row => Device.nodeId_eq (setLast_identity _ row)]
      exact (htenanted old hold).mono hsame
    · rintro set hset state - ⟨htenanted, hnode, hkeeps⟩
      have hsame : ∀ sel, KeepsNodes state (state.updateNodes sel set hset) :=
        fun _ => keepsNodes_updateNodes
      exact ⟨htenanted.of_eq (hsame _) rfl, hnode.mono (hsame _), hkeeps.trans (hsame _)⟩
  exact ⟨hkept.1, hkept.2.2⟩

/-! ## Everything that happens -/

/-- What the control plane knows about a call: an authentication that has found its
node, and a stream that is open, hold the node's organization. -/
def ServerFrame.Known (store : AuthStore) : ServerFrame → Prop
  | .pairing frame => frame.Consistent
  | .stream call =>
      match call.pc with
      | .checkSignature header orgId _ => HasNode orgId header.id store.db
      | .setNonce header orgId => HasNode orgId header.id store.db
      | .returned header orgId => HasNode orgId header.id store.db
      | .start => True
      | .checkTimestamp _ => True
      | .lookUp _ => True
      | .threw _ => True
  | .ended _ => True

theorem ServerFrame.Known.mono (hkeeps : KeepsNodes store.db store'.db) {frame : ServerFrame}
    (hknown : frame.Known store) : frame.Known store' := by
  cases frame with
  | pairing frame => exact hknown
  | ended how => trivial
  | stream call =>
      obtain ⟨header, pc⟩ := call
      cases pc with
      | checkSignature read orgId publicKey => exact HasNode.mono hkeeps hknown
      | setNonce read orgId => exact HasNode.mono hkeeps hknown
      | returned read orgId => exact HasNode.mono hkeeps hknown
      | start => trivial
      | checkTimestamp read => trivial
      | lookUp read => trivial
      | threw error => trivial

theorem setIfAbsent_db (key : String) (lifetime : ℚ) :
    (store.setIfAbsent key lifetime).1.db = store.db ∧
      (store.setIfAbsent key lifetime).1.clock = store.clock := by
  unfold AuthStore.setIfAbsent
  split <;> exact ⟨rfl, rfl⟩

/-- Authentication writes to no table, and finds the organization of the node. -/
theorem authStep_known {header : Option String} {reply : Reply} {pc pc' : AuthPc}
    (hknown : (ServerFrame.stream ⟨header, pc⟩).Known store)
    (hstep : authStep config.nodeAuth header reply store pc = some (store', pc')) :
    store'.db = store.db ∧ (ServerFrame.stream ⟨header, pc'⟩).Known store' := by
  cases pc with
  | start =>
      simp only [authStep] at hstep
      split at hstep <;> cases hstep <;> exact ⟨rfl, trivial⟩
  | checkTimestamp read =>
      simp only [authStep] at hstep
      split at hstep <;> cases hstep <;> exact ⟨rfl, trivial⟩
  | lookUp read =>
      simp only [authStep] at hstep
      split at hstep
      · split at hstep <;> cases hstep
        · exact ⟨rfl, trivial⟩
        case h_2 node hfound =>
          obtain ⟨hmem, hid⟩ := Table.withId_eq_some.1 hfound
          exact ⟨rfl, node, hmem, hid, rfl⟩
      · cases hstep
        exact ⟨rfl, trivial⟩
  | checkSignature read orgId publicKey =>
      simp only [authStep] at hstep
      split at hstep <;> cases hstep
      · exact ⟨rfl, trivial⟩
      · exact ⟨rfl, hknown⟩
  | setNonce read orgId =>
      simp only [authStep] at hstep
      split at hstep <;> cases hstep
      · exact ⟨rfl, trivial⟩
      · have hdb := (@setIfAbsent_db store read.nonceKey (config.nodeAuth.NODE_AUTH_SKEW_MS * 2)).1
        refine ⟨hdb, ?_⟩
        have hnode : HasNode orgId read.id (store.setIfAbsent read.nonceKey
            (config.nodeAuth.NODE_AUTH_SKEW_MS * 2)).1.db := by
          rw [hdb]
          exact hknown
        cases reply with
        | arrives =>
            simp only [afterSet]
            split
            · exact hnode
            · trivial
        | lost => trivial
        | refused => trivial
  | returned read orgId => cases hstep
  | threw error => cases hstep

/-- The statements of pairing and enrollment write no devices. -/
theorem Move.keepsNodes {hash : String} {effects effects' : Effects}
    (hmove : Move hash db effects next effects') : next.devices = db.devices ∧ KeepsNodes db next := by
  cases hmove with
  | quiet => exact ⟨rfl, KeepsNodes.refl _⟩
  | claim now row hfound hunused => exact ⟨rfl, KeepsNodes.of_eq rfl⟩
  | release row => exact ⟨rfl, KeepsNodes.of_eq rfl⟩
  | redeem row => exact ⟨rfl, KeepsNodes.refl _⟩
  | insert row node hinsert =>
      obtain ⟨-, hdevices, -, hnodes, -⟩ := insertNode_spec hinsert
      refine ⟨hdevices, KeepsNodes.of_subset fun old hold => ?_⟩
      rw [hnodes]
      exact List.mem_append_left _ hold

/-- A step is a statement of pairing or authentication, which writes no device, or the
handling of a message for the node that the stream was opened for. -/
theorem serverAdvance_cases {step : ServerStep} {frame frame' : ServerFrame}
    (hknown : frame.Known store)
    (hadvance : serverAdvance config step store frame = some (store', frame')) :
    store'.db.devices = store.db.devices ∧ KeepsNodes store.db store'.db ∧ frame'.Known store' ∨
    ∃ header read orgId message env, step = .message message env ∧
      frame = .stream ⟨header, .returned read orgId⟩ ∧ frame' = frame ∧
      handleMessage orgId read.id message env store.db = .ok store'.db := by
  cases frame with
  | pairing frame =>
      simp only [serverAdvance] at hadvance
      split at hadvance
      · obtain ⟨⟨db, frame''⟩, hstep, heq⟩ := Option.map_eq_some_iff.1 hadvance
        cases heq
        obtain ⟨hmove, hconsistent, -⟩ := advance_move hknown hstep
        obtain ⟨hdevices, hkeeps⟩ := hmove.keepsNodes
        exact Or.inl ⟨hdevices, hkeeps, hconsistent⟩
      · cases hadvance
  | ended how => cases hadvance
  | stream call =>
      obtain ⟨header, pc⟩ := call
      cases pc with
      | returned read orgId =>
          simp only [serverAdvance, streamAdvance] at hadvance
          split at hadvance
          case h_1 message env =>
            split at hadvance <;> cases hadvance
            case h_1 db hhandle =>
              exact Or.inr ⟨header, read, orgId, message, env, rfl, rfl, rfl, hhandle⟩
            case h_2 => exact Or.inl ⟨rfl, KeepsNodes.refl _, trivial⟩
          · cases hadvance
            exact Or.inl ⟨rfl, KeepsNodes.refl _, trivial⟩
          · cases hadvance
      | threw error =>
          simp only [serverAdvance, streamAdvance] at hadvance
          split at hadvance <;> cases hadvance
          exact Or.inl ⟨rfl, KeepsNodes.refl _, trivial⟩
      | start | checkTimestamp | lookUp | checkSignature | setNonce =>
          simp only [serverAdvance, streamAdvance] at hadvance
          split at hadvance
          · obtain ⟨⟨store'', pc'⟩, hstep, heq⟩ := Option.map_eq_some_iff.1 hadvance
            cases heq
            obtain ⟨hdb, hnext⟩ := authStep_known hknown hstep
            exact Or.inl ⟨by rw [hdb], by rw [hdb]; exact KeepsNodes.refl _, hnext⟩
          · cases hadvance

/-- A step keeps every device with the organization of its node, and every node. -/
theorem serverAdvance_known {step : ServerStep} {frame frame' : ServerFrame}
    (htenanted : Tenanted store.db) (hknown : frame.Known store)
    (hadvance : serverAdvance config step store frame = some (store', frame')) :
    Tenanted store'.db ∧ KeepsNodes store.db store'.db ∧ frame'.Known store' := by
  rcases serverAdvance_cases hknown hadvance with ⟨hdevices, hkeeps, hnext⟩ |
    ⟨header, read, orgId, message, env, -, rfl, rfl, hhandle⟩
  · exact ⟨htenanted.of_eq hkeeps hdevices, hkeeps, hnext⟩
  · obtain ⟨hnext, hkeeps⟩ := handleMessage_tenanted htenanted hknown hhandle
    exact ⟨hnext, hkeeps, hknown.mono hkeeps⟩

theorem passUpdate_spec {guard : Node → Bool} {status : NodeStatus} {cutoff : Time} :
    (passUpdate guard status cutoff db).1.devices = db.devices ∧
      KeepsNodes db (passUpdate guard status cutoff db).1 :=
  ⟨rfl, @keepsNodes_updateNodes _ _ _ (setStatus_identity status)⟩

/-- Nothing that happens besides the calls writes a device. -/
theorem serverAmbient_spec {event : ServerEvent}
    (hambient : serverAmbient config store event = some store') :
    store'.db.devices = store.db.devices ∧ KeepsNodes store.db store'.db := by
  cases event with
  | tick elapsed =>
      cases hambient
      exact ⟨rfl, KeepsNodes.refl _⟩
  | organization organization =>
      obtain ⟨db, hinsert, rfl⟩ := Option.map_eq_some_iff.1 hambient
      obtain ⟨hnodes, hdevices⟩ := insertOrganization_spec (toOption_eq_some hinsert)
      exact ⟨hdevices, KeepsNodes.of_eq hnodes⟩
  | mint mint =>
      obtain ⟨⟨db, code, expiresAt⟩, hmint, rfl⟩ := Option.map_eq_some_iff.1 hambient
      obtain ⟨-, hnodes, hdevices, -⟩ := mintPairingCode_spec (toOption_eq_some hmint)
      exact ⟨hdevices, KeepsNodes.of_eq hnodes⟩
  | sweepOffline now =>
      obtain ⟨⟨db, ids⟩, hpass, rfl⟩ := Option.map_eq_some_iff.1 hambient
      have hdb : db = _ := congrArg Prod.fst (offlinePass_eq_some hpass)
      subst hdb
      exact passUpdate_spec
  | sweepDegraded now =>
      obtain ⟨⟨db, ids⟩, hpass, rfl⟩ := Option.map_eq_some_iff.1 hambient
      have hdb : db = _ := congrArg Prod.fst (degradedPass_eq_some hpass)
      subst hdb
      exact passUpdate_spec

theorem serverOutline :
    Service.Outline (serverService config) (fun store => Tenanted store.db)
      (fun store frame => frame.Known store) where
  entry := by
    intro store frame _ hstart
    cases frame with
    | pairing frame => exact (Frame.Consistent.of_isStart hstart).1
    | stream call =>
        obtain ⟨header, pc⟩ := call
        have hpc : pc = .start := by simpa [serverService, ServerFrame.isStart] using hstart
        subst hpc
        trivial
    | ended how => trivial
  advance_store := fun _ _ _ _ _ htenanted hknown hadvance =>
    (serverAdvance_known htenanted hknown hadvance).1
  advance_frame := fun _ _ _ _ _ htenanted hknown hadvance =>
    (serverAdvance_known htenanted hknown hadvance).2.2
  advance_stable := fun _ _ _ _ _ _ htenanted hknown hother hadvance =>
    hother.mono (serverAdvance_known htenanted hknown hadvance).2.1
  ambient_store := fun _ _ _ htenanted hambient =>
    htenanted.of_eq (serverAmbient_spec hambient).2 (serverAmbient_spec hambient).1
  ambient_stable := fun _ _ _ _ _ hother hambient => hother.mono (serverAmbient_spec hambient).2

theorem no_devices (hempty : db.nodes.rows = []) : db.devices.rows = [] := by
  apply List.eq_nil_iff_forall_not_mem.2
  intro row hrow
  have hnode := db.devices_node row hrow
  rw [hempty] at hnode
  cases hnode

theorem Tenanted.of_no_nodes (hempty : db.nodes.rows = []) : Tenanted db := by
  intro device hdevice
  rw [no_devices hempty] at hdevice
  cases hdevice

/-- In every state of the control plane the devices have the organization of their node. -/
theorem tenanted_run {start : AuthStore} (hempty : start.db.nodes.rows = [])
    {labels : List (Label ServerFrame ServerStep ServerEvent)}
    {state : State AuthStore ServerFrame}
    (hrun : (serverService config).system.run (State.idle start) labels = some state) :
    Tenanted state.store.db :=
  (serverOutline.run (Service.holds_idle (Tenanted.of_no_nodes hempty)) hrun).1

/-! ## What a call of `authenticateNode` does -/

section Authenticate

variable {config : NodeAuthEnv KeyObject} {header : Option String} {lookUp setNonce : Reply}
  {read : AuthHeader}

/-- A call throws and changes nothing, or its header passes every check of the node's
row and its nonce is set. -/
theorem authenticateNode_cases :
    (∃ error, authenticateNode config header lookUp setNonce store = (store, .error error)) ∨
    ∃ read node, readHeader header = .ok read ∧
      checkTimestamp config read.millis store.clock = .ok () ∧ lookUp = .arrives ∧
      store.db.nodes.withId read.id = some node ∧
      checkSignature config read node.publicKey = .ok () ∧ store.isLive read.nonceKey = false ∧
      authenticateNode config header lookUp setNonce store =
        (store.remember config read,
          if setNonce = .arrives then .ok (read, node.orgId) else .error .unavailable) := by
  unfold authenticateNode
  cases hread : readHeader header with
  | error error => exact Or.inl ⟨error, rfl⟩
  | ok read =>
      cases htime : checkTimestamp config read.millis store.clock with
      | error error => exact Or.inl ⟨error, by simp only [htime]⟩
      | ok inTime =>
          by_cases hlookUp : lookUp = .arrives
          · cases hfound : store.db.nodes.withId read.id with
            | none => exact Or.inl ⟨_, by simp only [htime, if_pos hlookUp, hfound]; rfl⟩
            | some node =>
                cases hsigned : checkSignature config read node.publicKey with
                | error error =>
                    exact Or.inl ⟨error, by simp only [htime, if_pos hlookUp, hfound, hsigned]⟩
                | ok verified =>
                    by_cases hlive : store.isLive read.nonceKey = true
                    · refine Or.inl ?_
                      cases setNonce <;>
                        exact ⟨_, by
                          simp [htime, hlookUp, hfound, hsigned, AuthStore.setIfAbsent, hlive]
                          rfl⟩
                    · have hlapsed : store.isLive read.nonceKey = false := by simpa using hlive
                      cases setNonce with
                      | refused =>
                          exact Or.inl ⟨.unavailable, by
                            simp [htime, hlookUp, hfound, hsigned]⟩
                      | arrives | lost =>
                          exact Or.inr ⟨read, node, rfl, htime, hlookUp, hfound, hsigned, hlapsed, by
                            simp [htime, hlookUp, hfound, hsigned, AuthStore.setIfAbsent, hlapsed,
                              AuthStore.remember]⟩
          · exact Or.inl ⟨.unavailable, by simp only [htime, if_neg hlookUp]⟩

/-- A call that is rejected sets no nonce. -/
theorem authenticateNode_rejects {message : String}
    (hcall : authenticateNode config header lookUp setNonce store =
      (store', .error (.nodeAuth message))) : store' = store := by
  rcases @authenticateNode_cases _ store config header lookUp setNonce with
    ⟨error, hthrows⟩ | ⟨read, node, -, -, -, -, -, -, hsets⟩
  · rw [hcall] at hthrows
    exact congrArg Prod.fst hthrows
  · rw [hcall] at hsets
    have hresult := congrArg Prod.snd hsets
    simp only at hresult
    split at hresult <;> cases hresult

/-- Only a header that the node's registered key verifies changes anything. -/
theorem authenticateNode_verified
    (hchanged : (authenticateNode config header lookUp setNonce store).1 ≠ store) :
    ∃ read, readHeader header = .ok read ∧ ∃ node ∈ store.db.nodes.rows, node.id = read.id ∧
      checkSignature config read node.publicKey = .ok () := by
  rcases @authenticateNode_cases _ store config header lookUp setNonce with
    ⟨error, hthrows⟩ | ⟨read, node, hread, -, -, hfound, hsigned, -, -⟩
  · rw [hthrows] at hchanged
    exact absurd rfl hchanged
  · obtain ⟨hmem, hid⟩ := Table.withId_eq_some.1 hfound
    exact ⟨read, hread, node, hmem, hid, hsigned⟩

/-- What a call that returns has found and done. -/
theorem authenticateNode_returns {orgId : String}
    (hcall : authenticateNode config header lookUp setNonce store = (store', .ok (read, orgId))) :
    readHeader header = .ok read ∧ checkTimestamp config read.millis store.clock = .ok () ∧
      (∃ node ∈ store.db.nodes.rows, node.id = read.id ∧ node.orgId = orgId ∧
        checkSignature config read node.publicKey = .ok ()) ∧
      store.isLive read.nonceKey = false ∧ store' = store.remember config read := by
  rcases @authenticateNode_cases _ store config header lookUp setNonce with
    ⟨error, hthrows⟩ | ⟨found, node, hread, htime, -, hfound, hsigned, hlapsed, hsets⟩
  · rw [hcall] at hthrows
    cases hthrows
  · rw [hcall] at hsets
    have hresult := congrArg Prod.snd hsets
    simp only at hresult
    split at hresult
    · cases hresult
      obtain ⟨hmem, hid⟩ := Table.withId_eq_some.1 hfound
      exact ⟨hread, htime, ⟨node, hmem, hid, rfl, hsigned⟩, hlapsed, congrArg Prod.fst hsets⟩
    · cases hresult

/-- A call whose header passes every check, with a nonce that is not remembered. -/
theorem authenticateNode_succeeds {node : Node} (hread : readHeader header = .ok read)
    (htime : checkTimestamp config read.millis store.clock = .ok ())
    (hnode : node ∈ store.db.nodes.rows) (hid : node.id = read.id)
    (hsigned : checkSignature config read node.publicKey = .ok ())
    (hlapsed : store.isLive read.nonceKey = false) :
    authenticateNode config header .arrives .arrives store =
      (store.remember config read, .ok (read, node.orgId)) := by
  have hfound : store.db.nodes.withId read.id = some node := Table.withId_eq_some.2 ⟨hnode, hid⟩
  simp [authenticateNode, hread, htime, hfound, hsigned, AuthStore.setIfAbsent, hlapsed,
    AuthStore.remember]

end Authenticate

/-! ## What the messages of a node change -/

/-- The columns of a node that no message changes. -/
def fixedColumns (node : Node) : Uuid × String × String × List UInt8 × Time :=
  (node.id, node.orgId, node.name, node.publicKey, node.createdAt)

def foreignDevices (orgId : String) (db : Database) : List Device :=
  db.devices.rows.filter fun device => device.orgId ≠ orgId

/-- The messages of a node have changed its host, its status, when it was last seen, and
its devices, as far as they are of its organization. -/
structure OnlyNode (orgId : String) (nodeId : Uuid) (db next : Database) : Prop where
  organizations : next.organizations = db.organizations
  pairingCodes : next.pairingCodes = db.pairingCodes
  fixed : next.nodes.rows.map fixedColumns = db.nodes.rows.map fixedColumns
  elsewhere : SameElsewhere nodeId db next
  foreign : foreignDevices orgId next = foreignDevices orgId db

namespace OnlyNode

theorem refl (orgId : String) (nodeId : Uuid) (db : Database) : OnlyNode orgId nodeId db db :=
  ⟨rfl, rfl, rfl, SameElsewhere.refl nodeId db, rfl⟩

theorem trans {middle : Database} (hfirst : OnlyNode orgId nodeId db middle)
    (hsecond : OnlyNode orgId nodeId middle next) : OnlyNode orgId nodeId db next where
  organizations := hsecond.organizations.trans hfirst.organizations
  pairingCodes := hsecond.pairingCodes.trans hfirst.pairingCodes
  fixed := hsecond.fixed.trans hfirst.fixed
  elsewhere := hfirst.elsewhere.trans hsecond.elsewhere
  foreign := hsecond.foreign.trans hfirst.foreign

/-- An upsert that would change a row of another organization is refused. -/
theorem upsertKnown {env : MessageEnv} {round : (String × DeviceFacts) × ℕ}
    (hround : upsertKnown orgId nodeId env round db = .ok next) : OnlyNode orgId nodeId db next := by
  have hupsert := upsertKnown_ok hround
  obtain ⟨horganizations, hnodes, hcodes, -, hcase⟩ := upsertDevice_cases hupsert
  refine ⟨horganizations, hcodes, by rw [hnodes], upsertKnown_elsewhere hround, ?_⟩
  unfold foreignDevices
  rcases hcase with ⟨-, hrows⟩ | ⟨-, hrows⟩
  · rw [hrows, Table.filter_map_rewrite]
    · intro device
      rfl
    · intro device hmem hsel
      have hown := upsertDevice_own hupsert hmem (by simpa using hsel)
      simp [hown]
  · rw [hrows, List.filter_append]
    simp [proposedDevice]

theorem applySample {sample : DeviceSample}
    (happly : applySample orgId nodeId sample db = .ok next) : OnlyNode orgId nodeId db next := by
  have helsewhere := applySample_elsewhere happly
  obtain ⟨date, -, -, rfl⟩ := applySample_eq_ok.1 happly
  refine ⟨rfl, rfl, rfl, helsewhere, ?_⟩
  unfold foreignDevices Database.updateDevices Table.update
  rw [Table.filter_map_rewrite]
  · intro device
    rfl
  · intro device _ hsel
    have hown : device.orgId = orgId ∧ device.nodeId = nodeId ∧ device.localId = sample.localId := by
      simpa using hsel
    simp [hown.1]

theorem deleteDevices {keep : List String} :
    OnlyNode orgId nodeId db (db.deleteDevices fun device =>
      device.orgId = orgId ∧ device.nodeId = nodeId ∧ device.localId ∉ keep) := by
  refine ⟨rfl, rfl, rfl, deleteDevices_elsewhere, ?_⟩
  unfold foreignDevices Database.deleteDevices Table.delete
  rw [List.filter_filter]
  apply List.filter_congr
  intro device _
  by_cases horg : device.orgId = orgId <;> simp [horg]

theorem updateNodes {set : Node → Node} {hset : ∀ node, (set node).identity = node.identity}
    (hbeat : IsBeat set) :
    OnlyNode orgId nodeId db
      (db.updateNodes (fun node => node.id = nodeId ∧ node.orgId = orgId) set hset) := by
  refine ⟨rfl, rfl, ?_, updateNodes_elsewhere, rfl⟩
  have hfixed : ∀ node, fixedColumns (set node) = fixedColumns node := by
    intro node
    obtain ⟨host, seen, hnode⟩ := hbeat node
    rw [hnode]
    rfl
  unfold Database.updateNodes Table.update
  rw [List.map_map]
  apply List.map_congr_left
  intro node _
  exact Table.rewrite_same fixedColumns hfixed node

theorem handleMessage {message : AgentMessage} {env : MessageEnv}
    (hhandle : handleMessage orgId nodeId message env db = .ok next) :
    OnlyNode orgId nodeId db next := by
  apply handleMessage_keeps (OnlyNode orgId nodeId db) _ _ _ _ (refl orgId nodeId db) hhandle
  · intro env round state following _ hsame hround
    exact hsame.trans (upsertKnown hround)
  · intro keep state hsame
    exact hsame.trans deleteDevices
  · intro sample _ state following hsame happly
    exact hsame.trans (applySample happly)
  · intro set hset state hbeat hsame
    exact hsame.trans (updateNodes hbeat)

end OnlyNode

/-! ## A stream from its start to its end -/

section Connect

variable {header : Option String} {lookUp setNonce : Reply} {read : AuthHeader}
  {messages : List Delivery}

theorem connect_of_error {error : AuthError}
    (hcall : authenticateNode config.nodeAuth header lookUp setNonce store =
      (store', .error error)) :
    NodeService.connect config.nodeAuth header lookUp setNonce messages store =
      (store', .rejected error) := by
  rw [NodeService.connect, hcall]

/-- How a stream ends whose messages have been handled. -/
def StreamEnd.ofFailure : Option ServerError → StreamEnd
  | none => .closed
  | some error => .failed error

theorem connect_of_ok
    (hcall : authenticateNode config.nodeAuth header lookUp setNonce store =
      (store', .ok (read, orgId))) :
    NodeService.connect config.nodeAuth header lookUp setNonce messages store =
      ({ store' with
        db := (replayUntil (fun message => handleMessage orgId read.id message.1 message.2) messages
          store'.db).1 },
        .ofFailure (replayUntil (fun message => handleMessage orgId read.id message.1 message.2)
          messages store'.db).2) := by
  rw [NodeService.connect, hcall]
  simp only
  split <;> rename_i hreplay <;> rw [hreplay] <;> rfl

/-- The messages of a node's stream keep every device with the organization of its node. -/
theorem replayUntil_tenanted (htenanted : Tenanted db) (hnode : HasNode orgId nodeId db) :
    Tenanted (replayUntil (fun message => handleMessage orgId nodeId message.1 message.2) messages
      db).1 ∧
    HasNode orgId nodeId (replayUntil
      (fun message => handleMessage orgId nodeId message.1 message.2) messages db).1 := by
  apply replayUntil_keeps (fun state => Tenanted state ∧ HasNode orgId nodeId state) _ messages
    ⟨htenanted, hnode⟩
  rintro message state following ⟨htenanted, hnode⟩ hhandle
  obtain ⟨hnext, hkeeps⟩ := handleMessage_tenanted htenanted hnode hhandle
  exact ⟨hnext, hnode.mono hkeeps⟩

/-- What an accepted stream leaves: one more nonce of the node, and the changes of its messages. -/
structure StreamFramed (orgId : String) (read : AuthHeader) (store final : AuthStore) : Prop where
  node : HasNode orgId read.id store.db
  clock : final.clock = store.clock
  nonce : ∃ expiry, final.redis = Function.update store.redis read.nonceKey (some expiry)
  tables : OnlyNode orgId read.id store.db final.db

/-- A state that the control plane comes to from one without nodes. -/
def Reached (config : ServerEnv KeyObject) (store : AuthStore) : Prop :=
  ∃ start labels frames, start.db.nodes.rows = [] ∧
    (serverService config).system.run (State.idle start) labels = some ⟨store, frames⟩

theorem Reached.tenanted (hreached : Reached config store) : Tenanted store.db := by
  obtain ⟨start, labels, frames, hempty, hrun⟩ := hreached
  exact tenanted_run hempty hrun

theorem StreamFramed.of_ok
    (hcall : authenticateNode config.nodeAuth header lookUp setNonce store =
      (store', .ok (read, orgId))) :
    StreamFramed orgId read store
      (NodeService.connect config.nodeAuth header lookUp setNonce messages store).1 := by
  obtain ⟨-, -, ⟨node, hmem, hid, horg, -⟩, -, rfl⟩ := authenticateNode_returns hcall
  rw [connect_of_ok hcall]
  refine ⟨⟨node, hmem, hid, horg⟩, rfl, ⟨_, rfl⟩, ?_⟩
  apply replayUntil_keeps (OnlyNode orgId read.id store.db) _ messages
    (OnlyNode.refl orgId read.id store.db)
  intro message state following hsame hhandle
  exact hsame.trans (OnlyNode.handleMessage hhandle)

/-! ## A stream as a call of the service -/

/-- Where a call of `authenticateNode` stands when it has ended. -/
def AuthPc.ofResult : Except AuthError (AuthHeader × String) → AuthPc
  | .ok (read, orgId) => .returned read orgId
  | .error error => .threw error

theorem alone_reply {reply : Reply} {rest : List ServerStep} {pc : AuthPc} :
    (serverService config).alone (.reply reply :: rest) store (.stream ⟨header, pc⟩) =
      (authStep config.nodeAuth header reply store pc).bind fun next =>
        (serverService config).alone rest next.1 (.stream ⟨header, next.2⟩) := by
  cases pc with
  | returned read orgId => rfl
  | threw error => rfl
  | start | checkTimestamp | lookUp | checkSignature | setNonce =>
      simp only [Service.alone, serverService, serverAdvance, streamAdvance, Option.bind_map,
        Function.comp_def]

theorem authenticateNode_alone :
    ∃ steps, (serverService config).alone steps store (.stream ⟨header, .start⟩) =
      some ((authenticateNode config.nodeAuth header lookUp setNonce store).1, .stream ⟨header,
        .ofResult (authenticateNode config.nodeAuth header lookUp setNonce store).2⟩) := by
  unfold authenticateNode
  cases hread : readHeader header with
  | error error =>
      refine ⟨[.reply .arrives], ?_⟩
      simp [alone_reply, authStep, AuthPc.ofResult, hread]
  | ok read =>
      cases htime : checkTimestamp config.nodeAuth read.millis store.clock with
      | error error =>
          refine ⟨[.reply .arrives, .reply .arrives], ?_⟩
          simp [alone_reply, authStep, AuthPc.ofResult, hread, htime]
      | ok inTime =>
          by_cases hlookUp : lookUp = .arrives
          · cases hfound : store.db.nodes.withId read.id with
            | none =>
                refine ⟨[.reply .arrives, .reply .arrives, .reply lookUp], ?_⟩
                simp [alone_reply, authStep, AuthPc.ofResult, hread, htime, hlookUp,
                  hfound]
            | some node =>
                cases hsigned : checkSignature config.nodeAuth read node.publicKey with
                | error error =>
                    refine ⟨[.reply .arrives, .reply .arrives, .reply lookUp, .reply .arrives], ?_⟩
                    simp [alone_reply, authStep, AuthPc.ofResult, hread, htime,
                      hlookUp, hfound, hsigned]
                | ok verified =>
                    refine ⟨[.reply .arrives, .reply .arrives, .reply lookUp, .reply .arrives,
                      .reply setNonce], ?_⟩
                    rcases hset : store.setIfAbsent read.nonceKey
                      (config.nodeAuth.NODE_AUTH_SKEW_MS * 2) with ⟨after, _ | _⟩ <;>
                      cases setNonce <;>
                      simp [alone_reply, authStep, AuthPc.ofResult, hread, htime,
                        hlookUp, hfound, hsigned, hset, afterSet]
          · refine ⟨[.reply .arrives, .reply .arrives, .reply lookUp], ?_⟩
            simp [alone_reply, authStep, AuthPc.ofResult, hread, htime, hlookUp]

theorem messages_alone : ∃ steps,
    (serverService config).alone steps store (.stream ⟨header, .returned read orgId⟩) =
      some ({ store with db := (replayUntil
          (fun message => handleMessage orgId read.id message.1 message.2) messages store.db).1 },
        .ended (.ofFailure (replayUntil
          (fun message => handleMessage orgId read.id message.1 message.2) messages store.db).2)) := by
  induction messages generalizing store with
  | nil => exact ⟨[.hangUp], rfl⟩
  | cons message rest ih =>
      cases hhandle : handleMessage orgId read.id message.1 message.2 store.db with
      | error error =>
          refine ⟨[.message message.1 message.2], ?_⟩
          simp [Service.alone, serverService, serverAdvance, streamAdvance, replayUntil, hhandle,
            StreamEnd.ofFailure]
      | ok db =>
          obtain ⟨steps, hsteps⟩ := @ih { store with db := db }
          refine ⟨.message message.1 message.2 :: steps, ?_⟩
          have hadvance : (serverService config).advance (.message message.1 message.2) store
              (.stream ⟨header, .returned read orgId⟩) =
                some ({ store with db := db }, .stream ⟨header, .returned read orgId⟩) := by
            simp only [serverService, serverAdvance, streamAdvance, hhandle]
          rw [Service.alone_cons hadvance, hsteps]
          simp only [replayUntil, hhandle]

/-- `NodeService.connect` is what a call does alone. -/
theorem connect_alone (config : ServerEnv KeyObject) (header : Option String)
    (lookUp setNonce : Reply) (messages : List Delivery) (store : AuthStore) :
    ∃ steps, (serverService config).alone steps store (.stream ⟨header, .start⟩) =
      some ((NodeService.connect config.nodeAuth header lookUp setNonce messages store).1,
        .ended (NodeService.connect config.nodeAuth header lookUp setNonce messages store).2) := by
  obtain ⟨steps, hsteps⟩ := @authenticateNode_alone _ config store header lookUp setNonce
  rcases hcall : authenticateNode config.nodeAuth header lookUp setNonce store with
    ⟨after, error | ⟨read, orgId⟩⟩
  · rw [hcall] at hsteps
    refine ⟨steps ++ [.hangUp], ?_⟩
    rw [Service.alone_append hsteps, connect_of_error hcall]
    rfl
  · rw [hcall] at hsteps
    obtain ⟨later, hlater⟩ := @messages_alone _ config after orgId header read messages
    refine ⟨steps ++ later, ?_⟩
    rw [Service.alone_append hsteps, connect_of_ok hcall]
    exact hlater

/-- And it is a run of the service, in which no other call moves. -/
theorem connect_run (config : ServerEnv KeyObject) (lookUp setNonce : Reply)
    (messages : List Delivery) {state : State AuthStore ServerFrame} {call : ℕ}
    (hframe : state.frames call = some (.stream ⟨header, .start⟩)) :
    ∃ labels final, (serverService config).system.run state labels = some final ∧
      final.store =
        (NodeService.connect config.nodeAuth header lookUp setNonce messages state.store).1 ∧
      ∀ other, other ≠ call → final.frames other = state.frames other := by
  obtain ⟨steps, hsteps⟩ := connect_alone config header lookUp setNonce messages state.store
  obtain ⟨final, hrun, hstore, -, hothers⟩ := Service.alone_run hframe hsteps
  exact ⟨_, final, hrun, hstore, hothers⟩

theorem ofFailure_eq_closed {outcome : Database × Option ServerError} {final : AuthStore} :
    (({ store with db := outcome.1 } : AuthStore), StreamEnd.ofFailure outcome.2) =
        (final, .closed) ↔
      outcome = (final.db, none) ∧ final = { store with db := final.db } := by
  obtain ⟨db, failure⟩ := outcome
  cases failure with
  | none =>
      simp only [StreamEnd.ofFailure, and_true, Prod.mk.injEq]
      constructor
      · rintro rfl
        exact ⟨rfl, rfl⟩
      · rintro ⟨rfl, hfinal⟩
        exact hfinal.symm
  | some error => simp [StreamEnd.ofFailure]

/-- A stream that is read to its end is its messages, one after another. -/
theorem connect_closed_iff {final : AuthStore}
    (hcall : authenticateNode config.nodeAuth header lookUp setNonce store =
      (store', .ok (read, orgId))) :
    NodeService.connect config.nodeAuth header lookUp setNonce messages store = (final, .closed) ↔
      connect orgId read.id messages store'.db = .ok final.db ∧
        final = { store' with db := final.db } := by
  rw [connect_of_ok hcall, connect, ← replayUntil_eq_none]
  exact ofFailure_eq_closed

end Connect

/-- A stream that is rejected changes nothing, one whose header the node's registered
key does not verify neither, and one that is accepted changes its node only. -/
theorem connect_frame (config : ServerEnv KeyObject) (store : AuthStore) (header : Option String)
    (lookUp setNonce : Reply) (messages : List Delivery) :
    (∀ message after, authenticateNode config.nodeAuth header lookUp setNonce store =
        (after, .error (.nodeAuth message)) →
      NodeService.connect config.nodeAuth header lookUp setNonce messages store =
        (store, .rejected (.nodeAuth message))) ∧
    (∀ error after, authenticateNode config.nodeAuth header lookUp setNonce store =
        (after, .error error) →
      (NodeService.connect config.nodeAuth header lookUp setNonce messages store).1.db = store.db) ∧
    ((NodeService.connect config.nodeAuth header lookUp setNonce messages store).1 ≠ store →
      ∃ read, readHeader header = .ok read ∧ ∃ node ∈ store.db.nodes.rows, node.id = read.id ∧
        checkSignature config.nodeAuth read node.publicKey = .ok ()) ∧
    ∀ read orgId after, authenticateNode config.nodeAuth header lookUp setNonce store =
        (after, .ok (read, orgId)) →
      StreamFramed orgId read store
        (NodeService.connect config.nodeAuth header lookUp setNonce messages store).1 ∧
      (Reached config store → OwnDevices orgId read.id
        (NodeService.connect config.nodeAuth header lookUp setNonce messages store).1.db) := by
  refine ⟨fun message after hcall => ?_, fun error after hcall => ?_, fun hchanged => ?_,
    fun read orgId after hcall => ⟨StreamFramed.of_ok hcall, fun hreached => ?_⟩⟩
  · have hsame := authenticateNode_rejects hcall
    subst hsame
    exact connect_of_error hcall
  · rw [connect_of_error hcall]
    have hafter : after = (authenticateNode config.nodeAuth header lookUp setNonce store).1 := by
      rw [hcall]
    rcases @authenticateNode_cases _ store config.nodeAuth header lookUp setNonce with
      ⟨_, hthrows⟩ | ⟨_, _, -, -, -, -, -, -, hsets⟩
    · rw [hafter, hthrows]
    · rw [hafter, hsets]
      rfl
  · by_contra hnone
    have hsame : (authenticateNode config.nodeAuth header lookUp setNonce store).1 = store := by
      by_contra hne
      exact hnone (authenticateNode_verified hne)
    rcases hcall : authenticateNode config.nodeAuth header lookUp setNonce store with
      ⟨after, error | ⟨read, orgId⟩⟩
    · rw [connect_of_error hcall] at hchanged
      rw [hcall] at hsame
      exact hchanged hsame
    · obtain ⟨hread, -, ⟨node, hmem, hid, -, hsigned⟩, -, -⟩ := authenticateNode_returns hcall
      exact hnone ⟨read, hread, node, hmem, hid, hsigned⟩
  · obtain ⟨-, -, ⟨node, hmem, hid, horg, -⟩, -, rfl⟩ := authenticateNode_returns hcall
    rw [connect_of_ok hcall]
    obtain ⟨htenanted, hnode⟩ := @replayUntil_tenanted _ _ _ messages hreached.tenanted
      ⟨node, hmem, hid, horg⟩
    exact htenanted.own hnode

/-! ### A stream -/

/-- A stand-in for `node:crypto` that accepts the signature "AQ". -/
def sampleServer : ServerEnv (List UInt8) where
  pairing := sampleEnv
  nodeAuth := sampleAuth
  SAMPLE_INTERVAL_MS := 5000

/-- A machine with the key `7 … 7`. -/
def sampleMachine : EnrollInput where
  pairingCode := "abcd 2345"
  publicKey := List.replicate 32 7
  nodeName := "node"
  host := hostColumns none

/-- A code is minted, the machine is enrolled as the node 5, and a year passes. -/
def enrollmentRun : List (Label ServerFrame ServerStep ServerEvent) :=
  [.ambient (.organization ⟨"org_1", "Fleet", "fleet"⟩), .ambient (.mint sampleMint),
    .start 0 (.pairing (.enroll sampleMachine .start .untouched))] ++
    List.replicate 6 (.advance 0 (.pairing ⟨2000, none, 5, 2000⟩)) ++
    [.ambient (.tick 1760000000000)]

def emptyServer : AuthStore := ⟨.empty, fun _ => none, 0⟩

theorem connect_frame_enrolled :
    ∃ store, Reached sampleServer store ∧ store.clock = 1760000000000 ∧
      ∃ node ∈ store.db.nodes.rows, node.id = 5 ∧
      StreamFramed "org_1" aheadRead store
        (NodeService.connect sampleServer.nodeAuth aheadHeader .arrives .arrives sampleStream store).1 ∧
      OwnDevices "org_1" 5
        (NodeService.connect sampleServer.nodeAuth aheadHeader .arrives .arrives sampleStream
          store).1.db := by
  have hcalls : ((serverService sampleServer).system.run (State.idle emptyServer) enrollmentRun).map
      (fun final => (final.store.clock, final.store.db.nodes.rows.map Node.id,
        (authenticateNode sampleServer.nodeAuth aheadHeader .arrives .arrives final.store).2)) =
      some (1760000000000, [5], .ok (aheadRead, "org_1")) := by
    decide +kernel
  obtain ⟨⟨store, frames⟩, hrun, hcolumns⟩ := Option.map_eq_some_iff.1 hcalls
  obtain ⟨hclock, hrest⟩ := Prod.mk.inj hcolumns
  obtain ⟨hids, hcall⟩ := Prod.mk.inj hrest
  have hreached : Reached sampleServer store := ⟨emptyServer, _, frames, rfl, hrun⟩
  obtain ⟨node, hmem, hid⟩ : ∃ node ∈ store.db.nodes.rows, node.id = 5 := by
    rw [← List.mem_map, hids]
    exact List.mem_singleton_self _
  obtain ⟨hframed, hown⟩ := (connect_frame sampleServer store aheadHeader .arrives .arrives
    sampleStream).2.2.2 aheadRead "org_1" _ (Prod.ext rfl hcall)
  exact ⟨store, hreached, hclock, node, hmem, hid, hframed, hown hreached⟩

end ModelHub.ControlPlane
