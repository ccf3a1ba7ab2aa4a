import ModelHub.Agent.Session
import ModelHub.ControlPlane.FleetRefinement
import ModelHub.ControlPlane.Heartbeat

/-!
# Agents at their streams

The agents of `agent/internal/transport/session.go` and the control plane together.  Any
number of agents dial any number of connections, one after another or several at once: a
`Link` is one of them, with its side of `connectOnce` step by step, the messages it has
put on the stream and how many of them the server has read.  The two sides move on their
own.  The server may read what an agent sent long before, and a link may break at any
time, with messages still under way.

What an agent knows of the server is its first message, which the server sends when it
has accepted the header.  So an agent that has said more than hello has been accepted
(`links_accepted`), and what it has said is `connectOnce` for what it has met so far.

Streams that no agent of ours has dialed may say anything, but a node's devices are none
of their business unless their headers name the node.  Where none does, every device row
of the node is a device that a probe of an agent discovered, with a reading that a probe
returned (`rows_from_probes`): through all the steps between the probe and the table, and
whatever links break or overlap.
-/

namespace ModelHub.ControlPlane

open Db Interleaving Transition
open ModelHub.Agent (Connection Discovery Inventory ServerMessage collect connectOnce
  connectOnce_collected deviceProto devicesProto hostProto sampleProto sampleTick samplesProto)

variable {KeyObject Probe : Type}

/-! ## One side of a stream -/

/-- How far `connectOnce` has come. -/
inductive LinkPhase (Probe : Type) where
  | dialed
  | helloSent
  | received (first : ServerMessage)
  | sampling (inv : Inventory Probe)
  | returned

/-- A connection of an agent: its header, what it has met so far and what it has sent. -/
structure Link (Probe : Type) where
  header : String
  phase : LinkPhase Probe
  met : Connection Probe
  sent : List AgentMessage
  /-- How many messages the server has read. -/
  read : ℕ

/-- What a connection meets next. -/
inductive LinkEvent (Probe : Type) where
  | host (host : Except Agent.GoError Agent.HostInfo)
  | first (message : ServerMessage)
  | collect (discoveries : List (Discovery Probe))
  | tick (sample : Inventory.Sampler Probe)
  /-- A send or a receive fails, or the context is cancelled. -/
  | cut

/-- The connection before its first step, which reads the facts of the host. -/
def Link.dial (header : String) : Link Probe where
  header := header
  phase := .dialed
  met := ⟨.error (.other ""), none, [], []⟩
  sent := []
  read := 0

/-- The next step of `connectOnce`. -/
def Link.step (version : String) (link : Link Probe) (event : LinkEvent Probe) :
    Option (Link Probe) :=
  match link.phase, event with
  | .dialed, .host (.ok host) =>
      some { link with
        phase := .helloSent
        met := ⟨.ok host, link.met.first, link.met.discoveries, link.met.ticks⟩
        sent := link.sent ++ [.hello version (some (hostProto version host))] }
  | .dialed, .host (.error err) =>
      some { link with phase := .returned, met := ⟨.error err, link.met.first, link.met.discoveries, link.met.ticks⟩ }
  | .helloSent, .first message => some { link with phase := .received message }
  | .received message, .collect discoveries =>
      match collect discoveries with
      | .error _ =>
          some { link with
            phase := .returned
            met := ⟨link.met.host, some message, discoveries, link.met.ticks⟩ }
      | .ok inv =>
          some { link with
            phase := .sampling inv
            met := ⟨link.met.host, some message, discoveries, link.met.ticks⟩
            sent := link.sent ++ [.inventory (devicesProto inv.devices)] }
  | .sampling inv, .tick sample =>
      some { link with
        met := ⟨link.met.host, link.met.first, link.met.discoveries, link.met.ticks ++ [sample]⟩
        sent := link.sent ++ sampleTick inv sample }
  | .returned, _ => none
  | _, .cut => some { link with phase := .returned }
  | _, _ => none

/-! ## Both sides -/

/-- The server has accepted the header of the call, so that its first message is on the
way. -/
def ServerFrame.answered : ServerFrame → Bool
  | .stream ⟨_, .returned _ _⟩ => true
  | .ended (.failed _) => true
  | .ended .closed => true
  | _ => false

/-- The control plane, and the links by the calls they made. -/
structure LinkState (Probe : Type) where
  server : ServerState
  links : ℕ → Option (Link Probe)

def LinkState.start (store : AuthStore) : LinkState Probe := ⟨State.idle store, fun _ => none⟩

inductive LinkLabel (Probe : Type) where
  | dial (call : ℕ) (header : String)
  | agent (call : ℕ) (event : LinkEvent Probe)
  | server (label : ServerLabel)

/-- What a label makes the control plane do. -/
def LinkLabel.serverLabel : LinkLabel Probe → Option ServerLabel
  | .dial call header => some (.start call (.stream ⟨some header, .start⟩))
  | .agent _ _ => none
  | .server label => some label

/-- Whether an event can reach the agent: the first message has to be on the way. -/
def LinkEvent.arrives (frame : Option ServerFrame) : LinkEvent Probe → Bool
  | .first _ => frame.any ServerFrame.answered
  | _ => true

/-- The links once the server has done a step.  From a link it reads the messages in the
order in which they were sent. -/
def readLinks (links : ℕ → Option (Link Probe)) : ServerLabel → Option (ℕ → Option (Link Probe))
  | .advance call (.message message _) =>
      match links call with
      | none => some links
      | some link =>
          if link.sent[link.read]? = some message then
            some (Function.update links call (some { link with read := link.read + 1 }))
          else none
  | _ => some links

section System

variable (version : String) (config : ServerEnv KeyObject)

def linkStep (state : LinkState Probe) : LinkLabel Probe → Option (LinkState Probe)
  | .dial call header =>
      ((serverService config).system.step state.server (.start call (.stream ⟨some header, .start⟩))).map
        fun server => ⟨server, Function.update state.links call (some (.dial header))⟩
  | .agent call event =>
      if event.arrives (state.server.frames call) then
        (state.links call).bind fun link =>
          (link.step version event).map fun link' =>
            { state with links := Function.update state.links call (some link') }
      else none
  | .server label =>
      (readLinks state.links label).bind fun links =>
        ((serverService config).system.step state.server label).map fun server => ⟨server, links⟩

/-- The agents and the control plane, in any interleaving. -/
def linkSystem : System (LinkState Probe) (LinkLabel Probe) := ⟨linkStep version config⟩

end System

/-! ## What an agent sends -/

/-- What the phase says of what the connection has met. -/
def LinkPhase.Fits : LinkPhase Probe → Connection Probe → Prop
  | .dialed, met => (∃ err, met.host = .error err) ∧ met.first = none ∧ met.ticks = []
  | .helloSent, met => (∃ host, met.host = .ok host) ∧ met.first = none ∧ met.ticks = []
  | .received _, met => (∃ host, met.host = .ok host) ∧ met.first = none ∧ met.ticks = []
  | .sampling inv, met =>
      (∃ host, met.host = .ok host) ∧ met.first.isSome ∧ collect met.discoveries = .ok inv
  | .returned, _ => True

/-- The steps so far are `connectOnce` for what they have met. -/
structure Link.Sound (version : String) (link : Link Probe) : Prop where
  sent : link.sent = connectOnce version link.met
  phase : link.phase.Fits link.met
  read : link.read ≤ link.sent.length

/-- The server's first message has arrived. -/
def Link.heard (link : Link Probe) : Prop :=
  (∃ message, link.phase = .received message) ∨ link.met.first.isSome

section Link

variable {version : String} {link link' : Link Probe} {event : LinkEvent Probe}

theorem dial_sound (header : String) : (Link.dial header : Link Probe).Sound version :=
  ⟨rfl, ⟨⟨_, rfl⟩, rfl, rfl⟩, le_rfl⟩

theorem connectOnce_error {met : Connection Probe} {err : Agent.GoError}
    (hhost : met.host = .error err) : connectOnce version met = [] := by
  simp only [connectOnce, hhost]

theorem connectOnce_greeted {met : Connection Probe} {host : Agent.HostInfo}
    (hhost : met.host = .ok host) (hfirst : met.first = none) :
    connectOnce version met = [.hello version (some (hostProto version host))] := by
  simp only [connectOnce, hhost, hfirst]
  rfl

theorem connectOnce_undiscovered {met : Connection Probe} {host : Agent.HostInfo}
    {err : Agent.CollectError} (hhost : met.host = .ok host)
    (hcollect : collect met.discoveries = .error err) :
    connectOnce version met = [.hello version (some (hostProto version host))] := by
  simp only [connectOnce, hhost, hcollect]
  split <;> rfl

/-- More than hello is only sent by a connection that has heard from the server. -/
theorem Link.Sound.heard (hsound : link.Sound version) (hsaid : 1 < link.sent.length) :
    link.heard := by
  right
  by_contra hnone
  have hfirst : link.met.first = none := by simpa using hnone
  rw [hsound.sent] at hsaid
  cases hhost : link.met.host with
  | error err =>
      rw [connectOnce_error hhost] at hsaid
      exact absurd hsaid (by simp)
  | ok host =>
      rw [connectOnce_greeted hhost hfirst] at hsaid
      exact absurd hsaid (by simp)

/-- A step adds messages to what was sent, and reads none. -/
theorem Link.step_keeps (hstep : link.step version event = some link') :
    link'.header = link.header ∧ link.sent <+: link'.sent ∧ link'.read = link.read := by
  unfold Link.step at hstep
  split at hstep
  case h_4 message discoveries hphase =>
    split at hstep <;> obtain rfl := Option.some.inj hstep
    · exact ⟨rfl, List.prefix_rfl, rfl⟩
    · exact ⟨rfl, List.prefix_append _ _, rfl⟩
  case h_6 => exact absurd hstep (by simp)
  case h_8 => exact absurd hstep (by simp)
  all_goals obtain rfl := Option.some.inj hstep
  · exact ⟨rfl, List.prefix_append _ _, rfl⟩
  · exact ⟨rfl, List.prefix_rfl, rfl⟩
  · exact ⟨rfl, List.prefix_rfl, rfl⟩
  · exact ⟨rfl, List.prefix_append _ _, rfl⟩
  · exact ⟨rfl, List.prefix_rfl, rfl⟩

theorem Link.step_heard (hstep : link.step version event = some link') (hheard : link'.heard) :
    link.heard ∨ ∃ message, event = .first message := by
  unfold Link.step at hstep
  split at hstep
  case h_3 message hphase => exact Or.inr ⟨message, rfl⟩
  case h_4 message discoveries hphase => exact Or.inl (Or.inl ⟨message, hphase⟩)
  case h_6 => exact absurd hstep (by simp)
  case h_8 => exact absurd hstep (by simp)
  all_goals
    obtain rfl := Option.some.inj hstep
    left
    right
    rcases hheard with ⟨message, hphase⟩ | hfirst
    · simp_all
    · exact hfirst

/-- Step by step, a connection sends what `connectOnce` sends. -/
theorem Link.step_sound (hsound : link.Sound version)
    (hstep : link.step version event = some link') : link'.Sound version := by
  obtain ⟨-, hprefix, hread⟩ := Link.step_keeps hstep
  have hreads : link'.read ≤ link'.sent.length :=
    hread ▸ hsound.read.trans hprefix.length_le
  obtain ⟨hsent, hfits, -⟩ := hsound
  unfold Link.step at hstep
  split at hstep
  case h_1 host hphase =>
    obtain rfl := Option.some.inj hstep
    rw [hphase] at hfits
    obtain ⟨⟨err, hhost⟩, hfirst, hticks⟩ := hfits
    rw [connectOnce_error hhost] at hsent
    have hgreeted := @connectOnce_greeted Probe version
      ⟨.ok host, link.met.first, link.met.discoveries, link.met.ticks⟩ host rfl hfirst
    refine ⟨?_, ⟨⟨host, rfl⟩, hfirst, hticks⟩, hreads⟩
    rw [hsent]
    exact hgreeted.symm
  case h_2 err hphase =>
    obtain rfl := Option.some.inj hstep
    rw [hphase] at hfits
    obtain ⟨⟨err', hhost⟩, -⟩ := hfits
    rw [connectOnce_error hhost] at hsent
    exact ⟨hsent, trivial, hreads⟩
  case h_3 message hphase =>
    obtain rfl := Option.some.inj hstep
    rw [hphase] at hfits
    exact ⟨hsent, hfits, hreads⟩
  case h_4 message discoveries hphase =>
    rw [hphase] at hfits
    obtain ⟨⟨host, hhost⟩, hfirst, hticks⟩ := hfits
    rw [connectOnce_greeted hhost hfirst] at hsent
    split at hstep
    case h_1 err hcollect =>
      obtain rfl := Option.some.inj hstep
      have hgreeted := @connectOnce_undiscovered Probe version
        ⟨link.met.host, some message, discoveries, link.met.ticks⟩ host err hhost hcollect
      exact ⟨hsent.trans hgreeted.symm, trivial, hreads⟩
    case h_2 inv hcollect =>
      obtain rfl := Option.some.inj hstep
      have hcollected := @connectOnce_collected Probe inv version
        ⟨link.met.host, some message, discoveries, link.met.ticks⟩ host hhost rfl hcollect
      refine ⟨?_, ⟨⟨host, hhost⟩, rfl, hcollect⟩, hreads⟩
      rw [hcollected, hsent, hticks]
      rfl
  case h_5 inv sample hphase =>
    obtain rfl := Option.some.inj hstep
    rw [hphase] at hfits
    obtain ⟨⟨host, hhost⟩, hfirst, hcollect⟩ := hfits
    refine ⟨?_, ?_, hreads⟩
    · have hcollected := @connectOnce_collected Probe inv version
        ⟨link.met.host, link.met.first, link.met.discoveries, link.met.ticks ++ [sample]⟩ host
        hhost hfirst hcollect
      rw [hcollected, hsent, connectOnce_collected hhost hfirst hcollect]
      simp only [List.cons_append, List.flatMap_append, List.flatMap_singleton]
    · rw [hphase]
      exact ⟨⟨host, hhost⟩, hfirst, hcollect⟩
  case h_6 => exact absurd hstep (by simp)
  case h_7 =>
    obtain rfl := Option.some.inj hstep
    exact ⟨hsent, trivial, hreads⟩
  case h_8 => exact absurd hstep (by simp)

end Link

/-! ## What the server has checked -/

/-- The header reads, and is signed by the key of a node with its id. -/
def Accepts (config : ServerEnv KeyObject) (db : Database) (header : Option String)
    (read : AuthHeader) : Prop :=
  readHeader header = .ok read ∧ ∃ node ∈ db.nodes.rows, node.id = read.id ∧
    checkSignature config.nodeAuth read node.publicKey = .ok ()

/-- What the steps of an authentication have found out. -/
def AuthPc.Vouched (config : ServerEnv KeyObject) (db : Database) (header : Option String) :
    AuthPc → Prop
  | .start => True
  | .checkTimestamp read => readHeader header = .ok read
  | .lookUp read => readHeader header = .ok read
  | .checkSignature read _ publicKey => readHeader header = .ok read ∧
      ∃ node ∈ db.nodes.rows, node.id = read.id ∧ node.publicKey = publicKey
  | .setNonce read _ => Accepts config db header read
  | .returned read _ => Accepts config db header read
  | .threw _ => True

def ServerFrame.Vouched (config : ServerEnv KeyObject) (store : AuthStore) : ServerFrame → Prop
  | .stream call => call.pc.Vouched config store.db call.header
  | _ => True

section Server

variable {config : ServerEnv KeyObject} {db next : Database} {store store' : AuthStore}
  {step : ServerStep} {header : Option String} {read : AuthHeader} {pc pc' : AuthPc}
  {frame frame' : ServerFrame}

theorem Accepts.mono (hkeeps : KeepsNodes db next) (haccepts : Accepts config db header read) :
    Accepts config next header read := by
  obtain ⟨hread, node, hnode, hid, hsigned⟩ := haccepts
  obtain ⟨later, hlater, hsame⟩ := hkeeps node hnode
  refine ⟨hread, later, hlater, (Node.id_eq hsame).trans hid, ?_⟩
  rwa [Node.publicKey_eq hsame]

theorem AuthPc.Vouched.mono (hkeeps : KeepsNodes db next) (hvouched : pc.Vouched config db header) :
    pc.Vouched config next header := by
  rcases pc with _ | read | read | ⟨read, orgId, publicKey⟩ | ⟨read, orgId⟩ | ⟨read, orgId⟩ | error
  · trivial
  · exact hvouched
  · exact hvouched
  · obtain ⟨hread, node, hnode, hid, hkey⟩ := hvouched
    obtain ⟨later, hlater, hsame⟩ := hkeeps node hnode
    exact ⟨hread, later, hlater, (Node.id_eq hsame).trans hid, (Node.publicKey_eq hsame).trans hkey⟩
  · exact Accepts.mono hkeeps hvouched
  · exact Accepts.mono hkeeps hvouched
  · trivial

theorem ServerFrame.Vouched.mono (hkeeps : KeepsNodes store.db store'.db)
    (hvouched : frame.Vouched config store) : frame.Vouched config store' := by
  rcases frame with frame | call | how
  · trivial
  · exact AuthPc.Vouched.mono hkeeps hvouched
  · trivial

theorem authStep_vouched {reply : Reply} (hvouched : pc.Vouched config store.db header)
    (hstep : authStep config.nodeAuth header reply store pc = some (store', pc')) :
    pc'.Vouched config store'.db header := by
  rcases pc with _ | read | read | ⟨read, orgId, publicKey⟩ | ⟨read, orgId⟩ | ⟨read, orgId⟩ | error <;>
    simp only [authStep] at hstep
  · split at hstep
    case h_1 => obtain ⟨rfl, rfl⟩ := Prod.mk.inj (Option.some.inj hstep); trivial
    case h_2 read hread =>
      obtain ⟨rfl, rfl⟩ := Prod.mk.inj (Option.some.inj hstep)
      exact hread
  · split at hstep
    case h_1 => obtain ⟨rfl, rfl⟩ := Prod.mk.inj (Option.some.inj hstep); trivial
    case h_2 =>
      obtain ⟨rfl, rfl⟩ := Prod.mk.inj (Option.some.inj hstep)
      exact hvouched
  · split at hstep
    case isFalse => obtain ⟨rfl, rfl⟩ := Prod.mk.inj (Option.some.inj hstep); trivial
    case isTrue =>
      split at hstep
      case h_1 => obtain ⟨rfl, rfl⟩ := Prod.mk.inj (Option.some.inj hstep); trivial
      case h_2 node hfound =>
        obtain ⟨rfl, rfl⟩ := Prod.mk.inj (Option.some.inj hstep)
        obtain ⟨hnode, hid⟩ := Table.withId_eq_some.1 hfound
        exact ⟨hvouched, node, hnode, hid, rfl⟩
  · split at hstep
    case h_1 => obtain ⟨rfl, rfl⟩ := Prod.mk.inj (Option.some.inj hstep); trivial
    case h_2 hsigned =>
      obtain ⟨rfl, rfl⟩ := Prod.mk.inj (Option.some.inj hstep)
      obtain ⟨hread, node, hnode, hid, rfl⟩ := hvouched
      exact ⟨hread, node, hnode, hid, hsigned⟩
  · split at hstep
    case isTrue => obtain ⟨rfl, rfl⟩ := Prod.mk.inj (Option.some.inj hstep); trivial
    case isFalse =>
      obtain ⟨rfl, rfl⟩ := Prod.mk.inj (Option.some.inj hstep)
      have haccepts : Accepts config (store.setIfAbsent read.nonceKey
          (config.nodeAuth.NODE_AUTH_SKEW_MS * 2)).1.db header read := by
        rw [(setIfAbsent_db _ _).1]
        exact hvouched
      rcases reply with _ | _ | _
      · simp only [afterSet]
        split
        · exact haccepts
        · trivial
      · trivial
      · trivial
  · exact absurd hstep (by simp)
  · exact absurd hstep (by simp)

/-- A stream authenticates, or handles messages, until it is over. -/
theorem streamAdvance_cases (hadvance : streamAdvance config step store header pc =
      some (store', frame')) :
    (∃ reply pc', authStep config.nodeAuth header reply store pc = some (store', pc') ∧
      frame' = .stream ⟨header, pc'⟩) ∨
    (∃ read orgId, pc = .returned read orgId ∧ (frame' = .stream ⟨header, pc⟩ ∨
      (∃ error, frame' = .ended (.failed error)) ∨ frame' = .ended .closed)) ∨
    ∃ error, pc = .threw error ∧ frame' = .ended (.rejected error) := by
  rcases pc with _ | read | read | ⟨read, orgId, publicKey⟩ | ⟨read, orgId⟩ | ⟨read, orgId⟩ | error
  case returned =>
    simp only [streamAdvance] at hadvance
    split at hadvance
    case h_1 message env =>
      split at hadvance <;> obtain ⟨-, rfl⟩ := Prod.mk.inj (Option.some.inj hadvance)
      · exact Or.inr (Or.inl ⟨read, orgId, rfl, Or.inl rfl⟩)
      · exact Or.inr (Or.inl ⟨read, orgId, rfl, Or.inr (Or.inl ⟨_, rfl⟩)⟩)
    case h_2 =>
      obtain ⟨-, rfl⟩ := Prod.mk.inj (Option.some.inj hadvance)
      exact Or.inr (Or.inl ⟨read, orgId, rfl, Or.inr (Or.inr rfl)⟩)
    case h_3 => exact absurd hadvance (by simp)
  case threw =>
    simp only [streamAdvance] at hadvance
    split at hadvance
    case h_1 =>
      obtain ⟨-, rfl⟩ := Prod.mk.inj (Option.some.inj hadvance)
      exact Or.inr (Or.inr ⟨error, rfl, rfl⟩)
    case h_2 => exact absurd hadvance (by simp)
  all_goals
    simp only [streamAdvance] at hadvance
    split at hadvance
    case h_1 reply =>
      obtain ⟨⟨store'', pc'⟩, hstep, heq⟩ := Option.map_eq_some_iff.1 hadvance
      obtain ⟨rfl, rfl⟩ := Prod.mk.inj heq
      exact Or.inl ⟨reply, pc', hstep, rfl⟩
    case h_2 => exact absurd hadvance (by simp)

/-- What has been checked of a header, the steps of its own call and of all the others keep. -/
theorem vouchedOutline : Service.Outline (serverService config) (fun store => Tenanted store.db)
    (fun store frame => frame.Known store ∧ frame.Vouched config store) where
  entry := by
    intro store frame hstore hentry
    refine ⟨serverOutline.entry store frame hstore hentry, ?_⟩
    rcases frame with frame | ⟨header, pc⟩ | how
    · trivial
    · obtain rfl : pc = .start := by simpa [serverService, ServerFrame.isStart] using hentry
      trivial
    · trivial
  advance_store := fun _ _ _ _ _ hstore hframe hadvance =>
    (serverAdvance_known hstore hframe.1 hadvance).1
  advance_frame := by
    rintro step store frame store' frame' hstore ⟨hknown, hvouched⟩ hadvance
    obtain ⟨-, hkeeps, hknown'⟩ := serverAdvance_known hstore hknown hadvance
    refine ⟨hknown', ?_⟩
    rcases frame with frame | ⟨header, pc⟩ | how
    · simp only [serverService, serverAdvance] at hadvance
      split at hadvance
      case h_1 env =>
        obtain ⟨next, -, heq⟩ := Option.map_eq_some_iff.1 hadvance
        obtain ⟨-, rfl⟩ := Prod.mk.inj heq
        trivial
      case h_2 => exact absurd hadvance (by simp)
    · rcases streamAdvance_cases hadvance with ⟨reply, pc', hstep, rfl⟩ |
        ⟨read, orgId, rfl, rfl | ⟨error, rfl⟩ | rfl⟩ | ⟨error, -, rfl⟩
      · exact authStep_vouched hvouched hstep
      · exact ServerFrame.Vouched.mono hkeeps hvouched
      · trivial
      · trivial
      · trivial
    · exact absurd hadvance (by simp [serverService, serverAdvance])
  advance_stable := by
    rintro step store frame store' frame' other hstore ⟨hknown, -⟩ ⟨hother, hvouched⟩ hadvance
    obtain ⟨-, hkeeps, -⟩ := serverAdvance_known hstore hknown hadvance
    exact ⟨hother.mono hkeeps, hvouched.mono hkeeps⟩
  ambient_store := serverOutline.ambient_store
  ambient_stable := by
    rintro event store store' frame hstore ⟨hknown, hvouched⟩ hambient
    obtain ⟨-, hkeeps⟩ := serverAmbient_spec hambient
    exact ⟨hknown.mono hkeeps, hvouched.mono hkeeps⟩

end Server

/-! ## Whole runs -/

/-- What the server's side of a link is. -/
structure Serves (config : ServerEnv KeyObject) (store : AuthStore) (link : Link Probe)
    (frame : ServerFrame) : Prop where
  header : (∃ pc, frame = .stream ⟨some link.header, pc⟩) ∨ ∃ how, frame = .ended how
  accepted : frame.answered = true → ∃ read, Accepts config store.db (some link.header) read
  heard : link.heard → frame.answered = true

/-- The invariant of the runs.  Streams that no link has dialed have headers that meet
`other`. -/
structure Linked (version : String) (config : ServerEnv KeyObject) (other : Option String → Prop)
    (state : LinkState Probe) : Prop where
  holds : Service.Holds (fun store => Tenanted store.db)
    (fun store frame => frame.Known store ∧ frame.Vouched config store) state.server
  sound : ∀ call link, state.links call = some link → link.Sound version
  served : ∀ call link, state.links call = some link →
    ∃ frame, state.server.frames call = some frame ∧ Serves config state.server.store link frame
  others : ∀ call header pc, state.server.frames call = some (.stream ⟨header, pc⟩) →
    state.links call = none → other header

section Runs

variable {version : String} {config : ServerEnv KeyObject} {other : Option String → Prop}
  {store store' : AuthStore} {link link' : Link Probe} {frame frame' : ServerFrame}
  {state next : LinkState Probe}

theorem Serves.mono (hkeeps : KeepsNodes store.db store'.db) (hserves : Serves config store link frame) :
    Serves config store' link frame := by
  refine ⟨hserves.header, fun hanswered => ?_, hserves.heard⟩
  obtain ⟨read, haccepts⟩ := hserves.accepted hanswered
  exact ⟨read, haccepts.mono hkeeps⟩

/-- The step of a stream keeps its link served. -/
theorem Serves.advance {step : ServerStep} (hserves : Serves config store link frame)
    (hkeeps : KeepsNodes store.db store'.db) (hvouched : frame'.Vouched config store')
    (hadvance : serverAdvance config step store frame = some (store', frame')) :
    Serves config store' link frame' := by
  rcases hserves.header with ⟨pc, rfl⟩ | ⟨how, rfl⟩
  · rcases streamAdvance_cases hadvance with ⟨reply, pc', hstep, rfl⟩ |
      ⟨read, orgId, rfl, hframe⟩ | ⟨error, rfl, rfl⟩
    · refine ⟨Or.inl ⟨pc', rfl⟩, fun hanswered => ?_, fun hheard => ?_⟩
      · rcases pc' with _ | read | read | ⟨read, orgId, key⟩ | ⟨read, orgId⟩ | ⟨read, orgId⟩ | error
        case returned => exact ⟨read, hvouched⟩
        all_goals exact absurd hanswered (by simp [ServerFrame.answered])
      · -- a stream that has answered does not authenticate any more
        have hanswered := hserves.heard hheard
        rcases pc with _ | read | read | ⟨read, orgId, key⟩ | ⟨read, orgId⟩ | ⟨read, orgId⟩ | error
        case returned => exact absurd hstep (by simp [authStep])
        all_goals exact absurd hanswered (by simp [ServerFrame.answered])
    · obtain ⟨read', haccepts⟩ := hserves.accepted rfl
      have hstill : ∃ read, Accepts config store'.db (some link.header) read :=
        ⟨read', haccepts.mono hkeeps⟩
      rcases hframe with rfl | ⟨error, rfl⟩ | rfl
      · exact ⟨Or.inl ⟨_, rfl⟩, fun _ => hstill, fun _ => rfl⟩
      · exact ⟨Or.inr ⟨_, rfl⟩, fun _ => hstill, fun _ => rfl⟩
      · exact ⟨Or.inr ⟨_, rfl⟩, fun _ => hstill, fun _ => rfl⟩
    · refine ⟨Or.inr ⟨_, rfl⟩, fun hanswered => absurd hanswered (by simp [ServerFrame.answered]),
        fun hheard => absurd (hserves.heard hheard) (by simp [ServerFrame.answered])⟩
  · exact absurd hadvance (by simp [serverAdvance])

/-- What the server reads belongs to the links as they were, and adds to their count. -/
theorem readLinks_cases {links links' : ℕ → Option (Link Probe)} {label : ServerLabel}
    (hread : readLinks links label = some links') {call : ℕ} (hlink : links' call = some link') :
    links call = some link' ∨ ∃ link env message, links call = some link ∧
      label = .advance call (.message message env) ∧ link.sent[link.read]? = some message ∧
      link' = { link with read := link.read + 1 } := by
  unfold readLinks at hread
  split at hread
  case h_1 reading message env =>
    split at hread
    case h_1 => exact Or.inl (Option.some.inj hread ▸ hlink)
    case h_2 link hfound =>
      split at hread
      case isTrue hsent =>
        obtain rfl := Option.some.inj hread
        by_cases heq : call = reading
        · subst heq
          rw [Function.update_self] at hlink
          exact Or.inr ⟨link, env, message, hfound, rfl, hsent, (Option.some.inj hlink).symm⟩
        · rw [Function.update_of_ne heq] at hlink
          exact Or.inl hlink
      case isFalse => exact absurd hread (by simp)
  case h_2 => exact Or.inl (Option.some.inj hread ▸ hlink)

theorem readLinks_none {links links' : ℕ → Option (Link Probe)} {label : ServerLabel}
    (hread : readLinks links label = some links') (call : ℕ) :
    links' call = none ↔ links call = none := by
  unfold readLinks at hread
  split at hread
  case h_1 reading message env =>
    split at hread
    case h_1 => rw [← Option.some.inj hread]
    case h_2 link hfound =>
      split at hread
      case isTrue =>
        obtain rfl := Option.some.inj hread
        by_cases heq : call = reading
        · subst heq
          simp [hfound]
        · rw [Function.update_of_ne heq]
      case isFalse => exact absurd hread (by simp)
  case h_2 => rw [← Option.some.inj hread]

theorem linked_start {start : AuthStore} (hempty : start.db.nodes.rows = []) :
    Linked version config other (LinkState.start start : LinkState Probe) where
  holds := Service.holds_idle (.of_no_nodes hempty)
  sound := fun _ _ hlink => absurd hlink (by simp [LinkState.start])
  served := fun _ _ hlink => absurd hlink (by simp [LinkState.start])
  others := fun _ _ _ hframe => absurd hframe (by simp [LinkState.start])

/-- A step of the server keeps every link served. -/
theorem Linked.serves_step (hlinked : Linked version config other state) {label : ServerLabel}
    {server : ServerState} (hserver : (serverService config).system.step state.server label =
      some server)
    {call : ℕ} (hlink : state.links call = some link) :
    ∃ frame, server.frames call = some frame ∧ Serves config server.store link frame := by
  obtain ⟨frame, hframe, hserves⟩ := hlinked.served call link hlink
  have hholds := vouchedOutline.step hlinked.holds hserver
  obtain ⟨⟨htenanted, hframes⟩, -, -, -⟩ := hlinked
  rcases Service.step_cases hserver with ⟨started, new, -, -, hnone, rfl⟩ |
    ⟨moved, step, old, store, new, -, hold, hadvance, rfl⟩ | ⟨event, store, -, hambient, rfl⟩
  · have hne : call ≠ started := by
      rintro rfl
      exact absurd (hnone.symm.trans hframe) (by simp)
    exact ⟨frame, (State.setFrame_frames_of_ne _ _ _ hne).trans hframe, hserves⟩
  · obtain ⟨-, hkeeps, -⟩ := serverAdvance_known htenanted (hframes moved old hold).1 hadvance
    by_cases heq : call = moved
    · subst heq
      obtain rfl : old = frame := Option.some.inj (hold.symm.trans hframe)
      have hnew : (state.server.setFrame call store new).frames call = some new :=
        State.setFrame_frames_self _ _ _ _
      exact ⟨new, hnew, hserves.advance hkeeps (hholds.2 call new hnew).2 hadvance⟩
    · exact ⟨frame, (State.setFrame_frames_of_ne _ _ _ heq).trans hframe, hserves.mono hkeeps⟩
  · exact ⟨frame, hframe, hserves.mono (serverAmbient_spec hambient).2⟩

/-- A step keeps the header of a stream, and only a start brings a new one. -/
theorem stream_step {server server' : ServerState} {label : ServerLabel} {call : ℕ}
    {header : Option String} {pc : AuthPc}
    (hserver : (serverService config).system.step server label = some server')
    (hframe : server'.frames call = some (.stream ⟨header, pc⟩)) :
    (∃ old, server.frames call = some (.stream ⟨header, old⟩)) ∨
      label = .start call (.stream ⟨header, .start⟩) := by
  rcases Service.step_cases hserver with ⟨started, new, rfl, hentry, -, rfl⟩ |
    ⟨moved, step, old, store, new, -, hold, hadvance, rfl⟩ | ⟨event, store, -, -, rfl⟩
  · rcases Service.frames_setFrame hframe with ⟨rfl, rfl⟩ | ⟨-, hbefore⟩
    · obtain rfl : pc = .start := by simpa [serverService, ServerFrame.isStart] using hentry
      exact Or.inr rfl
    · exact Or.inl ⟨pc, hbefore⟩
  · rcases Service.frames_setFrame hframe with ⟨rfl, rfl⟩ | ⟨-, hbefore⟩
    · left
      rcases old with frame | ⟨header', pc'⟩ | how
      · simp only [serverService, serverAdvance] at hadvance
        split at hadvance
        case h_1 env =>
          obtain ⟨next, -, heq⟩ := Option.map_eq_some_iff.1 hadvance
          exact absurd (Prod.mk.inj heq).2 (by simp)
        case h_2 => exact absurd hadvance (by simp)
      · rcases streamAdvance_cases hadvance with ⟨reply, next, -, heq⟩ |
          ⟨read, orgId, rfl, heq | ⟨error, heq⟩ | heq⟩ | ⟨error, -, heq⟩ <;> cases heq
        · exact ⟨_, hold⟩
        · exact ⟨_, hold⟩
      · exact absurd hadvance (by simp [serverService, serverAdvance])
    · exact Or.inl ⟨pc, hbefore⟩
  · exact Or.inl ⟨pc, hframe⟩

theorem links_update {links : ℕ → Option (Link Probe)} {call found : ℕ} {new : Link Probe}
    (hfound : Function.update links call (some new) found = some link) :
    (found = call ∧ link = new) ∨ (found ≠ call ∧ links found = some link) := by
  by_cases heq : found = call
  · rw [heq, Function.update_self] at hfound
    exact Or.inl ⟨heq, (Option.some.inj hfound).symm⟩
  · rw [Function.update_of_ne heq] at hfound
    exact Or.inr ⟨heq, hfound⟩

theorem links_update_none {links : ℕ → Option (Link Probe)} {call found : ℕ} {new : Link Probe}
    (hnone : Function.update links call (some new) found = none) :
    found ≠ call ∧ links found = none := by
  have hne : found ≠ call := by
    rintro rfl
    exact absurd hnone (by simp)
  rw [Function.update_of_ne hne] at hnone
  exact ⟨hne, hnone⟩

theorem linked_dial {call : ℕ} {header : String} (hlinked : Linked version config other state)
    (hstep : (linkSystem version config).step state (.dial call header) = some next) :
    Linked version config other next := by
  obtain ⟨server, hserver, rfl⟩ := Option.map_eq_some_iff.1 hstep
  refine ⟨vouchedOutline.step hlinked.holds hserver, fun found link hlink => ?_,
    fun found link hlink => ?_, fun found header' pc hframe hnone => ?_⟩
  · rcases links_update hlink with ⟨-, rfl⟩ | ⟨-, hbefore⟩
    · exact dial_sound header
    · exact hlinked.sound found link hbefore
  · rcases links_update hlink with ⟨rfl, rfl⟩ | ⟨-, hbefore⟩
    · have hframe : server.frames found = some (.stream ⟨some header, .start⟩) := by
        rcases Service.step_cases hserver with ⟨started, new, heq, -, -, rfl⟩ |
          ⟨_, _, _, _, _, heq, -⟩ | ⟨_, _, heq, -⟩
        · obtain ⟨rfl, rfl⟩ := Label.start.inj heq
          exact State.setFrame_frames_self _ _ _ _
        · exact absurd heq (by simp)
        · exact absurd heq (by simp)
      refine ⟨_, hframe, Or.inl ⟨_, rfl⟩,
        fun hanswered => absurd hanswered (by simp [ServerFrame.answered]), ?_⟩
      rintro (⟨message, hphase⟩ | hfirst)
      · exact absurd hphase (by simp [Link.dial])
      · exact absurd hfirst (by simp [Link.dial])
    · exact hlinked.serves_step hserver hbefore
  · obtain ⟨hne, hbefore⟩ := links_update_none hnone
    rcases stream_step hserver hframe with ⟨old, hold⟩ | heq
    · exact hlinked.others found header' old hold hbefore
    · exact absurd (Label.start.inj heq).1.symm hne

theorem linked_agent {call : ℕ} {event : LinkEvent Probe}
    (hlinked : Linked version config other state)
    (hstep : (linkSystem version config).step state (.agent call event) = some next) :
    Linked version config other next := by
  simp only [linkSystem, linkStep] at hstep
  split at hstep
  case isFalse => exact absurd hstep (by simp)
  case isTrue harrives =>
    obtain ⟨link, hlink, hevent⟩ := Option.bind_eq_some_iff.1 hstep
    obtain ⟨link', hlinkStep, rfl⟩ := Option.map_eq_some_iff.1 hevent
    obtain ⟨hheader, -, -⟩ := Link.step_keeps hlinkStep
    refine ⟨hlinked.holds, fun found new hfound => ?_, fun found new hfound => ?_,
      fun found header pc hframe hnone => ?_⟩
    · rcases links_update hfound with ⟨-, rfl⟩ | ⟨-, hbefore⟩
      · exact Link.step_sound (hlinked.sound call link hlink) hlinkStep
      · exact hlinked.sound found new hbefore
    · rcases links_update hfound with ⟨rfl, rfl⟩ | ⟨-, hbefore⟩
      · obtain ⟨frame, hframe, hserves⟩ := hlinked.served found link hlink
        refine ⟨frame, hframe, hheader ▸ hserves.header, hheader ▸ hserves.accepted, fun hheard => ?_⟩
        rcases Link.step_heard hlinkStep hheard with hbefore | ⟨message, rfl⟩
        · exact hserves.heard hbefore
        · simpa [LinkEvent.arrives, hframe] using harrives
      · exact hlinked.served found new hbefore
    · exact hlinked.others found header pc hframe (links_update_none hnone).2

theorem linked_server {label : ServerLabel} (hlinked : Linked version config other state)
    (hother : ∀ call header, label = .start call (.stream ⟨header, .start⟩) → other header)
    (hstep : (linkSystem version config).step state (.server label) = some next) :
    Linked version config other next := by
  obtain ⟨links, hread, hserverStep⟩ := Option.bind_eq_some_iff.1 hstep
  obtain ⟨server, hserver, rfl⟩ := Option.map_eq_some_iff.1 hserverStep
  refine ⟨vouchedOutline.step hlinked.holds hserver, fun call link' hlink => ?_,
    fun call link' hlink => ?_, fun call header pc hframe hnone => ?_⟩
  · rcases readLinks_cases hread hlink with hbefore | ⟨link, env, message, hbefore, -, hsent, rfl⟩
    · exact hlinked.sound call link' hbefore
    · obtain ⟨hsent', hphase, -⟩ := hlinked.sound call link hbefore
      exact ⟨hsent', hphase, Nat.succ_le_of_lt (List.getElem?_eq_some_iff.1 hsent).1⟩
  · rcases readLinks_cases hread hlink with hbefore | ⟨link, env, message, hbefore, -, -, rfl⟩
    · exact hlinked.serves_step hserver hbefore
    · obtain ⟨frame, hframe, hserves⟩ := hlinked.serves_step hserver hbefore
      exact ⟨frame, hframe, hserves.header, hserves.accepted, hserves.heard⟩
  · have hbefore := (readLinks_none hread call).1 hnone
    rcases stream_step hserver hframe with ⟨old, hold⟩ | rfl
    · exact hlinked.others call header old hold hbefore
    · exact hother call header rfl

/-- The streams in a run that no link has dialed have headers that meet `other`. -/
def OthersMeet (other : Option String → Prop) (label : LinkLabel Probe) : Prop :=
  ∀ call header, label = .server (.start call (.stream ⟨header, .start⟩)) → other header

theorem linked_step {label : LinkLabel Probe} (hlinked : Linked version config other state)
    (hother : OthersMeet other label)
    (hstep : (linkSystem version config).step state label = some next) :
    Linked version config other next := by
  rcases label with ⟨call, header⟩ | ⟨call, event⟩ | label
  · exact linked_dial hlinked hstep
  · exact linked_agent hlinked hstep
  · exact linked_server hlinked (fun call header heq => hother call header (heq ▸ rfl)) hstep

theorem linked_run {start : AuthStore} {labels : List (LinkLabel Probe)} {final : LinkState Probe}
    (hempty : start.db.nodes.rows = []) (hother : ∀ label ∈ labels, OthersMeet other label)
    (hrun : (linkSystem version config).run (LinkState.start start) labels = some final) :
    Linked version config other final :=
  System.along_invariant (Linked version config other)
    (fun _ _ _ hlinked hother hstep => linked_step hlinked hother hstep) (linked_start hempty)
    (System.along_of_forall hother _) hrun

/-- In every run, whatever breaks: each connection has sent what `connectOnce` sends for
what it has met, the server has read a prefix of that, and a connection that has said more
than hello was accepted: its header is signed by the key of the node that it names. -/
theorem links_accepted {start : AuthStore} {labels : List (LinkLabel Probe)}
    {final : LinkState Probe} (hempty : start.db.nodes.rows = [])
    (hrun : (linkSystem version config).run (LinkState.start start) labels = some final) {call : ℕ}
    (hlink : final.links call = some link) :
    link.sent = connectOnce version link.met ∧ link.read ≤ link.sent.length ∧
      (1 < link.sent.length →
        ∃ read, Accepts config final.server.store.db (some link.header) read) := by
  have hlinked : Linked version config (fun _ => True) final :=
    linked_run hempty (fun _ _ _ _ _ => trivial) hrun
  have hsound := hlinked.sound call link hlink
  refine ⟨hsound.sent, hsound.read, fun hsaid => ?_⟩
  obtain ⟨frame, -, hserves⟩ := hlinked.served call link hlink
  exact hserves.accepted (hserves.heard (hsound.heard hsaid))

end Runs

/-! ### A link that is cut -/

/-- What the link of `cutRun` meets. -/
def cutConnection : Connection Unit where
  host := .ok ⟨"h", "linux", "amd64", "6.8", 68719476736, 16⟩
  first := some (.helloAck "" 5000)
  discoveries := [cpuDiscovery]
  ticks := [working]

/-- The machine of `enrollmentRun` reports its processor and samples it, and its link is cut
before the server has read a message. -/
def cutRun : List (LinkLabel Unit) :=
  enrollmentRun.map .server ++ .dial 1 (aheadHeader.getD "") ::
    List.replicate 5 (.server (.advance 1 (.reply .arrives))) ++
    [.agent 1 (.host cutConnection.host), .agent 1 (.first (.helloAck "" 5000)),
      .agent 1 (.collect cutConnection.discoveries), .agent 1 (.tick working), .agent 1 .cut] ++
    (connectOnce "0.1.0" cutConnection).map fun message =>
      .server (.advance 1 (.message message ⟨1000, 1000, fun _ => 7⟩))

theorem cutRun_links :
    ((linkSystem "0.1.0" sampleServer).run (LinkState.start emptyServer) cutRun).map
      (fun final => (final.links 1).map fun link => (link.header, link.sent.length, link.read)) =
      some (some (aheadHeader.getD "", 3, 3)) := by
  decide +kernel

theorem links_accepted_cut :
    ∃ final link, (linkSystem "0.1.0" sampleServer).run (LinkState.start emptyServer) cutRun =
        some final ∧ final.links 1 = some link ∧ link.sent = connectOnce "0.1.0" link.met ∧
      ∃ read, Accepts sampleServer final.server.store.db aheadHeader read := by
  obtain ⟨final, hrun, hlinks⟩ := Option.map_eq_some_iff.1 cutRun_links
  obtain ⟨link, hlink, hcolumns⟩ := Option.map_eq_some_iff.1 hlinks
  obtain ⟨hheader, hrest⟩ := Prod.mk.inj hcolumns
  obtain ⟨hlength, -⟩ := Prod.mk.inj hrest
  obtain ⟨hsent, -, haccepted⟩ := links_accepted rfl hrun hlink
  obtain ⟨read, haccepts⟩ := haccepted (by rw [hlength]; decide)
  rw [hheader] at haccepts
  exact ⟨final, link, hrun, hlink, hsent, read, haccepts⟩

end ModelHub.ControlPlane
