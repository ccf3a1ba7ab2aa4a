import ModelHub.Agent.EnrolledKey
import ModelHub.Agent.RunCommand
import ModelHub.ControlPlane.HeaderAgreement
import ModelHub.ControlPlane.UuidText

/-!
# From an enrollment to a stream

What `enroll` leaves on a machine is what `authenticateNode` asks for later.  The id that
the server made travels as a text through the answer, `config.json` and the header, and
reads as the same id again; the key that signs is the one that was registered; and a node
keeps its id, its key and its organization whatever the control plane does in between.
So wherever no `enroll` has minted a key on an enrolled machine, the header that `run`
makes is accepted as the node's (`run_authenticates`).
-/

namespace ModelHub.ControlPlane

open Db Interleaving JavaScript Transition
open ModelHub.Agent (Assumed Authenticates CommandEnv Consistent Dial IdentityEnv PrivateKey LoadEnv
  World WorldLabel authHeader commandSystem consistent_fresh consistent_step encodeToString
  load load_ok load_usable mintsOverEnrollment run_ok usableEnv uuidText)

variable {KeyObject : Type} {config : NodeAuthEnv KeyObject} {pairing : String → PairingEnv}
  {databases : String → Database} {labels : List WorldLabel} {final : World}

theorem consistent_run
    (hassumed : (commandSystem pairing).Along Assumed (World.fresh databases) labels)
    (hcalm : (commandSystem pairing).Along
      (fun world label => mintsOverEnrollment world label = false) (World.fresh databases) labels)
    (hrun : (commandSystem pairing).run (World.fresh databases) labels = some final) :
    Consistent pairing final :=
  System.along_invariant (Consistent pairing)
    (fun _ _ _ hconsistent hcond hstep => consistent_step hconsistent hcond.1 hcond.2 hstep)
    (consistent_fresh databases) (System.along_and hassumed hcalm) hrun

/-- What `run` dials with is registered at the server that it dials. -/
theorem registered_of_run (hconsistent : Consistent pairing final) {loadEnv : LoadEnv}
    {env : IdentityEnv} {dial : Dial} (hdial : Agent.run loadEnv env final.machine = .ok dial) :
    ∃ node ∈ (final.servers dial.ServerURL).store.nodes.rows,
      uuidText node.id = dial.NodeID ∧ node.publicKey = dial.PrivateKey.publicKey := by
  obtain ⟨cfg, -, henrolled, hload, hurl, hid⟩ := run_ok.1 hdial
  obtain ⟨entry, hholds⟩ := hconsistent.stores
  rw [hholds] at hload
  have hkey : load usableEnv final.machine.stores = .ok dial.PrivateKey := by
    rw [hholds]
    exact (load_usable entry).2 ((load_ok hload).resolve_right (by simp))
  rw [hurl, hid]
  exact hconsistent.authenticates cfg dial.PrivateKey henrolled hkey

/-- The header that an agent makes for a registered node is accepted, by a server that
still has the node. -/
theorem authenticateNode_header {isPair : PrivateKey → Prop}
    {sign : PrivateKey → String → List UInt8} (hideal : IdealEd25519 config isPair sign)
    (hdouble : Binary64.nearest config.NODE_AUTH_SKEW_MS = config.NODE_AUTH_SKEW_MS)
    {store : AuthStore} {node : Node} (hnode : node ∈ store.db.nodes.rows) {nodeId : String}
    (hid : uuidText node.id = nodeId) {priv : PrivateKey} (hpair : isPair priv)
    (hkey : node.publicKey = priv.publicKey) {unixMilli : ℕ} (hunix : unixMilli < 2 ^ 63)
    {raw : List UInt8} (hraw : raw ≠ [])
    (hnonce : store.isLive ("nodeauth:" ++ nodeId ++ ":" ++ encodeToString raw) = false)
    (hclose : |(store.clock : ℚ) - Binary64.nearest unixMilli| ≤ config.NODE_AUTH_SKEW_MS) :
    authenticateNode config (some (authHeader sign nodeId priv unixMilli raw)) .arrives .arrives
        store =
      (store.remember config (readOf sign nodeId priv unixMilli raw node.id),
        .ok (readOf sign nodeId priv unixMilli raw node.id, node.orgId)) := by
  have huuid : parseUuid nodeId = some node.id := by
    rw [← hid]
    exact parseUuid_uuidText node.id
  have hread := @readHeader_authHeader sign nodeId priv unixMilli raw node.id huuid hraw
    (hideal.sign_ne_nil priv _)
  have htime : checkTimestamp config (readOf sign nodeId priv unixMilli raw node.id).millis
      store.clock = .ok () :=
    checkTimestamp_eq_ok.2 ⟨_, numberOf_toString hunix, inWindow_of_abs_le hdouble hclose⟩
  have hchecked : checkSignature config (readOf sign nodeId priv unixMilli raw node.id)
      node.publicKey = .ok () := by
    rw [hkey]
    exact checkSignature_readOf hideal hpair
  exact authenticateNode_succeeds hread htime hnode rfl hchecked hnonce

/-- After any commands, crashes and losses among which no `enroll` minted a key on an
enrolled machine: if `run` gets as far as dialing, its header is accepted as a node of the
server that it dials, with the organization that the node was enrolled in, whatever the
server has done meanwhile. -/
theorem run_authenticates {isPair : PrivateKey → Prop} {sign : PrivateKey → String → List UInt8}
    (hideal : IdealEd25519 config isPair sign)
    (hdouble : Binary64.nearest config.NODE_AUTH_SKEW_MS = config.NODE_AUTH_SKEW_MS)
    (hassumed : (commandSystem pairing).Along Assumed (World.fresh databases) labels)
    (hcalm : (commandSystem pairing).Along
      (fun world label => mintsOverEnrollment world label = false) (World.fresh databases) labels)
    (hrun : (commandSystem pairing).run (World.fresh databases) labels = some final)
    {loadEnv : LoadEnv} {env : IdentityEnv} {dial : Dial}
    (hdial : Agent.run loadEnv env final.machine = .ok dial) (hpair : isPair dial.PrivateKey) :
    ∃ node ∈ (final.servers dial.ServerURL).store.nodes.rows,
      ∀ store : AuthStore, KeepsNodes (final.servers dial.ServerURL).store store.db →
        ∀ (unixMilli : ℕ) (raw : List UInt8), unixMilli < 2 ^ 63 → raw.length = 16 →
          store.isLive ("nodeauth:" ++ dial.NodeID ++ ":" ++ encodeToString raw) = false →
          |(store.clock : ℚ) - Binary64.nearest unixMilli| ≤ config.NODE_AUTH_SKEW_MS →
          authenticateNode config
              (some (authHeader sign dial.NodeID dial.PrivateKey unixMilli raw)) .arrives .arrives
              store =
            (store.remember config (readOf sign dial.NodeID dial.PrivateKey unixMilli raw node.id),
              .ok (readOf sign dial.NodeID dial.PrivateKey unixMilli raw node.id, node.orgId)) := by
  obtain ⟨node, hnode, hid, hkey⟩ := registered_of_run (consistent_run hassumed hcalm hrun) hdial
  refine ⟨node, hnode, fun store hkeeps unixMilli raw hunix hraw hnonce hclose => ?_⟩
  obtain ⟨later, hlater, hsame⟩ := hkeeps node hnode
  have hlaterId : uuidText later.id = dial.NodeID := by rw [Node.id_eq hsame, hid]
  have hlaterKey : later.publicKey = dial.PrivateKey.publicKey := by
    rw [Node.publicKey_eq hsame, hkey]
  rw [← Node.id_eq hsame, ← Node.orgId_eq hsame]
  exact authenticateNode_header hideal hdouble hlater hlaterId hpair hlaterKey hunix
    (List.ne_nil_of_length_pos (by omega)) hnonce hclose

/-! ### A machine that enrolls and dials -/

/-- The machine draws the sample key, and the server makes the node 5 of it. -/
def dialingRun : List WorldLabel :=
  .server Agent.sampleUrl (.ambient sampleMint) ::
    .enroll ⟨"ABCD-2345", Agent.sampleUrl, ""⟩ ::
      List.replicate 3 (.step (Agent.sampleCommandEnv sampleKey 0)) ++
      List.replicate 6 (.server Agent.sampleUrl (.advance 0 ⟨2000, none, 5, 2000⟩)) ++
      List.replicate 2 (.step (Agent.sampleCommandEnv sampleKey 0))

def dialed : Dial := ⟨Agent.sampleUrl, "00000000-0000-0000-0000-000000000005", sampleKey⟩

/-- The server when the header arrives. -/
def dialedStore (final : World) : AuthStore :=
  ⟨(final.servers Agent.sampleUrl).store, fun _ => none, 1760000040000⟩

theorem run_authenticates_dialing :
    ∃ final node, (commandSystem fun _ => sampleEnv).run (World.fresh fun _ => sampleDb) dialingRun =
        some final ∧
      Agent.run ⟨none, ""⟩ (Agent.workingEnv sampleKey) final.machine = .ok dialed ∧
      node ∈ (final.servers Agent.sampleUrl).store.nodes.rows ∧
      authenticateNode (sampleCrypto 60000) (some (authHeader sampleSign dialed.NodeID sampleKey
          (1760000000000 : ℕ) sampleNonce)) .arrives .arrives (dialedStore final) =
        ((dialedStore final).remember (sampleCrypto 60000)
            (readOf sampleSign dialed.NodeID sampleKey 1760000000000 sampleNonce node.id),
          .ok (readOf sampleSign dialed.NodeID sampleKey 1760000000000 sampleNonce node.id,
            node.orgId)) := by
  have hmachine : ((commandSystem fun _ => sampleEnv).run (World.fresh fun _ => sampleDb)
      dialingRun).map (fun final => Agent.run ⟨none, ""⟩ (Agent.workingEnv sampleKey) final.machine) =
      some (.ok dialed) := by
    decide +kernel
  obtain ⟨final, hrun, hdial⟩ := Option.map_eq_some_iff.1 hmachine
  obtain ⟨node, hnode, haccepted⟩ := run_authenticates (sampleCrypto_ideal 60000)
    (by decide +kernel) (by decide +kernel) (by decide +kernel) hrun hdial rfl
  have hclose : |((dialedStore final).clock : ℚ) - Binary64.nearest ((1760000000000 : ℕ) : ℚ)| ≤
      (sampleCrypto 60000).NODE_AUTH_SKEW_MS := by
    show |((1760000040000 : ℤ) : ℚ) - Binary64.nearest ((1760000000000 : ℕ) : ℚ)| ≤ 60000
    decide +kernel
  exact ⟨final, node, hrun, hdial, hnode, haccepted (dialedStore final) (KeepsNodes.refl _)
    1760000000000 sampleNonce (by norm_num) rfl rfl hclose⟩

end ModelHub.ControlPlane
