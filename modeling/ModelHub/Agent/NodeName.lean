import ModelHub.Agent.EnrolledKey
import ModelHub.ControlPlane.EnrolledNode
import Mathlib.Logic.Function.Basic

/-!
# The name of an enrolled node

A node is named in three places: by `--name`, in the dialog of the web app, which
mints the pairing code under a name, and by its hostname.  `enrollNode` prefers them
in this order.  But `enroll` has put the hostname into its request before the server
sees it, so the name from the dialog counts only for a machine without a hostname,
and then `config.json` keeps no name at all.

`enroll_names_iff` says when the three agree on what the node is called.  Its invariant
(`Asked`) ties the command that is running to the call that it made at the server.
-/

namespace ModelHub.Agent

open ControlPlane Db Interleaving Transition

variable {pairing : String → PairingEnv} {world next : World} {env : CommandEnv}

/-! ## Names -/

/-- The name that a node should get: the first that is not empty. -/
def givenName (flag nodeName hostname : String) : String :=
  orElse flag (orElse nodeName (orElse hostname "node"))

/-- The server's choice, after `enroll` has made its own, is the name that should have
been given and the one that `enroll` keeps, exactly if there is a `--name`, or a hostname
that the name of the code does not contradict. -/
theorem names_agree_iff {flag nodeName hostname : String} :
    (orElse (orElse flag hostname) (orElse nodeName (orElse hostname "node")) =
        givenName flag nodeName hostname ∧
      orElse flag hostname =
        orElse (orElse flag hostname) (orElse nodeName (orElse hostname "node"))) ↔
      flag ≠ "" ∨ hostname ≠ "" ∧ (nodeName = "" ∨ nodeName = hostname) := by
  unfold givenName
  by_cases hflag : flag = ""
  · subst hflag
    by_cases hhostname : hostname = ""
    · subst hhostname
      have hchosen : orElse nodeName "node" ≠ "" := orElse_ne_empty (by decide)
      simp [hchosen.symm]
    · by_cases hnodeName : nodeName = ""
      · subst hnodeName
        simp [orElse_of_ne hhostname, hhostname]
      · simp [orElse_of_ne hhostname, orElse_of_ne hnodeName, hhostname, hnodeName, eq_comm]
  · simp [orElse_of_ne hflag, hflag]

/-! ## What the command knows about its call -/

/-- The call at this server is for the request that `enroll` sends under this name, with
these host facts. -/
def Requested (server : Server) (args : EnrollArgs) (priv : PrivateKey) (name : String)
    (host : ControlPlane.HostInfo) (call : ℕ) : Prop :=
  name = orElse args.name host.hostname ∧
    ∃ pc effects, server.frames call = some (.enroll (enrollRequest args priv name host) pc effects)

/-- The call has returned this result. -/
def Answered (server : Server) (args : EnrollArgs) (priv : PrivateKey) (name : String)
    (host : ControlPlane.HostInfo) (result : EnrollResult) : Prop :=
  name = orElse args.name host.hostname ∧
    ∃ call nodeId effects, result.NodeID = uuidText nodeId ∧
      server.frames call = some (.enroll (enrollRequest args priv name host)
        (.returned nodeId result.OrgID result.OrgName) effects)

/-- What a running command knows about its name and about its call at the server. -/
def Asked (servers : String → Server) : Command → Prop
  | .enroll args (.request _ name host) => name = orElse args.name host.hostname
  | .enroll args (.response priv name call) =>
      ∃ host, Requested (servers args.server) args priv name host call
  | .enroll args (.save priv name result) =>
      ∃ host, Answered (servers args.server) args priv name host result
  | _ => True

theorem Requested.step {config : PairingEnv} {server server' : Server} {args : EnrollArgs}
    {priv : PrivateKey} {name : String} {host : ControlPlane.HostInfo} {call : ℕ}
    {label : Label Frame StepEnv Mint} (hrequested : Requested server args priv name host call)
    (hstep : (pairingService config).system.step server label = some server') :
    Requested server' args priv name host call :=
  ⟨hrequested.1, enrolling_step hstep hrequested.2⟩

theorem Answered.step {config : PairingEnv} {server server' : Server} {args : EnrollArgs}
    {priv : PrivateKey} {name : String} {host : ControlPlane.HostInfo} {result : EnrollResult}
    {label : Label Frame StepEnv Mint} (hanswered : Answered server args priv name host result)
    (hstep : (pairingService config).system.step server label = some server') :
    Answered server' args priv name host result := by
  obtain ⟨hname, call, nodeId, effects, hid, hframe⟩ := hanswered
  have hdone : ∀ env db, (pairingService config).advance env db
      (.enroll (enrollRequest args priv name host) (.returned nodeId result.OrgID result.OrgName)
        effects) = none := fun _ _ => rfl
  exact ⟨hname, call, nodeId, effects, hid, Service.done_step hdone hframe hstep⟩

/-- What a command knows stays true when a server moves. -/
theorem Asked.step {servers : String → Server} {command : Command} {url : String} {server : Server}
    {label : Label Frame StepEnv Mint} (hasked : Asked servers command)
    (hstep : (pairingService (pairing url)).system.step (servers url) label = some server) :
    Asked (Function.update servers url server) command := by
  cases command with
  | idle | uninstall => trivial
  | enroll args pc =>
      cases pc with
      | loadOrCreate | hostFacts => trivial
      | request priv name host => exact hasked
      | response priv name call =>
          obtain ⟨host, hrequested⟩ := hasked
          exact ⟨host, @of_server_step _ _ _ _ _ hstep
            (fun server => Requested server args priv name host call) args.server hrequested
            fun _ => hrequested.step⟩
      | save priv name result =>
          obtain ⟨host, hanswered⟩ := hasked
          exact ⟨host, @of_server_step _ _ _ _ _ hstep
            (fun server => Answered server args priv name host result) args.server hanswered
            fun _ => hanswered.step⟩

/-! ## Steps -/

structure Followed (pairing : String → PairingEnv) (world : World) : Prop where
  servers : ∀ url, AllTraced (pairing url) (world.servers url)
  command : Asked world.servers world.command

theorem followed_fresh (databases : String → Database) : Followed pairing (World.fresh databases) where
  servers := fun _ => Service.holds_idle trivial
  command := trivial

/-- Only a server moves. -/
theorem Followed.setServer (hfollowed : Followed pairing world) {url : String} {server : Server}
    {label : Label Frame StepEnv Mint}
    (hstep : (pairingService (pairing url)).system.step (world.servers url) label = some server) :
    Followed pairing { world with servers := Function.update world.servers url server } where
  servers := by
    rw [Function.forall_update_iff _ fun url server => AllTraced (pairing url) server]
    exact ⟨tracedOutline.step (hfollowed.servers url) hstep, fun other _ => hfollowed.servers other⟩
  command := hfollowed.command.step hstep

/-- No server moves. -/
theorem Followed.of_servers_eq (hfollowed : Followed pairing world)
    (hservers : next.servers = world.servers) (hasked : Asked world.servers next.command) :
    Followed pairing next where
  servers := by
    rw [hservers]
    exact hfollowed.servers
  command := by
    rw [hservers]
    exact hasked

theorem enrollCmdStep_followed {args : EnrollArgs} {pc : EnrollCmdPc}
    (hfollowed : Followed pairing world) (hcommand : world.command = .enroll args pc)
    (hstep : enrollCmdStep pairing env args world pc = some next) : Followed pairing next := by
  have hasked := hfollowed.command
  rw [hcommand] at hasked
  cases pc with
  | loadOrCreate =>
      simp only [enrollCmdStep] at hstep
      split at hstep <;> cases hstep
      · exact hfollowed.of_servers_eq rfl trivial
      · exact hfollowed.of_servers_eq rfl trivial
  | hostFacts priv =>
      simp only [enrollCmdStep] at hstep
      split at hstep <;> cases hstep
      · exact hfollowed.of_servers_eq rfl trivial
      · exact hfollowed.of_servers_eq rfl rfl
  | request priv name host =>
      simp only [enrollCmdStep] at hstep
      split at hstep
      · cases hstep
        exact hfollowed.of_servers_eq rfl trivial
      · obtain ⟨server, hserver, rfl⟩ := Option.map_eq_some_iff.1 hstep
        refine (hfollowed.setServer hserver).of_servers_eq rfl ⟨host, hasked, .start, .untouched, ?_⟩
        show (Function.update world.servers args.server server args.server).frames env.call = _
        rw [Function.update_self]
        exact started_frame hserver
  | response priv name call =>
      simp only [enrollCmdStep] at hstep
      split at hstep
      · cases hstep
        exact hfollowed.of_servers_eq rfl trivial
      · split at hstep <;> cases hstep
        case h_1 input nodeId orgId orgName effects hframe =>
          obtain ⟨host, hname, pc, effects', hrequest⟩ := hasked
          rw [hframe] at hrequest
          cases hrequest
          exact hfollowed.of_servers_eq rfl ⟨host, hname, call, nodeId, effects, rfl, hframe⟩
        · exact hfollowed.of_servers_eq rfl trivial
  | save priv name result =>
      simp only [enrollCmdStep] at hstep
      split at hstep <;> cases hstep
      · exact hfollowed.of_servers_eq rfl trivial
      · exact hfollowed.of_servers_eq rfl trivial

theorem uninstallCmdStep_followed (hfollowed : Followed pairing world) (pc : UninstallPc) :
    Followed pairing (uninstallCmdStep env world pc) := by
  cases pc with
  | service => exact hfollowed.of_servers_eq rfl trivial
  | deleteEntry svcErr => exact hfollowed.of_servers_eq rfl trivial
  | deleteFile svcErr errs =>
      simp only [uninstallCmdStep]
      split
      · exact hfollowed.of_servers_eq rfl trivial
      · exact hfollowed.of_servers_eq rfl trivial
  | clearEnrollment svcErr => exact hfollowed.of_servers_eq rfl trivial

theorem followed_step {label : WorldLabel} (hfollowed : Followed pairing world)
    (hstep : (commandSystem pairing).step world label = some next) : Followed pairing next := by
  cases label with
  | enroll args =>
      simp only [commandSystem, worldStep] at hstep
      split at hstep <;> cases hstep
      exact hfollowed.of_servers_eq rfl trivial
  | uninstall =>
      simp only [commandSystem, worldStep] at hstep
      split at hstep <;> cases hstep
      exact hfollowed.of_servers_eq rfl trivial
  | step env =>
      simp only [commandSystem, worldStep, commandStep] at hstep
      split at hstep
      · cases hstep
      case h_2 args pc hcommand => exact enrollCmdStep_followed hfollowed hcommand hstep
      case h_3 pc hcommand =>
        rw [← Option.some.inj hstep]
        exact uninstallCmdStep_followed hfollowed pc
  | crash =>
      rw [← Option.some.inj hstep]
      exact hfollowed.of_servers_eq rfl trivial
  | loseIdentity entry file =>
      simp only [commandSystem, worldStep] at hstep
      split at hstep <;> cases hstep
      exact hfollowed.of_servers_eq rfl hfollowed.command
  | server url label =>
      obtain ⟨server, hserver, rfl⟩ := Option.map_eq_some_iff.1 hstep
      exact hfollowed.setServer hserver

theorem followed_run {databases : String → Database} {labels : List WorldLabel}
    (hrun : (commandSystem pairing).run (World.fresh databases) labels = some world) :
    Followed pairing world :=
  System.run_invariant (Followed pairing) (fun _ _ _ => followed_step) (followed_fresh databases) hrun

/-! ## A successful enrollment -/

/-- The step with which a command `enroll` prints that it has enrolled the machine. -/
structure Succeeds (pairing : String → PairingEnv) (args : EnrollArgs) (world next : World) :
    Prop where
  command : ∃ pc, world.command = .enroll args pc
  step : ∃ env, (commandSystem pairing).step world (.step env) = some next
  printed : ∃ text, next.command = .idle (some (.ok text))

/-- `enroll` prints it at its last step, and has saved the config then. -/
theorem Succeeds.config {args : EnrollArgs} (hsucceeds : Succeeds pairing args world next) :
    ∃ priv name result, world.command = .enroll args (.save priv name result) ∧
      next.machine.config = .saved ⟨args.server, result.NodeID, result.OrgID, name⟩ := by
  obtain ⟨⟨pc, hcommand⟩, ⟨env, hstep⟩, text, hprinted⟩ := hsucceeds
  simp only [commandSystem, worldStep, commandStep, hcommand] at hstep
  cases pc with
  | loadOrCreate | hostFacts =>
      simp only [enrollCmdStep] at hstep
      split at hstep <;> cases hstep <;> cases hprinted
  | request =>
      simp only [enrollCmdStep] at hstep
      split at hstep
      · cases hstep
        cases hprinted
      · obtain ⟨server, -, rfl⟩ := Option.map_eq_some_iff.1 hstep
        cases hprinted
  | response =>
      simp only [enrollCmdStep] at hstep
      split at hstep
      · cases hstep
        cases hprinted
      · split at hstep <;> cases hstep <;> cases hprinted
  | save priv name result =>
      refine ⟨priv, name, result, hcommand, ?_⟩
      simp only [enrollCmdStep, save] at hstep
      split at hstep
      · cases hstep
        cases hprinted
      case h_2 config hsave =>
        cases hstep
        split at hsave <;> cases hsave
        rfl

/-- A request with these arguments and host facts has redeemed the code of `row` and
created `node`, whose id is the one in `cfg`. -/
structure Enrolls (pairing : String → PairingEnv) (world : World) (args : EnrollArgs)
    (host : ControlPlane.HostInfo) (row : PairingCode) (node : Node) (cfg : Config) : Prop where
  request : ∃ call priv name pc claimed, (world.servers args.server).frames call =
    some (.enroll (enrollRequest args priv name host) pc (.inserted claimed node))
  code : (world.servers args.server).store.pairingCodes.withKey
    (hashCode (pairing args.server) args.code) = some row
  created : node ∈ (world.servers args.server).store.nodes.rows
  nodeId : cfg.NodeID = uuidText node.id

/-- After a successful `enroll` the node and `config.json` have the name that was given,
exactly if `--name` was, or if the machine has a hostname that the pairing code does not
contradict. -/
theorem enroll_names_iff {databases : String → Database} {labels : List WorldLabel}
    {args : EnrollArgs}
    (hrun : (commandSystem pairing).run (World.fresh databases) labels = some world)
    (hsucceeds : Succeeds pairing args world next) :
    ∃ host row node cfg, next.machine.config = .saved cfg ∧
      Enrolls pairing world args host row node cfg ∧
      (node.name = givenName args.name row.nodeName host.hostname ∧ cfg.NodeName = node.name ↔
        args.name ≠ "" ∨
          host.hostname ≠ "" ∧ (row.nodeName = "" ∨ row.nodeName = host.hostname)) := by
  obtain ⟨priv, name, result, hcommand, hconfig⟩ := hsucceeds.config
  have hfollowed := followed_run hrun
  have hasked := hfollowed.command
  rw [hcommand] at hasked
  obtain ⟨host, hname, call, nodeId, effects, hid, hframe⟩ := hasked
  obtain ⟨claimed, row, node, env, rfl, rfl, hrow, hnode, hmade⟩ :=
    returned_node (hfollowed.servers args.server) hframe
  refine ⟨host, row, node, _, hconfig,
    ⟨⟨call, priv, name, _, claimed, hframe⟩, hrow, (Table.withKey_eq_some.1 hnode).1, hid⟩, ?_⟩
  have hnodeName : node.name =
      orElse (orElse args.name host.hostname) (orElse row.nodeName (orElse host.hostname "node")) := by
    rw [hmade, ← hname]
    rfl
  rw [hnodeName, hname]
  exact names_agree_iff

/-! ### A name from the web app -/

def namedArgs (flag : String) : EnrollArgs := ⟨"ABCD-2345", sampleUrl, flag⟩

/-- A code is minted under `nodeName`, and a machine is enrolled with it and with this
`--name`, up to the last step of the command. -/
def namedRun (flag nodeName : String) : List WorldLabel :=
  .server sampleUrl (.ambient { sampleMint with nodeName := nodeName }) ::
    .enroll (namedArgs flag) :: List.replicate 3 (.step (sampleCommandEnv sampleKey 0)) ++
      List.replicate 6 (.server sampleUrl (.advance 0 sampleStep)) ++
        [.step (sampleCommandEnv sampleKey 0)]

/-- The states before and after that last step. -/
def namedStates (flag nodeName : String) : Option (World × World) :=
  ((commandSystem fun _ => sampleEnv).run (World.fresh fun _ => sampleDb)
    (namedRun flag nodeName)).bind fun world =>
      ((commandSystem fun _ => sampleEnv).step world (.step (sampleCommandEnv sampleKey 0))).map
        fun next => (world, next)

theorem namedStates_succeeds {flag nodeName : String} {world next : World}
    (hstates : namedStates flag nodeName = some (world, next)) {pc : EnrollCmdPc} {text : String}
    (hcommands : (world.command, next.command) =
      (.enroll (namedArgs flag) pc, .idle (some (.ok text)))) :
    (commandSystem fun _ => sampleEnv).run (World.fresh fun _ => sampleDb) (namedRun flag nodeName) =
        some world ∧
      Succeeds (fun _ => sampleEnv) (namedArgs flag) world next := by
  obtain ⟨hcommand, hprinted⟩ := Prod.mk.inj hcommands
  obtain ⟨world', hrun, hnext⟩ := Option.bind_eq_some_iff.1 hstates
  obtain ⟨next', hstep, heq⟩ := Option.map_eq_some_iff.1 hnext
  cases heq
  exact ⟨hrun, ⟨pc, hcommand⟩, ⟨_, hstep⟩, text, hprinted⟩

/-- The node has the hostname, not the name from the dialog. -/
theorem enroll_ignores_nodeName :
    ¬ ∀ (pairing : String → PairingEnv) (databases : String → Database) (labels : List WorldLabel)
      (args : EnrollArgs) (world next : World),
      (commandSystem pairing).run (World.fresh databases) labels = some world →
      Succeeds pairing args world next →
      ∃ host row node cfg, next.machine.config = .saved cfg ∧
        Enrolls pairing world args host row node cfg ∧
        node.name = givenName args.name row.nodeName host.hostname ∧ cfg.NodeName = node.name := by
  intro hclaim
  have houtcome : (namedStates "" "mac-studio").map (fun states =>
      ((states.1.command, states.2.command),
        (states.1.servers sampleUrl).store.nodes.rows.map Node.name,
        ((states.1.servers sampleUrl).store.pairingCodes.withKey
          (hashCode sampleEnv "ABCD-2345")).map PairingCode.nodeName)) =
      some ((.enroll (namedArgs "") (.save sampleKey "gpu-box"
          ⟨"00000000-0000-0000-0000-000000000002", "org_1", "Fleet"⟩),
        .idle (some (.ok "enrolled \"gpu-box\" into Fleet\n"))), ["gpu-box"], some "mac-studio") := by
    decide +kernel
  obtain ⟨⟨world, next⟩, hstates, hfacts⟩ := Option.map_eq_some_iff.1 houtcome
  obtain ⟨hcommands, hfacts⟩ := Prod.mk.inj hfacts
  obtain ⟨hnames, hminted⟩ := Prod.mk.inj hfacts
  obtain ⟨hrun, hsucceeds⟩ := namedStates_succeeds hstates hcommands
  obtain ⟨host, row, node, cfg, -, henrolls, hgiven, -⟩ := hclaim _ _ _ _ _ _ hrun hsucceeds
  have hname : node.name = "gpu-box" := by
    have hmem : node.name ∈ ["gpu-box"] := by
      rw [← hnames]
      exact List.mem_map_of_mem henrolls.created
    simpa using hmem
  have hrow : row.nodeName = "mac-studio" := by
    rw [show (world.servers sampleUrl).store.pairingCodes.withKey (hashCode sampleEnv "ABCD-2345") =
      some row from henrolls.code] at hminted
    exact Option.some.inj hminted
  rw [hname, hrow] at hgiven
  have hsame : "gpu-box" = "mac-studio" := hgiven
  exact absurd hsame (by decide)

/-- With `--name` the node and the config are called so. -/
theorem enroll_names_iff_flag :
    ∃ world next, (commandSystem fun _ => sampleEnv).run (World.fresh fun _ => sampleDb)
        (namedRun "e2e-box" "mac-studio") = some world ∧
      Succeeds (fun _ => sampleEnv) (namedArgs "e2e-box") world next ∧
      ∃ host row node cfg, next.machine.config = .saved cfg ∧
        Enrolls (fun _ => sampleEnv) world (namedArgs "e2e-box") host row node cfg ∧
        node.name = "e2e-box" ∧ cfg.NodeName = "e2e-box" := by
  have houtcome : (namedStates "e2e-box" "mac-studio").map (fun states =>
      (states.1.command, states.2.command)) =
      some (.enroll (namedArgs "e2e-box") (.save sampleKey "e2e-box"
          ⟨"00000000-0000-0000-0000-000000000002", "org_1", "Fleet"⟩),
        .idle (some (.ok "enrolled \"e2e-box\" into Fleet\n"))) := by
    decide +kernel
  obtain ⟨⟨world, next⟩, hstates, hcommands⟩ := Option.map_eq_some_iff.1 houtcome
  obtain ⟨hrun, hsucceeds⟩ := namedStates_succeeds hstates hcommands
  obtain ⟨host, row, node, cfg, hconfig, henrolls, hiff⟩ := enroll_names_iff hrun hsucceeds
  obtain ⟨hnode, hcfg⟩ := hiff.2 (Or.inl (by decide))
  have hgiven : node.name = "e2e-box" := hnode
  exact ⟨world, next, hrun, hsucceeds, host, row, node, cfg, hconfig, henrolls, hgiven,
    hcfg.trans hgiven⟩

end ModelHub.Agent
