import ModelHub.Agent.Uninstall
import ModelHub.Agent.KeyStability
import ModelHub.ControlPlane.PairingSafety

/-!
# Does an enrolled machine hold the key of its node?

`run` dials with the node id of `config.json` and the stored key, so the two should
belong together: the server should have registered the key for the node
(`Authenticates`).  `enroll` writes the key first, then asks the server, and writes
the config last.  From a machine that is not enrolled this is safe, since until the
end there is no node id to go with the key.  On a machine that is enrolled but has
lost its identity, which is the case for which `run` tells the operator to enroll
again, the new key meets the old node id as soon as it is stored, and stays with it
if the server then rejects the request (`enroll_mismatches`).

`authenticates_iff` says that this is all that can go wrong, in any interleaving with
crashes, lost identities, lost answers and the steps of the control planes.  The
invariant is `Consistent`: what the command that is running knows about the stored
key and about its call at the server.
-/

namespace ModelHub.Agent

open ControlPlane Db Interleaving Transition

variable {pairing : String → PairingEnv} {world next : World} {env : CommandEnv}

/-! ## The property, and when it is lost -/

/-- The server has a node with this id and this key. -/
def Registered (world : World) (url nodeId : String) (key : PrivateKey) : Prop :=
  ∃ node ∈ (world.servers url).store.nodes.rows,
    uuidText node.id = nodeId ∧ node.publicKey = key.publicKey

/-- A keychain and a file system that work. -/
def usableEnv : IdentityEnv := ⟨none, none, none, none, none, none, .error "no key is drawn"⟩

/-- If the config is enrolled and an identity is stored, the server has registered
the key for the node. -/
def Authenticates (world : World) : Prop :=
  ∀ cfg key, world.machine.config.enrolled = some cfg →
    load usableEnv world.machine.stores = .ok key → Registered world cfg.ServerURL cfg.NodeID key

/-- No call of the keychain fails. -/
def IdentityEnv.keychainUsable (env : IdentityEnv) : Bool :=
  env.keyringGet.isNone ∧ env.keyringSet.isNone ∧ env.keyringDelete.isNone

theorem keychainUsable_iff {env : IdentityEnv} : env.keychainUsable = true ↔
    env.keyringGet = none ∧ env.keyringSet = none ∧ env.keyringDelete = none := by
  simp [IdentityEnv.keychainUsable]

/-- What is assumed of a step: the keychain is usable, and a drawn key is nobody's
key at the server that the config names. -/
def Assumed (world : World) : WorldLabel → Prop
  | .step env => env.identity.keychainUsable = true ∧
      ∀ cfg ∈ world.machine.config.enrolled, ∀ key ∈ env.identity.generateKey.toOption,
        ∀ node ∈ (world.servers cfg.ServerURL).store.nodes.rows, node.publicKey ≠ key.publicKey
  | _ => True

/-- `enroll` mints a key, because none is stored, on a machine that is enrolled. -/
def mintsOverEnrollment (world : World) : WorldLabel → Bool
  | .step env =>
      match world.command with
      | .enroll _ .loadOrCreate =>
          world.machine.config.enrolled.isSome ∧ world.machine.stores.entry.isNone ∧
            world.machine.stores.file.isNone ∧ env.identity.readFile.isNone ∧
            env.identity.generateKey.toOption.isSome
      | _ => false
  | _ => false

/-! ## Servers -/

/-- Nodes stay registered. -/
theorem Registered.mono {url nodeId : String} {key : PrivateKey}
    (hnodes : ∀ url, ∀ node ∈ (world.servers url).store.nodes.rows,
      node ∈ (next.servers url).store.nodes.rows)
    (hregistered : Registered world url nodeId key) : Registered next url nodeId key := by
  obtain ⟨node, hnode, hcolumns⟩ := hregistered
  exact ⟨node, hnodes url node hnode, hcolumns⟩

/-- The call at the server is an enrollment with this public key. -/
def Enrolling (world : World) (url : String) (call : ℕ) (key : PrivateKey) : Prop :=
  ∃ input pc effects, (world.servers url).frames call = some (.enroll input pc effects) ∧
    input.publicKey = key.publicKey

/-- A call keeps its input. -/
theorem enrolling_step {config : PairingEnv} {server server' : Server}
    {label : Label Frame StepEnv Mint} {call : ℕ} {input : EnrollInput}
    (hstep : (pairingService config).system.step server label = some server')
    (hframe : ∃ pc effects, server.frames call = some (.enroll input pc effects)) :
    ∃ pc effects, server'.frames call = some (.enroll input pc effects) := by
  obtain ⟨pc, effects, hframe⟩ := hframe
  rcases Service.step_cases hstep with ⟨other, frame, -, -, hnone, rfl⟩ |
    ⟨other, env, frame, db, frame', -, hfound, hadvance, rfl⟩ | ⟨mint, db, -, -, rfl⟩
  · have hne : call ≠ other := by
      rintro rfl
      rw [hframe] at hnone
      cases hnone
    exact ⟨pc, effects, by rw [State.setFrame_frames_of_ne _ _ _ hne, hframe]⟩
  · by_cases hsame : call = other
    · subst hsame
      rw [hframe] at hfound
      rw [← Option.some.inj hfound] at hadvance
      obtain ⟨⟨db', pc', effects'⟩, -, hnext⟩ := Option.map_eq_some_iff.1 hadvance
      obtain ⟨-, rfl⟩ := Prod.mk.inj hnext
      exact ⟨pc', effects', State.setFrame_frames_self _ _ _ _⟩
    · exact ⟨pc, effects, by rw [State.setFrame_frames_of_ne _ _ _ hsame, hframe]⟩
  · exact ⟨pc, effects, hframe⟩

theorem started_frame {config : PairingEnv} {server server' : Server} {call : ℕ} {frame : Frame}
    (hstep : (pairingService config).system.step server (.start call frame) = some server') :
    server'.frames call = some frame := by
  rcases Service.step_cases hstep with ⟨_, _, hlabel, -, -, rfl⟩ | ⟨_, _, _, _, _, hlabel, -⟩ |
    ⟨_, _, hlabel, -⟩
  · cases hlabel
    exact State.setFrame_frames_self _ _ _ _
  · cases hlabel
  · cases hlabel

/-- What a server that answered with a node id has in its tables. -/
theorem returned_registered {url : String} {call : ℕ} {input : EnrollInput} {nodeId : Uuid}
    {orgId orgName : String} {effects : Effects}
    (hgrounded : AllGrounded (pairing url) (world.servers url))
    (hframe : (world.servers url).frames call = some (.enroll input (.returned nodeId orgId orgName) effects))
    {key : PrivateKey} (hkey : input.publicKey = key.publicKey) :
    Registered world url (uuidText nodeId) key := by
  obtain ⟨hconsistent, hsound⟩ := hgrounded.2 call _ hframe
  obtain ⟨row, node, rfl, -, rfl, hpublic⟩ := hconsistent
  exact ⟨node, (hsound.node row node rfl).2, rfl, hpublic.trans hkey⟩

/-- What holds of a server after a step of one of them: it is the one that moved, or it is
as before. -/
theorem of_server_step {servers : String → Server} {url : String}
    {label : Label Frame StepEnv Mint} {server : Server}
    (hstep : (pairingService (pairing url)).system.step (servers url) label = some server)
    {prop : Server → Prop} {other : String} (hbefore : prop (servers other))
    (hmoves : ∀ server', (pairingService (pairing other)).system.step (servers other) label =
      some server' → prop server') : prop (Function.update servers url server other) := by
  by_cases hsame : other = url
  · subst hsame
    rw [Function.update_self]
    exact hmoves server hstep
  · rw [Function.update_of_ne hsame]
    exact hbefore

/-- A step of one server, seen from all of them. -/
theorem servers_step {url : String} {label : Label Frame StepEnv Mint} {server : Server}
    (hgrounded : ∀ url, AllGrounded (pairing url) (world.servers url))
    (hstep : (pairingService (pairing url)).system.step (world.servers url) label = some server) :
    (∀ url', AllGrounded (pairing url') (Function.update world.servers url server url')) ∧
      ∀ url', ∀ node ∈ (world.servers url').store.nodes.rows,
        node ∈ (Function.update world.servers url server url').store.nodes.rows := by
  constructor
  · intro url'
    exact of_server_step hstep (hgrounded url') fun _ => outline.step (hgrounded url')
  · intro url' node hnode
    exact @of_server_step _ _ _ _ _ hstep (fun server => node ∈ server.store.nodes.rows) url' hnode
      fun _ hmoves => (extends_step (hgrounded url') hmoves).nodes node hnode

theorem Enrolling.step {url url' : String} {label : Label Frame StepEnv Mint} {server : Server}
    {call : ℕ} {key : PrivateKey} (henrolling : Enrolling world url' call key)
    (hstep : (pairingService (pairing url)).system.step (world.servers url) label = some server) :
    Enrolling { world with servers := Function.update world.servers url server } url' call key := by
  obtain ⟨input, pc, effects, hframe, hpublic⟩ := henrolling
  obtain ⟨pc', effects', hframe'⟩ : ∃ pc effects,
      (Function.update world.servers url server url').frames call =
        some (.enroll input pc effects) :=
    @of_server_step _ _ _ _ _ hstep
      (fun server => ∃ pc effects, server.frames call = some (.enroll input pc effects)) url'
      ⟨pc, effects, hframe⟩ fun _ hmoves => enrolling_step hmoves ⟨pc, effects, hframe⟩
  exact ⟨input, pc', effects', hframe', hpublic⟩

/-! ## The stored key -/

/-- With a usable keychain the key is in the keychain. -/
def World.holds (world : World) (entry : Option PrivateKey) : Prop :=
  world.machine.stores = storing entry none

theorem load_usable (entry : Option PrivateKey) {key : PrivateKey} :
    load usableEnv (storing entry none) = .ok key ↔ entry = some key := by
  constructor
  · intro hload
    exact (load_ok hload).resolve_right (by simp)
  · rintro rfl
    have hget : keyringGet usableEnv (storing (some key) none) = .ok (encodeKey key) := rfl
    rw [load, hget]
    exact decodeKey_encodeKey key

theorem authenticates_iff_entry {entry : Option PrivateKey} (hholds : world.holds entry) :
    Authenticates world ↔ ∀ cfg key, world.machine.config.enrolled = some cfg → entry = some key →
      Registered world cfg.ServerURL cfg.NodeID key := by
  unfold Authenticates
  rw [hholds]
  simp only [load_usable]

/-! ## The invariant -/

/-- What the running command knows about the stored key and its call at the server. -/
def Knows (world : World) : Command → Prop
  | .enroll _ .loadOrCreate => True
  | .enroll _ (.hostFacts priv) => world.holds (some priv)
  | .enroll _ (.request priv _ _) => world.holds (some priv)
  | .enroll args (.response priv _ call) =>
      world.holds (some priv) ∧ Enrolling world args.server call priv
  | .enroll args (.save priv _ result) =>
      world.holds (some priv) ∧ Registered world args.server result.NodeID priv
  | .idle _ => True
  | .uninstall _ => True

structure Consistent (pairing : String → PairingEnv) (world : World) : Prop where
  stores : ∃ entry, world.holds entry
  servers : ∀ url, AllGrounded (pairing url) (world.servers url)
  authenticates : Authenticates world
  command : Knows world world.command

theorem consistent_fresh (databases : String → Database) :
    Consistent pairing (World.fresh databases) where
  stores := ⟨none, rfl⟩
  servers := fun url => allGrounded_idle (databases url)
  authenticates := by
    intro cfg key henrolled
    cases henrolled
  command := trivial

/-- Only the command changes. -/
theorem Consistent.setCommand (hconsistent : Consistent pairing world) {command : Command}
    (hknows : Knows world command) : Consistent pairing { world with command := command } where
  stores := hconsistent.stores
  servers := hconsistent.servers
  authenticates := hconsistent.authenticates
  command := by
    cases command with
    | enroll args pc => cases pc <;> exact hknows
    | idle | uninstall => trivial

/-- Only the machine changes, and no command runs on that knows the key. -/
theorem Consistent.setMachine (hconsistent : Consistent pairing world) {machine : Machine}
    {command : Command} {entry : Option PrivateKey} (hstores : machine.stores = storing entry none)
    (hauthenticates : ∀ cfg key, machine.config.enrolled = some cfg → entry = some key →
      Registered world cfg.ServerURL cfg.NodeID key)
    (hknows : Knows { world with machine := machine } command) :
    Consistent pairing { world with machine := machine, command := command } where
  stores := ⟨entry, hstores⟩
  servers := hconsistent.servers
  authenticates := (@authenticates_iff_entry { world with machine := machine, command := command }
    entry hstores).2 hauthenticates
  command := by
    cases command with
    | enroll args pc => cases pc <;> exact hknows
    | idle | uninstall => trivial

/-- Only a server moves. -/
theorem Consistent.setServer (hconsistent : Consistent pairing world) {url : String}
    {label : Label Frame StepEnv Mint} {server : Server}
    (hstep : (pairingService (pairing url)).system.step (world.servers url) label = some server) :
    Consistent pairing { world with servers := Function.update world.servers url server } := by
  obtain ⟨hgrounded, hnodes⟩ := servers_step hconsistent.servers hstep
  have hregistered : ∀ url' nodeId key, Registered world url' nodeId key →
      Registered { world with servers := Function.update world.servers url server } url' nodeId key :=
    fun _ _ _ => Registered.mono hnodes
  refine ⟨hconsistent.stores, hgrounded, ?_, ?_⟩
  · intro cfg key henrolled hload
    exact hregistered _ _ _ (hconsistent.authenticates cfg key henrolled hload)
  · have hknows := hconsistent.command
    show Knows _ world.command
    cases hcommand : world.command with
    | idle | uninstall => trivial
    | enroll args pc =>
        rw [hcommand] at hknows
        cases pc with
        | loadOrCreate => trivial
        | hostFacts priv => exact hknows
        | request priv name host => exact hknows
        | response priv name call => exact ⟨hknows.1, Enrolling.step hknows.2 hstep⟩
        | save priv name result => exact ⟨hknows.1, hregistered _ _ _ hknows.2⟩

/-! ## Steps -/

/-- The command ends, and leaves the machine as it is. -/
theorem Consistent.finish (hconsistent : Consistent pairing world) (printed : Except String String) :
    Consistent pairing (world.finish world.machine printed) := by
  obtain ⟨entry, hentry⟩ := hconsistent.stores
  exact hconsistent.setMachine hentry
    ((authenticates_iff_entry hentry).1 hconsistent.authenticates) trivial

theorem loadOrCreate_consistent {args : EnrollArgs} (hconsistent : Consistent pairing world)
    (hcommand : world.command = .enroll args .loadOrCreate)
    (husable : env.identity.keychainUsable = true)
    (hcalm : mintsOverEnrollment world (.step env) = false)
    (hstep : enrollCmdStep pairing env args world .loadOrCreate = some next) :
    Consistent pairing next := by
  obtain ⟨entry, hentry⟩ := hconsistent.stores
  have hregistered := (authenticates_iff_entry hentry).1 hconsistent.authenticates
  have hcreated := @loadOrCreate_created env.identity entry none
  simp only [enrollCmdStep] at hstep
  rw [show world.machine.stores = storing entry none from hentry] at hstep
  generalize loadOrCreate env.identity (storing entry none) = result at hcreated hstep
  cases hcreated with
  | found key hstored =>
      rw [← Option.some.inj hstep]
      have hkey : entry = some key := hstored.resolve_right (by simp)
      subst hkey
      exact hconsistent.setMachine rfl hregistered rfl
  | failed error =>
      rw [← Option.some.inj hstep]
      exact hconsistent.setMachine rfl hregistered trivial
  | minted key hdraw hnone hread hfile =>
      rw [← Option.some.inj hstep]
      refine hconsistent.setMachine rfl (fun cfg other henrolled _ => ?_) rfl
      -- the machine is not enrolled, or this step is the one that is excluded
      have hmints : mintsOverEnrollment world (.step env) = true := by
        simp only [mintsOverEnrollment, hcommand]
        rw [show world.machine.stores = storing entry none from hentry, hnone, hread, hdraw,
          show world.machine.config.enrolled = some cfg from henrolled]
        rfl
      rw [hcalm] at hmints
      cases hmints
  | mintedFile key hdraw hnone hread hfile hwrite =>
      -- the keychain works, so nothing is written to the file
      obtain ⟨hget, hset, -⟩ := keychainUsable_iff.1 husable
      rw [hget, hset] at hnone
      simp at hnone

theorem enrollCmdStep_consistent {args : EnrollArgs} {pc : EnrollCmdPc}
    (hconsistent : Consistent pairing world) (hcommand : world.command = .enroll args pc)
    (husable : env.identity.keychainUsable = true)
    (hcalm : mintsOverEnrollment world (.step env) = false)
    (hstep : enrollCmdStep pairing env args world pc = some next) : Consistent pairing next := by
  have hknows := hconsistent.command
  rw [hcommand] at hknows
  cases pc with
  | loadOrCreate => exact loadOrCreate_consistent hconsistent hcommand husable hcalm hstep
  | hostFacts priv =>
      simp only [enrollCmdStep] at hstep
      split at hstep <;> cases hstep
      · exact hconsistent.finish _
      · exact hconsistent.setCommand hknows
  | request priv name host =>
      simp only [enrollCmdStep] at hstep
      split at hstep
      · cases hstep
        exact hconsistent.finish _
      · obtain ⟨server, hserver, rfl⟩ := Option.map_eq_some_iff.1 hstep
        refine (hconsistent.setServer hserver).setCommand ⟨hknows, ?_⟩
        refine ⟨enrollRequest args priv name host, .start, .untouched, ?_, rfl⟩
        show (Function.update world.servers args.server server args.server).frames env.call = _
        rw [Function.update_self]
        exact started_frame hserver
  | response priv name call =>
      simp only [enrollCmdStep] at hstep
      split at hstep
      · cases hstep
        exact hconsistent.finish _
      · split at hstep <;> cases hstep
        case h_1 input nodeId orgId orgName effects hframe =>
          obtain ⟨hholds, input', pc', effects', hframe', hpublic⟩ := hknows
          rw [hframe] at hframe'
          cases hframe'
          exact hconsistent.setCommand
            ⟨hholds, returned_registered (hconsistent.servers args.server) hframe hpublic⟩
        · exact hconsistent.finish _
  | save priv name result =>
      obtain ⟨hholds, hregistered⟩ := hknows
      have hold := (authenticates_iff_entry hholds).1 hconsistent.authenticates
      simp only [enrollCmdStep, save] at hstep
      split at hstep
      case h_1 config err hsave =>
        split at hsave <;> cases hsave
        cases hstep
        exact hconsistent.setMachine hholds hold trivial
      case h_2 config hsave =>
        split at hsave <;> cases hsave
        cases hstep
        refine hconsistent.setMachine hholds (fun cfg key henrolled hkey => ?_) trivial
        rw [← Option.some.inj hkey]
        unfold ConfigFile.enrolled at henrolled
        split at henrolled
        case h_1 saved hsaved =>
          cases hsaved
          split at henrolled <;> cases henrolled
          exact hregistered
        · cases henrolled
        · cases henrolled

/-- An enrollment that is there after `clearEnrollment` was there before. -/
theorem enrolled_of_clearEnrollment {config : ConfigFile} {cfg : Config}
    (henrolled : (clearEnrollment env config).1.enrolled = some cfg) :
    config.enrolled = some cfg := by
  cases hstat : env.stat <;> cases hsave : env.save <;> cases config <;>
    simp_all [clearEnrollment, save, enrolled_blank]

theorem uninstallCmdStep_consistent (hconsistent : Consistent pairing world)
    (husable : env.identity.keychainUsable = true) (pc : UninstallPc) :
    Consistent pairing (uninstallCmdStep env world pc) := by
  obtain ⟨entry, hentry⟩ := hconsistent.stores
  have hregistered := (authenticates_iff_entry hentry).1 hconsistent.authenticates
  cases pc with
  | service => exact hconsistent.setCommand trivial
  | deleteEntry svcErr =>
      have hstores : (deleteEntry env.identity world.machine.stores).1 = storing none none := by
        rw [deleteEntry_stores, (keychainUsable_iff.1 husable).2.2, hentry]
        rfl
      exact hconsistent.setMachine hstores (fun _ _ _ hnone => by cases hnone) trivial
  | deleteFile svcErr errs =>
      have hstores : (deleteFile env.identity world.machine.stores).1 = storing entry none := by
        rw [deleteFile_stores, hentry]
        cases env.identity.remove <;> rfl
      simp only [uninstallCmdStep]
      split
      · exact hconsistent.setMachine hstores hregistered trivial
      · exact hconsistent.setMachine hstores hregistered trivial
  | clearEnrollment svcErr =>
      refine hconsistent.setMachine hentry (fun cfg key henrolled => ?_) trivial
      exact hregistered cfg key (enrolled_of_clearEnrollment henrolled)

/-- The identity gets lost. -/
theorem loseIdentity_consistent (hconsistent : Consistent pairing world)
    (hidle : world.command.isIdle = true) (lostEntry lostFile : Bool) :
    Consistent pairing { world with
      machine := { world.machine with stores := world.machine.stores.lose lostEntry lostFile } } := by
  obtain ⟨entry, hentry⟩ := hconsistent.stores
  have hregistered := (authenticates_iff_entry hentry).1 hconsistent.authenticates
  have hstores : world.machine.stores.lose lostEntry lostFile =
      storing (if lostEntry then none else entry) none := by
    rw [hentry]
    cases lostEntry <;> cases lostFile <;> rfl
  refine hconsistent.setMachine hstores ?_ ?_
  · intro cfg key henrolled hkey
    cases lostEntry with
    | false => exact hregistered cfg key henrolled hkey
    | true => cases hkey
  · cases hcommand : world.command with
    | idle => trivial
    | enroll | uninstall =>
        rw [hcommand] at hidle
        cases hidle

theorem consistent_step {label : WorldLabel} (hconsistent : Consistent pairing world)
    (hassumed : Assumed world label) (hcalm : mintsOverEnrollment world label = false)
    (hstep : (commandSystem pairing).step world label = some next) : Consistent pairing next := by
  cases label with
  | enroll args =>
      simp only [commandSystem, worldStep] at hstep
      split at hstep <;> cases hstep
      exact hconsistent.setCommand trivial
  | uninstall =>
      simp only [commandSystem, worldStep] at hstep
      split at hstep <;> cases hstep
      exact hconsistent.setCommand trivial
  | step env =>
      simp only [commandSystem, worldStep, commandStep] at hstep
      split at hstep
      · cases hstep
      case h_2 args pc hcommand =>
        exact enrollCmdStep_consistent hconsistent hcommand hassumed.1 hcalm hstep
      case h_3 pc hcommand =>
        rw [← Option.some.inj hstep]
        exact uninstallCmdStep_consistent hconsistent hassumed.1 pc
  | crash =>
      rw [← Option.some.inj hstep]
      exact hconsistent.setCommand trivial
  | loseIdentity entry file =>
      simp only [commandSystem, worldStep] at hstep
      split at hstep
      case isTrue hidle =>
        cases hstep
        exact loseIdentity_consistent hconsistent hidle entry file
      case isFalse => cases hstep
  | server url label =>
      obtain ⟨server, hserver, rfl⟩ := Option.map_eq_some_iff.1 hstep
      exact hconsistent.setServer hserver

/-- With a usable keychain and empty stores, the drawn key goes into the keychain. -/
theorem loadOrCreate_mints {env : IdentityEnv} {key : PrivateKey} (husable : env.keychainUsable = true)
    (hread : env.readFile = none) (hdraw : env.generateKey = .ok key) :
    loadOrCreate env (storing none none) = (storing (some key) none, .ok key) := by
  obtain ⟨hget, hset, -⟩ := keychainUsable_iff.1 husable
  simp [loadOrCreate, keyringGet, loadOrCreateFallback, loadFile, storeKey, storing, ErrNotFound,
    ErrNoIdentity, GoError.is, hget, hset, hread, hdraw]

/-- A key that is minted on an enrolled machine is not the key of its node. -/
theorem not_authenticates_of_mints {label : WorldLabel} (hassumed : Assumed world label)
    (hmints : mintsOverEnrollment world label = true)
    (hstep : (commandSystem pairing).step world label = some next) : ¬ Authenticates next := by
  cases label with
  | step env =>
      obtain ⟨husable, hfresh⟩ := hassumed
      simp only [mintsOverEnrollment] at hmints
      split at hmints
      case h_1 args hcommand =>
        simp only [Option.isNone_iff_eq_none, decide_eq_true_eq] at hmints
        obtain ⟨hconfig, hentry, hfile, hread, hdraw⟩ := hmints
        obtain ⟨cfg, hcfg⟩ := Option.isSome_iff_exists.1 hconfig
        obtain ⟨key, hkey⟩ := Option.isSome_iff_exists.1 hdraw
        have hgenerate : env.identity.generateKey = .ok key := by
          cases hresult : env.identity.generateKey with
          | ok drawn =>
              rw [hresult] at hkey
              rw [Option.some.inj hkey]
          | error failure =>
              rw [hresult] at hkey
              cases hkey
        have hstores : world.machine.stores = storing none none := by
          cases hbefore : world.machine.stores
          simp_all [storing]
        simp only [commandSystem, worldStep, commandStep, hcommand, enrollCmdStep] at hstep
        rw [hstores, loadOrCreate_mints husable hread hgenerate] at hstep
        intro hauthenticates
        rw [← Option.some.inj hstep] at hauthenticates
        -- no node of the server has the new key
        obtain ⟨node, hnode, -, hpublic⟩ := hauthenticates cfg key hcfg ((load_usable (some key)).2 rfl)
        exact hfresh cfg hcfg key hkey node hnode hpublic
      · cases hmints
  | enroll | uninstall | crash | loseIdentity | server => cases hmints

/-! ## Whole runs -/

/-- In every state of a run the stored key is the key of the configured node, exactly
if no `enroll` mints a key on a machine that is enrolled. -/
theorem authenticates_iff {databases : String → Database} {labels : List WorldLabel} {final : World}
    (hassumed : (commandSystem pairing).Along Assumed (World.fresh databases) labels)
    (hrun : (commandSystem pairing).run (World.fresh databases) labels = some final) :
    (∀ before after state, labels = before ++ after →
      (commandSystem pairing).run (World.fresh databases) before = some state →
        Authenticates state) ↔
      (commandSystem pairing).Along (fun world label => mintsOverEnrollment world label = false)
        (World.fresh databases) labels := by
  apply System.forall_states_iff_along (Consistent pairing) Authenticates _ _ _ _ hassumed hrun
  · exact fun _ => Consistent.authenticates
  · exact fun _ _ _ => consistent_step
  · intro world label next _ hsteps hmints
    exact not_authenticates_of_mints hsteps (by simpa using hmints)
  · exact consistent_fresh databases

/-! ## An enrollment that is rejected -/

/-- Everything works, this key is drawn, and the server's next call has this number. -/
def sampleCommandEnv (key : PrivateKey) (call : ℕ) : CommandEnv where
  identity := workingEnv key
  service := none
  hostFacts := .ok ⟨"gpu-box", "linux", "amd64", "6.1", "0.1.0", 64, 8⟩
  connection := none
  stat := none
  save := none
  call := call
  isPrint := fun _ => true

def sampleUrl : String := "http://hub:3001"

/-- A command `enroll` with this code.  The server makes so many steps for it after
its request, and then the command so many. -/
def enrollRun (code : String) (key : PrivateKey) (call serverSteps lastSteps : ℕ) :
    List WorldLabel :=
  .enroll ⟨code, sampleUrl, ""⟩ :: List.replicate 3 (.step (sampleCommandEnv key call)) ++
    List.replicate serverSteps (.server sampleUrl (.advance call sampleStep)) ++
      List.replicate lastSteps (.step (sampleCommandEnv key call))

/-- The machine enrolls with a code that the server has minted. -/
def enrolledRun : List WorldLabel :=
  .server sampleUrl (.ambient sampleMint) :: enrollRun "ABCD-2345" sampleKey 0 6 2

/-- Then it loses its identity, and is enrolled again with a code that nobody knows. -/
def rejectedRun : List WorldLabel :=
  enrolledRun ++ .loseIdentity true true :: enrollRun "WXYZ-2345" otherKey 1 4 1

instance (world : World) : ∀ label, Decidable (Assumed world label)
  | .step env => inferInstanceAs (Decidable (env.identity.keychainUsable = true ∧
      ∀ cfg ∈ world.machine.config.enrolled, ∀ key ∈ env.identity.generateKey.toOption,
        ∀ node ∈ (world.servers cfg.ServerURL).store.nodes.rows, node.publicKey ≠ key.publicKey))
  | .enroll _ | .uninstall | .crash | .loseIdentity _ _ | .server _ _ => isTrue trivial

/-- After the rejected request the machine has the old node id and a new key. -/
theorem enroll_mismatches :
    ¬ ∀ (pairing : String → PairingEnv) (databases : String → Database) (labels : List WorldLabel)
      (final : World),
      (commandSystem pairing).Along Assumed (World.fresh databases) labels →
      (commandSystem pairing).run (World.fresh databases) labels = some final →
      Authenticates final := by
  intro hclaim
  have hmachine : ((commandSystem fun _ => sampleEnv).run (World.fresh fun _ => sampleDb)
      rejectedRun).map (fun final =>
        (final.machine, (final.servers sampleUrl).store.nodes.rows.map Node.publicKey)) =
      some (⟨.saved ⟨sampleUrl, "00000000-0000-0000-0000-000000000002", "org_1", "gpu-box"⟩,
        storing (some otherKey) none⟩, [sampleKey.publicKey]) := by
    decide +kernel
  obtain ⟨final, hrun, hfinal⟩ := Option.map_eq_some_iff.1 hmachine
  obtain ⟨hmachine, hkeys⟩ := Prod.mk.inj hfinal
  have hauthenticates := hclaim _ _ rejectedRun final (by decide +kernel) hrun
  obtain ⟨node, hnode, -, hpublic⟩ := (authenticates_iff_entry
    (show final.holds (some otherKey) by rw [World.holds, hmachine])).1 hauthenticates _ otherKey
      (by rw [hmachine]; rfl) rfl
  have hkey : otherKey.publicKey ∈ [sampleKey.publicKey] := by
    rw [← hkeys, ← hpublic]
    exact List.mem_map_of_mem hnode
  exact absurd hkey (by decide +kernel)

/-- A first enrollment leaves a machine that can authenticate. -/
theorem authenticates_iff_enrolled :
    ∃ final, (commandSystem fun _ => sampleEnv).run (World.fresh fun _ => sampleDb) enrolledRun =
        some final ∧
      final.machine = ⟨.saved ⟨sampleUrl, "00000000-0000-0000-0000-000000000002", "org_1", "gpu-box"⟩,
        storing (some sampleKey) none⟩ ∧ Authenticates final := by
  have hmachine : ((commandSystem fun _ => sampleEnv).run (World.fresh fun _ => sampleDb)
      enrolledRun).map World.machine =
      some ⟨.saved ⟨sampleUrl, "00000000-0000-0000-0000-000000000002", "org_1", "gpu-box"⟩,
        storing (some sampleKey) none⟩ := by
    decide +kernel
  obtain ⟨final, hrun, hfinal⟩ := Option.map_eq_some_iff.1 hmachine
  have hall := (authenticates_iff (by decide +kernel) hrun).2 (by decide +kernel)
  exact ⟨final, hrun, hfinal, hall enrolledRun [] final (List.append_nil _).symm hrun⟩

end ModelHub.Agent
