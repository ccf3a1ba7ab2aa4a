import ModelHub.Agent.Identity
import ModelHub.ControlPlane.Enrollment
import ModelHub.ControlPlane.Wire

/-!
# The agent's commands

The commands `enroll` and `uninstall` of `agent/cmd/agent/main.go`, over
`agent/internal/config`: what a machine keeps is `config.json`, which says which node
it is, and the two stores of its identity.

`commandSystem` puts a machine together with the control planes it talks to.  One
command runs at a time, one system call or request at a step; it may crash between
any two steps, and between commands the identity may get lost.  A request of
`enroll` starts a call of `enrollNode` at the server of the given URL, which then runs
by the server's own steps, whatever becomes of the command that waits for it.
-/

namespace ModelHub.Agent

open ControlPlane Db Interleaving Transition

/-! ## config.json -/

structure Config where
  ServerURL : String
  NodeID : String
  OrgID : String
  NodeName : String
  deriving DecidableEq, Repr

/-- Whether this agent has an identity the server knows about. -/
def Config.Enrolled (cfg : Config) : Bool := cfg.NodeID ≠ "" ∧ cfg.ServerURL ≠ ""

def Config.blank : Config := ⟨"", "", "", ""⟩

/-- The file as `Load` reads it. -/
inductive ConfigFile where
  | missing
  | corrupt
  | saved (cfg : Config)
  deriving DecidableEq, Repr

/-- The config of an enrolled machine. -/
def ConfigFile.enrolled : ConfigFile → Option Config
  | .saved cfg => if cfg.Enrolled then some cfg else none
  | .missing => none
  | .corrupt => none

/-- What a machine keeps. -/
structure Machine where
  config : ConfigFile
  stores : Stores
  deriving DecidableEq, Repr

/-! ## What the commands print -/

def hexDigits (width n : ℕ) : List Char :=
  (List.range width).reverse.map fun place => Nat.digitChar (n / 16 ^ place % 16)

/-- `strconv.IsPrint`; `isPrint` decides the characters beyond ASCII. -/
def printable (isPrint : Char → Bool) (r : Char) : Bool :=
  if r.toNat < 0x80 then 0x20 ≤ r.toNat ∧ r.toNat < 0x7F else isPrint r

/-- A character as `%q` writes it. -/
def appendEscapedRune (isPrint : Char → Bool) (r : Char) : List Char :=
  if r = '"' ∨ r = '\\' then ['\\', r]
  else if printable isPrint r then [r]
  else if r.toNat = 7 then ['\\', 'a']
  else if r.toNat = 8 then ['\\', 'b']
  else if r.toNat = 12 then ['\\', 'f']
  else if r = '\n' then ['\\', 'n']
  else if r = '\r' then ['\\', 'r']
  else if r = '\t' then ['\\', 't']
  else if r.toNat = 11 then ['\\', 'v']
  else if r.toNat < 0x20 ∨ r.toNat = 0x7F then '\\' :: 'x' :: hexDigits 2 r.toNat
  else if r.toNat < 0x10000 then '\\' :: 'u' :: hexDigits 4 r.toNat
  else '\\' :: 'U' :: hexDigits 8 r.toNat

/-- `%q` -/
def quote (isPrint : Char → Bool) (text : String) : String :=
  String.ofList ('"' :: (text.toList.flatMap (appendEscapedRune isPrint) ++ ['"']))

/-- What the steps of a command meet: how each of them fails, if it does, and the
number that the server gives to a request. -/
structure CommandEnv where
  identity : IdentityEnv
  /-- `service.Uninstall` -/
  service : Option String
  hostFacts : Except String ControlPlane.HostInfo
  connection : Option String
  stat : Option String
  save : Option String
  call : ℕ
  /-- Unicode's table behind `%q`. -/
  isPrint : Char → Bool

def save (env : CommandEnv) (cfg : Config) (config : ConfigFile) : ConfigFile × Option GoError :=
  match env.save with
  | some failure => (config, some (.other failure))
  | none => (.saved cfg, none)

/-- Blanks the enrollment in the config, if there is one. -/
def clearEnrollment (env : CommandEnv) (config : ConfigFile) : ConfigFile × Option GoError :=
  match env.stat with
  | some failure => (config, some (.other failure))
  | none =>
      match config with
      | .missing => (.missing, none)
      | config => save env .blank config

/-! ## uninstall -/

/-- What `uninstall` reports. -/
def uninstallResult (svcErr : Option String) (idErr : Option GoError) : Except String String :=
  match svcErr, idErr with
  | some svcErr, some idErr =>
      .error ("service removal failed (" ++ svcErr ++ "), and identity removal also failed: " ++
        idErr.text)
  | some svcErr, none =>
      .error ("identity and enrollment removed, but service removal failed " ++
        "(it may not have been installed): " ++ svcErr)
  | none, some idErr =>
      .error ("service removed, but this node's identity could not be fully removed: " ++ idErr.text)
  | none, none =>
      .ok "removed modelhub-agent service, deleted this node's identity, and cleared its enrollment\n"

/-- The whole command, if nothing interrupts it. -/
def uninstall (env : CommandEnv) (machine : Machine) : Machine × Except String String :=
  match delete env.identity machine.stores with
  | (stores, some idErr) => (⟨machine.config, stores⟩, uninstallResult env.service (some idErr))
  | (stores, none) =>
      match clearEnrollment env machine.config with
      | (config, idErr) => (⟨config, stores⟩, uninstallResult env.service idErr)

/-! ## Commands in steps -/

structure EnrollArgs where
  code : String
  server : String
  name : String
  deriving DecidableEq, Repr

structure EnrollResult where
  NodeID : String
  OrgID : String
  OrgName : String
  deriving DecidableEq, Repr

inductive EnrollCmdPc where
  | loadOrCreate
  | hostFacts (priv : PrivateKey)
  | request (priv : PrivateKey) (name : String) (host : ControlPlane.HostInfo)
  | response (priv : PrivateKey) (name : String) (call : ℕ)
  | save (priv : PrivateKey) (name : String) (result : EnrollResult)
  deriving DecidableEq, Repr

inductive UninstallPc where
  | service
  | deleteEntry (svcErr : Option String)
  | deleteFile (svcErr : Option String) (errs : List GoError)
  | clearEnrollment (svcErr : Option String)
  deriving DecidableEq, Repr

/-- The command that is running, or what the last one printed. -/
inductive Command where
  | idle (printed : Option (Except String String))
  | enroll (args : EnrollArgs) (pc : EnrollCmdPc)
  | uninstall (pc : UninstallPc)
  deriving DecidableEq

/-- The calls and tables of a control plane. -/
abbrev Server := State Database Frame

structure World where
  machine : Machine
  command : Command
  servers : String → Server

/-- A machine on which nothing was ever enrolled. -/
def World.fresh (databases : String → Database) : World where
  machine := ⟨.missing, ⟨none, none⟩⟩
  command := .idle none
  servers := fun url => .idle (databases url)

def World.finish (world : World) (machine : Machine) (printed : Except String String) : World :=
  { world with machine := machine, command := .idle (some printed) }

/-- A uuid as the database writes it. -/
def uuidText (id : Uuid) : String :=
  let hex := (List.range 32).map fun place => Nat.digitChar (id.toNat / 16 ^ (31 - place) % 16)
  String.ofList (hex.take 8 ++ '-' :: (hex.drop 8).take 4 ++ '-' :: (hex.drop 12).take 4 ++
    '-' :: (hex.drop 16).take 4 ++ '-' :: hex.drop 20)

/-- The error of an `Enroll` request as the agent sees it. -/
def rejection : ServerError → String
  | .pairingCode message => "invalid_argument: " ++ message
  | .enrollment message => "invalid_argument: " ++ message
  | .postgres _ => "internal: internal error"
  | .invalidDate => "internal: internal error"

/-- What `enroll` sends: only the public half of the key leaves the machine. -/
def enrollRequest (args : EnrollArgs) (priv : PrivateKey) (name : String)
    (host : ControlPlane.HostInfo) : EnrollInput where
  pairingCode := args.code
  publicKey := priv.publicKey
  nodeName := name
  host := hostColumns (some host)

section Steps

variable (pairing : String → PairingEnv) (env : CommandEnv)

/-- The next step of `enroll`; `none` while the server has not answered. -/
def enrollCmdStep (args : EnrollArgs) (world : World) : EnrollCmdPc → Option World
  | .loadOrCreate =>
      match loadOrCreate env.identity world.machine.stores with
      | (stores, .error err) =>
          some (world.finish { world.machine with stores := stores }
            (.error ("could not load this node's identity: " ++ err.text)))
      | (stores, .ok priv) =>
          some { world with
            machine := { world.machine with stores := stores }
            command := .enroll args (.hostFacts priv) }
  | .hostFacts priv =>
      match env.hostFacts with
      | .error failure =>
          some (world.finish world.machine (.error ("could not read host facts: " ++ failure)))
      | .ok host =>
          some { world with
            command := .enroll args (.request priv (orElse args.name host.hostname) host) }
  | .request priv name host =>
      match env.connection with
      | some failure => some (world.finish world.machine (.error ("enroll rejected: " ++ failure)))
      | none =>
          ((pairingService (pairing args.server)).system.step (world.servers args.server)
            (.start env.call (.enroll (enrollRequest args priv name host) .start .untouched))).map
              fun server => { world with
                command := .enroll args (.response priv name env.call)
                servers := Function.update world.servers args.server server }
  | .response priv name call =>
      match env.connection with
      -- the request gives up, or the answer is lost on its way
      | some failure => some (world.finish world.machine (.error ("enroll rejected: " ++ failure)))
      | none =>
          match (world.servers args.server).frames call with
          | some (.enroll _ (.returned nodeId orgId orgName) _) =>
              some { world with
                command := .enroll args (.save priv name ⟨uuidText nodeId, orgId, orgName⟩) }
          | some (.enroll _ (.threw error) _) =>
              some (world.finish world.machine (.error ("enroll rejected: " ++ rejection error)))
          | _ => none
  | .save _ name result =>
      match save env ⟨args.server, result.NodeID, result.OrgID, name⟩ world.machine.config with
      | (config, some err) =>
          some (world.finish { world.machine with config := config }
            (.error ("this node was enrolled into " ++ quote env.isPrint result.OrgName ++
              ", but the local config could not be saved: " ++ err.text ++
              " — do not request a new pairing code; " ++
              "this node's key is already registered with the server")))
      | (config, none) =>
          some (world.finish { world.machine with config := config }
            (.ok ("enrolled " ++ quote env.isPrint name ++ " into " ++ result.OrgName ++ "\n")))

/-- The next step of `uninstall`. -/
def uninstallCmdStep (world : World) : UninstallPc → World
  | .service => { world with command := .uninstall (.deleteEntry env.service) }
  | .deleteEntry svcErr =>
      match deleteEntry env.identity world.machine.stores with
      | (stores, errs) => { world with
          machine := { world.machine with stores := stores }
          command := .uninstall (.deleteFile svcErr errs) }
  | .deleteFile svcErr errs =>
      match deleteFile env.identity world.machine.stores with
      | (stores, fileErrs) =>
          match joinErrors (errs ++ fileErrs) with
          | some idErr =>
              world.finish { world.machine with stores := stores } (uninstallResult svcErr (some idErr))
          | none => { world with
              machine := { world.machine with stores := stores }
              command := .uninstall (.clearEnrollment svcErr) }
  | .clearEnrollment svcErr =>
      match clearEnrollment env world.machine.config with
      | (config, idErr) =>
          world.finish { world.machine with config := config } (uninstallResult svcErr idErr)

/-- The next step of the command that is running. -/
def commandStep (world : World) : Option World :=
  match world.command with
  | .idle _ => none
  | .enroll args pc => enrollCmdStep pairing env args world pc
  | .uninstall pc => some (uninstallCmdStep env world pc)

end Steps

def Command.isIdle : Command → Bool
  | .idle _ => true
  | _ => false

inductive WorldLabel where
  | enroll (args : EnrollArgs)
  | uninstall
  | step (env : CommandEnv)
  | crash
  /-- The keychain entry, the identity file, or both are gone. -/
  | loseIdentity (entry file : Bool)
  /-- A control plane does something. -/
  | server (url : String) (label : Label Frame StepEnv Mint)

/-- What is left of the stores after a loss. -/
def Stores.lose (stores : Stores) (entry file : Bool) : Stores where
  entry := if entry then none else stores.entry
  file := if file then none else stores.file

def worldStep (pairing : String → PairingEnv) (world : World) : WorldLabel → Option World
  | .enroll args =>
      if world.command.isIdle then some { world with command := .enroll args .loadOrCreate } else none
  | .uninstall =>
      if world.command.isIdle then some { world with command := .uninstall .service } else none
  | .step env => commandStep pairing env world
  | .crash => some { world with command := .idle none }
  | .loseIdentity entry file =>
      if world.command.isIdle then
        some { world with
          machine := { world.machine with stores := world.machine.stores.lose entry file } }
      else none
  | .server url label =>
      ((pairingService (pairing url)).system.step (world.servers url) label).map fun server =>
        { world with servers := Function.update world.servers url server }

/-- A machine, the commands run on it, and the control planes. -/
def commandSystem (pairing : String → PairingEnv) : System World WorldLabel := ⟨worldStep pairing⟩

end ModelHub.Agent
