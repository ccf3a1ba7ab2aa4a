import ModelHub.Agent.Commands

/-!
# The command `run`

`loadEnrolled` and the part of `runCmd` of `agent/cmd/agent/main.go` before the session:
the config has to name a node, and the identity has to be there.  `run` loads the key and
never makes one, since a new key would not be the key of the node.
-/

namespace ModelHub.Agent

/-- How reading `config.json` goes. -/
structure LoadEnv where
  /-- It fails, and not because there is no such file. -/
  readFile : Option String
  /-- What is wrong with a corrupt file. -/
  unmarshal : String

/-- A missing file is an empty (unenrolled) config. -/
def Load (env : LoadEnv) (config : ConfigFile) : Except GoError Config :=
  match env.readFile with
  | some failure => .error (.other failure)
  | none =>
      match config with
      | .missing => .ok .blank
      | .corrupt => .error (.other env.unmarshal)
      | .saved cfg => .ok cfg

def enrollHint : String := "run: modelhub-agent enroll --code XXXX-XXXX --server <url>"

def errNotEnrolled : String := "this node is not enrolled; " ++ enrollHint

/-- This node's config, or what to tell the operator. -/
def loadEnrolled (env : LoadEnv) (config : ConfigFile) : Except String Config :=
  match Load env config with
  | .error err => .error err.text
  | .ok cfg => if cfg.Enrolled then .ok cfg else .error errNotEnrolled

/-- Whom a session dials, and as whom. -/
structure Dial where
  ServerURL : String
  NodeID : String
  PrivateKey : PrivateKey
  deriving DecidableEq, Repr

/-- The command up to `Session.Run`. -/
def run (loadEnv : LoadEnv) (env : IdentityEnv) (machine : Machine) : Except String Dial :=
  match loadEnrolled loadEnv machine.config with
  | .error text => .error text
  | .ok cfg =>
      match load env machine.stores with
      | .ok priv => .ok ⟨cfg.ServerURL, cfg.NodeID, priv⟩
      | .error err =>
          if err.is .noIdentity then
            .error ("this node is enrolled as " ++ cfg.NodeID ++ ", but its identity is missing; " ++
              "re-enroll with: modelhub-agent enroll --code XXXX-XXXX --server " ++ cfg.ServerURL)
          else .error ("could not load this node's identity: " ++ err.text)

variable {loadEnv : LoadEnv} {env : IdentityEnv} {machine : Machine}

theorem loadEnrolled_ok {config : ConfigFile} {cfg : Config} :
    loadEnrolled loadEnv config = .ok cfg ↔ loadEnv.readFile = none ∧ config.enrolled = some cfg := by
  have hblank : Config.blank.Enrolled = false := by decide
  cases hread : loadEnv.readFile with
  | some failure => simp [loadEnrolled, Load, hread]
  | none =>
      rcases config with _ | _ | saved
      · simp [loadEnrolled, Load, hread, hblank, ConfigFile.enrolled]
      · simp [loadEnrolled, Load, hread, ConfigFile.enrolled]
      · by_cases henrolled : saved.Enrolled <;>
          simp [loadEnrolled, Load, hread, henrolled, ConfigFile.enrolled]

/-- The command dials for the node of the config with the stored key, or not at all. -/
theorem run_ok {dial : Dial} : run loadEnv env machine = .ok dial ↔
    ∃ cfg, loadEnv.readFile = none ∧ machine.config.enrolled = some cfg ∧
      load env machine.stores = .ok dial.PrivateKey ∧ dial.ServerURL = cfg.ServerURL ∧
      dial.NodeID = cfg.NodeID := by
  unfold run
  cases hloaded : loadEnrolled loadEnv machine.config with
  | error text =>
      simp only [reduceCtorEq, false_iff]
      rintro ⟨cfg, hread, henrolled, -⟩
      rw [loadEnrolled_ok.2 ⟨hread, henrolled⟩] at hloaded
      exact absurd hloaded (by simp)
  | ok cfg =>
      obtain ⟨hread, henrolled⟩ := loadEnrolled_ok.1 hloaded
      cases hload : load env machine.stores with
      | ok priv =>
          simp only [hread, henrolled, Option.some.injEq, true_and, exists_eq_left', Except.ok.injEq]
          constructor
          · rintro rfl
            exact ⟨rfl, rfl, rfl⟩
          · rintro ⟨rfl, hurl, hid⟩
            rw [← hurl, ← hid]
      | error err =>
          simp only
          split <;> simp

end ModelHub.Agent
