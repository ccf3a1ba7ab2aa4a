import ModelHub.Agent.Commands

/-!
# What uninstall leaves behind

`uninstall` deletes the key from both stores, each on its own, and clears the
enrollment only if neither deletion failed.  So the enrollment survives its key when
the one deletion that failed had nothing to delete: on a machine without a usable
keychain the key is in the file, the keychain reports an error, and the file goes
(`uninstall_strands`).  It also survives when the config itself cannot be written.

`uninstall_not_stranded_iff` is the exact condition, and `uninstall_run` connects the
command as a whole to its steps.
-/

namespace ModelHub.Agent

open ControlPlane Transition

variable {env : CommandEnv} {machine : Machine}

/-- A key is left in one of the two stores. -/
def Stores.hasKey (stores : Stores) : Bool := stores.entry.isSome ∨ stores.file.isSome

/-- The config says that the machine is enrolled, and no key is left. -/
def Machine.stranded (machine : Machine) : Bool :=
  machine.config.enrolled.isSome ∧ ¬ machine.stores.hasKey

/-- A store that holds a key refuses to delete it. -/
def keyStays (env : CommandEnv) (stores : Stores) : Bool :=
  (stores.entry.isSome ∧ env.identity.keyringDelete.isSome) ∨
    (stores.file.isSome ∧ env.identity.remove.isSome)

/-- Both deletions and the writing of the config go through. -/
def nothingFails (env : CommandEnv) : Bool :=
  env.identity.keyringDelete.isNone ∧ env.identity.remove.isNone ∧ env.stat.isNone ∧ env.save.isNone

/-! ## The stores -/

theorem deleteEntry_stores (stores : Stores) : (deleteEntry env.identity stores).1 =
    { stores with entry := if env.identity.keyringDelete.isSome then stores.entry else none } := by
  unfold deleteEntry
  cases env.identity.keyringDelete <;> rfl

theorem deleteFile_stores (stores : Stores) : (deleteFile env.identity stores).1 =
    { stores with file := if env.identity.remove.isSome then stores.file else none } := by
  unfold deleteFile
  cases env.identity.remove <;> rfl

/-- Both halves of `Delete` run, whatever the first one reports. -/
theorem delete_stores (stores : Stores) : (delete env.identity stores).1 =
    ⟨if env.identity.keyringDelete.isSome then stores.entry else none,
      if env.identity.remove.isSome then stores.file else none⟩ := by
  show (deleteFile env.identity (deleteEntry env.identity stores).1).1 = _
  rw [deleteFile_stores, deleteEntry_stores]

theorem delete_succeeds_iff (stores : Stores) : (delete env.identity stores).2 = none ↔
    env.identity.keyringDelete = none ∧ env.identity.remove = none := by
  unfold delete deleteEntry deleteFile
  cases env.identity.keyringDelete <;> cases env.identity.remove <;> simp [joinErrors]

theorem uninstall_stores : (uninstall env machine).1.stores = (delete env.identity machine.stores).1 := by
  unfold uninstall
  split
  case h_1 stores idErr hdelete => rw [hdelete]
  case h_2 stores hdelete => rw [hdelete]

theorem uninstall_hasKey : (uninstall env machine).1.stores.hasKey = keyStays env machine.stores := by
  rw [uninstall_stores, delete_stores]
  unfold Stores.hasKey keyStays
  cases env.identity.keyringDelete <;> cases env.identity.remove <;> simp

/-! ## The enrollment -/

theorem enrolled_blank : (ConfigFile.saved .blank).enrolled = none := by decide

/-- The enrollment is still there unless it was cleared. -/
theorem clearEnrollment_enrolled {config : ConfigFile} (henrolled : config.enrolled.isSome) :
    (clearEnrollment env config).1.enrolled.isSome ↔ ¬ (env.stat = none ∧ env.save = none) := by
  cases config with
  | missing => cases henrolled
  | corrupt => cases henrolled
  | saved cfg =>
      unfold clearEnrollment save
      cases env.stat with
      | some failure => simpa using henrolled
      | none =>
          cases env.save with
          | some failure => simpa using henrolled
          | none => simp [enrolled_blank]

theorem uninstall_enrolled (henrolled : machine.config.enrolled.isSome) :
    (uninstall env machine).1.config.enrolled.isSome ↔ nothingFails env = false := by
  have hdelete := @delete_succeeds_iff env machine.stores
  have hcleared := @clearEnrollment_enrolled env _ henrolled
  have hfails : nothingFails env = false ↔ ¬ (env.identity.keyringDelete = none ∧
      env.identity.remove = none ∧ env.stat = none ∧ env.save = none) := by
    simp [nothingFails]
  rw [hfails]
  unfold uninstall
  split
  case h_1 stores idErr hresult =>
    have hnot : ¬ (env.identity.keyringDelete = none ∧ env.identity.remove = none) := by
      rw [← hdelete, hresult]
      simp
    refine iff_of_true henrolled fun hall => hnot ⟨hall.1, hall.2.1⟩
  case h_2 stores hresult =>
    have hboth := hdelete.1 (by rw [hresult])
    rw [hcleared]
    tauto

/-- An enrolled machine is left consistent exactly if a store refuses to delete the
key it holds, or everything goes through. -/
theorem uninstall_not_stranded_iff {env : CommandEnv} {machine : Machine}
    (henrolled : machine.config.enrolled.isSome) :
    (uninstall env machine).1.stranded = false ↔
      keyStays env machine.stores = true ∨ nothingFails env = true := by
  have hstranded : (uninstall env machine).1.stranded = true ↔
      nothingFails env = false ∧ keyStays env machine.stores = false := by
    rw [← uninstall_enrolled henrolled, ← uninstall_hasKey]
    simp [Machine.stranded]
  rw [← Bool.not_eq_true, hstranded, ← Bool.not_eq_true, ← Bool.not_eq_true]
  tauto

/-! ## The command and its steps -/

variable {pairing : String → PairingEnv}

theorem step_uninstall {world : World} {pc : UninstallPc} (hcommand : world.command = .uninstall pc) :
    (commandSystem pairing).step world (.step env) = some (uninstallCmdStep env world pc) := by
  simp only [commandSystem, worldStep, commandStep, hcommand]

/-- Undisturbed, the steps of `uninstall` do what the whole command does. -/
theorem uninstall_run {world : World} (hidle : world.command.isIdle) :
    ∃ count, (commandSystem pairing).run world (.uninstall :: List.replicate count (.step env)) =
      some (world.finish (uninstall env world.machine).1 (uninstall env world.machine).2) := by
  have hstart : (commandSystem pairing).step world .uninstall =
      some { world with command := .uninstall .service } := by
    simp only [commandSystem, worldStep, hidle, if_true]
  -- the config is only written, and only then is there a fourth step, if both deletions succeed
  have hrest : (commandSystem pairing).run { world with command := .uninstall .service }
      (List.replicate (if (delete env.identity world.machine.stores).2.isNone then 4 else 3)
        (.step env)) =
      some (world.finish (uninstall env world.machine).1 (uninstall env world.machine).2) := by
    cases hentry : env.identity.keyringDelete <;> cases hfile : env.identity.remove <;>
      simp [List.replicate_succ, System.run, step_uninstall, uninstallCmdStep, uninstall, delete,
        deleteEntry, deleteFile, joinErrors, World.finish, hentry, hfile]
  exact ⟨_, System.run_cons.2 ⟨_, hstart, hrest⟩⟩

/-! ## A machine without a keychain -/

/-- The agent of a headless box: its key is in the file. -/
def headlessMachine : Machine where
  config := .saved ⟨"http://hub:3001", "00000000-0000-0000-0000-000000000002", "org_1", "gpu-box"⟩
  stores := ⟨none, some (encodeKey (.repeating 1))⟩

/-- Every call of the keychain fails, everything else works. -/
def headlessEnv : CommandEnv where
  identity := ⟨some "no secret service", some "no secret service", some "no secret service", none,
    none, none, .error "no entropy"⟩
  service := none
  hostFacts := .error "no facts"
  connection := none
  stat := none
  save := none
  call := 0
  isPrint := fun _ => true

/-- `uninstall` deletes the only key and leaves the enrollment. -/
theorem uninstall_strands :
    ¬ ∀ (env : CommandEnv) (machine : Machine), machine.config.enrolled.isSome →
      machine.stores.hasKey → (uninstall env machine).1.stranded = false := by
  intro hclaim
  have hleft := hclaim headlessEnv headlessMachine (by decide) (by decide +kernel)
  exact absurd hleft (by decide +kernel)

/-- With a keychain that works, nothing is left. -/
theorem uninstall_not_stranded_iff_keychain :
    (uninstall { headlessEnv with identity := { headlessEnv.identity with keyringDelete := none } }
      headlessMachine).1.stranded = false ∧
    (uninstall { headlessEnv with identity := { headlessEnv.identity with keyringDelete := none } }
      headlessMachine).1 = ⟨.saved .blank, ⟨none, none⟩⟩ :=
  ⟨(uninstall_not_stranded_iff (by decide)).2 (Or.inr (by decide)), by decide +kernel⟩

end ModelHub.Agent
