import ModelHub.ControlPlane.PairingSafety

/-!
# What an enrolled node is made of

The node that a call of `enrollNode` has inserted consists of what the agent sent
and of the organization and the name in the row of its code.  That row keeps all
its columns but `used_at`, so what the call has read there is what a reader of the
table finds later.

Both are assertions about one call that the steps of the others do not disturb
(`tracedOutline`), next to what `PairingSafety` says of it.
-/

namespace ModelHub.ControlPlane

open Db Interleaving

variable {config : PairingEnv}

/-! ## The row of the code -/

/-- The row as it was before anybody used the code. -/
def asMinted (code : PairingCode) : PairingCode := setUsedAt none code

@[simp] theorem asMinted_setUsedAt (usedAt : Option Time) (code : PairingCode) :
    asMinted (setUsedAt usedAt code) = asMinted code := rfl

theorem columns_eq_of_asMinted {code code' : PairingCode} (hsame : asMinted code = asMinted code') :
    code.orgId = code'.orgId ∧ code.codeHash = code'.codeHash ∧ code.nodeName = code'.nodeName :=
  ⟨(congrArg PairingCode.orgId hsame :), (congrArg PairingCode.codeHash hsame :),
    (congrArg PairingCode.nodeName hsame :)⟩

/-- A statement that sets `used_at` leaves every row as it was otherwise. -/
theorem updatePairingCodes_asMinted {db : Database} {sel : PairingCode → Bool}
    {usedAt : Option Time} {code : PairingCode} (hcode : code ∈ db.pairingCodes.rows) :
    ∃ code' ∈ (db.updatePairingCodes sel (setUsedAt usedAt)
      (setUsedAt_identity usedAt)).pairingCodes.rows, asMinted code' = asMinted code :=
  ⟨Table.rewrite sel (setUsedAt usedAt) code, mem_updatePairingCodes.2 ⟨code, hcode, rfl⟩,
    Table.rewrite_same asMinted (asMinted_setUsedAt usedAt) code⟩

/-- No code is taken away, and no more of one is changed than `used_at`. -/
def KeepsCodes (db next : Database) : Prop :=
  ∀ code ∈ db.pairingCodes.rows, ∃ code' ∈ next.pairingCodes.rows, asMinted code' = asMinted code

theorem Move.keepsCodes {hash : String} {db next : Database} {effects effects' : Effects}
    (hmove : Move hash db effects next effects') : KeepsCodes db next := by
  intro code hcode
  cases hmove with
  | quiet => exact ⟨code, hcode, rfl⟩
  | claim now row hfound hunused => exact updatePairingCodes_asMinted hcode
  | release row => exact updatePairingCodes_asMinted hcode
  | redeem row => exact ⟨code, hcode, rfl⟩
  | insert row node hinsert =>
      obtain ⟨-, -, hcodes, -, -⟩ := insertNode_spec hinsert
      exact ⟨code, by rw [hcodes]; exact hcode, rfl⟩

theorem mint_keepsCodes {mint : Mint} {db next : Database}
    (hmint : (pairingService config).ambient mint db = some next) : KeepsCodes db next := by
  intro code hcode
  obtain ⟨-, -, expiresAt, hcodes, -⟩ := mint_extends hmint
  exact ⟨code, by rw [hcodes]; exact List.mem_append_left _ hcode, rfl⟩

/-- The row that a call holds is in the table, but for `used_at`. -/
def Effects.InTable (db : Database) (effects : Effects) : Prop :=
  ∀ row, effects.holding = some row → ∃ code ∈ db.pairingCodes.rows, asMinted code = asMinted row

theorem Effects.InTable.mono {db next : Database} {effects : Effects} (htable : effects.InTable db)
    (hkept : KeepsCodes db next) : effects.InTable next := by
  intro row hrow
  obtain ⟨code, hcode, hsame⟩ := htable row hrow
  obtain ⟨code', hcode', hsame'⟩ := hkept code hcode
  exact ⟨code', hcode', hsame'.trans hsame⟩

theorem Move.inTable {hash : String} {db next : Database} {effects effects' : Effects}
    (hmove : Move hash db effects next effects') (htable : effects.InTable db) :
    effects'.InTable next := by
  have hkept := htable.mono hmove.keepsCodes
  cases hmove with
  | quiet => exact hkept
  | claim now old hfound hunused =>
      intro row hrow
      obtain rfl : setUsedAt (some now) old = row := Option.some.inj hrow
      obtain ⟨hold, -⟩ := Table.withKey_eq_some.1 hfound
      rw [asMinted_setUsedAt]
      exact updatePairingCodes_asMinted hold
  | release =>
      intro row hrow
      cases hrow
  | redeem => exact hkept
  | insert => exact hkept

/-! ## The inserted node -/

/-- The step that inserts a node inserts the one that `enrolledNode` describes. -/
theorem enrollStep_inserted {input : EnrollInput} {env : StepEnv} {db next : Database}
    {pc pc' : EnrollPc} {effects : Effects} {row : PairingCode} {node : Node}
    (hconsistent : pc.Consistent input effects)
    (hstep : enrollStep config input env db pc effects = some (next, pc', .inserted row node)) :
    effects = .inserted row node ∨ node = enrolledNode input row.orgId row.nodeName env := by
  obtain ⟨hmove, -⟩ := enrollStep_move hconsistent hstep
  cases hmove with
  | quiet => exact Or.inl rfl
  | insert row node hinsert =>
      right
      -- a call that has redeemed its code stands before the insert
      cases pc with
      | insert orgId nodeName =>
          obtain ⟨row', heffects, rfl, rfl⟩ := hconsistent
          cases heffects
          simp only [enrollStep] at hstep
          split at hstep
          · cases hstep
          · cases hstep
            rfl
      | redeem pc =>
          cases pc with
          | claim | lookUp | checkExpiry | release => cases hconsistent
          | returned | threw => cases hstep
      | start | preCheck => cases hconsistent
      | orgLookUp =>
          obtain ⟨_, _, heffects, -⟩ := hconsistent
          cases heffects
      | returned | threw => cases hstep

/-- The node that a call has inserted is made of its request and of the row of its code. -/
def Frame.Made (frame : Frame) : Prop :=
  ∀ input pc row node, frame = .enroll input pc (.inserted row node) →
    ∃ env, node = enrolledNode input row.orgId row.nodeName env

theorem advance_made {env : StepEnv} {db next : Database} {frame frame' : Frame}
    (hconsistent : frame.Consistent) (hmade : frame.Made)
    (hstep : advance config env db frame = some (next, frame')) : frame'.Made := by
  intro input pc' row node hframe'
  subst hframe'
  cases frame with
  | redeem code pc effects =>
      simp only [advance, Option.map_eq_some_iff] at hstep
      obtain ⟨_, -, heq⟩ := hstep
      cases heq
  | enroll input pc effects =>
      simp only [advance, Option.map_eq_some_iff] at hstep
      obtain ⟨⟨db', _, _⟩, henroll, heq⟩ := hstep
      cases heq
      rcases enrollStep_inserted hconsistent henroll with rfl | hnode
      · exact hmade _ pc row node rfl
      · exact ⟨env, hnode⟩

/-! ## In any interleaving -/

/-- What a call can say of its code and its node. -/
structure Traced (config : PairingEnv) (db : Database) (frame : Frame) : Prop where
  grounded : Grounded config db frame
  code : frame.effects.InTable db
  node : frame.Made

theorem tracedOutline : (pairingService config).Outline (fun _ => True) (Traced config) where
  entry := by
    intro db frame hstore hentry
    obtain ⟨-, huntouched⟩ := Frame.Consistent.of_isStart hentry
    refine ⟨outline.entry _ _ hstore hentry, fun row hrow => ?_, fun input pc row node hframe => ?_⟩
    · rw [huntouched] at hrow
      cases hrow
    · subst hframe
      cases huntouched
  advance_store := by
    intros
    trivial
  advance_frame := by
    intro env db frame next frame' hstore htraced hadvance
    obtain ⟨hmove, -, -⟩ := advance_move htraced.grounded.1 hadvance
    exact ⟨outline.advance_frame _ _ _ _ _ hstore htraced.grounded hadvance,
      hmove.inTable htraced.code, advance_made htraced.grounded.1 htraced.node hadvance⟩
  advance_stable := by
    intro env db frame next frame' other hstore htraced hother hadvance
    obtain ⟨hmove, -, -⟩ := advance_move htraced.grounded.1 hadvance
    exact ⟨outline.advance_stable _ _ _ _ _ _ hstore htraced.grounded hother.grounded hadvance,
      hother.code.mono hmove.keepsCodes, hother.node⟩
  ambient_store := by
    intros
    trivial
  ambient_stable := by
    intro mint db next frame hstore htraced hmint
    exact ⟨outline.ambient_stable _ _ _ _ hstore htraced.grounded hmint,
      htraced.code.mono (mint_keepsCodes hmint), htraced.node⟩

/-- Every call of this state can say so. -/
abbrev AllTraced (config : PairingEnv) : PairingState → Prop :=
  Service.Holds (fun _ => True) (Traced config)

/-- A call of `enrollNode` that has returned has created the node whose id it returns.
Its code and its node are found in the tables, and the node is made of its request
and of its code. -/
theorem returned_node {state : PairingState} {call : ℕ} {input : EnrollInput} {nodeId : Uuid}
    {orgId orgName : String} {effects : Effects} (htraced : AllTraced config state)
    (hframe : state.frames call = some (.enroll input (.returned nodeId orgId orgName) effects)) :
    ∃ claimed row node env, effects = .inserted claimed node ∧ nodeId = node.id ∧
      state.store.pairingCodes.withKey (hashCode config input.pairingCode) = some row ∧
      state.store.nodes.withKey input.publicKey = some node ∧
      node = enrolledNode input row.orgId row.nodeName env := by
  have hcall := htraced.2 call _ hframe
  obtain ⟨hconsistent, hsound⟩ := hcall.grounded
  obtain ⟨claimed, node, rfl, -, hid, hpublic⟩ := hconsistent
  obtain ⟨code, hcode, hsame⟩ := hcall.code claimed rfl
  obtain ⟨env, hnode⟩ := hcall.node input _ claimed node rfl
  obtain ⟨horg, hcodeHash, hname⟩ := columns_eq_of_asMinted hsame
  have hhash : code.codeHash = hashCode config input.pairingCode :=
    hcodeHash.trans (hsound.held claimed rfl).1
  refine ⟨claimed, code, node, env, rfl, hid, Table.withKey_eq_some.2 ⟨hcode, hhash⟩,
    Table.withKey_eq_some.2 ⟨(hsound.node claimed node rfl).2, hpublic⟩, ?_⟩
  rw [hnode, horg, hname]

end ModelHub.ControlPlane
