import ModelHub.ControlPlane.Enrollment

/-!
# A pairing code has one winner

The release in `redeemPairingCode` clears `used_at` by id, without a guard.  That
it never frees a code that somebody else has redeemed rests on ownership: the call
whose claim set `used_at` owns the code until it releases it, and only the owner
ever stands before the release.

The proof has three layers.

* `Move` is everything that one statement of a call can do to the tables, next to
  what the call has to show for it (`Effects`); `advance_move` reads it off the
  program, for frames whose variables fit their place (`Consistent`).
* `outline`: no step disturbs what another call knows about the row it claimed and
  the node it inserted, because rows of codes keep their id, organization and hash.
* `exclusive`: the hash of a code is a resource, taken as long as `used_at` is set.

`pairingCode_single_use` then follows from `Exclusive.run`.
-/

namespace ModelHub.ControlPlane

open Db Interleaving Transition

variable {config : PairingEnv}

/-! ## What a statement does to the tables -/

/-- The row that a call has marked and not given back. -/
def Effects.holding : Effects → Option PairingCode
  | .untouched => none
  | .claimed row => some row
  | .released _ => none
  | .redeemed row => some row
  | .inserted row _ => some row

/-- One statement of a call for a code with this hash. -/
inductive Move (hash : String) : Database → Effects → Database → Effects → Prop where
  | quiet {db : Database} {effects : Effects} : Move hash db effects db effects
  | claim {db : Database} (now : Time) (row : PairingCode)
      (hfound : db.pairingCodes.withKey hash = some row) (hunused : row.usedAt = none) :
      Move hash db .untouched (claimCode hash now db) (.claimed (setUsedAt (some now) row))
  | release {db : Database} (row : PairingCode) :
      Move hash db (.claimed row) (releaseCode row.id db) (.released row)
  | redeem {db : Database} (row : PairingCode) :
      Move hash db (.claimed row) db (.redeemed row)
  | insert {db next : Database} (row : PairingCode) (node : Node)
      (hinsert : db.insertNode row.orgId node = .ok next) :
      Move hash db (.redeemed row) next (.inserted row node)

/-- The variables of a call fit the place where it stands. -/
def RedeemPc.Consistent (effects : Effects) : RedeemPc → Prop
  | .claim => effects = .untouched
  | .lookUp => effects = .untouched
  | .checkExpiry row => effects = .claimed row
  | .release row => effects = .claimed row
  | .returned orgId nodeName =>
      ∃ row, effects = .redeemed row ∧ orgId = row.orgId ∧ nodeName = row.nodeName
  | .threw _ => effects = .untouched ∨ ∃ row, effects = .claimed row ∨ effects = .released row

def EnrollPc.Consistent (input : EnrollInput) (effects : Effects) : EnrollPc → Prop
  | .start => effects = .untouched
  | .preCheck => effects = .untouched
  | .redeem pc => pc.Consistent effects
  | .insert orgId nodeName =>
      ∃ row, effects = .redeemed row ∧ orgId = row.orgId ∧ nodeName = row.nodeName
  | .orgLookUp orgId nodeId =>
      ∃ row node, effects = .inserted row node ∧ orgId = row.orgId ∧ nodeId = node.id ∧
        node.publicKey = input.publicKey
  | .returned nodeId orgId _ =>
      ∃ row node, effects = .inserted row node ∧ orgId = row.orgId ∧ nodeId = node.id ∧
        node.publicKey = input.publicKey
  | .threw _ => True

def Frame.Consistent : Frame → Prop
  | .redeem _ pc effects => pc.Consistent effects
  | .enroll input pc effects => pc.Consistent input effects

theorem Frame.Consistent.of_isStart {frame : Frame} (hstart : frame.isStart) :
    frame.Consistent ∧ frame.effects = .untouched := by
  cases frame with
  | redeem code pc effects =>
      obtain ⟨rfl, rfl⟩ : pc = .claim ∧ effects = .untouched := by simpa [isStart] using hstart
      exact ⟨rfl, rfl⟩
  | enroll input pc effects =>
      obtain ⟨rfl, rfl⟩ : pc = .start ∧ effects = .untouched := by simpa [isStart] using hstart
      exact ⟨rfl, rfl⟩

/-- Claiming finds the row with this hash, if it is not used yet. -/
theorem claim_head? {hash : String} {now : Time} {db : Database} {row : PairingCode}
    (hrow : (db.pairingCodes.updated (claimable hash) (setUsedAt (some now))).head? = some row) :
    ∃ old, db.pairingCodes.withKey hash = some old ∧ old.usedAt = none ∧
      row = setUsedAt (some now) old := by
  have hkey : ∀ code, claimable hash code → code.codeHash = hash := by
    intro code hcode
    have hboth : code.codeHash = hash ∧ code.usedAt = none := by simpa [claimable] using hcode
    exact hboth.1
  rw [Table.head?_updated hkey, Option.map_eq_some_iff] at hrow
  obtain ⟨old, hold, rfl⟩ := hrow
  obtain ⟨hfound, hclaimable⟩ := Option.filter_eq_some_iff.1 hold
  have hboth : old.codeHash = hash ∧ old.usedAt = none := by simpa [claimable] using hclaimable
  exact ⟨old, hfound, hboth.2, rfl⟩

theorem redeemStep_move {hash : String} {env : StepEnv} {db next : Database} {pc pc' : RedeemPc}
    {effects effects' : Effects} (hconsistent : pc.Consistent effects)
    (hstep : redeemStep hash env db pc effects = some (next, pc', effects')) :
    Move hash db effects next effects' ∧ pc'.Consistent effects' := by
  cases pc with
  | claim =>
      have huntouched : effects = .untouched := hconsistent
      subst huntouched
      simp only [redeemStep] at hstep
      split at hstep
      · cases hstep
        exact ⟨.quiet, Or.inl rfl⟩
      split at hstep
      case h_1 row hrow =>
        cases hstep
        obtain ⟨old, hfound, hunused, rfl⟩ := claim_head? hrow
        exact ⟨.claim _ _ hfound hunused, rfl⟩
      case h_2 =>
        cases hstep
        exact ⟨.quiet, rfl⟩
  | lookUp =>
      have huntouched : effects = .untouched := hconsistent
      subst huntouched
      simp only [redeemStep] at hstep
      split at hstep
      · cases hstep
        exact ⟨.quiet, Or.inl rfl⟩
      split at hstep <;> cases hstep <;> exact ⟨.quiet, Or.inl rfl⟩
  | checkExpiry row =>
      have hclaimed : effects = .claimed row := hconsistent
      subst hclaimed
      simp only [redeemStep] at hstep
      split at hstep <;> cases hstep
      · exact ⟨.quiet, rfl⟩
      · exact ⟨.redeem _, row, rfl, rfl, rfl⟩
  | release row =>
      have hclaimed : effects = .claimed row := hconsistent
      subst hclaimed
      simp only [redeemStep] at hstep
      split at hstep <;> cases hstep
      · exact ⟨.quiet, Or.inr ⟨row, Or.inl rfl⟩⟩
      · exact ⟨.release _, Or.inr ⟨row, Or.inr rfl⟩⟩
  | returned orgId nodeName => cases hstep
  | threw error => cases hstep

theorem EnrollPc.Consistent.awaitRedeem {input : EnrollInput} {pc : RedeemPc} {effects : Effects}
    (hconsistent : pc.Consistent effects) :
    (EnrollPc.awaitRedeem pc).Consistent input effects := by
  cases pc with
  | claim => exact hconsistent
  | lookUp => exact hconsistent
  | checkExpiry row => exact hconsistent
  | release row => exact hconsistent
  | returned orgId nodeName => exact hconsistent
  | threw error => trivial

theorem enrollStep_move {input : EnrollInput} {env : StepEnv} {db next : Database}
    {pc pc' : EnrollPc} {effects effects' : Effects} (hconsistent : pc.Consistent input effects)
    (hstep : enrollStep config input env db pc effects = some (next, pc', effects')) :
    Move (hashCode config input.pairingCode) db effects next effects' ∧
      pc'.Consistent input effects' := by
  cases pc with
  | start =>
      simp only [enrollStep] at hstep
      split at hstep <;> cases hstep
      · exact ⟨.quiet, trivial⟩
      · exact ⟨.quiet, hconsistent⟩
  | preCheck =>
      simp only [enrollStep] at hstep
      split at hstep
      · cases hstep
        exact ⟨.quiet, trivial⟩
      split at hstep <;> cases hstep
      · exact ⟨.quiet, trivial⟩
      · exact ⟨.quiet, hconsistent⟩
  | redeem pc =>
      simp only [enrollStep, Option.map_eq_some_iff] at hstep
      obtain ⟨⟨db', inner, effects''⟩, hredeem, heq⟩ := hstep
      cases heq
      obtain ⟨hmove, hinner⟩ := redeemStep_move hconsistent hredeem
      exact ⟨hmove, EnrollPc.Consistent.awaitRedeem hinner⟩
  | insert orgId nodeName =>
      obtain ⟨row, rfl, rfl, rfl⟩ := hconsistent
      simp only [enrollStep] at hstep
      split at hstep
      · cases hstep
        exact ⟨.quiet, trivial⟩
      case h_2 db' hinsert =>
        cases hstep
        have hnode : db.insertNode row.orgId (enrolledNode input row.orgId row.nodeName env) =
            .ok next := by
          unfold runInsert at hinsert
          split at hinsert
          · cases hinsert
          · exact hinsert
        exact ⟨.insert _ _ hnode, row, _, rfl, rfl, rfl, rfl⟩
  | orgLookUp orgId nodeId =>
      simp only [enrollStep] at hstep
      split at hstep <;> cases hstep
      · exact ⟨.quiet, trivial⟩
      · exact ⟨.quiet, hconsistent⟩
  | returned nodeId orgId orgName => cases hstep
  | threw error => cases hstep

/-- Each step of each call is one of the moves. -/
theorem advance_move {env : StepEnv} {db next : Database} {frame frame' : Frame}
    (hconsistent : frame.Consistent) (hstep : advance config env db frame = some (next, frame')) :
    Move (hashCode config frame.code) db frame.effects next frame'.effects ∧
      frame'.Consistent ∧ frame'.code = frame.code := by
  cases frame with
  | redeem code pc effects =>
      simp only [advance, Option.map_eq_some_iff] at hstep
      obtain ⟨⟨db', pc', effects'⟩, hredeem, heq⟩ := hstep
      cases heq
      obtain ⟨hmove, hpc⟩ := redeemStep_move hconsistent hredeem
      exact ⟨hmove, hpc, rfl⟩
  | enroll input pc effects =>
      simp only [advance, Option.map_eq_some_iff] at hstep
      obtain ⟨⟨db', pc', effects'⟩, henroll, heq⟩ := hstep
      cases heq
      obtain ⟨hmove, hpc⟩ := enrollStep_move hconsistent henroll
      exact ⟨hmove, hpc, rfl⟩

/-! ## What no statement takes away -/

/-- Codes keep their id, organization and hash, and nodes stay as they are. -/
structure Extends (db next : Database) : Prop where
  codes : ∀ code ∈ db.pairingCodes.rows,
    ∃ code' ∈ next.pairingCodes.rows, code'.identity = code.identity
  nodes : ∀ node ∈ db.nodes.rows, node ∈ next.nodes.rows

theorem Extends.refl (db : Database) : Extends db db :=
  ⟨fun code hcode => ⟨code, hcode, rfl⟩, fun _ hnode => hnode⟩

theorem Extends.trans {first second third : Database} (hfirst : Extends first second)
    (hsecond : Extends second third) : Extends first third := by
  refine ⟨fun code hcode => ?_, fun node hnode => hsecond.nodes node (hfirst.nodes node hnode)⟩
  obtain ⟨code', hcode', hsame⟩ := hfirst.codes code hcode
  obtain ⟨code'', hcode'', hsame'⟩ := hsecond.codes code' hcode'
  exact ⟨code'', hcode'', hsame'.trans hsame⟩

theorem extends_updatePairingCodes (db : Database) (sel : PairingCode → Bool)
    (set : PairingCode → PairingCode) (hset : ∀ code, (set code).identity = code.identity) :
    Extends db (db.updatePairingCodes sel set hset) := by
  refine ⟨fun code hcode => ?_, fun node hnode => hnode⟩
  exact ⟨Table.rewrite sel set code, mem_updatePairingCodes.2 ⟨code, hcode, rfl⟩,
    Table.rewrite_same PairingCode.identity hset code⟩

theorem Move.extends {hash : String} {db next : Database} {effects effects' : Effects}
    (hmove : Move hash db effects next effects') : Extends db next := by
  cases hmove with
  | quiet => exact Extends.refl _
  | claim now row hfound hunused => exact extends_updatePairingCodes _ _ _ _
  | release row => exact extends_updatePairingCodes _ _ _ _
  | redeem row => exact Extends.refl _
  | insert row node hinsert =>
      obtain ⟨-, -, hcodes, hnodes, -⟩ := insertNode_spec hinsert
      refine ⟨fun code hcode => ⟨code, ?_, rfl⟩, fun found hfound => ?_⟩
      · rw [hcodes]
        exact hcode
      · rw [hnodes]
        exact List.mem_append_left _ hfound

theorem mint_extends {mint : Mint} {db next : Database}
    (hmint : (pairingService config).ambient mint db = some next) :
    Extends db next ∧ next.nodes = db.nodes ∧ ∃ expiresAt,
      next.pairingCodes.rows = db.pairingCodes.rows ++ [mint.row config expiresAt] ∧
      hashCode config mint.code ∉ db.pairingCodes.rows.map PairingCode.codeHash := by
  simp only [pairingService, Option.map_eq_some_iff] at hmint
  obtain ⟨⟨next, code, expiresAt⟩, hok, rfl⟩ := hmint
  have hminted : mintPairingCode config mint db = .ok (next, code, expiresAt) := by
    revert hok
    cases mintPairingCode config mint db <;> simp [Except.toOption]
  obtain ⟨-, hnodes, -, hcodes, hfresh, -⟩ := mintPairingCode_spec hminted
  refine ⟨⟨fun code hcode => ⟨code, ?_, rfl⟩, fun node hnode => ?_⟩, hnodes, expiresAt, hcodes, hfresh⟩
  · rw [hcodes]
    exact List.mem_append_left _ hcode
  · rw [hnodes]
    exact hnode

/-! ## What a call knows about its row and its node -/

/-- The row that a call holds has the hash it asked for and is still in the
table, and the node it inserted is in the organization of that row. -/
structure Effects.Sound (db : Database) (hash : String) (effects : Effects) : Prop where
  held : ∀ row, effects.holding = some row →
    row.codeHash = hash ∧ ∃ code ∈ db.pairingCodes.rows, code.identity = row.identity
  node : ∀ row node, effects = .inserted row node →
    node.orgId = row.orgId ∧ node ∈ db.nodes.rows

theorem Effects.Sound.mono {db next : Database} {hash : String} {effects : Effects}
    (hsound : effects.Sound db hash) (hext : Extends db next) : effects.Sound next hash := by
  refine ⟨fun row hrow => ?_, fun row node heffects => ?_⟩
  · obtain ⟨hhash, code, hcode, hsame⟩ := hsound.held row hrow
    obtain ⟨code', hcode', hsame'⟩ := hext.codes code hcode
    exact ⟨hhash, code', hcode', hsame'.trans hsame⟩
  · obtain ⟨horg, hnode⟩ := hsound.node row node heffects
    exact ⟨horg, hext.nodes node hnode⟩

theorem Move.sound {hash : String} {db next : Database} {effects effects' : Effects}
    (hmove : Move hash db effects next effects') (hsound : effects.Sound db hash) :
    effects'.Sound next hash := by
  have hkept := hsound.mono hmove.extends
  cases hmove with
  | quiet => exact hsound
  | claim now row hfound hunused =>
      obtain ⟨hrow, hhash⟩ := Table.withKey_eq_some.1 hfound
      refine ⟨fun held hheld => ?_, fun _ _ heffects => by cases heffects⟩
      cases hheld
      refine ⟨hhash, ?_⟩
      exact (extends_updatePairingCodes db (claimable hash) (setUsedAt (some now)) _).codes row hrow
  | release row =>
      refine ⟨fun _ hheld => ?_, fun _ _ heffects => ?_⟩
      · cases hheld
      · cases heffects
  | redeem row =>
      refine ⟨fun held hheld => ?_, fun _ _ heffects => by cases heffects⟩
      cases hheld
      exact hkept.held _ rfl
  | insert row node hinsert =>
      obtain ⟨-, -, -, hnodes, horg⟩ := insertNode_spec hinsert
      refine ⟨fun held hheld => ?_, fun held new heffects => ?_⟩
      · cases hheld
        exact hkept.held _ rfl
      · cases heffects
        refine ⟨horg, ?_⟩
        rw [hnodes]
        simp

/-- The assertion that every call keeps through the steps of the others. -/
def Grounded (config : PairingEnv) (db : Database) (frame : Frame) : Prop :=
  frame.Consistent ∧ frame.effects.Sound db (hashCode config frame.code)

theorem outline : (pairingService config).Outline (fun _ => True) (Grounded config) where
  entry := by
    intro db frame _ hentry
    obtain ⟨hconsistent, huntouched⟩ := Frame.Consistent.of_isStart hentry
    refine ⟨hconsistent, ?_⟩
    rw [huntouched]
    refine ⟨fun _ hheld => ?_, fun _ _ heffects => ?_⟩
    · cases hheld
    · cases heffects
  advance_store := by
    intros
    trivial
  advance_frame := by
    intro env db frame next frame' _ hgrounded hadvance
    obtain ⟨hmove, hconsistent, hcode⟩ := advance_move hgrounded.1 hadvance
    refine ⟨hconsistent, ?_⟩
    rw [hcode]
    exact hmove.sound hgrounded.2
  advance_stable := by
    intro env db frame next frame' other _ hgrounded hother hadvance
    obtain ⟨hmove, -, -⟩ := advance_move hgrounded.1 hadvance
    exact ⟨hother.1, hother.2.mono hmove.extends⟩
  ambient_store := by
    intros
    trivial
  ambient_stable := by
    intro mint db next frame _ hgrounded hmint
    exact ⟨hgrounded.1, hgrounded.2.mono (mint_extends hmint).1⟩

/-! ## Ownership -/

/-- The code with this hash is marked as used. -/
def Used (db : Database) (hash : String) : Prop :=
  ∃ code ∈ db.pairingCodes.rows, code.codeHash = hash ∧ code.usedAt ≠ none

/-- A call owns a code from its claim to its release. -/
def Owns (frame : Frame) (hash : String) : Prop :=
  ∃ row, frame.effects.holding = some row ∧ row.codeHash = hash

theorem Used.claim {db : Database} {hash other : String} (now : Time) (hused : Used db other) :
    Used (claimCode hash now db) other := by
  obtain ⟨code, hcode, hhash, hsome⟩ := hused
  refine ⟨_, mem_updatePairingCodes.2 ⟨code, hcode, rfl⟩, ?_⟩
  unfold Table.rewrite
  split
  · exact ⟨hhash, Option.some_ne_none now⟩
  · exact ⟨hhash, hsome⟩

theorem used_claim {db : Database} {hash : String} {row : PairingCode} (now : Time)
    (hfound : db.pairingCodes.withKey hash = some row) (hunused : row.usedAt = none) :
    Used (claimCode hash now db) hash := by
  obtain ⟨hrow, hhash⟩ := Table.withKey_eq_some.1 hfound
  refine ⟨_, mem_updatePairingCodes.2 ⟨row, hrow, rfl⟩, ?_⟩
  rw [Table.rewrite_of_sel (by simp [claimable, hhash, hunused])]
  exact ⟨hhash, Option.some_ne_none now⟩

/-- A release leaves every code alone but the one that its call had claimed. -/
theorem Used.release {db : Database} {hash other : String} {row : PairingCode}
    (hsound : (Effects.claimed row).Sound db hash) (hne : row.codeHash ≠ other)
    (hused : Used db other) : Used (releaseCode row.id db) other := by
  obtain ⟨code, hcode, hhash, hsome⟩ := hused
  obtain ⟨-, held, hheld, hsame⟩ := hsound.held row rfl
  have hid : code.id ≠ row.id := by
    intro hid
    have hheldId : held.id = row.id := PairingCode.id_eq hsame
    have hcodeHeld : code = held := Table.eq_of_id hcode hheld (hid.trans hheldId.symm)
    have hheldHash : held.codeHash = row.codeHash := PairingCode.codeHash_eq hsame
    rw [hcodeHeld, hheldHash] at hhash
    exact hne hhash
  refine ⟨_, mem_updatePairingCodes.2 ⟨code, hcode, rfl⟩, ?_⟩
  rw [Table.rewrite_of_not_sel (by simpa using hid)]
  exact ⟨hhash, hsome⟩

theorem exclusive : (pairingService config).Exclusive (fun _ => True) (Grounded config) Owns Used where
  entry := by
    intro frame hash hentry howns
    obtain ⟨row, hheld, -⟩ := howns
    rw [(Frame.Consistent.of_isStart hentry).2] at hheld
    cases hheld
  acquire := by
    intro env db frame next frame' hash _ hgrounded hadvance howns hnot hused
    obtain ⟨hmove, -, -⟩ := advance_move hgrounded.1 hadvance
    obtain ⟨row, hheld, hhash⟩ := howns
    have hbefore : ∀ row, frame.effects.holding = some row → row.codeHash ≠ hash :=
      fun row hheld hhash => hnot ⟨row, hheld, hhash⟩
    -- only a claim makes a call an owner, and it finds the code unused
    generalize frame.effects = effects at hmove hbefore
    generalize frame'.effects = effects' at hmove hheld
    cases hmove with
    | quiet => exact hbefore row hheld hhash
    | claim now old hfound hunused =>
        cases hheld
        obtain ⟨hold, -⟩ := Table.withKey_eq_some.1 hfound
        obtain ⟨code, hcode, hcodeHash, hsome⟩ := hused
        rw [Table.eq_of_key hcode hold (hcodeHash.trans hhash.symm)] at hsome
        exact hsome hunused
    | release held => cases hheld
    | redeem held => exact hbefore row hheld hhash
    | insert held node hinsert => exact hbefore row hheld hhash
  mark := by
    intro env db frame next frame' hash _ hgrounded hadvance howns htaken
    obtain ⟨hmove, -, -⟩ := advance_move hgrounded.1 hadvance
    obtain ⟨row, hheld, hhash⟩ := howns
    have hbefore : ∀ row, frame.effects.holding = some row → row.codeHash = hash → Used db hash :=
      fun row hheld hhash => htaken ⟨row, hheld, hhash⟩
    generalize frame.effects = effects at hmove hbefore
    generalize frame'.effects = effects' at hmove hheld
    cases hmove with
    | quiet => exact hbefore row hheld hhash
    | claim now old hfound hunused =>
        cases hheld
        have hold : old.codeHash = hash := hhash
        have hasked : hashCode config frame.code = hash :=
          (Table.withKey_eq_some.1 hfound).2.symm.trans hold
        rw [hasked] at hfound ⊢
        exact used_claim now hfound hunused
    | release held => cases hheld
    | redeem held => exact hbefore row hheld hhash
    | insert held node hinsert =>
        obtain ⟨code, hcode, hcodeHash, hsome⟩ := hbefore row hheld hhash
        obtain ⟨-, -, hcodes, -, -⟩ := insertNode_spec hinsert
        exact ⟨code, by rw [hcodes]; exact hcode, hcodeHash, hsome⟩
  keep := by
    intro env db frame next frame' hash _ hgrounded hadvance hused hnot
    obtain ⟨hmove, -, -⟩ := advance_move hgrounded.1 hadvance
    have hsound := hgrounded.2
    have hother : ∀ row, frame.effects.holding = some row → row.codeHash ≠ hash :=
      fun row hheld hhash => hnot ⟨row, hheld, hhash⟩
    generalize frame.effects = effects at hmove hsound hother
    generalize frame'.effects = effects' at hmove
    cases hmove with
    | quiet => exact hused
    | claim now old hfound hunused => exact hused.claim now
    | release held => exact hused.release hsound (hother held rfl)
    | redeem held => exact hused
    | insert held node hinsert =>
        obtain ⟨code, hcode, hcodeHash, hsome⟩ := hused
        obtain ⟨-, -, hcodes, -, -⟩ := insertNode_spec hinsert
        exact ⟨code, by rw [hcodes]; exact hcode, hcodeHash, hsome⟩
  ambient := by
    intro mint db next hash _ hmint hused
    obtain ⟨-, -, expiresAt, hcodes, -⟩ := mint_extends hmint
    obtain ⟨code, hcode, hcodeHash, hsome⟩ := hused
    exact ⟨code, by rw [hcodes]; exact List.mem_append_left _ hcode, hcodeHash, hsome⟩

/-! ## Runs -/

/-- Calls, organizations and tables of the pairing service. -/
abbrev PairingState := State Database Frame

abbrev PairingLabel := Label Frame StepEnv Mint

/-- Every call stands where its variables and the tables say. -/
abbrev AllGrounded (config : PairingEnv) : PairingState → Prop :=
  Service.Holds (fun _ => True) (Grounded config)

theorem allGrounded_run {start final : PairingState} {labels : List PairingLabel}
    (hstart : AllGrounded config start)
    (hrun : (pairingService config).system.run start labels = some final) :
    AllGrounded config final :=
  outline.run hstart hrun

theorem allGrounded_idle (db : Database) : AllGrounded config (State.idle db) :=
  Service.holds_idle trivial

/-- A step starts a call, moves one, or mints a code. -/
theorem pairing_step {state next : PairingState} {label : PairingLabel}
    (hgrounded : AllGrounded config state)
    (hstep : (pairingService config).system.step state label = some next) :
    (∃ call frame, label = .start call frame ∧ frame.isStart ∧ state.frames call = none ∧
      next = state.setFrame call state.store frame) ∨
    (∃ call env frame db frame', label = .advance call env ∧ state.frames call = some frame ∧
      advance config env state.store frame = some (db, frame') ∧
      Move (hashCode config frame.code) state.store frame.effects db frame'.effects ∧
      frame'.code = frame.code ∧ next = state.setFrame call db frame') ∨
    (∃ mint db, label = .ambient mint ∧
      (pairingService config).ambient mint state.store = some db ∧
      next = { state with store := db }) := by
  rcases Service.step_cases hstep with ⟨call, frame, hlabel, hentry, hnone, hnext⟩ |
    ⟨call, env, frame, db, frame', hlabel, hframe, hadvance, hnext⟩ |
    ⟨mint, db, hlabel, hambient, hnext⟩
  · exact Or.inl ⟨call, frame, hlabel, hentry, hnone, hnext⟩
  · obtain ⟨hmove, -, hcode⟩ := advance_move (hgrounded.2 call frame hframe).1 hadvance
    exact Or.inr (Or.inl
      ⟨call, env, frame, db, frame', hlabel, hframe, hadvance, hmove, hcode, hnext⟩)
  · exact Or.inr (Or.inr ⟨mint, db, hlabel, hambient, hnext⟩)

theorem extends_step {state next : PairingState} {label : PairingLabel}
    (hgrounded : AllGrounded config state)
    (hstep : (pairingService config).system.step state label = some next) :
    Extends state.store next.store := by
  rcases pairing_step hgrounded hstep with ⟨call, frame, -, -, -, rfl⟩ |
    ⟨call, env, frame, db, frame', -, -, -, hmove, -, rfl⟩ | ⟨mint, db, -, hmint, rfl⟩
  · exact Extends.refl _
  · exact hmove.extends
  · exact (mint_extends hmint).1

theorem extends_run {start final : PairingState} {labels : List PairingLabel}
    (hstart : AllGrounded config start)
    (hrun : (pairingService config).system.run start labels = some final) :
    Extends start.store final.store := by
  have hinv := System.run_invariant
    (fun state => AllGrounded config state ∧ Extends start.store state.store)
    (fun state label next hinv hstep =>
      ⟨outline.step hinv.1 hstep, hinv.2.trans (extends_step hinv.1 hstep)⟩)
    ⟨hstart, Extends.refl _⟩ hrun
  exact hinv.2

/-! ### A successful redemption is for good -/

/-- The call has redeemed its code. -/
def Effects.Won : Effects → Prop
  | .redeemed _ => True
  | .inserted _ _ => True
  | _ => False

theorem Effects.Won.holding {effects : Effects} (hwon : effects.Won) :
    ∃ row, effects.holding = some row := by
  cases effects with
  | untouched => exact hwon.elim
  | claimed row => exact hwon.elim
  | released row => exact hwon.elim
  | redeemed row => exact ⟨row, rfl⟩
  | inserted row node => exact ⟨row, rfl⟩

theorem Move.won {hash : String} {db next : Database} {effects effects' : Effects}
    (hmove : Move hash db effects next effects') (hwon : effects.Won) : effects'.Won := by
  cases hmove with
  | quiet => exact hwon
  | claim now row hfound hunused => exact hwon.elim
  | release row => exact hwon.elim
  | redeem row => trivial
  | insert row node hinsert => trivial

theorem Frame.RedeemSucceeded.won {frame : Frame} (hconsistent : frame.Consistent)
    (hsucceeded : frame.RedeemSucceeded) : frame.effects.Won := by
  cases frame with
  | redeem code pc effects =>
      obtain ⟨orgId, nodeName, rfl⟩ := hsucceeded
      obtain ⟨row, rfl, -, -⟩ := hconsistent
      trivial
  | enroll input pc effects =>
      obtain ⟨row, rfl | ⟨node, rfl⟩⟩ := hsucceeded
      · trivial
      · trivial

/-- A call that has redeemed its code shows it, wherever it stands. -/
theorem Effects.Won.succeeded {frame : Frame} (hwon : frame.effects.Won)
    (hconsistent : frame.Consistent) : frame.RedeemSucceeded := by
  cases frame with
  | redeem code pc effects =>
      have hnotUntouched : effects ≠ .untouched := fun heffects => by
        rw [heffects] at hwon
        exact hwon
      have hnotClaimed : ∀ row, effects ≠ .claimed row := fun row heffects => by
        rw [heffects] at hwon
        exact hwon
      cases pc with
      | claim => exact absurd hconsistent hnotUntouched
      | lookUp => exact absurd hconsistent hnotUntouched
      | checkExpiry row => exact absurd hconsistent (hnotClaimed row)
      | release row => exact absurd hconsistent (hnotClaimed row)
      | returned orgId nodeName => exact ⟨orgId, nodeName, rfl⟩
      | threw error =>
          rcases hconsistent with rfl | ⟨row, rfl | rfl⟩
          · exact hwon.elim
          · exact hwon.elim
          · exact hwon.elim
  | enroll input pc effects =>
      cases effects with
      | redeemed row => exact ⟨row, Or.inl rfl⟩
      | inserted row node => exact ⟨row, Or.inr ⟨node, rfl⟩⟩
      | untouched => exact hwon.elim
      | claimed row => exact hwon.elim
      | released row => exact hwon.elim

theorem Grounded.owns {db : Database} {frame : Frame} (hgrounded : Grounded config db frame)
    (hwon : frame.effects.Won) : Owns frame (hashCode config frame.code) := by
  obtain ⟨row, hheld⟩ := hwon.holding
  exact ⟨row, hheld, (hgrounded.2.held row hheld).1⟩

theorem won_run {start final : PairingState} {labels : List PairingLabel} {call : ℕ}
    {frame : Frame} (hstart : AllGrounded config start) (hframe : start.frames call = some frame)
    (hwon : frame.effects.Won)
    (hrun : (pairingService config).system.run start labels = some final) :
    ∃ frame', final.frames call = some frame' ∧ frame'.effects.Won ∧ frame'.code = frame.code := by
  have hinv := System.run_invariant (fun state => AllGrounded config state ∧
    ∃ frame', state.frames call = some frame' ∧ frame'.effects.Won ∧ frame'.code = frame.code)
    (fun state label next hinv hstep => ?_) ⟨hstart, frame, hframe, hwon, rfl⟩ hrun
  · exact hinv.2
  obtain ⟨hgrounded, found, hfound, hfoundWon, hcode⟩ := hinv
  refine ⟨outline.step hgrounded hstep, ?_⟩
  rcases pairing_step hgrounded hstep with ⟨other, new, -, -, hnone, rfl⟩ |
    ⟨other, env, old, db, new, -, hold, -, hmove, hsame, rfl⟩ | ⟨mint, db, -, -, rfl⟩
  · have hne : call ≠ other := by
      intro heq
      rw [heq, hnone] at hfound
      cases hfound
    exact ⟨found, by rwa [State.setFrame_frames_of_ne _ _ _ hne], hfoundWon, hcode⟩
  · by_cases heq : call = other
    · subst heq
      rw [hfound] at hold
      cases hold
      exact ⟨new, by simp, hmove.won hfoundWon, hsame.trans hcode⟩
    · exact ⟨found, by rwa [State.setFrame_frames_of_ne _ _ _ heq], hfoundWon, hcode⟩
  · exact ⟨found, hfound, hfoundWon, hcode⟩

/-! ### Where nodes and codes come from -/

theorem Move.created {hash : String} {db next : Database} {effects effects' : Effects} {node : Node}
    (hmove : Move hash db effects next effects') (hnode : node ∈ next.nodes.rows) :
    node ∈ db.nodes.rows ∨ ∃ row, effects' = .inserted row node := by
  cases hmove with
  | quiet => exact Or.inl hnode
  | claim now row hfound hunused => exact Or.inl hnode
  | release row => exact Or.inl hnode
  | redeem row => exact Or.inl hnode
  | insert row new hinsert =>
      obtain ⟨-, -, -, hnodes, -⟩ := insertNode_spec hinsert
      rw [hnodes, List.mem_append, List.mem_singleton] at hnode
      rcases hnode with hold | rfl
      · exact Or.inl hold
      · exact Or.inr ⟨row, rfl⟩

theorem Move.inserted {hash : String} {db next : Database} {effects effects' : Effects}
    {row : PairingCode} {node : Node} (hmove : Move hash db effects next effects')
    (heffects : effects = .inserted row node) : effects' = .inserted row node := by
  subst heffects
  cases hmove
  rfl

theorem Frame.created_eq_some {frame : Frame} {node : Node} :
    frame.created = some node ↔ ∃ row, frame.effects = .inserted row node := by
  unfold Frame.created
  cases frame.effects <;> simp

/-- Every node that was not there at the start was inserted by one of the calls. -/
theorem created_run {db : Database} {final : PairingState} {labels : List PairingLabel}
    (hrun : (pairingService config).system.run (State.idle db) labels = some final) :
    ∀ node ∈ final.store.nodes.rows, node ∈ db.nodes.rows ∨
      ∃ call frame, final.frames call = some frame ∧ frame.created = some node := by
  have hinv := System.run_invariant (fun state => AllGrounded config state ∧
    ∀ node ∈ state.store.nodes.rows, node ∈ db.nodes.rows ∨
      ∃ call frame, state.frames call = some frame ∧ frame.created = some node)
    (fun state label next hinv hstep => ?_)
    ⟨allGrounded_idle db, fun node hnode => Or.inl hnode⟩ hrun
  · exact hinv.2
  obtain ⟨hgrounded, hfrom⟩ := hinv
  refine ⟨outline.step hgrounded hstep, fun node hnode => ?_⟩
  rcases pairing_step hgrounded hstep with ⟨other, new, -, -, hnone, rfl⟩ |
    ⟨other, env, old, db', new, -, hold, -, hmove, -, rfl⟩ | ⟨mint, db', -, hmint, rfl⟩
  · rcases hfrom node hnode with hinitial | ⟨call, frame, hframe, hcreated⟩
    · exact Or.inl hinitial
    have hne : call ≠ other := by
      intro heq
      rw [heq, hnone] at hframe
      cases hframe
    exact Or.inr ⟨call, frame, by rwa [State.setFrame_frames_of_ne _ _ _ hne], hcreated⟩
  · rcases hmove.created hnode with hbefore | ⟨row, hinserted⟩
    · rcases hfrom node hbefore with hinitial | ⟨call, frame, hframe, hcreated⟩
      · exact Or.inl hinitial
      by_cases heq : call = other
      · subst heq
        rw [hframe] at hold
        cases hold
        obtain ⟨row, hrow⟩ := Frame.created_eq_some.1 hcreated
        exact Or.inr ⟨call, new, by simp, Frame.created_eq_some.2 ⟨row, hmove.inserted hrow⟩⟩
      · exact Or.inr ⟨call, frame, by rwa [State.setFrame_frames_of_ne _ _ _ heq], hcreated⟩
    · exact Or.inr ⟨other, new, by simp, Frame.created_eq_some.2 ⟨row, hinserted⟩⟩
  · rw [(mint_extends hmint).2.1] at hnode
    exact hfrom node hnode

/-- Whoever marks a code holds it: an unheld code is used only if it was before. -/
theorem Move.used {hash other : String} {db next : Database} {effects effects' : Effects}
    (hmove : Move hash db effects next effects') (hsound : effects.Sound db hash)
    (hused : Used next other) :
    (∃ row, effects'.holding = some row ∧ row.codeHash = other) ∨
      Used db other ∧ ∀ row, effects.holding = some row → row.codeHash ≠ other := by
  by_cases hheld : ∃ row, effects'.holding = some row ∧ row.codeHash = other
  · exact Or.inl hheld
  refine Or.inr ?_
  cases hmove with
  | quiet => exact ⟨hused, fun row hrow hhash => hheld ⟨row, hrow, hhash⟩⟩
  | claim now row hfound hunused =>
      refine ⟨?_, fun _ hrow => by cases hrow⟩
      obtain ⟨code, hcode, hcodeHash, hsome⟩ := hused
      obtain ⟨old, hold, rfl⟩ := mem_updatePairingCodes.1 hcode
      obtain ⟨-, hrowHash⟩ := Table.withKey_eq_some.1 hfound
      have hnot : ¬ claimable hash old := by
        intro hclaimable
        have hboth : old.codeHash = hash ∧ old.usedAt = none := by
          simpa [claimable] using hclaimable
        rw [Table.rewrite_of_sel hclaimable] at hcodeHash
        have hhash : old.codeHash = other := hcodeHash
        exact hheld ⟨_, rfl, hrowHash.trans (hboth.1.symm.trans hhash)⟩
      rw [Table.rewrite_of_not_sel hnot] at hcodeHash hsome
      exact ⟨old, hold, hcodeHash, hsome⟩
  | release row =>
      obtain ⟨code, hcode, hcodeHash, hsome⟩ := hused
      obtain ⟨old, hold, rfl⟩ := mem_updatePairingCodes.1 hcode
      obtain ⟨-, held, hmem, hsame⟩ := hsound.held row rfl
      have hnot : old.id ≠ row.id := by
        intro hid
        rw [Table.rewrite_of_sel (by simpa using hid)] at hsome
        exact hsome rfl
      rw [Table.rewrite_of_not_sel (by simpa using hnot)] at hcodeHash hsome
      refine ⟨⟨old, hold, hcodeHash, hsome⟩, fun found hfound hfoundHash => ?_⟩
      cases hfound
      have hheldHash : held.codeHash = row.codeHash := PairingCode.codeHash_eq hsame
      have hheldId : held.id = row.id := PairingCode.id_eq hsame
      have heq : old = held := Table.eq_of_key hold hmem
        (hcodeHash.trans (hheldHash.trans hfoundHash).symm)
      exact hnot (by rw [heq, hheldId])
  | redeem row => exact ⟨hused, fun found hfound hhash => hheld ⟨found, hfound, hhash⟩⟩
  | insert row node hinsert =>
      obtain ⟨-, -, hcodes, -, -⟩ := insertNode_spec hinsert
      obtain ⟨code, hcode, hcodeHash, hsome⟩ := hused
      rw [hcodes] at hcode
      exact ⟨⟨code, hcode, hcodeHash, hsome⟩,
        fun found hfound hhash => hheld ⟨found, hfound, hhash⟩⟩

/-- A code that was not used at the start is used only while some call holds it. -/
theorem used_run {db : Database} {final : PairingState} {labels : List PairingLabel}
    (hrun : (pairingService config).system.run (State.idle db) labels = some final) :
    ∀ hash, Used final.store hash →
      Used db hash ∨ ∃ call frame, final.frames call = some frame ∧ Owns frame hash := by
  have hinv := System.run_invariant (fun state => AllGrounded config state ∧
    ∀ hash, Used state.store hash →
      Used db hash ∨ ∃ call frame, state.frames call = some frame ∧ Owns frame hash)
    (fun state label next hinv hstep => ?_) ⟨allGrounded_idle db, fun _ hused => Or.inl hused⟩ hrun
  · exact hinv.2
  obtain ⟨hgrounded, hheld⟩ := hinv
  refine ⟨outline.step hgrounded hstep, fun hash hused => ?_⟩
  rcases pairing_step hgrounded hstep with ⟨other, new, -, -, hnone, rfl⟩ |
    ⟨other, env, old, db', new, -, hold, -, hmove, -, rfl⟩ | ⟨mint, db', -, hmint, rfl⟩
  · rcases hheld hash hused with hinitial | ⟨call, frame, hframe, howns⟩
    · exact Or.inl hinitial
    have hne : call ≠ other := by
      intro heq
      rw [heq, hnone] at hframe
      cases hframe
    exact Or.inr ⟨call, frame, by rwa [State.setFrame_frames_of_ne _ _ _ hne], howns⟩
  · rcases hmove.used (hgrounded.2 other old hold).2 hused with howns | ⟨hbefore, hnot⟩
    · exact Or.inr ⟨other, new, by simp, howns⟩
    rcases hheld hash hbefore with hinitial | ⟨call, frame, hframe, row, hrow, hhash⟩
    · exact Or.inl hinitial
    have hne : call ≠ other := by
      intro heq
      rw [heq, hold] at hframe
      cases hframe
      exact hnot row hrow hhash
    exact Or.inr ⟨call, frame, by rwa [State.setFrame_frames_of_ne _ _ _ hne], row, hrow, hhash⟩
  · obtain ⟨-, -, expiresAt, hcodes, -⟩ := mint_extends hmint
    obtain ⟨code, hcode, hcodeHash, hsome⟩ := hused
    have hcases : code ∈ state.store.pairingCodes.rows ++ [mint.row config expiresAt] :=
      hcodes ▸ hcode
    rcases List.mem_append.1 hcases with hold | hnew
    · exact hheld hash ⟨code, hold, hcodeHash, hsome⟩
    · rw [List.mem_singleton.1 hnew] at hsome
      exact absurd rfl hsome

/-- The code with this hash is for this organization: it was there when the run
began, or `mintPairingCode` made it. -/
def IssuedFor (config : PairingEnv) (db : Database) (labels : List PairingLabel)
    (hash orgId : String) : Prop :=
  (∃ code ∈ db.pairingCodes.rows, code.codeHash = hash ∧ code.orgId = orgId) ∨
    ∃ mint, Label.ambient mint ∈ labels ∧ hashCode config mint.code = hash ∧ mint.orgId = orgId

theorem Move.codes {hash : String} {db next : Database} {effects effects' : Effects}
    {code : PairingCode} (hmove : Move hash db effects next effects')
    (hcode : code ∈ next.pairingCodes.rows) :
    ∃ old ∈ db.pairingCodes.rows, old.identity = code.identity := by
  have hupdate : ∀ sel usedAt,
      code ∈ (db.updatePairingCodes sel (setUsedAt usedAt) (setUsedAt_identity _)).pairingCodes.rows →
        ∃ old ∈ db.pairingCodes.rows, old.identity = code.identity := by
    intro sel usedAt hmem
    obtain ⟨old, hold, rfl⟩ := mem_updatePairingCodes.1 hmem
    exact ⟨old, hold, (Table.rewrite_same PairingCode.identity (setUsedAt_identity usedAt) old).symm⟩
  cases hmove with
  | quiet => exact ⟨code, hcode, rfl⟩
  | claim now row hfound hunused => exact hupdate _ _ hcode
  | release row => exact hupdate _ _ hcode
  | redeem row => exact ⟨code, hcode, rfl⟩
  | insert row node hinsert =>
      obtain ⟨-, -, hcodes, -, -⟩ := insertNode_spec hinsert
      rw [hcodes] at hcode
      exact ⟨code, hcode, rfl⟩

theorem issued_run {start final : PairingState} {labels : List PairingLabel}
    (hstart : AllGrounded config start)
    (hrun : (pairingService config).system.run start labels = some final) :
    ∀ code ∈ final.store.pairingCodes.rows,
      IssuedFor config start.store labels code.codeHash code.orgId := by
  induction labels generalizing start with
  | nil =>
      cases hrun
      intro code hcode
      exact Or.inl ⟨code, hcode, rfl, rfl⟩
  | cons label rest ih =>
      obtain ⟨next, hstep, hrest⟩ := System.run_cons.1 hrun
      intro code hcode
      rcases ih (outline.step hstart hstep) hrest code hcode with
        ⟨found, hfound, hhash, horg⟩ | ⟨mint, hmint, hhash, horg⟩
      case inr => exact Or.inr ⟨mint, List.mem_cons_of_mem _ hmint, hhash, horg⟩
      rcases pairing_step hstart hstep with ⟨call, frame, -, -, -, rfl⟩ |
        ⟨call, env, frame, db, frame', -, -, -, hmove, -, rfl⟩ | ⟨mint, db, rfl, hmint, rfl⟩
      · exact Or.inl ⟨found, hfound, hhash, horg⟩
      · obtain ⟨old, hold, hsame⟩ := hmove.codes hfound
        have horg' : old.orgId = found.orgId := PairingCode.orgId_eq hsame
        have hhash' : old.codeHash = found.codeHash := PairingCode.codeHash_eq hsame
        exact Or.inl ⟨old, hold, hhash'.trans hhash, horg'.trans horg⟩
      · obtain ⟨-, -, expiresAt, hcodes, -⟩ := mint_extends hmint
        have hcases : found ∈ start.store.pairingCodes.rows ++ [mint.row config expiresAt] :=
          hcodes ▸ hfound
        rcases List.mem_append.1 hcases with hold | hnew
        · exact Or.inl ⟨found, hold, hhash, horg⟩
        · have hrow : found = mint.row config expiresAt := List.mem_singleton.1 hnew
          subst hrow
          exact Or.inr ⟨mint, List.mem_cons_self, hhash, horg⟩

/-- A code that was issued is in the table ever after. -/
theorem IssuedFor.mem {start final : PairingState} {labels : List PairingLabel}
    (hstart : AllGrounded config start)
    (hrun : (pairingService config).system.run start labels = some final) {hash orgId : String}
    (hissued : IssuedFor config start.store labels hash orgId) :
    ∃ code ∈ final.store.pairingCodes.rows, code.codeHash = hash ∧ code.orgId = orgId := by
  have hkept : ∀ (db : Database) (code : PairingCode), Extends db final.store →
      code ∈ db.pairingCodes.rows → code.codeHash = hash → code.orgId = orgId →
      ∃ code ∈ final.store.pairingCodes.rows, code.codeHash = hash ∧ code.orgId = orgId := by
    intro db code hext hcode hhash horg
    obtain ⟨code', hcode', hsame⟩ := hext.codes code hcode
    have horg' : code'.orgId = code.orgId := PairingCode.orgId_eq hsame
    have hhash' : code'.codeHash = code.codeHash := PairingCode.codeHash_eq hsame
    exact ⟨code', hcode', hhash'.trans hhash, horg'.trans horg⟩
  rcases hissued with ⟨code, hcode, hhash, horg⟩ | ⟨mint, hmem, hhash, horg⟩
  · exact hkept start.store code (extends_run hstart hrun) hcode hhash horg
  · obtain ⟨before, after, rfl⟩ := List.append_of_mem hmem
    obtain ⟨middle, hbefore, hrest⟩ := System.run_append.1 hrun
    obtain ⟨next, hstep, hafter⟩ := System.run_cons.1 hrest
    have hmiddle := allGrounded_run hstart hbefore
    have hnext := outline.step hmiddle hstep
    obtain ⟨db, hmint, rfl⟩ : ∃ db, (pairingService config).ambient mint middle.store = some db ∧
        next = { middle with store := db } := by
      rcases pairing_step hmiddle hstep with ⟨_, _, hlabel, -⟩ | ⟨_, _, _, _, _, hlabel, -⟩ |
        ⟨mint', db, hlabel, hmint, hnext⟩
      · cases hlabel
      · cases hlabel
      · cases hlabel
        exact ⟨db, hmint, hnext⟩
    obtain ⟨-, -, expiresAt, hcodes, -⟩ := mint_extends hmint
    refine hkept db (mint.row config expiresAt) (extends_run hnext hafter) ?_ hhash horg
    rw [hcodes]
    simp

/-! ## The theorem -/

/-- Over every interleaving of mints, redemptions and enrollments, whatever the
clocks of the callers show:
one redemption of a code succeeds at most, its code then stays used, one node at
most is created through a code, and that node is in the code's organization. -/
theorem pairingCode_single_use {db : Database} {labels : List PairingLabel} {final : PairingState}
    (hrun : (pairingService config).system.run (State.idle db) labels = some final) :
    (∀ first second frame frame', final.frames first = some frame →
      final.frames second = some frame' → frame.RedeemSucceeded → frame'.RedeemSucceeded →
      hashCode config frame.code = hashCode config frame'.code → first = second) ∧
    (∀ before after middle call frame, labels = before ++ after →
      (pairingService config).system.run (State.idle db) before = some middle →
      middle.frames call = some frame → frame.RedeemSucceeded →
      (∃ frame', final.frames call = some frame' ∧ frame'.RedeemSucceeded ∧
        frame'.code = frame.code) ∧
      ∃ code ∈ final.store.pairingCodes.rows,
        code.codeHash = hashCode config frame.code ∧ code.usedAt ≠ none) ∧
    (∀ first second frame frame' node node', final.frames first = some frame →
      final.frames second = some frame' → frame.created = some node →
      frame'.created = some node' → hashCode config frame.code = hashCode config frame'.code →
      first = second ∧ node = node') ∧
    (∀ node ∈ final.store.nodes.rows, node ∈ db.nodes.rows ∨
      ∃ call frame, final.frames call = some frame ∧ frame.created = some node) ∧
    (∀ call frame node, final.frames call = some frame → frame.created = some node →
      node ∈ final.store.nodes.rows ∧
        ∀ orgId, IssuedFor config db labels (hashCode config frame.code) orgId ↔
          orgId = node.orgId) := by
  have hgrounded := allGrounded_run (allGrounded_idle db) hrun
  have howned : ∀ {labels : List PairingLabel} {state : PairingState},
      (pairingService config).system.run (State.idle db) labels = some state →
      Service.Owned Owns Used state := fun hrun =>
    exclusive.run outline (allGrounded_idle db) Service.owned_idle hrun
  have hwinner : ∀ first second frame frame', final.frames first = some frame →
      final.frames second = some frame' → frame.effects.Won → frame'.effects.Won →
      hashCode config frame.code = hashCode config frame'.code → first = second := by
    intro first second frame frame' hframe hframe' hwon hwon' hsame
    refine (howned hrun).unique first second frame frame' _ hframe hframe'
      ((hgrounded.2 first frame hframe).owns hwon) ?_
    rw [hsame]
    exact (hgrounded.2 second frame' hframe').owns hwon'
  refine ⟨?_, ?_, ?_, created_run hrun, ?_⟩
  · intro first second frame frame' hframe hframe' hsucceeded hsucceeded' hsame
    exact hwinner first second frame frame' hframe hframe'
      (hsucceeded.won (hgrounded.2 first frame hframe).1)
      (hsucceeded'.won (hgrounded.2 second frame' hframe').1) hsame
  · intro before after middle call frame hsplit hbefore hframe hsucceeded
    rw [hsplit] at hrun
    obtain ⟨middle', hbefore', hafter⟩ := System.run_append.1 hrun
    obtain rfl : middle = middle' := Option.some.inj (hbefore.symm.trans hbefore')
    have hmiddle := allGrounded_run (allGrounded_idle db) hbefore
    obtain ⟨frame', hframe', hwon, hcode⟩ :=
      won_run hmiddle hframe (hsucceeded.won (hmiddle.2 call frame hframe).1) hafter
    refine ⟨⟨frame', hframe', hwon.succeeded (hgrounded.2 call frame' hframe').1, hcode⟩, ?_⟩
    rw [← hcode]
    exact (howned hrun).taken call frame' _ hframe' ((hgrounded.2 call frame' hframe').owns hwon)
  · intro first second frame frame' node node' hframe hframe' hcreated hcreated' hsame
    obtain ⟨row, hinserted⟩ := Frame.created_eq_some.1 hcreated
    obtain ⟨row', hinserted'⟩ := Frame.created_eq_some.1 hcreated'
    have heq : first = second := hwinner first second frame frame' hframe hframe'
      (by rw [hinserted]; trivial) (by rw [hinserted']; trivial) hsame
    subst heq
    rw [hframe] at hframe'
    cases hframe'
    exact ⟨rfl, Option.some.inj (hcreated.symm.trans hcreated')⟩
  · intro call frame node hframe hcreated
    obtain ⟨row, hinserted⟩ := Frame.created_eq_some.1 hcreated
    have hsound := (hgrounded.2 call frame hframe).2
    obtain ⟨horg, hnode⟩ := hsound.node row node hinserted
    obtain ⟨hhash, code, hcode, hsame⟩ := hsound.held row (by rw [hinserted]; rfl)
    have hcodeOrg : code.orgId = row.orgId := PairingCode.orgId_eq hsame
    have hcodeHash : code.codeHash = row.codeHash := PairingCode.codeHash_eq hsame
    refine ⟨hnode, fun orgId => ⟨fun hissued => ?_, fun heq => ?_⟩⟩
    · obtain ⟨issued, hissued, hissuedHash, hissuedOrg⟩ :=
        IssuedFor.mem (allGrounded_idle db) hrun hissued
      have heq : issued = code := Table.eq_of_key hissued hcode
        (hissuedHash.trans (hcodeHash.trans hhash).symm)
      rw [← hissuedOrg, heq, hcodeOrg, horg]
    · have hissued := issued_run (allGrounded_idle db) hrun code hcode
      rw [hcodeHash, hhash, hcodeOrg, ← horg, ← heq] at hissued
      exact hissued

/-! ### A run -/

/-- The hash of the one code below under this pepper. -/
def sampleEnv : PairingEnv where
  PAIRING_CODE_PEPPER := "pepper-pepper-pepper-pepper-32ch"
  PAIRING_CODE_TTL_MS := 900000
  hmacSha256Hex := fun key text =>
    if key = "pepper-pepper-pepper-pepper-32ch" ∧ text = "ABCD2345" then
      "6ca48719a819eca21ae86f115d3c5979d81bde057d1ecc3d1f1cc52ed7fcac56"
    else ""

def sampleDb : Database :=
  match Database.empty.insertOrganization ⟨"org_1", "Fleet", "fleet"⟩ with
  | .ok db => db
  | .error _ => .empty

def sampleMint : Mint where
  orgId := "org_1"
  userId := "user_1"
  nodeName := ""
  draws := fun place => [0, 1, 2, 3, 24, 25, 26, 27].getD place 0
  now := 1000
  newId := 1
  createdAt := 1000

def sampleStep : StepEnv := ⟨2000, none, 2, 2000⟩

/-- Two calls race for one code; the second finds it used. -/
def sampleRace : List PairingLabel :=
  [.ambient sampleMint, .start 0 (.redeem "abcd 2345" .claim .untouched),
    .start 1 (.redeem "ABCD-2345" .claim .untouched), .advance 0 sampleStep,
    .advance 1 sampleStep, .advance 0 sampleStep, .advance 1 sampleStep]

theorem pairingCode_single_use_race :
    ∃ final code row, (pairingService sampleEnv).system.run (State.idle sampleDb) sampleRace =
        some final ∧
      final.frames 0 = some (.redeem code (.returned "org_1" "") (.redeemed row)) ∧
      ∀ second frame, final.frames second = some frame → frame.RedeemSucceeded →
        hashCode sampleEnv code = hashCode sampleEnv frame.code → 0 = second := by
  have hsome : ((pairingService sampleEnv).system.run (State.idle sampleDb) sampleRace).isSome := by
    decide +kernel
  obtain ⟨final, hrun⟩ := Option.isSome_iff_exists.1 hsome
  have hwinner : (((pairingService sampleEnv).system.run (State.idle sampleDb) sampleRace).bind
      fun final => final.frames 0) = some (.redeem "abcd 2345" (.returned "org_1" "")
        (.redeemed { sampleMint.row sampleEnv 901000 with usedAt := some 2000 })) := by
    decide +kernel
  rw [hrun] at hwinner
  exact ⟨final, _, _, hrun, hwinner, fun second frame hframe hsucceeded hsame =>
    (pairingCode_single_use hrun).1 0 second _ frame hwinner hframe ⟨_, _, rfl⟩ hsucceeded hsame⟩

end ModelHub.ControlPlane
