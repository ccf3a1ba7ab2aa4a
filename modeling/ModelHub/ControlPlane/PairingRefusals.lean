import ModelHub.ControlPlane.PairingSafety

/-!
# What a refused call is told

A call whose claim finds no row to mark looks the code up in a second statement, and an
expired code is marked as used from the claim to the release.  So the three refusals of
`redeemPairingCode` speak of different moments.

* "unknown pairing code" is true of the moment of the look-up, in every run.
* "pairing code expired" is true of the claimed row and the clock, in every run.
* "pairing code already used" says that there was a row at the look-up, and that the claim
  before it found none that was free.  The row may have been marked by a call that then
  finds the code expired, and it may have been minted between the two statements.

`Undisturbed` excludes just these two: no call claims a code in vain while a call that
finds it expired holds it, and no code is minted between a call's claim and its look-up.
In such a run the invariant `Accounted` goes with every call on its way to the third
refusal: its code is redeemed, or held by a call that has yet to check the expiry.
-/

namespace ModelHub.ControlPlane

open Db Interleaving Transition

variable {config : PairingEnv}

/-! ## Where a call stands -/

namespace Frame

/-- Where the call of `redeemPairingCode` stands, on its own or within `enrollNode`. -/
def redeemPc : Frame → Option RedeemPc
  | redeem _ pc _ => some pc
  | enroll _ (.redeem pc) _ => some pc
  | enroll _ (.threw error) _ => some (.threw error)
  | enroll _ _ _ => none

/-- The call was refused with this message. -/
def Refused (frame : Frame) (message : String) : Prop :=
  frame.redeemPc = some (.threw (.pairingCode message))

/-- The call has claimed its code and is about to check the expiry. -/
def Deciding (frame : Frame) : Prop := ∃ row, frame.redeemPc = some (.checkExpiry row)

/-- The call has claimed its code and found it expired. -/
def HoldsExpired (frame : Frame) : Prop :=
  (∃ row, frame.effects = .claimed row) ∧ ¬ frame.Deciding

end Frame

/-- What a step of `redeemPairingCode` may do, by the place where the call stands. -/
inductive Turn (hash : String) (env : StepEnv) (db : Database) :
    RedeemPc → Effects → Database → RedeemPc → Effects → Prop where
  | failed {pc : RedeemPc} {effects : Effects} (error : PgError)
      (hstatement : ∀ row, pc ≠ .checkExpiry row) :
      Turn hash env db pc effects db (.threw (.postgres error)) effects
  | claimed {effects : Effects} (row : PairingCode) :
      Turn hash env db .claim effects (claimCode hash env.now db) (.checkExpiry row) (.claimed row)
  | missed {effects : Effects}
      (hnone : ∀ code ∈ db.pairingCodes.rows, code.codeHash = hash → code.usedAt ≠ none) :
      Turn hash env db .claim effects db .lookUp effects
  | found {effects : Effects} (hfound : db.pairingCodes.withKey hash ≠ none) :
      Turn hash env db .lookUp effects db
        (.threw (.pairingCode "pairing code already used")) effects
  | unknown {effects : Effects} (hnone : db.pairingCodes.withKey hash = none) :
      Turn hash env db .lookUp effects db (.threw (.pairingCode "unknown pairing code")) effects
  | expired {effects : Effects} (row : PairingCode) (hexpired : row.expiresAt < env.now) :
      Turn hash env db (.checkExpiry row) effects db (.release row) effects
  | redeemed {effects : Effects} (row : PairingCode) :
      Turn hash env db (.checkExpiry row) effects db (.returned row.orgId row.nodeName)
        (.redeemed row)
  | released {effects : Effects} (row : PairingCode) :
      Turn hash env db (.release row) effects (releaseCode row.id db)
        (.threw (.pairingCode "pairing code expired")) (.released row)

theorem redeemStep_turn {hash : String} {env : StepEnv} {db next : Database} {pc pc' : RedeemPc}
    {effects effects' : Effects}
    (hstep : redeemStep hash env db pc effects = some (next, pc', effects')) :
    Turn hash env db pc effects next pc' effects' := by
  cases pc with
  | claim =>
      simp only [redeemStep] at hstep
      split at hstep
      case h_1 error _ =>
        cases hstep
        exact .failed error fun row heq => by cases heq
      split at hstep
      case h_1 row hrow =>
        cases hstep
        exact .claimed row
      case h_2 hnone =>
        cases hstep
        refine .missed fun code hcode hhash hunused => ?_
        have hclaimable : claimable hash code := by simp [claimable, hhash, hunused]
        have hmem : setUsedAt (some env.now) code ∈
            db.pairingCodes.updated (claimable hash) (setUsedAt (some env.now)) :=
          List.mem_map.2 ⟨code, List.mem_filter.2 ⟨hcode, hclaimable⟩, rfl⟩
        rw [List.head?_eq_none_iff.1 hnone] at hmem
        cases hmem
  | lookUp =>
      simp only [redeemStep] at hstep
      split at hstep
      case h_1 error _ =>
        cases hstep
        exact .failed error fun row heq => by cases heq
      split at hstep
      case h_1 row hrow =>
        cases hstep
        exact .found (by rw [hrow]; exact Option.some_ne_none row)
      case h_2 hnone =>
        cases hstep
        exact .unknown hnone
  | checkExpiry row =>
      simp only [redeemStep] at hstep
      split at hstep
      case isTrue hexpired =>
        cases hstep
        exact .expired row hexpired
      case isFalse =>
        cases hstep
        exact .redeemed row
  | release row =>
      simp only [redeemStep] at hstep
      split at hstep
      case h_1 error _ =>
        cases hstep
        exact .failed error fun row heq => by cases heq
      case h_2 =>
        cases hstep
        exact .released row
  | returned orgId nodeName => cases hstep
  | threw error => cases hstep

/-- A step of a call is a step of `redeemPairingCode`, or one of `enrollNode` around it,
which refuses nobody for the sake of the code. -/
theorem advance_cases {env : StepEnv} {db next : Database} {frame frame' : Frame}
    (hstep : advance config env db frame = some (next, frame')) :
    (∃ pc pc', frame.redeemPc = some pc ∧
      Turn (hashCode config frame.code) env db pc frame.effects next pc' frame'.effects ∧
      (frame'.redeemPc = some pc' ∨
        (∃ orgId nodeName, pc' = .returned orgId nodeName) ∧ frame'.redeemPc = none)) ∨
    (frame.redeemPc = none ∧
      (frame'.effects = frame.effects ∨ ∃ row node, frame'.effects = .inserted row node) ∧
      (frame'.redeemPc = none ∨ frame'.redeemPc = some .claim ∨
        ∃ error, frame'.redeemPc = some (.threw error) ∧
          ∀ message, error ≠ .pairingCode message)) := by
  cases frame with
  | redeem code pc effects =>
      simp only [advance, Option.map_eq_some_iff] at hstep
      obtain ⟨⟨db', pc', effects'⟩, hredeem, heq⟩ := hstep
      cases heq
      exact Or.inl ⟨pc, pc', rfl, redeemStep_turn hredeem, Or.inl rfl⟩
  | enroll input pc effects =>
      simp only [advance, Option.map_eq_some_iff] at hstep
      obtain ⟨⟨db', pc', effects'⟩, henroll, heq⟩ := hstep
      cases heq
      cases pc with
      | redeem pc =>
          simp only [enrollStep, Option.map_eq_some_iff] at henroll
          obtain ⟨⟨db', inner, effects''⟩, hredeem, heq⟩ := henroll
          cases heq
          refine Or.inl ⟨pc, inner, rfl, redeemStep_turn hredeem, ?_⟩
          cases inner with
          | returned orgId nodeName => exact Or.inr ⟨⟨orgId, nodeName, rfl⟩, rfl⟩
          | claim => exact Or.inl rfl
          | lookUp => exact Or.inl rfl
          | checkExpiry row => exact Or.inl rfl
          | release row => exact Or.inl rfl
          | threw error => exact Or.inl rfl
      | start =>
          simp only [enrollStep] at henroll
          split at henroll <;> cases henroll
          · exact Or.inr ⟨rfl, Or.inl rfl, Or.inr (Or.inr ⟨_, rfl, fun _ heq => by cases heq⟩)⟩
          · exact Or.inr ⟨rfl, Or.inl rfl, Or.inl rfl⟩
      | preCheck =>
          simp only [enrollStep] at henroll
          split at henroll
          · cases henroll
            exact Or.inr ⟨rfl, Or.inl rfl, Or.inr (Or.inr ⟨_, rfl, fun _ heq => by cases heq⟩)⟩
          split at henroll <;> cases henroll
          · exact Or.inr ⟨rfl, Or.inl rfl, Or.inr (Or.inr ⟨_, rfl, fun _ heq => by cases heq⟩)⟩
          · exact Or.inr ⟨rfl, Or.inl rfl, Or.inr (Or.inl rfl)⟩
      | insert orgId nodeName =>
          simp only [enrollStep] at henroll
          split at henroll <;> cases henroll
          · refine Or.inr ⟨rfl, Or.inl rfl, Or.inr (Or.inr ⟨_, rfl, fun _ heq => ?_⟩)⟩
            unfold insertError at heq
            split at heq <;> cases heq
          · refine Or.inr ⟨rfl, ?_, Or.inl rfl⟩
            cases effects with
            | redeemed row => exact Or.inr ⟨row, _, rfl⟩
            | untouched => exact Or.inl rfl
            | claimed row => exact Or.inl rfl
            | released row => exact Or.inl rfl
            | inserted row node => exact Or.inl rfl
      | orgLookUp orgId nodeId =>
          simp only [enrollStep] at henroll
          split at henroll <;> cases henroll
          · exact Or.inr ⟨rfl, Or.inl rfl, Or.inr (Or.inr ⟨_, rfl, fun _ heq => by cases heq⟩)⟩
          · exact Or.inr ⟨rfl, Or.inl rfl, Or.inl rfl⟩
      | returned nodeId orgId orgName => cases henroll
      | threw error => cases henroll

/-- No call begins in the middle. -/
theorem Frame.redeemPc_of_isStart {frame : Frame} (hstart : frame.isStart) :
    frame.redeemPc = some .claim ∨ frame.redeemPc = none := by
  cases frame with
  | redeem code pc effects =>
      obtain ⟨rfl, rfl⟩ : pc = .claim ∧ effects = .untouched := by simpa [isStart] using hstart
      exact Or.inl rfl
  | enroll input pc effects =>
      obtain ⟨rfl, rfl⟩ : pc = .start ∧ effects = .untouched := by simpa [isStart] using hstart
      exact Or.inr rfl

/-- A claimed row is kept for the expiry check, the release, or an error of the database. -/
theorem Grounded.claimed {db : Database} {frame : Frame} {row : PairingCode}
    (hgrounded : Grounded config db frame) (heffects : frame.effects = .claimed row) :
    row.codeHash = hashCode config frame.code ∧ (frame.Deciding ∨ frame.HoldsExpired) := by
  refine ⟨(hgrounded.2.held row (by rw [heffects]; rfl)).1, ?_⟩
  by_cases hdeciding : frame.Deciding
  · exact Or.inl hdeciding
  · exact Or.inr ⟨⟨row, heffects⟩, hdeciding⟩

/-! ## Codes that are accounted for -/

/-- The code with this hash is redeemed, or held by a call that has yet to check the expiry. -/
def Accounted (config : PairingEnv) (state : PairingState) (hash : String) : Prop :=
  ∃ call frame, state.frames call = some frame ∧ hashCode config frame.code = hash ∧
    (frame.RedeemSucceeded ∨ frame.Deciding)

/-- The calls on their way to the refusal "pairing code already used". -/
structure Truthful (config : PairingEnv) (state : PairingState) : Prop where
  lookUp : ∀ call frame, state.frames call = some frame → frame.redeemPc = some .lookUp →
    state.store.pairingCodes.withKey (hashCode config frame.code) = none ∨
      Accounted config state (hashCode config frame.code)
  refused : ∀ call frame, state.frames call = some frame →
    frame.Refused "pairing code already used" → Accounted config state (hashCode config frame.code)

/-- No step of a call comes between the claim and the release of another call that finds
the same code expired, and no code is minted between a call's claim and its look-up. -/
def Undisturbed (config : PairingEnv) (state : PairingState) : PairingLabel → Prop
  | .start _ _ => True
  | .advance call env => ∀ frame, state.frames call = some frame →
      -- nobody claims a code while it is held expired
      (frame.redeemPc = some .claim → ∀ other found, state.frames other = some found →
        hashCode config found.code = hashCode config frame.code → ¬ found.HoldsExpired) ∧
      -- nor has anybody claimed it in vain when it is found expired
      (∀ row, frame.redeemPc = some (.checkExpiry row) → row.expiresAt < env.now →
        ∀ other found, state.frames other = some found →
          hashCode config found.code = hashCode config frame.code →
          found.redeemPc ≠ some .lookUp ∧ ¬ found.Refused "pairing code already used")
  | .ambient mint => ∀ call frame, state.frames call = some frame →
      frame.redeemPc = some .lookUp → hashCode config mint.code ≠ hashCode config frame.code

theorem Accounted.setFrame {state : PairingState} {hash : String} {call : ℕ} {db : Database}
    {frame : Frame} (haccounted : Accounted config state hash)
    (hkept : ∀ old, state.frames call = some old → hashCode config old.code = hash →
      old.RedeemSucceeded ∨ old.Deciding →
      hashCode config frame.code = hash ∧ (frame.RedeemSucceeded ∨ frame.Deciding)) :
    Accounted config (state.setFrame call db frame) hash := by
  obtain ⟨other, found, hfound, hhash, hstands⟩ := haccounted
  by_cases heq : other = call
  · subst heq
    obtain ⟨hhash', hstands'⟩ := hkept found hfound hhash hstands
    exact ⟨other, frame, State.setFrame_frames_self _ _ _ _, hhash', hstands'⟩
  · exact ⟨other, found, by rwa [State.setFrame_frames_of_ne _ _ _ heq], hhash, hstands⟩

/-- A step of a call leaves a code accounted for, unless it finds just this code expired. -/
theorem advance_stands {env : StepEnv} {db next : Database} {frame frame' : Frame}
    (hgrounded : Grounded config db frame)
    (hadvance : advance config env db frame = some (next, frame'))
    (hstands : frame.RedeemSucceeded ∨ frame.Deciding)
    (hvalid : ∀ row, frame.redeemPc = some (.checkExpiry row) → ¬ row.expiresAt < env.now) :
    frame'.RedeemSucceeded ∨ frame'.Deciding := by
  obtain ⟨hmove, hconsistent, -⟩ := advance_move hgrounded.1 hadvance
  rcases hstands with hsucceeded | ⟨row, hrow⟩
  · exact Or.inl ((hmove.won (hsucceeded.won hgrounded.1)).succeeded hconsistent)
  · rcases advance_cases hadvance with ⟨pc, pc', hpc, hturn, -⟩ | ⟨hnone, -⟩
    · rw [hrow] at hpc
      cases hpc
      generalize heffects : frame'.effects = effects' at hturn
      cases hturn with
      | failed error hstatement => exact absurd rfl (hstatement row)
      | expired row hexpired => exact absurd hexpired (hvalid row hrow)
      | redeemed row =>
          have hwon : frame'.effects.Won := by
            rw [heffects]
            trivial
          exact Or.inl (hwon.succeeded hconsistent)
    · rw [hrow] at hnone
      cases hnone

/-- Which calls come to their look-up, or are refused there, and why. -/
theorem advance_arrives {env : StepEnv} {db next : Database} {frame frame' : Frame}
    (hadvance : advance config env db frame = some (next, frame')) :
    (frame'.redeemPc = some .lookUp → frame.redeemPc = some .claim ∧
      ∀ code ∈ db.pairingCodes.rows, code.codeHash = hashCode config frame.code →
        code.usedAt ≠ none) ∧
    (frame'.Refused "pairing code already used" → frame.redeemPc = some .lookUp ∧
      db.pairingCodes.withKey (hashCode config frame.code) ≠ none) ∧
    (frame'.Refused "unknown pairing code" → frame.redeemPc = some .lookUp ∧
      db.pairingCodes.withKey (hashCode config frame.code) = none) ∧
    (frame'.Refused "pairing code expired" → ∃ row, frame.redeemPc = some (.release row)) ∧
    (∀ row, frame'.redeemPc = some (.release row) →
      frame.redeemPc = some (.checkExpiry row) ∧ row.expiresAt < env.now) := by
  rcases advance_cases hadvance with ⟨pc, pc', hpc, hturn, hpc' | ⟨-, hnone⟩⟩ |
    ⟨-, -, hnone | hclaim | ⟨error, herror, hother⟩⟩
  · generalize frame'.effects = effects' at hturn
    simp only [Frame.Refused, hpc', hpc, Option.some.injEq]
    cases hturn with
    | failed error hstatement => simp
    | claimed row => simp
    | missed hunused => simpa using hunused
    | found hfound => simpa using hfound
    | unknown hnone => simpa using hnone
    | expired row hexpired => simpa using hexpired
    | redeemed row => simp
    | released row => simp
  · simp [Frame.Refused, hnone]
  · simp [Frame.Refused, hnone]
  · simp [Frame.Refused, hclaim]
  · simp [Frame.Refused, herror, hother]

theorem withKey_none_of_extends {db next : Database} {hash hash' : String} {effects effects' : Effects}
    (hmove : Move hash' db effects next effects') (hnone : db.pairingCodes.withKey hash = none) :
    next.pairingCodes.withKey hash = none := by
  rw [Table.withKey_eq_none, List.mem_map] at hnone ⊢
  rintro ⟨code, hcode, hhash⟩
  obtain ⟨old, hold, hsame⟩ := hmove.codes hcode
  exact hnone ⟨old, hold, (PairingCode.codeHash_eq hsame).trans hhash⟩

/-- The owner of a used code has redeemed it or is about to check it, unless it holds it
expired. -/
theorem accounted_of_owner {state : PairingState} {call : ℕ} {frame : Frame} {hash : String}
    (hgrounded : AllGrounded config state) (hframe : state.frames call = some frame)
    (howns : Owns frame hash) (hnot : ¬ frame.HoldsExpired) : Accounted config state hash := by
  obtain ⟨row, hheld, rfl⟩ := howns
  have hown := hgrounded.2 call frame hframe
  have hhash := (hown.2.held row hheld).1
  refine ⟨call, frame, hframe, hhash.symm, ?_⟩
  generalize heffects : frame.effects = effects at hheld
  cases effects with
  | untouched => cases hheld
  | claimed claimed => exact Or.inr ((hown.claimed heffects).2.resolve_right hnot)
  | released row => cases hheld
  | redeemed row => exact Or.inl (Effects.Won.succeeded (by rw [heffects]; trivial) hown.1)
  | inserted row node => exact Or.inl (Effects.Won.succeeded (by rw [heffects]; trivial) hown.1)

/-- One undisturbed step. -/
theorem Truthful.step {state next : PairingState} {label : PairingLabel}
    (hgrounded : AllGrounded config state) (htruthful : Truthful config state)
    (howned : ∀ hash, Used state.store hash →
      ∃ call frame, state.frames call = some frame ∧ Owns frame hash)
    (hundisturbed : Undisturbed config state label)
    (hstep : (pairingService config).system.step state label = some next) :
    Truthful config next := by
  rcases pairing_step hgrounded hstep with ⟨call, frame, -, hstart, hnone, rfl⟩ |
    ⟨call, env, frame, db, frame', rfl, hframe, hadvance, hmove, hcode, rfl⟩ |
    ⟨mint, db, rfl, hmint, rfl⟩
  · -- a new call is at its claim
    have hkept : ∀ hash, Accounted config state hash →
        Accounted config (state.setFrame call state.store frame) hash := by
      intro hash haccounted
      refine haccounted.setFrame fun old hold => ?_
      rw [hnone] at hold
      cases hold
    have hpc := Frame.redeemPc_of_isStart hstart
    refine ⟨fun other found hfound hlookUp => ?_, fun other found hfound hrefused => ?_⟩
    · rcases Service.frames_setFrame hfound with ⟨rfl, rfl⟩ | ⟨-, hold⟩
      · rw [hlookUp] at hpc
        simp at hpc
      · exact (htruthful.lookUp other found hold hlookUp).imp_right (hkept _)
    · rcases Service.frames_setFrame hfound with ⟨rfl, rfl⟩ | ⟨-, hold⟩
      · rw [Frame.Refused] at hrefused
        rw [hrefused] at hpc
        simp at hpc
      · exact hkept _ (htruthful.refused other found hold hrefused)
  · obtain ⟨hclaim, hexpiry⟩ := hundisturbed frame hframe
    obtain ⟨harrives, hused, -⟩ := advance_arrives hadvance
    have hkept : ∀ hash, Accounted config state hash →
        (∀ row, frame.redeemPc = some (.checkExpiry row) → row.expiresAt < env.now →
          hashCode config frame.code ≠ hash) →
        Accounted config (state.setFrame call db frame') hash := by
      intro hash haccounted hother
      refine haccounted.setFrame fun old hold hhash hstands => ?_
      rw [hframe] at hold
      cases hold
      refine ⟨by rw [hcode]; exact hhash, ?_⟩
      exact advance_stands (hgrounded.2 call frame hframe) hadvance hstands
        fun row hrow hexpired => hother row hrow hexpired hhash
    refine ⟨fun other found hfound hlookUp => ?_, fun other found hfound hrefused => ?_⟩
    · rcases Service.frames_setFrame hfound with ⟨rfl, rfl⟩ | ⟨-, hold⟩
      · obtain ⟨hatClaim, hunused⟩ := harrives hlookUp
        rw [hcode]
        by_cases hnone : state.store.pairingCodes.withKey (hashCode config frame.code) = none
        · exact Or.inl (withKey_none_of_extends hmove hnone)
        · obtain ⟨code, hrow⟩ := Option.ne_none_iff_exists'.1 hnone
          obtain ⟨hmem, hhash⟩ := Table.withKey_eq_some.1 hrow
          obtain ⟨owner, held, hheld, howns⟩ :=
            howned _ ⟨code, hmem, hhash, hunused code hmem hhash⟩
          have haccounted : Accounted config state (hashCode config frame.code) := by
            refine accounted_of_owner hgrounded hheld howns ?_
            obtain ⟨row, hrow, hrowHash⟩ := howns
            refine hclaim hatClaim owner held hheld ?_
            exact ((hgrounded.2 owner held hheld).2.held row hrow).1.symm.trans hrowHash
          refine Or.inr (hkept _ haccounted fun row hcheck => ?_)
          rw [hatClaim] at hcheck
          cases hcheck
      · rcases htruthful.lookUp other found hold hlookUp with hnone | haccounted
        · exact Or.inl (withKey_none_of_extends hmove hnone)
        · refine Or.inr (hkept _ haccounted fun row hcheck hexpired hsame => ?_)
          exact (hexpiry row hcheck hexpired other found hold hsame.symm).1 hlookUp
    · rcases Service.frames_setFrame hfound with ⟨rfl, rfl⟩ | ⟨-, hold⟩
      · obtain ⟨hatLookUp, hsome⟩ := hused hrefused
        have haccounted :=
          (htruthful.lookUp other frame hframe hatLookUp).resolve_left hsome
        rw [hcode]
        refine hkept _ haccounted fun row hcheck => ?_
        rw [hatLookUp] at hcheck
        cases hcheck
      · refine hkept _ (htruthful.refused other found hold hrefused) fun row hcheck hexpired hsame => ?_
        exact (hexpiry row hcheck hexpired other found hold hsame.symm).2 hrefused
  · obtain ⟨-, -, expiresAt, hcodes, -⟩ := mint_extends hmint
    refine ⟨fun call frame hframe hlookUp => ?_, htruthful.refused⟩
    refine (htruthful.lookUp call frame hframe hlookUp).imp_left fun hnone => ?_
    rw [Table.withKey_eq_none] at hnone ⊢
    rw [hcodes, List.map_append, List.mem_append, not_or]
    refine ⟨hnone, ?_⟩
    simpa [Mint.row] using (hundisturbed call frame hframe hlookUp).symm

/-- A run of undisturbed steps, from tables in which no code is used. -/
theorem truthful_run {db : Database} (hunused : ∀ code ∈ db.pairingCodes.rows, code.usedAt = none)
    {labels : List PairingLabel} {final : PairingState}
    (hundisturbed : (pairingService config).system.Along (Undisturbed config) (State.idle db) labels)
    (hrun : (pairingService config).system.run (State.idle db) labels = some final) :
    Truthful config final := by
  induction labels using List.reverseRecOn generalizing final with
  | nil =>
      cases hrun
      exact ⟨fun _ _ hframe => by simp at hframe, fun _ _ hframe => by simp at hframe⟩
  | append_singleton labels label ih =>
      obtain ⟨last, hlast, hstep⟩ := System.run_concat.1 hrun
      obtain ⟨hbefore, hcond, -⟩ := (System.along_append hlast).1 hundisturbed
      refine (ih hbefore hlast).step (allGrounded_run (allGrounded_idle db) hlast)
        (fun hash hused => ?_) hcond hstep
      refine (used_run hlast hash hused).resolve_left ?_
      rintro ⟨code, hcode, -, hsome⟩
      exact hsome (hunused code hcode)

/-! ## The theorem -/

theorem Frame.Consistent.checkExpiry {frame : Frame} {row : PairingCode}
    (hconsistent : frame.Consistent) (hpc : frame.redeemPc = some (.checkExpiry row)) :
    frame.effects = .claimed row := by
  cases frame with
  | redeem code pc effects =>
      obtain rfl : pc = .checkExpiry row := Option.some.inj hpc
      exact hconsistent
  | enroll input pc effects =>
      cases pc with
      | redeem pc =>
          obtain rfl : pc = .checkExpiry row := Option.some.inj hpc
          exact hconsistent
      | threw error => cases hpc
      | start => cases hpc
      | preCheck => cases hpc
      | insert orgId nodeName => cases hpc
      | orgLookUp orgId nodeId => cases hpc
      | returned nodeId orgId orgName => cases hpc

/-- No call begins at its end, or before its release. -/
theorem not_refused_of_isStart {frame : Frame} (hstart : frame.isStart) :
    (∀ message, ¬ frame.Refused message) ∧ ∀ row, frame.redeemPc ≠ some (.release row) := by
  unfold Frame.Refused
  rcases Frame.redeemPc_of_isStart hstart with hpc | hpc
  · rw [hpc]
    simp
  · rw [hpc]
    simp

section Refusals

variable {db : Database} {labels : List PairingLabel} {final : PairingState} {call : ℕ}
  {frame : Frame}

/-- In every run: "unknown pairing code" is true of the moment of the look-up. -/
theorem unknown_truthful
    (hrun : (pairingService config).system.run (State.idle db) labels = some final)
    (hframe : final.frames call = some frame) (hrefused : frame.Refused "unknown pairing code") :
    ∃ before env after state old, labels = before ++ .advance call env :: after ∧
      (pairingService config).system.run (State.idle db) before = some state ∧
      state.frames call = some old ∧ old.redeemPc = some .lookUp ∧
      ∀ orgId, ¬ IssuedFor config db before (hashCode config frame.code) orgId := by
  obtain ⟨before, env, after, state, old, db', new, hlabels, hbefore, hold, hnot, hadvance, hnew,
    hnewCode⟩ := @Service.became _ _ _ _ (pairingService config)
      (fun found => found.Refused "unknown pairing code" ∧ found.code = frame.code)
      (fun found hentry hboth => (not_refused_of_isStart hentry).1 _ hboth.1)
      _ _ _ _ _ hrun hframe ⟨hrefused, rfl⟩
  obtain ⟨-, -, hunknown, -⟩ := advance_arrives hadvance
  obtain ⟨hlookUp, hnone⟩ := hunknown hnew
  have hgrounded := allGrounded_run (allGrounded_idle db) hbefore
  obtain ⟨-, -, hcode⟩ := advance_move (hgrounded.2 call old hold).1 hadvance
  refine ⟨before, env, after, state, old, hlabels, hbefore, hold, hlookUp, fun orgId hissued => ?_⟩
  obtain ⟨code, hmem, hhash, -⟩ := IssuedFor.mem (allGrounded_idle db) hbefore hissued
  rw [← hcode, hnewCode] at hnone
  exact Table.withKey_eq_none.1 hnone (List.mem_map.2 ⟨code, hmem, hhash⟩)

/-- In every run: "pairing code expired" is true of the claimed row and the clock that was
read. -/
theorem expired_truthful
    (hrun : (pairingService config).system.run (State.idle db) labels = some final)
    (hframe : final.frames call = some frame) (hrefused : frame.Refused "pairing code expired") :
    ∃ before env after state old row, labels = before ++ .advance call env :: after ∧
      (pairingService config).system.run (State.idle db) before = some state ∧
      state.frames call = some old ∧ old.redeemPc = some (.checkExpiry row) ∧
      row.codeHash = hashCode config frame.code ∧ row.expiresAt < env.now := by
  obtain ⟨before, env, after, state, old, db', new, hlabels, hbefore, hold, hnot, hadvance, hnew,
    hnewCode⟩ := @Service.became _ _ _ _ (pairingService config)
      (fun found => (found.Refused "pairing code expired" ∨
        ∃ row, found.redeemPc = some (.release row)) ∧ found.code = frame.code)
      (fun found hentry hboth => hboth.1.elim ((not_refused_of_isStart hentry).1 _)
        fun ⟨row, hrow⟩ => (not_refused_of_isStart hentry).2 row hrow)
      _ _ _ _ _ hrun hframe ⟨Or.inl hrefused, rfl⟩
  have hgrounded := (allGrounded_run (allGrounded_idle db) hbefore).2 call old hold
  obtain ⟨-, -, hcode⟩ := advance_move hgrounded.1 hadvance
  obtain ⟨-, -, -, hexpired, hrelease⟩ := advance_arrives hadvance
  obtain ⟨row, hrow⟩ : ∃ row, new.redeemPc = some (.release row) := by
    refine hnew.resolve_left fun hdone => ?_
    -- the call was at the release before, and so had the property already
    exact hnot ⟨Or.inr (hexpired hdone), hcode.symm.trans hnewCode⟩
  obtain ⟨hcheck, hlate⟩ := hrelease row hrow
  refine ⟨before, env, after, state, old, row, hlabels, hbefore, hold, hcheck, ?_, hlate⟩
  rw [← hnewCode, hcode]
  exact (hgrounded.claimed (hgrounded.1.checkExpiry hcheck)).1

/-- Each refusal is true, the third in every undisturbed run: once no call is left before
its expiry check, some call has redeemed the code that is said to be used. -/
theorem refusals_truthful (hunused : ∀ code ∈ db.pairingCodes.rows, code.usedAt = none)
    (hundisturbed : (pairingService config).system.Along (Undisturbed config) (State.idle db) labels)
    (hrun : (pairingService config).system.run (State.idle db) labels = some final) :
    (∀ call frame, final.frames call = some frame → frame.Refused "unknown pairing code" →
      ∃ before env after state old, labels = before ++ .advance call env :: after ∧
        (pairingService config).system.run (State.idle db) before = some state ∧
        state.frames call = some old ∧ old.redeemPc = some .lookUp ∧
        ∀ orgId, ¬ IssuedFor config db before (hashCode config frame.code) orgId) ∧
    (∀ call frame, final.frames call = some frame → frame.Refused "pairing code expired" →
      ∃ before env after state old row, labels = before ++ .advance call env :: after ∧
        (pairingService config).system.run (State.idle db) before = some state ∧
        state.frames call = some old ∧ old.redeemPc = some (.checkExpiry row) ∧
        row.codeHash = hashCode config frame.code ∧ row.expiresAt < env.now) ∧
    (∀ call frame, final.frames call = some frame → frame.Refused "pairing code already used" →
      (∀ other found, final.frames other = some found → ¬ found.Deciding) →
      ∃ other found, final.frames other = some found ∧
        hashCode config found.code = hashCode config frame.code ∧ found.RedeemSucceeded) := by
  refine ⟨fun call frame hframe hrefused => unknown_truthful hrun hframe hrefused,
    fun call frame hframe hrefused => expired_truthful hrun hframe hrefused,
    fun call frame hframe hrefused hdecided => ?_⟩
  obtain ⟨other, found, hfound, hhash, hstands⟩ :=
    (truthful_run hunused hundisturbed hrun).refused call frame hframe hrefused
  exact ⟨other, found, hfound, hhash, hstands.resolve_right (hdecided other found hfound)⟩

/-! ### Runs in which every claimed code is valid -/

def RedeemPc.inTime (now : Time) : RedeemPc → Bool
  | .checkExpiry row => now ≤ row.expiresAt
  | _ => true

/-- No expiry check fails, and every code is minted beforehand. -/
def InTime (state : PairingState) : PairingLabel → Bool
  | .start _ _ => true
  | .advance call env =>
      (state.frames call).all fun frame => frame.redeemPc.all (RedeemPc.inTime env.now)
  | .ambient _ => false

/-- Then no call ever holds an expired code. -/
theorem not_holdsExpired_step {state next : PairingState} {label : PairingLabel}
    (hgrounded : AllGrounded config state)
    (hnone : ∀ call frame, state.frames call = some frame → ¬ frame.HoldsExpired)
    (hinTime : InTime state label)
    (hstep : (pairingService config).system.step state label = some next) :
    ∀ call frame, next.frames call = some frame → ¬ frame.HoldsExpired := by
  intro other found hfound
  rcases pairing_step hgrounded hstep with ⟨call, frame, -, hstart, -, rfl⟩ |
    ⟨call, env, frame, db, frame', rfl, hframe, hadvance, -, -, rfl⟩ | ⟨mint, db, rfl, -, rfl⟩
  · rcases Service.frames_setFrame hfound with ⟨-, rfl⟩ | ⟨-, hold⟩
    · rintro ⟨⟨row, hrow⟩, -⟩
      rw [(Frame.Consistent.of_isStart hstart).2] at hrow
      cases hrow
    · exact hnone other found hold
  · rcases Service.frames_setFrame hfound with ⟨-, rfl⟩ | ⟨-, hold⟩
    · have hbefore := hnone call frame hframe
      rintro ⟨⟨row, hrow⟩, hnot⟩
      rcases advance_cases hadvance with ⟨pc, pc', hpc, hturn, hpc'⟩ | ⟨hpc, hsame | ⟨_, _, hother⟩, -⟩
      · have hkept : frame.effects = .claimed row → ∃ row, pc = .checkExpiry row := by
          intro heffects
          have hdeciding := by_contra fun hnot => hbefore ⟨⟨row, heffects⟩, hnot⟩
          obtain ⟨row, hcheck⟩ := hdeciding
          exact ⟨row, Option.some.inj (hpc.symm.trans hcheck)⟩
        rw [hrow] at hturn
        generalize frame.effects = effects at hturn hkept
        cases hturn with
        | failed error hstatement =>
            obtain ⟨row, hcheck⟩ := hkept rfl
            exact hstatement row hcheck
        | claimed row => exact hnot ⟨row, hpc'.resolve_right (by simp)⟩
        | missed hunused =>
            obtain ⟨row, hcheck⟩ := hkept rfl
            cases hcheck
        | found hfound =>
            obtain ⟨row, hcheck⟩ := hkept rfl
            cases hcheck
        | unknown hnone =>
            obtain ⟨row, hcheck⟩ := hkept rfl
            cases hcheck
        | expired row hexpired =>
            have hvalid : env.now ≤ row.expiresAt := by
              simpa [InTime, hframe, hpc, RedeemPc.inTime] using hinTime
            exact absurd hexpired (not_lt.2 hvalid)
      · refine hbefore ⟨⟨row, hsame.symm.trans hrow⟩, fun ⟨row, hcheck⟩ => ?_⟩
        rw [hpc] at hcheck
        cases hcheck
      · rw [hrow] at hother
        cases hother
    · exact hnone other found hold
  · cases hinTime

theorem undisturbed_of_inTime
    (hinTime : (pairingService config).system.Along (fun state label => InTime state label)
      (State.idle db) labels) :
    (pairingService config).system.Along (Undisturbed config) (State.idle db) labels := by
  have hgeneral : ∀ (labels : List PairingLabel) (state : PairingState), AllGrounded config state →
      (∀ call frame, state.frames call = some frame → ¬ frame.HoldsExpired) →
      (pairingService config).system.Along (fun state label => InTime state label) state labels →
      (pairingService config).system.Along (Undisturbed config) state labels := by
    intro labels
    induction labels with
    | nil => intro state _ _ _; trivial
    | cons label rest ih =>
        intro state hgrounded hnone halong
        refine ⟨?_, fun next hstep => ih next (outline.step hgrounded hstep)
          (not_holdsExpired_step hgrounded hnone halong.1 hstep) (halong.2 next hstep)⟩
        have hlabel := halong.1
        cases label with
        | start call frame => trivial
        | ambient mint => cases hlabel
        | advance call env =>
            intro frame hframe
            refine ⟨fun _ other found hfound _ => hnone other found hfound,
              fun row hcheck hexpired => ?_⟩
            have hvalid : env.now ≤ row.expiresAt := by
              simpa [InTime, hframe, hcheck, RedeemPc.inTime] using hlabel
            exact absurd hexpired (not_lt.2 hvalid)
  exact hgeneral labels _ (allGrounded_idle db) (fun _ _ hframe => by simp at hframe) hinTime

end Refusals

/-! ### Runs -/

/-- The code of `sampleMint`, before any call. -/
def mintedDb : Database :=
  match mintPairingCode sampleEnv sampleMint sampleDb with
  | .ok (db, _, _) => db
  | .error _ => sampleDb

/-- The second call finds the code redeemed by the first. -/
def afterwards : List PairingLabel :=
  [.start 0 (.redeem "ABCD-2345" .claim .untouched), .advance 0 sampleStep, .advance 0 sampleStep,
    .start 1 (.redeem "ABCD-2345" .claim .untouched), .advance 1 sampleStep, .advance 1 sampleStep]

theorem refusals_truthful_afterwards :
    ∃ final frame, (pairingService sampleEnv).system.run (State.idle mintedDb) afterwards =
        some final ∧
      final.frames 1 = some frame ∧ frame.Refused "pairing code already used" ∧
      ((∀ other found, final.frames other = some found → ¬ found.Deciding) →
        ∃ other found, final.frames other = some found ∧
          hashCode sampleEnv found.code = hashCode sampleEnv frame.code ∧
          found.RedeemSucceeded) := by
  have hsome : ((pairingService sampleEnv).system.run (State.idle mintedDb) afterwards).isSome := by
    decide +kernel
  obtain ⟨final, hrun⟩ := Option.isSome_iff_exists.1 hsome
  have hframe : (((pairingService sampleEnv).system.run (State.idle mintedDb) afterwards).bind
      fun final => final.frames 1) = some (.redeem "ABCD-2345"
        (.threw (.pairingCode "pairing code already used")) .untouched) := by
    decide +kernel
  have hunused : ∀ code ∈ mintedDb.pairingCodes.rows, code.usedAt = none := by decide +kernel
  have hinTime : (pairingService sampleEnv).system.Along (fun state label => InTime state label)
      (State.idle mintedDb) afterwards := by
    decide +kernel
  rw [hrun] at hframe
  exact ⟨final, _, hrun, hframe, rfl,
    (refusals_truthful hunused (undisturbed_of_inTime hinTime) hrun).2.2 1 _ hframe rfl⟩

/-- After the expiry of the code. -/
def lateStep : StepEnv := ⟨1000000, none, 2, 1000000⟩

/-- The second call claims and looks up the code while the first has it marked. -/
def lateRace : List PairingLabel :=
  [.start 0 (.redeem "ABCD-2345" .claim .untouched), .start 1 (.redeem "ABCD-2345" .claim .untouched),
    .advance 0 lateStep, .advance 1 lateStep, .advance 1 lateStep, .advance 0 lateStep,
    .advance 0 lateStep]

/-- One call is told that the code is used, the other that it is expired, and nobody has
redeemed it. -/
theorem refusals_untruthful :
    ∃ final first second, (pairingService sampleEnv).system.run (State.idle mintedDb) lateRace =
        some final ∧
      final.frames 0 = some first ∧ first.Refused "pairing code expired" ∧
      final.frames 1 = some second ∧ second.Refused "pairing code already used" ∧
      ∀ call frame, final.frames call = some frame → ¬ frame.RedeemSucceeded := by
  have hsome : ((pairingService sampleEnv).system.run (State.idle mintedDb) lateRace).isSome := by
    decide +kernel
  obtain ⟨final, hrun⟩ := Option.isSome_iff_exists.1 hsome
  have hfirst : (((pairingService sampleEnv).system.run (State.idle mintedDb) lateRace).bind
      fun final => final.frames 0) = some (.redeem "ABCD-2345"
        (.threw (.pairingCode "pairing code expired"))
        (.released { sampleMint.row sampleEnv 901000 with usedAt := some 1000000 })) := by
    decide +kernel
  have hsecond : (((pairingService sampleEnv).system.run (State.idle mintedDb) lateRace).bind
      fun final => final.frames 1) = some (.redeem "ABCD-2345"
        (.threw (.pairingCode "pairing code already used")) .untouched) := by
    decide +kernel
  rw [hrun, Option.bind_some] at hfirst hsecond
  refine ⟨final, _, _, hrun, hfirst, rfl, hsecond, rfl, fun call frame hcall => ?_⟩
  rcases Nat.lt_or_ge call 2 with hlt | hge
  · interval_cases call
    · rw [← Option.some.inj (hfirst.symm.trans hcall)]
      rintro ⟨orgId, nodeName, heq⟩
      cases heq
    · rw [← Option.some.inj (hsecond.symm.trans hcall)]
      rintro ⟨orgId, nodeName, heq⟩
      cases heq
  · have hnone := @Service.frames_none_run _ _ _ _ (pairingService sampleEnv) _ final lateRace call rfl
      (fun frame hmem => by simp [lateRace] at hmem; omega) hrun
    rw [hnone] at hcall
    cases hcall

end ModelHub.ControlPlane
