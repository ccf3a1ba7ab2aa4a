import ModelHub.ControlPlane.NodeAuth

/-!
# Replayed authorization headers

A header is accepted while the clock is within `NODE_AUTH_SKEW_MS` of its timestamp,
and its nonce is remembered for twice as long, counted from the SET.  So the nonce
outlives the header only if the header's second SET runs before its window has
closed; nothing in `authenticateNode` looks at the clock again between the timestamp
check and the SET.  A header dated a full skew ahead, accepted at once, is accepted
again by a call that checks the timestamp at the end of the window and then takes
its time (`authenticateNode_accepts_twice`).

`authenticateNode_no_replay` says when that cannot happen: if no SET runs twice the
skew after the header could first pass, on a nonce that has run out.  The proof is
the rule for exclusive resources: a call that has returned owns its header, and a
header is taken while Redis holds its nonce for at least twice the skew after the
first moment that it could pass.
-/

namespace ModelHub.ControlPlane

open Db Interleaving JavaScript Transition

variable {KeyObject : Type} {config : NodeAuthEnv KeyObject} {text : Option String}
  {header : AuthHeader} {store store' : AuthStore} {pc pc' : AuthPc}

/-! ## What a step can do -/

/-- The nonce of a header is set. -/
def AuthStore.remember (config : NodeAuthEnv KeyObject) (store : AuthStore) (header : AuthHeader) :
    AuthStore :=
  { store with
    redis := Function.update store.redis header.nonceKey
      (some (store.clock + config.NODE_AUTH_SKEW_MS * 2)) }

theorem remember_self :
    (store.remember config header).redis header.nonceKey =
      some (store.clock + config.NODE_AUTH_SKEW_MS * 2) :=
  Function.update_self ..

theorem remember_of_ne {key : String} (hother : key ≠ header.nonceKey) :
    (store.remember config header).redis key = store.redis key :=
  Function.update_of_ne hother ..

/-- The steps of a call. -/
inductive AuthMove (config : NodeAuthEnv KeyObject) (store : AuthStore) :
    AuthPc → AuthStore → AuthPc → Prop where
  | fails (pc : AuthPc) (error : AuthError) : AuthMove config store pc store (.threw error)
  | reads (header : AuthHeader) : AuthMove config store .start store (.checkTimestamp header)
  | inTime (header : AuthHeader) (hcheck : checkTimestamp config header.millis store.clock = .ok ()) :
      AuthMove config store (.checkTimestamp header) store (.lookUp header)
  | finds (header : AuthHeader) (orgId : String) (publicKey : List UInt8) :
      AuthMove config store (.lookUp header) store (.checkSignature header orgId publicKey)
  | verifies (header : AuthHeader) (orgId : String) (publicKey : List UInt8) :
      AuthMove config store (.checkSignature header orgId publicKey) store (.setNonce header orgId)
  | sets (header : AuthHeader) (orgId : String) (pc' : AuthPc)
      (hlapsed : store.isLive header.nonceKey = false)
      (hpc : pc' = .returned header orgId ∨ pc' = .threw .unavailable) :
      AuthMove config store (.setNonce header orgId) (store.remember config header) pc'

theorem authStep_move {reply : Reply}
    (hstep : authStep config text reply store pc = some (store', pc')) :
    AuthMove config store pc store' pc' := by
  cases pc with
  | start =>
      simp only [authStep] at hstep
      split at hstep <;> cases hstep
      · exact .fails _ _
      · exact .reads _
  | checkTimestamp header =>
      simp only [authStep] at hstep
      split at hstep <;> cases hstep
      · exact .fails _ _
      case h_2 hcheck => exact .inTime header hcheck
  | lookUp header =>
      simp only [authStep] at hstep
      split at hstep
      · split at hstep <;> cases hstep
        · exact .fails _ _
        · exact .finds _ _ _
      · cases hstep
        exact .fails _ _
  | checkSignature header orgId publicKey =>
      simp only [authStep] at hstep
      split at hstep <;> cases hstep
      · exact .fails _ _
      · exact .verifies _ _ _
  | setNonce header orgId =>
      simp only [authStep] at hstep
      split at hstep
      · cases hstep
        exact .fails _ _
      · by_cases hlive : store.isLive header.nonceKey = true
        · rw [AuthStore.setIfAbsent, if_pos hlive] at hstep
          cases reply <;> cases hstep <;> exact .fails _ _
        · rw [AuthStore.setIfAbsent, if_neg hlive] at hstep
          have hlapsed : store.isLive header.nonceKey = false := by simpa using hlive
          cases reply <;> cases hstep
          · exact .sets header orgId _ hlapsed (Or.inl rfl)
          · exact .sets header orgId _ hlapsed (Or.inr rfl)
          · exact .sets header orgId _ hlapsed (Or.inr rfl)
  | returned header orgId => cases hstep
  | threw error => cases hstep

theorem isLive_eq_false {key : String} :
    store.isLive key = false ↔ ∀ expiry, store.redis key = some expiry → expiry ≤ store.clock := by
  unfold AuthStore.isLive
  cases store.redis key with
  | none => simp
  | some expiry => simp

/-- A key runs out later and later. -/
theorem AuthMove.expiry (hskew : 0 < config.NODE_AUTH_SKEW_MS)
    (hmove : AuthMove config store pc store' pc')
    {key : String} {expiry : ℚ} (hkey : store.redis key = some expiry) :
    ∃ later, store'.redis key = some later ∧ expiry ≤ later := by
  cases hmove with
  | sets header orgId pc' hlapsed hpc =>
      by_cases hsame : key = header.nonceKey
      · subst hsame
        refine ⟨_, remember_self, ?_⟩
        have hexpired := isLive_eq_false.1 hlapsed expiry hkey
        linarith
      · exact ⟨expiry, (remember_of_ne hsame).trans hkey, le_rfl⟩
  | fails | reads | inTime | finds | verifies => exact ⟨expiry, hkey, le_rfl⟩

theorem AuthMove.clock (hmove : AuthMove config store pc store' pc') : store'.clock = store.clock := by
  cases hmove <;> rfl

/-! ## Headers that have been checked, and headers that are remembered -/

/-- The header has passed the timestamp check by now. -/
def Checked (config : NodeAuthEnv KeyObject) (store : AuthStore) (header : AuthHeader) : Prop :=
  ∃ earlier ≤ store.clock, checkTimestamp config header.millis earlier = .ok ()

/-- Redis holds the nonce for twice the skew after a moment at which the header passes. -/
def Remembered (config : NodeAuthEnv KeyObject) (store : AuthStore) (header : AuthHeader) : Prop :=
  ∃ expiry, store.redis header.nonceKey = some expiry ∧
    ∃ earlier, checkTimestamp config header.millis earlier = .ok () ∧
      earlier + config.NODE_AUTH_SKEW_MS * 2 ≤ expiry

/-- A call that is past the timestamp check has a header that passed it. -/
def CallChecked (config : NodeAuthEnv KeyObject) (store : AuthStore) (call : AuthCall) : Prop :=
  match call.pc with
  | .lookUp header => Checked config store header
  | .checkSignature header _ _ => Checked config store header
  | .setNonce header _ => Checked config store header
  | _ => True

/-- The call has returned for this node id, timestamp and nonce. -/
def Accepted (call : AuthCall) (signed : String × String × String) : Prop :=
  ∃ header orgId, call.pc = .returned header orgId ∧ header.signed = signed

def Taken (config : NodeAuthEnv KeyObject) (store : AuthStore) (signed : String × String × String) :
    Prop :=
  ∃ header, header.signed = signed ∧ Remembered config store header

theorem CallChecked.later {call : AuthCall} (hchecked : CallChecked config store call)
    (hclock : store.clock ≤ store'.clock) : CallChecked config store' call := by
  have hmono : ∀ header, Checked config store header → Checked config store' header := by
    rintro header ⟨earlier, hle, hcheck⟩
    exact ⟨earlier, hle.trans hclock, hcheck⟩
  unfold CallChecked at hchecked ⊢
  cases hpc : call.pc with
  | lookUp header => exact hmono header (by simpa only [hpc] using hchecked)
  | checkSignature header orgId publicKey => exact hmono header (by simpa only [hpc] using hchecked)
  | setNonce header orgId => exact hmono header (by simpa only [hpc] using hchecked)
  | start | checkTimestamp | returned | threw => trivial

theorem Remembered.move (hskew : 0 < config.NODE_AUTH_SKEW_MS)
    (hremembered : Remembered config store header)
    (hmove : AuthMove config store pc store' pc') : Remembered config store' header := by
  obtain ⟨expiry, hkey, earlier, hcheck, hle⟩ := hremembered
  obtain ⟨later, hkey', hlater⟩ := hmove.expiry hskew hkey
  exact ⟨later, hkey', earlier, hcheck, hle.trans hlater⟩

/-- Headers with the same signed part share their nonce and their timestamp. -/
theorem Remembered.congr {other : AuthHeader} (hsame : other.signed = header.signed)
    (hremembered : Remembered config store other) : Remembered config store header := by
  have hnode : other.nodeId = header.nodeId := congrArg Prod.fst hsame
  have hmillis : other.millis = header.millis := congrArg (fun signed => signed.2.1) hsame
  have hnonce : other.nonce = header.nonce := congrArg (fun signed => signed.2.2) hsame
  unfold Remembered AuthHeader.nonceKey at hremembered ⊢
  rwa [hnode, hmillis, hnonce] at hremembered

/-! ## The condition -/

/-- A SET whose nonce was set before and has run out comes less than twice the skew
after every moment at which the header passes the timestamp check. -/
def SetsInTime (config : NodeAuthEnv KeyObject) (_ : Reply) (store : AuthStore) (call : AuthCall) :
    Prop :=
  ∀ header orgId expiry, call.pc = .setNonce header orgId →
    store.redis header.nonceKey = some expiry → expiry ≤ store.clock →
    ∀ earlier, checkTimestamp config header.millis earlier = .ok () →
      (store.clock : ℚ) < earlier + config.NODE_AUTH_SKEW_MS * 2

/-- The call is not about to set a nonce that has run out. -/
def nonceNotLapsed (store : AuthStore) (call : AuthCall) : Bool :=
  match call.pc with
  | .setNonce header _ => (store.redis header.nonceKey).all fun expiry => (store.clock : ℚ) < expiry
  | _ => true

theorem inTime_of_nonceNotLapsed {reply : Reply} {call : AuthCall}
    (hlive : nonceNotLapsed store call = true) : SetsInTime config reply store call := by
  intro header orgId expiry hpc hkey hexpired
  unfold nonceNotLapsed at hlive
  rw [hpc] at hlive
  simp only [hkey, Option.all_some, decide_eq_true_eq] at hlive
  exact absurd hexpired (not_le.2 hlive)

/-- The service without the late SETs. -/
noncomputable def timelyService (config : NodeAuthEnv KeyObject) :
    Service AuthStore AuthCall Reply AuthAmbient :=
  (nodeAuthService config).guarded (SetsInTime config) fun _ _ => True

theorem timely_entry {call : AuthCall} (hentry : (timelyService config).entry call) :
    call.pc = .start := by
  simpa [timelyService, nodeAuthService] using hentry

theorem timely_move {reply : Reply} {call call' : AuthCall}
    (hadvance : (timelyService config).advance reply store call = some (store', call')) :
    SetsInTime config reply store call ∧ AuthMove config store call.pc store' call'.pc := by
  obtain ⟨htimely, hstep⟩ := Service.guarded_advance.1 hadvance
  obtain ⟨⟨next, pc⟩, hauth, hsame⟩ := Option.map_eq_some_iff.1 hstep
  obtain ⟨rfl, rfl⟩ := Prod.mk.inj hsame
  exact ⟨htimely, authStep_move hauth⟩

theorem ambient_clock {event : AuthAmbient}
    (hambient : (timelyService config).ambient event store = some store') :
    store.clock ≤ store'.clock ∧ store'.redis = store.redis := by
  obtain ⟨-, hevent⟩ := Service.guarded_ambient.1 hambient
  cases event with
  | tick elapsed =>
      rw [← Option.some.inj hevent]
      exact ⟨by simp, rfl⟩
  | write db =>
      rw [← Option.some.inj hevent]
      exact ⟨le_rfl, rfl⟩

theorem AuthMove.checked (hmove : AuthMove config store pc store' pc')
    (hchecked : CallChecked config store ⟨text, pc⟩) : CallChecked config store' ⟨text, pc'⟩ := by
  cases hmove with
  | inTime header hcheck => exact ⟨store.clock, le_rfl, hcheck⟩
  | finds | verifies => exact hchecked
  | sets header orgId pc' hlapsed hpc =>
      rcases hpc with rfl | rfl
      · trivial
      · trivial
  | fails | reads => trivial

theorem authOutline (config : NodeAuthEnv KeyObject) :
    Service.Outline (timelyService config) (fun _ => True) (CallChecked config) where
  entry store call _ hentry := by
    unfold CallChecked
    rw [timely_entry hentry]
    trivial
  advance_store _ _ _ _ _ _ _ _ := trivial
  advance_frame _ _ _ _ _ _ hchecked hadvance := (timely_move hadvance).2.checked hchecked
  advance_stable _ _ _ _ _ _ _ _ hother hadvance :=
    hother.later (timely_move hadvance).2.clock.ge
  ambient_store _ _ _ _ _ := trivial
  ambient_stable _ _ _ _ _ hchecked hambient := hchecked.later (ambient_clock hambient).1

/-- What it takes to have returned just now. -/
theorem AuthMove.accepts (hmove : AuthMove config store pc store' pc')
    {signed : String × String × String} (haccepted : Accepted ⟨text, pc'⟩ signed)
    (hbefore : ¬ Accepted ⟨text, pc⟩ signed) :
    ∃ header orgId, header.signed = signed ∧ pc = .setNonce header orgId ∧
      store.isLive header.nonceKey = false ∧ store' = store.remember config header := by
  obtain ⟨header, orgId, hpc, hsigned⟩ := haccepted
  cases hmove with
  | sets header' orgId' pc' hlapsed hreturned =>
      rcases hreturned with rfl | rfl
      · cases hpc
        exact ⟨header, orgId, hsigned, rfl, hlapsed, rfl⟩
      · cases hpc
  | fails | reads | inTime | finds | verifies => cases hpc

theorem authExclusive (hskew : 0 < config.NODE_AUTH_SKEW_MS) :
    Service.Exclusive (timelyService config) (fun _ => True) (CallChecked config) Accepted
      (Taken config) where
  entry := by
    rintro call signed hentry ⟨header, orgId, hpc, -⟩
    rw [timely_entry hentry] at hpc
    cases hpc
  acquire := by
    rintro reply store call store' call' signed - - hadvance haccepted hbefore ⟨other, hother, htaken⟩
    obtain ⟨htimely, hmove⟩ := timely_move hadvance
    obtain ⟨header, orgId, rfl, hpc, hlapsed, -⟩ := hmove.accepts haccepted hbefore
    -- the nonce has run out, so the header's window has closed, so this SET came too late
    obtain ⟨expiry, hkey, earlier, hcheck, hle⟩ := htaken.congr hother
    have hexpired := isLive_eq_false.1 hlapsed expiry hkey
    have hearly := htimely header orgId expiry hpc hkey hexpired earlier hcheck
    exact absurd (hle.trans hexpired) (not_le.2 hearly)
  mark := by
    intro reply store call store' call' signed _ hchecked hadvance haccepted hbefore
    obtain ⟨-, hmove⟩ := timely_move hadvance
    by_cases hfirst : Accepted call signed
    · obtain ⟨header, hsigned, htaken⟩ := hbefore hfirst
      exact ⟨header, hsigned, htaken.move hskew hmove⟩
    · obtain ⟨header, orgId, hsigned, hpc, -, rfl⟩ := hmove.accepts haccepted hfirst
      unfold CallChecked at hchecked
      rw [hpc] at hchecked
      obtain ⟨earlier, hle, hcheck⟩ := hchecked
      refine ⟨header, hsigned, _, remember_self, earlier, hcheck, ?_⟩
      have hcast : (earlier : ℚ) ≤ store.clock := by exact_mod_cast hle
      linarith
  keep := by
    rintro reply store call store' call' signed - - hadvance ⟨header, hsigned, htaken⟩ -
    exact ⟨header, hsigned, htaken.move hskew (timely_move hadvance).2⟩
  ambient := by
    rintro event store store' signed - hambient ⟨header, hsigned, expiry, hkey, hearlier⟩
    refine ⟨header, hsigned, expiry, ?_, hearlier⟩
    rw [(ambient_clock hambient).2]
    exact hkey

/-! ## No header is accepted twice -/

/-- No two calls have returned with the same node id, timestamp and nonce. -/
def NoReplay (state : State AuthStore AuthCall) : Prop :=
  ∀ first second call call' signed, state.frames first = some call →
    state.frames second = some call' → Accepted call signed → Accepted call' signed → first = second

/-- If every SET of a nonce that has run out comes in time, no header is accepted twice. -/
theorem authenticateNode_no_replay {config : NodeAuthEnv KeyObject} {store : AuthStore}
    {labels : List (Label AuthCall Reply AuthAmbient)} {final : State AuthStore AuthCall}
    (hskew : 0 < config.NODE_AUTH_SKEW_MS)
    (htimely : (nodeAuthService config).system.Along
      (Service.Meets (SetsInTime config) fun _ _ => True) (State.idle store) labels)
    (hrun : (nodeAuthService config).system.run (State.idle store) labels = some final) :
    NoReplay final :=
  ((authExclusive hskew).run (authOutline config) (Service.holds_idle trivial) Service.owned_idle
    (Service.guarded_run htimely hrun)).unique

/-! ## The condition in whole milliseconds -/

theorem checkTimestamp_eq_ok {millis : String} {now : Time} :
    checkTimestamp config millis now = .ok () ↔
      ∃ sent, numberOf millis = some sent ∧ inWindow config sent now = true := by
  unfold checkTimestamp
  cases numberOf millis with
  | none => simp
  | some sent => simp

theorem inWindow_whole {sent skew now : ℤ} (hskew : config.NODE_AUTH_SKEW_MS = skew)
    (hpos : 0 < skew) (hsmall : skew < 2 ^ 53) : inWindow config sent now = true ↔ |now - sent| ≤ skew := by
  rw [inWindow, decide_eq_true_iff, hskew]
  by_cases hclose : |now - sent| ≤ skew
  · rw [Binary64.sub_intCast (by omega)]
    exact_mod_cast Iff.rfl
  · -- a longer distance is not rounded down to the skew, which is a double
    refine iff_of_false (not_le.2 ?_) hclose
    have hdouble : Binary64.nearest ((skew + 1 : ℤ) : ℚ) = ((skew + 1 : ℤ) : ℚ) :=
      Binary64.nearest_intCast (abs_le.2 (by omega))
    rw [not_le, lt_abs] at hclose
    rcases hclose with hlater | hearlier
    · have hround : Binary64.nearest ((skew + 1 : ℤ) : ℚ) ≤ Binary64.sub now sent :=
        Binary64.nearest_mono (by exact_mod_cast hlater)
      rw [hdouble] at hround
      refine lt_of_lt_of_le ?_ (le_abs_self _)
      push_cast at hround
      linarith
    · have hround : Binary64.sub now sent ≤ -Binary64.nearest ((skew + 1 : ℤ) : ℚ) := by
        rw [← Binary64.nearest_neg]
        apply Binary64.nearest_mono
        push_cast
        have hcast : (skew : ℚ) + 1 ≤ -(now - sent) := by exact_mod_cast hearlier
        linarith
      rw [hdouble] at hround
      refine lt_of_lt_of_le ?_ (neg_le_abs _)
      push_cast at hround
      linarith

/-- A header in whole milliseconds can first pass one skew before its timestamp, and
twice the skew after that is the end of its window. -/
theorem inTime_iff_of_whole {millis : String} {sent skew now : ℤ}
    (hsent : numberOf millis = some (sent : ℚ)) (hskew : config.NODE_AUTH_SKEW_MS = skew)
    (hpos : 0 < skew) (hsmall : skew < 2 ^ 53) :
    (∀ earlier : Time, checkTimestamp config millis earlier = .ok () →
      (now : ℚ) < earlier + config.NODE_AUTH_SKEW_MS * 2) ↔ now < sent + skew := by
  have hcheck : ∀ earlier : ℤ, checkTimestamp config millis earlier = .ok () ↔
      |earlier - sent| ≤ skew := by
    intro earlier
    rw [checkTimestamp_eq_ok, ← inWindow_whole hskew hpos hsmall, hsent]
    simp
  constructor
  · intro hearly
    have hfirst := hearly (sent - skew) ((hcheck _).2 (by rw [sub_sub_cancel_left, abs_neg, abs_of_pos hpos]))
    rw [hskew] at hfirst
    push_cast at hfirst
    have hcast : (now : ℚ) < (sent + skew : ℤ) := by
      push_cast
      linarith
    exact_mod_cast hcast
  · intro hnow earlier hpasses
    have hlower := (abs_le.1 ((hcheck earlier).1 hpasses)).1
    rw [hskew]
    have hwhole : now < earlier + skew * 2 := by omega
    exact_mod_cast hwhole

/-! ## A slow call -/

/-- A node with the key `7 … 7`, and a stand-in for `node:crypto` that accepts the
signature "AQ", which is the byte 1. -/
def sampleAuth : NodeAuthEnv (List UInt8) where
  NODE_AUTH_SKEW_MS := 60000
  createPublicKey := some
  verify := fun _ _ signature => some (signature = [1])
  fromBase64url := fun text => if text = "AQ" then [1] else []

def authStore : AuthStore where
  db :=
    match Database.empty.insertOrganization ⟨"org_1", "Fleet", "fleet"⟩ with
    | .error _ => .empty
    | .ok db =>
        match db.insertNode "org_1"
          { id := 5, orgId := "org_1", name := "node", status := .online
            host := ⟨"h", "linux", "amd64", "6.8", "0.1.0", 68719476736, 16⟩
            publicKey := List.replicate 32 7, lastSeenAt := none, createdAt := 0 } with
        | .error _ => .empty
        | .ok db => db
  redis := fun _ => none
  clock := 1760000000000

/-- Dated one minute ahead. -/
def aheadHeader : Option String :=
  some "ModelHubNode 00000000-0000-0000-0000-000000000005.1760000060000.n1.AQ"

def aheadRead : AuthHeader :=
  ⟨"00000000-0000-0000-0000-000000000005", "1760000060000", "n1", "AQ", 5⟩

/-- A call makes this many steps. -/
def steps (call count : ℕ) : List (Label AuthCall Reply AuthAmbient) :=
  List.replicate count (.advance call .arrives)

/-- The header is accepted at once; a second call with it checks the timestamp just
before the window closes, and sets the nonce two seconds later. -/
def slowCall : List (Label AuthCall Reply AuthAmbient) :=
  .start 0 ⟨aheadHeader, .start⟩ :: steps 0 5 ++
    .ambient (.tick 119000) :: .start 1 ⟨aheadHeader, .start⟩ :: steps 1 4 ++
    .ambient (.tick 2000) :: steps 1 1

/-- The same without the two seconds. -/
def promptCall : List (Label AuthCall Reply AuthAmbient) :=
  .start 0 ⟨aheadHeader, .start⟩ :: steps 0 5 ++
    .ambient (.tick 119000) :: .start 1 ⟨aheadHeader, .start⟩ :: steps 1 5

/-- `authenticateNode` accepts a header twice. -/
theorem authenticateNode_accepts_twice :
    ¬ ∀ (config : NodeAuthEnv (List UInt8)) (store : AuthStore)
      (labels : List (Label AuthCall Reply AuthAmbient)) (final : State AuthStore AuthCall),
      0 < config.NODE_AUTH_SKEW_MS →
      (nodeAuthService config).system.run (State.idle store) labels = some final →
      NoReplay final := by
  intro hclaim
  have hcalls : ((nodeAuthService sampleAuth).system.run (State.idle authStore) slowCall).map
      (fun final => (final.frames 0, final.frames 1)) =
        some (some ⟨aheadHeader, .returned aheadRead "org_1"⟩,
          some ⟨aheadHeader, .returned aheadRead "org_1"⟩) := by
    decide +kernel
  obtain ⟨final, hrun, hframes⟩ := Option.map_eq_some_iff.1 hcalls
  obtain ⟨hfirst, hsecond⟩ := Prod.mk.inj hframes
  have hsame := hclaim sampleAuth authStore slowCall final (by decide +kernel) hrun 0 1 _ _
    aheadRead.signed hfirst hsecond ⟨aheadRead, "org_1", rfl, rfl⟩ ⟨aheadRead, "org_1", rfl, rfl⟩
  cases hsame

/-- Without the delay the condition is met, and the second call is turned away. -/
theorem authenticateNode_no_replay_prompt :
    ∃ final, (nodeAuthService sampleAuth).system.run (State.idle authStore) promptCall = some final ∧
      NoReplay final ∧
      final.frames 0 = some ⟨aheadHeader, .returned aheadRead "org_1"⟩ ∧
      final.frames 1 =
        some ⟨aheadHeader, .threw (.nodeAuth "replayed authorization header")⟩ := by
  have hcalls : ((nodeAuthService sampleAuth).system.run (State.idle authStore) promptCall).map
      (fun final => (final.frames 0, final.frames 1)) =
        some (some ⟨aheadHeader, .returned aheadRead "org_1"⟩,
          some ⟨aheadHeader, .threw (.nodeAuth "replayed authorization header")⟩) := by
    decide +kernel
  obtain ⟨final, hrun, hframes⟩ := Option.map_eq_some_iff.1 hcalls
  obtain ⟨hfirst, hsecond⟩ := Prod.mk.inj hframes
  have hfresh : (nodeAuthService sampleAuth).system.Along
      (Service.Meets (fun _ store call => nonceNotLapsed store call = true) fun _ _ => True)
      (State.idle authStore) promptCall := by
    decide +kernel
  refine ⟨final, hrun, authenticateNode_no_replay (by decide +kernel) ?_ hrun, hfirst, hsecond⟩
  exact System.along_mono (fun state label => Service.Meets.mono fun _ _ _ => inTime_of_nonceNotLapsed)
    hfresh

end ModelHub.ControlPlane
