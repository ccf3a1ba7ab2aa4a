import ModelHub.Foundations.Transition
import Mathlib.Data.List.Induction
import Mathlib.Logic.Function.Basic

/-!
# Concurrent calls on one store

Any number of calls run on a shared store.  A call is a *frame* (where it
stands and what its local variables hold) and moves by atomic steps: each
`advance` reads and writes the store once and replaces the frame of the call
that moved.  The store may also change by itself, through `ambient` events.
A run of the resulting system is an interleaving of all the calls' steps.

These rules carry the proofs about such runs.

* `Outline.run`: an invariant of the store, together with an assertion on every
  frame that the other calls' steps do not disturb.
* `Exclusive.run`: if a call acquires a resource only while it is not taken, and
  only its owner can free it, then a resource never has two owners.
* `frame_run`: what the steps of a call keep of its frame, a run keeps.
* `became`: what holds of a frame and of no call's beginning, a step of the call made so.
* `alone_run`: a call that nothing disturbs.
* `guarded_run`: a run whose steps all meet a condition is a run of the service
  that refuses the other steps, so that the rules above apply to it.
-/

namespace ModelHub.Interleaving

open Transition

/-- What a call does at each of its steps, and what else may happen to the store. -/
structure Service (Store Frame Env Ambient : Type*) where
  /-- The frames a call may begin in. -/
  entry : Frame → Bool
  /-- One atomic step of a call; `none` once it has returned or thrown. -/
  advance : Env → Store → Frame → Option (Store × Frame)
  /-- A change of the store that belongs to no call. -/
  ambient : Ambient → Store → Option Store

structure State (Store Frame : Type*) where
  store : Store
  frames : ℕ → Option Frame

inductive Label (Frame Env Ambient : Type*) where
  | start (call : ℕ) (frame : Frame)
  | advance (call : ℕ) (env : Env)
  | ambient (event : Ambient)

variable {Store Frame Env Ambient Resource : Type*}

/-- No call has begun. -/
def State.idle (store : Store) : State Store Frame := ⟨store, fun _ => none⟩

def State.setFrame (state : State Store Frame) (call : ℕ) (store : Store) (frame : Frame) :
    State Store Frame :=
  ⟨store, Function.update state.frames call (some frame)⟩

@[simp] theorem State.idle_frames (store : Store) (call : ℕ) :
    (State.idle store : State Store Frame).frames call = none := rfl

@[simp] theorem State.setFrame_store (state : State Store Frame) (call : ℕ) (store : Store)
    (frame : Frame) : (state.setFrame call store frame).store = store := rfl

@[simp] theorem State.setFrame_frames_self (state : State Store Frame) (call : ℕ) (store : Store)
    (frame : Frame) : (state.setFrame call store frame).frames call = some frame := by
  simp [State.setFrame]

theorem State.setFrame_frames_of_ne (state : State Store Frame) {call other : ℕ} (store : Store)
    (frame : Frame) (hne : other ≠ call) :
    (state.setFrame call store frame).frames other = state.frames other := by
  simp [State.setFrame, hne]

namespace Service

variable (svc : Service Store Frame Env Ambient)

def step (state : State Store Frame) : Label Frame Env Ambient → Option (State Store Frame)
  | .start call frame =>
      if svc.entry frame ∧ (state.frames call).isNone then
        some (state.setFrame call state.store frame)
      else none
  | .advance call env =>
      (state.frames call).bind fun frame =>
        (svc.advance env state.store frame).map fun next => state.setFrame call next.1 next.2
  | .ambient event =>
      (svc.ambient event state.store).map fun store => { state with store := store }

/-- All interleavings of the calls, as one system. -/
def system : System (State Store Frame) (Label Frame Env Ambient) := ⟨svc.step⟩

variable {svc}

/-- Everything a step can do. -/
theorem step_cases {state next : State Store Frame} {label : Label Frame Env Ambient}
    (hstep : svc.system.step state label = some next) :
    (∃ call frame, label = .start call frame ∧ svc.entry frame ∧ state.frames call = none ∧
      next = state.setFrame call state.store frame) ∨
    (∃ call env frame store frame', label = .advance call env ∧
      state.frames call = some frame ∧ svc.advance env state.store frame = some (store, frame') ∧
      next = state.setFrame call store frame') ∨
    (∃ event store, label = .ambient event ∧ svc.ambient event state.store = some store ∧
      next = { state with store := store }) := by
  cases label with
  | start call frame =>
      simp only [system, step] at hstep
      split at hstep
      case isTrue hguard =>
        exact Or.inl ⟨call, frame, rfl, hguard.1, by simpa using hguard.2,
          (Option.some.inj hstep).symm⟩
      case isFalse => cases hstep
  | advance call env =>
      simp only [system, step, Option.bind_eq_some_iff, Option.map_eq_some_iff] at hstep
      obtain ⟨frame, hframe, ⟨store, frame'⟩, hadvance, rfl⟩ := hstep
      exact Or.inr (Or.inl ⟨call, env, frame, store, frame', rfl, hframe, hadvance, rfl⟩)
  | ambient event =>
      simp only [system, step, Option.map_eq_some_iff] at hstep
      obtain ⟨store, hambient, rfl⟩ := hstep
      exact Or.inr (Or.inr ⟨event, store, rfl, hambient, rfl⟩)

/-- A frame after a step of `call` is the new one, or one that was there before. -/
theorem frames_setFrame {state : State Store Frame} {call other : ℕ} {store : Store}
    {frame found : Frame} (hfound : (state.setFrame call store frame).frames other = some found) :
    (other = call ∧ found = frame) ∨ (other ≠ call ∧ state.frames other = some found) := by
  by_cases heq : other = call
  · subst heq
    simp only [State.setFrame_frames_self, Option.some.injEq] at hfound
    exact Or.inl ⟨rfl, hfound.symm⟩
  · rw [State.setFrame_frames_of_ne _ _ _ heq] at hfound
    exact Or.inr ⟨heq, hfound⟩

/-! ## One call -/

/-- What the steps of a call keep of its frame, every step keeps. -/
theorem frame_step {prop : Frame → Prop}
    (hkeep : ∀ env store frame store' frame', prop frame →
      svc.advance env store frame = some (store', frame') → prop frame')
    {state next : State Store Frame} {label : Label Frame Env Ambient} {call : ℕ}
    (hprop : ∃ frame, state.frames call = some frame ∧ prop frame)
    (hstep : svc.system.step state label = some next) :
    ∃ frame, next.frames call = some frame ∧ prop frame := by
  obtain ⟨frame, hframe, hprop⟩ := hprop
  rcases step_cases hstep with ⟨other, new, -, -, hnone, rfl⟩ |
    ⟨other, env, found, store, new, -, hfound, hadvance, rfl⟩ | ⟨event, store, -, -, rfl⟩
  · have hne : call ≠ other := by
      intro heq
      rw [heq, hnone] at hframe
      cases hframe
    exact ⟨frame, by rwa [State.setFrame_frames_of_ne _ _ _ hne], hprop⟩
  · by_cases heq : call = other
    · subst heq
      obtain rfl : found = frame := Option.some.inj (hfound.symm.trans hframe)
      exact ⟨new, State.setFrame_frames_self _ _ _ _, hkeep _ _ _ _ _ hprop hadvance⟩
    · exact ⟨frame, by rwa [State.setFrame_frames_of_ne _ _ _ heq], hprop⟩
  · exact ⟨frame, hframe, hprop⟩

theorem frame_run {prop : Frame → Prop}
    (hkeep : ∀ env store frame store' frame', prop frame →
      svc.advance env store frame = some (store', frame') → prop frame')
    {start final : State Store Frame} {labels : List (Label Frame Env Ambient)} {call : ℕ}
    (hprop : ∃ frame, start.frames call = some frame ∧ prop frame)
    (hrun : svc.system.run start labels = some final) :
    ∃ frame, final.frames call = some frame ∧ prop frame :=
  System.run_invariant (fun state => ∃ frame, state.frames call = some frame ∧ prop frame)
    (fun _ _ _ hprop hstep => frame_step hkeep hprop hstep) hprop hrun

/-- A call that has returned or thrown has no further step. -/
theorem done_step {state next : State Store Frame} {label : Label Frame Env Ambient} {call : ℕ}
    {frame : Frame} (hdone : ∀ env store, svc.advance env store frame = none)
    (hframe : state.frames call = some frame)
    (hstep : svc.system.step state label = some next) : next.frames call = some frame := by
  obtain ⟨found, hfound, rfl⟩ := @frame_step _ _ _ _ svc (· = frame)
    (by
      rintro env store _ store' frame' rfl hadvance
      rw [hdone] at hadvance
      cases hadvance)
    _ _ _ call ⟨frame, hframe, rfl⟩ hstep
  exact hfound

/-- A call that does not begin has no frame. -/
theorem frames_none_run {start final : State Store Frame} {labels : List (Label Frame Env Ambient)}
    {call : ℕ} (hnone : start.frames call = none) (hlabels : ∀ frame, .start call frame ∉ labels)
    (hrun : svc.system.run start labels = some final) : final.frames call = none := by
  induction labels generalizing start with
  | nil =>
      cases hrun
      exact hnone
  | cons label rest ih =>
      obtain ⟨next, hstep, hrest⟩ := System.run_cons.1 hrun
      refine ih ?_ (fun frame hmem => hlabels frame (List.mem_cons_of_mem _ hmem)) hrest
      rcases step_cases hstep with ⟨other, frame, rfl, -, -, rfl⟩ |
        ⟨other, env, found, store, frame, -, hfound, -, rfl⟩ | ⟨event, store, -, -, rfl⟩
      · have hne : call ≠ other := by
          rintro rfl
          exact hlabels frame List.mem_cons_self
        rwa [State.setFrame_frames_of_ne _ _ _ hne]
      · have hne : call ≠ other := by
          rintro rfl
          rw [hnone] at hfound
          cases hfound
        rwa [State.setFrame_frames_of_ne _ _ _ hne]
      · exact hnone

/-- A property of frames that no call begins with was brought about by one of the call's
steps. -/
theorem became {prop : Frame → Prop} (hentry : ∀ frame, svc.entry frame → ¬ prop frame)
    {store : Store} {final : State Store Frame} {labels : List (Label Frame Env Ambient)} {call : ℕ}
    {frame : Frame} (hrun : svc.system.run (State.idle store) labels = some final)
    (hframe : final.frames call = some frame) (hprop : prop frame) :
    ∃ before env after state old store' new, labels = before ++ .advance call env :: after ∧
      svc.system.run (State.idle store) before = some state ∧ state.frames call = some old ∧
      ¬ prop old ∧ svc.advance env state.store old = some (store', new) ∧ prop new := by
  induction labels using List.reverseRecOn generalizing final frame with
  | nil =>
      cases hrun
      simp at hframe
  | append_singleton labels label ih =>
      obtain ⟨last, hlast, hstep⟩ := System.run_concat.1 hrun
      -- the frame was there before the last step, or the last step made it
      have hbefore : ∀ frame, last.frames call = some frame → prop frame →
          ∃ before env after state old store' new,
            labels ++ [label] = before ++ .advance call env :: after ∧
            svc.system.run (State.idle store) before = some state ∧
            state.frames call = some old ∧ ¬ prop old ∧
            svc.advance env state.store old = some (store', new) ∧ prop new := by
        intro frame hframe hprop
        obtain ⟨before, env, after, state, old, store', new, rfl, hrest⟩ := ih hlast hframe hprop
        exact ⟨before, env, after ++ [label], state, old, store', new, by simp, hrest⟩
      rcases step_cases hstep with ⟨other, new, -, hentered, -, rfl⟩ |
        ⟨other, env, old, store', new, rfl, hold, hadvance, rfl⟩ | ⟨event, store', -, -, rfl⟩
      · rcases frames_setFrame hframe with ⟨-, rfl⟩ | ⟨-, hfound⟩
        · exact absurd hprop (hentry _ hentered)
        · exact hbefore frame hfound hprop
      · rcases frames_setFrame hframe with ⟨rfl, rfl⟩ | ⟨-, hfound⟩
        · by_cases hbeforehand : prop old
          · exact hbefore old hold hbeforehand
          · exact ⟨labels, env, [], last, old, store', frame, rfl, hlast, hold, hbeforehand,
              hadvance, hprop⟩
        · exact hbefore frame hfound hprop
      · exact hbefore frame hframe hprop

/-! ## Assertions that the other calls do not disturb -/

/-- A store invariant and an assertion on frames.  `advance_stable` and
`ambient_stable` are the freedom from interference: they let the assertion on a
frame survive the steps of everyone else. -/
structure Outline (svc : Service Store Frame Env Ambient) (storeInv : Store → Prop)
    (frameInv : Store → Frame → Prop) : Prop where
  entry : ∀ store frame, storeInv store → svc.entry frame → frameInv store frame
  advance_store : ∀ env store frame store' frame', storeInv store → frameInv store frame →
    svc.advance env store frame = some (store', frame') → storeInv store'
  advance_frame : ∀ env store frame store' frame', storeInv store → frameInv store frame →
    svc.advance env store frame = some (store', frame') → frameInv store' frame'
  advance_stable : ∀ env store frame store' frame' other, storeInv store →
    frameInv store frame → frameInv store other →
    svc.advance env store frame = some (store', frame') → frameInv store' other
  ambient_store : ∀ event store store', storeInv store →
    svc.ambient event store = some store' → storeInv store'
  ambient_stable : ∀ event store store' frame, storeInv store → frameInv store frame →
    svc.ambient event store = some store' → frameInv store' frame

/-- The invariant an outline proves. -/
def Holds (storeInv : Store → Prop) (frameInv : Store → Frame → Prop)
    (state : State Store Frame) : Prop :=
  storeInv state.store ∧
    ∀ call frame, state.frames call = some frame → frameInv state.store frame

variable {storeInv : Store → Prop} {frameInv : Store → Frame → Prop}

theorem holds_idle {store : Store} (hstore : storeInv store) :
    Holds storeInv frameInv (State.idle store) :=
  ⟨hstore, fun _ _ hframe => by simp at hframe⟩

theorem Outline.step (outline : Outline svc storeInv frameInv) {state next : State Store Frame}
    {label : Label Frame Env Ambient} (hholds : Holds storeInv frameInv state)
    (hstep : svc.system.step state label = some next) : Holds storeInv frameInv next := by
  obtain ⟨hstore, hframes⟩ := hholds
  rcases step_cases hstep with ⟨call, frame, -, hentry, -, rfl⟩ |
    ⟨call, env, frame, store, frame', -, hframe, hadvance, rfl⟩ | ⟨event, store, -, hambient, rfl⟩
  · refine ⟨hstore, fun other found hfound => ?_⟩
    rcases frames_setFrame hfound with ⟨-, rfl⟩ | ⟨-, hfound⟩
    · exact outline.entry _ _ hstore hentry
    · exact hframes other found hfound
  · have hown := hframes call frame hframe
    refine ⟨outline.advance_store _ _ _ _ _ hstore hown hadvance, fun other found hfound => ?_⟩
    rcases frames_setFrame hfound with ⟨-, rfl⟩ | ⟨-, hfound⟩
    · exact outline.advance_frame _ _ _ _ _ hstore hown hadvance
    · exact outline.advance_stable _ _ _ _ _ _ hstore hown (hframes other found hfound) hadvance
  · exact ⟨outline.ambient_store _ _ _ hstore hambient, fun call frame hframe =>
      outline.ambient_stable _ _ _ _ hstore (hframes call frame hframe) hambient⟩

theorem Outline.run (outline : Outline svc storeInv frameInv) {start final : State Store Frame}
    {labels : List (Label Frame Env Ambient)} (hstart : Holds storeInv frameInv start)
    (hrun : svc.system.run start labels = some final) : Holds storeInv frameInv final :=
  System.run_invariant (Holds storeInv frameInv)
    (fun _ _ _ hholds hstep => outline.step hholds hstep) hstart hrun

/-! ## Exclusive ownership -/

/-- How calls acquire and free resources: only what is not taken is acquired,
and only its owner frees it.  The rules may rely on an outline. -/
structure Exclusive (svc : Service Store Frame Env Ambient) (storeInv : Store → Prop)
    (frameInv : Store → Frame → Prop) (owns : Frame → Resource → Prop)
    (taken : Store → Resource → Prop) : Prop where
  entry : ∀ frame resource, svc.entry frame → ¬ owns frame resource
  acquire : ∀ env store frame store' frame' resource, storeInv store → frameInv store frame →
    svc.advance env store frame = some (store', frame') → owns frame' resource →
    ¬ owns frame resource → ¬ taken store resource
  mark : ∀ env store frame store' frame' resource, storeInv store → frameInv store frame →
    svc.advance env store frame = some (store', frame') → owns frame' resource →
    (owns frame resource → taken store resource) → taken store' resource
  keep : ∀ env store frame store' frame' resource, storeInv store → frameInv store frame →
    svc.advance env store frame = some (store', frame') → taken store resource →
    ¬ owns frame resource → taken store' resource
  ambient : ∀ event store store' resource, storeInv store →
    svc.ambient event store = some store' → taken store resource → taken store' resource

/-- Whatever a call owns is taken, and nobody else owns it. -/
structure Owned (owns : Frame → Resource → Prop) (taken : Store → Resource → Prop)
    (state : State Store Frame) : Prop where
  taken : ∀ call frame resource, state.frames call = some frame → owns frame resource →
    taken state.store resource
  unique : ∀ first second frame frame' resource, state.frames first = some frame →
    state.frames second = some frame' → owns frame resource → owns frame' resource →
    first = second

variable {owns : Frame → Resource → Prop} {taken : Store → Resource → Prop}

theorem owned_idle {store : Store} : Owned owns taken (State.idle store : State Store Frame) :=
  ⟨fun _ _ _ hframe => by simp at hframe, fun _ _ _ _ _ hframe => by simp at hframe⟩

theorem Exclusive.step (rules : Exclusive svc storeInv frameInv owns taken)
    {state next : State Store Frame} {label : Label Frame Env Ambient}
    (hholds : Holds storeInv frameInv state) (howned : Owned owns taken state)
    (hstep : svc.system.step state label = some next) : Owned owns taken next := by
  obtain ⟨hstore, hframes⟩ := hholds
  rcases step_cases hstep with ⟨call, frame, -, hentry, -, rfl⟩ |
    ⟨call, env, frame, store, frame', -, hframe, hadvance, rfl⟩ | ⟨event, store, -, hambient, rfl⟩
  · refine ⟨fun other found resource hfound howns => ?_,
      fun first second found found' resource hfound hfound' howns howns' => ?_⟩
    · rcases frames_setFrame hfound with ⟨-, rfl⟩ | ⟨-, hfound⟩
      · exact absurd howns (rules.entry _ _ hentry)
      · exact howned.taken other found resource hfound howns
    · rcases frames_setFrame hfound with ⟨-, rfl⟩ | ⟨-, hfound⟩
      · exact absurd howns (rules.entry _ _ hentry)
      rcases frames_setFrame hfound' with ⟨-, rfl⟩ | ⟨-, hfound'⟩
      · exact absurd howns' (rules.entry _ _ hentry)
      exact howned.unique first second found found' resource hfound hfound' howns howns'
  · have hown := hframes call frame hframe
    -- the moving call and another one never both end up with the resource
    have hclash : ∀ other found resource, other ≠ call → state.frames other = some found →
        owns found resource → ¬ owns frame' resource := by
      intro other found resource hne hfound howns howns'
      by_cases hbefore : owns frame resource
      · exact hne (howned.unique other call found frame resource hfound hframe howns hbefore)
      · exact rules.acquire _ _ _ _ _ _ hstore hown hadvance howns' hbefore
          (howned.taken other found resource hfound howns)
    refine ⟨fun other found resource hfound howns => ?_,
      fun first second found found' resource hfound hfound' howns howns' => ?_⟩
    · rcases frames_setFrame hfound with ⟨-, rfl⟩ | ⟨hne, hfound⟩
      · exact rules.mark _ _ _ _ _ _ hstore hown hadvance howns
          (howned.taken call frame resource hframe)
      · refine rules.keep _ _ _ _ _ _ hstore hown hadvance
          (howned.taken other found resource hfound howns) fun hbefore => hne ?_
        exact howned.unique other call found frame resource hfound hframe howns hbefore
    · rcases frames_setFrame hfound with ⟨rfl, rfl⟩ | ⟨hne, hold⟩ <;>
        rcases frames_setFrame hfound' with ⟨rfl, rfl⟩ | ⟨hne', hold'⟩
      · rfl
      · exact absurd howns (hclash second found' resource hne' hold' howns')
      · exact absurd howns' (hclash first found resource hne hold howns)
      · exact howned.unique first second found found' resource hold hold' howns howns'
  · exact ⟨fun call frame resource hframe howns =>
      rules.ambient _ _ _ _ hstore hambient (howned.taken call frame resource hframe howns),
      howned.unique⟩

/-- A resource never has two owners, in any interleaving. -/
theorem Exclusive.run (rules : Exclusive svc storeInv frameInv owns taken)
    (outline : Outline svc storeInv frameInv) {start final : State Store Frame}
    {labels : List (Label Frame Env Ambient)} (hstart : Holds storeInv frameInv start)
    (howned : Owned owns taken start) (hrun : svc.system.run start labels = some final) :
    Owned owns taken final :=
  (System.run_invariant (fun state => Holds storeInv frameInv state ∧ Owned owns taken state)
    (fun _ _ _ hinv hstep => ⟨outline.step hinv.1 hstep, rules.step hinv.1 hinv.2 hstep⟩)
    ⟨hstart, howned⟩ hrun).2

/-! ## A call on its own -/

/-- The steps of one call, when nothing else happens. -/
def alone (svc : Service Store Frame Env Ambient) : List Env → Store → Frame → Option (Store × Frame)
  | [], store, frame => some (store, frame)
  | env :: rest, store, frame =>
      (svc.advance env store frame).bind fun next => svc.alone rest next.1 next.2

@[simp] theorem alone_nil (store : Store) (frame : Frame) :
    svc.alone [] store frame = some (store, frame) := rfl

theorem alone_cons {env : Env} {rest : List Env} {store store' : Store} {frame frame' : Frame}
    (hadvance : svc.advance env store frame = some (store', frame')) :
    svc.alone (env :: rest) store frame = svc.alone rest store' frame' := by
  rw [alone, hadvance, Option.bind_some]

theorem alone_append {first second : List Env} {store middle : Store} {frame frame' : Frame}
    (hfirst : svc.alone first store frame = some (middle, frame')) :
    svc.alone (first ++ second) store frame = svc.alone second middle frame' := by
  induction first generalizing store frame with
  | nil =>
      cases hfirst
      rfl
  | cons env rest ih =>
      obtain ⟨⟨store', next⟩, hadvance, hrest⟩ := Option.bind_eq_some_iff.1 hfirst
      rw [List.cons_append, alone_cons hadvance]
      exact ih hrest

/-- What a call does alone is a run, and leaves the other calls where they stand. -/
theorem alone_run {envs : List Env} {state : State Store Frame} {call : ℕ} {store : Store}
    {frame frame' : Frame} (hframe : state.frames call = some frame)
    (halone : svc.alone envs state.store frame = some (store, frame')) :
    ∃ final, svc.system.run state (envs.map (.advance call)) = some final ∧ final.store = store ∧
      final.frames call = some frame' ∧
      ∀ other, other ≠ call → final.frames other = state.frames other := by
  induction envs generalizing state frame with
  | nil =>
      cases halone
      exact ⟨state, rfl, rfl, hframe, fun _ _ => rfl⟩
  | cons env rest ih =>
      obtain ⟨⟨middle, next⟩, hadvance, hrest⟩ := Option.bind_eq_some_iff.1 halone
      have hstep : svc.system.step state (.advance call env) =
          some (state.setFrame call middle next) := by
        simp only [system, step, hframe, Option.bind_some, hadvance, Option.map_some]
      obtain ⟨final, hrun, hstore, hfinal, hothers⟩ :=
        ih (State.setFrame_frames_self state call middle next) hrest
      refine ⟨final, System.run_cons.2 ⟨_, hstep, hrun⟩, hstore, hfinal, fun other hother => ?_⟩
      rw [hothers other hother, State.setFrame_frames_of_ne _ _ _ hother]

/-! ## Runs whose steps meet a condition -/

/-- The label's step of a call meets `cond`, and its ambient event meets `calm`. -/
def Meets (cond : Env → Store → Frame → Prop) (calm : Ambient → Store → Prop)
    (state : State Store Frame) : Label Frame Env Ambient → Prop
  | .start _ _ => True
  | .advance call env => ∀ frame, state.frames call = some frame → cond env state.store frame
  | .ambient event => calm event state.store

theorem Meets.mono {cond weaker : Env → Store → Frame → Prop} {calm : Ambient → Store → Prop}
    (himp : ∀ env store frame, cond env store frame → weaker env store frame)
    {state : State Store Frame} {label : Label Frame Env Ambient}
    (hmeets : Meets cond calm state label) : Meets weaker calm state label := by
  cases label with
  | start call frame => trivial
  | advance call env => exact fun frame hframe => himp _ _ _ (hmeets frame hframe)
  | ambient event => exact hmeets

instance decidableMeets {cond : Env → Store → Frame → Prop} {calm : Ambient → Store → Prop}
    [∀ env store frame, Decidable (cond env store frame)]
    [∀ event store, Decidable (calm event store)] (state : State Store Frame) :
    ∀ label : Label Frame Env Ambient, Decidable (Meets cond calm state label)
  | .start _ _ => isTrue trivial
  | .advance call env =>
      decidable_of_iff (∀ frame ∈ state.frames call, cond env state.store frame) Iff.rfl
  | .ambient event => inferInstanceAs (Decidable (calm event state.store))

open Classical in
/-- The service without the steps and events outside the conditions. -/
noncomputable def guarded (svc : Service Store Frame Env Ambient)
    (cond : Env → Store → Frame → Prop) (calm : Ambient → Store → Prop) :
    Service Store Frame Env Ambient where
  entry := svc.entry
  advance := fun env store frame =>
    if cond env store frame then svc.advance env store frame else none
  ambient := fun event store => if calm event store then svc.ambient event store else none

variable {cond : Env → Store → Frame → Prop} {calm : Ambient → Store → Prop}

@[simp] theorem guarded_entry (frame : Frame) :
    (svc.guarded cond calm).entry frame = svc.entry frame := rfl

theorem guarded_advance {env : Env} {store store' : Store} {frame frame' : Frame} :
    (svc.guarded cond calm).advance env store frame = some (store', frame') ↔
      cond env store frame ∧ svc.advance env store frame = some (store', frame') := by
  simp only [guarded]
  split <;> simp [*]

theorem guarded_ambient {event : Ambient} {store store' : Store} :
    (svc.guarded cond calm).ambient event store = some store' ↔
      calm event store ∧ svc.ambient event store = some store' := by
  simp only [guarded]
  split <;> simp [*]

theorem guarded_step {state next : State Store Frame} {label : Label Frame Env Ambient}
    (hmeets : Meets cond calm state label) (hstep : svc.system.step state label = some next) :
    (svc.guarded cond calm).system.step state label = some next := by
  rcases step_cases hstep with ⟨call, frame, rfl, -, -, -⟩ |
    ⟨call, env, frame, store, frame', rfl, hframe, hadvance, rfl⟩ | ⟨event, store, rfl, hambient, rfl⟩
  · exact hstep
  · have hguarded := (@guarded_advance _ _ _ _ svc _ calm _ _ _ _ _).2 ⟨hmeets frame hframe, hadvance⟩
    simp only [system, step, hframe, Option.bind_some, hguarded, Option.map_some]
  · have hguarded := (@guarded_ambient _ _ _ _ svc cond _ _ _ _).2 ⟨hmeets, hambient⟩
    simp only [system, step, hguarded, Option.map_some]

theorem guarded_run {start final : State Store Frame} {labels : List (Label Frame Env Ambient)}
    (halong : svc.system.Along (Meets cond calm) start labels)
    (hrun : svc.system.run start labels = some final) :
    (svc.guarded cond calm).system.run start labels = some final := by
  induction labels generalizing start with
  | nil => exact hrun
  | cons label rest ih =>
      obtain ⟨next, hstep, hrest⟩ := System.run_cons.1 hrun
      exact System.run_cons.2 ⟨next, guarded_step halong.1 hstep, ih (halong.2 next hstep) hrest⟩

end Service

end ModelHub.Interleaving
