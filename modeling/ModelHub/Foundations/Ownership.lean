import ModelHub.Foundations.Interleaving

/-!
# Assertions about what a call owns

A call that owns a resource is the only one to change it.  So an assertion on a frame
that looks at nothing but the parts of the store that the frame owns needs no argument
about the other calls: it is enough that the call's own steps keep it.

`Local` collects what has to be shown of the steps, on top of the rules by which
resources are acquired and freed (`Exclusive`), and `Local.run` is the rule for runs.
The steps of a call may rely on what it owns being taken, and on an invariant of the
store that they keep.
-/

namespace ModelHub.Interleaving.Service

open Transition

variable {Store Frame Env Ambient Resource Part : Type*}

/-- `part` is what the store holds of a resource.  Only the owner of a resource changes
it, and `assert` looks at the parts that the frame owns. -/
structure Local (svc : Service Store Frame Env Ambient) (owns : Frame → Resource → Prop)
    (taken : Store → Resource → Prop) (part : Store → Resource → Part) (storeInv : Store → Prop)
    (assert : Frame → (Resource → Part) → Prop) : Prop where
  congr : ∀ frame parts parts', (∀ resource, owns frame resource → parts resource = parts' resource) →
    assert frame parts → assert frame parts'
  entry : ∀ store frame, svc.entry frame → assert frame (part store)
  step : ∀ env store frame store' frame', storeInv store →
    (∀ resource, owns frame resource → taken store resource) → assert frame (part store) →
    svc.advance env store frame = some (store', frame') →
    storeInv store' ∧ assert frame' (part store')
  elsewhere : ∀ env store frame store' frame' resource,
    svc.advance env store frame = some (store', frame') → taken store resource →
    ¬ owns frame resource → part store' resource = part store resource
  ambient : ∀ event store store', storeInv store → svc.ambient event store = some store' →
    storeInv store' ∧ ∀ resource, taken store resource → part store' resource = part store resource

/-- The assertions of all calls, and who owns what. -/
structure Localized (owns : Frame → Resource → Prop) (taken : Store → Resource → Prop)
    (part : Store → Resource → Part) (storeInv : Store → Prop)
    (assert : Frame → (Resource → Part) → Prop) (state : State Store Frame) : Prop where
  owned : Owned owns taken state
  store : storeInv state.store
  frames : ∀ call frame, state.frames call = some frame → assert frame (part state.store)

variable {svc : Service Store Frame Env Ambient} {owns : Frame → Resource → Prop}
  {taken : Store → Resource → Prop} {part : Store → Resource → Part} {storeInv : Store → Prop}
  {assert : Frame → (Resource → Part) → Prop}

theorem Local.keep (rules : Local svc owns taken part storeInv assert)
    (exclusive : Exclusive svc (fun _ => True) (fun _ _ => True) owns taken)
    {state next : State Store Frame} {label : Label Frame Env Ambient}
    (hlocalized : Localized owns taken part storeInv assert state)
    (hstep : svc.system.step state label = some next) :
    Localized owns taken part storeInv assert next := by
  obtain ⟨howned, hstore, hframes⟩ := hlocalized
  have howned' : Owned owns taken next :=
    exclusive.step ⟨trivial, fun _ _ _ => trivial⟩ howned hstep
  rcases step_cases hstep with ⟨call, frame, -, hentry, -, rfl⟩ |
    ⟨call, env, frame, store, frame', -, hframe, hadvance, rfl⟩ | ⟨event, store, -, hambient, rfl⟩
  · refine ⟨howned', hstore, fun other found hfound => ?_⟩
    rcases frames_setFrame hfound with ⟨-, rfl⟩ | ⟨-, hfound⟩
    · exact rules.entry _ _ hentry
    · exact hframes other found hfound
  · obtain ⟨hstore', hassert⟩ := rules.step _ _ _ _ _ hstore
      (fun resource howns => howned.taken call frame resource hframe howns)
      (hframes call frame hframe) hadvance
    refine ⟨howned', hstore', fun other found hfound => ?_⟩
    rcases frames_setFrame hfound with ⟨-, rfl⟩ | ⟨hne, hfound⟩
    · exact hassert
    · -- what another call owns is taken, and the moving call does not own it
      apply rules.congr found (part state.store) _ _ (hframes other found hfound)
      intro resource howns
      refine (rules.elsewhere _ _ _ _ _ resource hadvance
        (howned.taken other found resource hfound howns) fun hmoving => hne ?_).symm
      exact howned.unique other call found frame resource hfound hframe howns hmoving
  · obtain ⟨hstore', hsame⟩ := rules.ambient _ _ _ hstore hambient
    refine ⟨howned', hstore', fun call frame hframe => ?_⟩
    apply rules.congr frame (part state.store) _ _ (hframes call frame hframe)
    intro resource howns
    exact (hsame resource (howned.taken call frame resource hframe howns)).symm

/-- In every interleaving, every call's assertion holds of what it owns. -/
theorem Local.run (rules : Local svc owns taken part storeInv assert)
    (exclusive : Exclusive svc (fun _ => True) (fun _ _ => True) owns taken)
    {start final : State Store Frame} {labels : List (Label Frame Env Ambient)}
    (hstart : Localized owns taken part storeInv assert start)
    (hrun : svc.system.run start labels = some final) :
    Localized owns taken part storeInv assert final :=
  System.run_invariant (Localized owns taken part storeInv assert)
    (fun _ _ _ hlocalized hstep => rules.keep exclusive hlocalized hstep) hstart hrun

end ModelHub.Interleaving.Service
