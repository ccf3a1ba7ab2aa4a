import Mathlib.Data.List.Basic
import Mathlib.Logic.Relation
import Mathlib.Tactic.Common

/-!
# Labelled transition systems

A system moves from state to state by labels.  Everything that is not decided
by the program (who moves next, what a clock shows, whether a write fails) is
part of the label, so `step` is a function: `none` says that the label is not
enabled in the state.

A *run* is a list of labels, and the facts proved by induction on runs are
stated once, here:

* `run_invariant`: what holds at the start and is kept by every step holds
  after every run;
* `along_invariant`: the same for the runs whose steps all meet a condition on
  the state before the step and its label;
* `run_rel`: what every step does to two successive states, a run does to its
  first and last state;
* `not_along_iff`: a run with a step outside the condition splits at it;
* `forall_states_iff_along`: when a property holds in every state of a run, by an
  invariant that the steps within a condition keep and the others break.
-/

namespace ModelHub.Transition

/-- A system whose choices are all in its labels. -/
structure System (State Label : Type*) where
  step : State → Label → Option State

namespace System

variable {State Label : Type*} (sys : System State Label)

/-- The state after a list of labels, if each of them is enabled in its turn. -/
def run : State → List Label → Option State
  | state, [] => some state
  | state, label :: rest => (sys.step state label).bind fun next => run next rest

/-- Every step of the run meets `cond` in the state before it. -/
def Along (cond : State → Label → Prop) : State → List Label → Prop
  | _, [] => True
  | state, label :: rest =>
      cond state label ∧ ∀ next, sys.step state label = some next → Along cond next rest

variable {sys}

@[simp] theorem run_nil (state : State) : sys.run state [] = some state := rfl

theorem run_cons {state final : State} {label : Label} {rest : List Label} :
    sys.run state (label :: rest) = some final ↔
      ∃ next, sys.step state label = some next ∧ sys.run next rest = some final := by
  simp [run, Option.bind_eq_some_iff]

theorem run_append {start final : State} {before after : List Label} :
    sys.run start (before ++ after) = some final ↔
      ∃ middle, sys.run start before = some middle ∧ sys.run middle after = some final := by
  induction before generalizing start with
  | nil => simp
  | cons label rest ih =>
      simp only [List.cons_append, run_cons, ih]
      constructor
      · rintro ⟨next, hstep, middle, hbefore, hafter⟩
        exact ⟨middle, ⟨next, hstep, hbefore⟩, hafter⟩
      · rintro ⟨middle, ⟨next, hstep, hbefore⟩, hafter⟩
        exact ⟨next, hstep, middle, hbefore, hafter⟩

theorem run_concat {start final : State} {labels : List Label} {label : Label} :
    sys.run start (labels ++ [label]) = some final ↔
      ∃ last, sys.run start labels = some last ∧ sys.step last label = some final := by
  simp [run_append, run_cons]

/-! ## Invariants -/

/-- What holds at the start and is kept by every step holds after every run. -/
theorem run_invariant (inv : State → Prop)
    (hstep : ∀ state label next, inv state → sys.step state label = some next → inv next)
    {start final : State} {labels : List Label} (hstart : inv start)
    (hrun : sys.run start labels = some final) : inv final := by
  induction labels generalizing start with
  | nil => cases hrun; exact hstart
  | cons label rest ih =>
      obtain ⟨next, hnext, hrest⟩ := run_cons.1 hrun
      exact ih (hstep start label next hstart hnext) hrest

/-- The rule for runs whose steps all meet a condition. -/
theorem along_invariant {cond : State → Label → Prop} (inv : State → Prop)
    (hstep : ∀ state label next, inv state → cond state label →
      sys.step state label = some next → inv next)
    {start final : State} {labels : List Label} (hstart : inv start)
    (halong : sys.Along cond start labels) (hrun : sys.run start labels = some final) :
    inv final := by
  induction labels generalizing start with
  | nil => cases hrun; exact hstart
  | cons label rest ih =>
      obtain ⟨next, hnext, hrest⟩ := run_cons.1 hrun
      exact ih (hstep start label next hstart halong.1 hnext) (halong.2 next hnext) hrest

/-- A reflexive and transitive relation between the states around every step
relates the first and the last state of every run. -/
theorem run_rel (rel : State → State → Prop) (hrefl : ∀ state, rel state state)
    (htrans : ∀ first second third, rel first second → rel second third → rel first third)
    (hstep : ∀ state label next, sys.step state label = some next → rel state next)
    {start final : State} {labels : List Label} (hrun : sys.run start labels = some final) :
    rel start final := by
  induction labels generalizing start with
  | nil => cases hrun; exact hrefl _
  | cons label rest ih =>
      obtain ⟨next, hnext, hrest⟩ := run_cons.1 hrun
      exact htrans start next final (hstep start label next hnext) (ih hrest)

/-! ## Conditions along a run -/

theorem along_append {cond : State → Label → Prop} {start middle : State}
    {before after : List Label} (hbefore : sys.run start before = some middle) :
    sys.Along cond start (before ++ after) ↔
      sys.Along cond start before ∧ sys.Along cond middle after := by
  induction before generalizing start with
  | nil => cases hbefore; simp [Along]
  | cons label rest ih =>
      obtain ⟨next, hnext, hrest⟩ := run_cons.1 hbefore
      have hunique : ∀ other, sys.step start label = some other → other = next := by
        intro other hother
        exact Option.some.inj (hother.symm.trans hnext)
      simp only [List.cons_append, Along, and_assoc]
      refine and_congr_right fun _ => ⟨fun halong => ?_, fun halong => ?_⟩
      · obtain ⟨hfirst, hsecond⟩ := (ih hrest).1 (halong next hnext)
        refine ⟨fun other hother => ?_, hsecond⟩
        rw [hunique other hother]
        exact hfirst
      · intro other hother
        rw [hunique other hother]
        exact (ih hrest).2 ⟨halong.1 next hnext, halong.2⟩

theorem along_of_forall {cond : Label → Prop} {labels : List Label}
    (hcond : ∀ label ∈ labels, cond label) (start : State) :
    sys.Along (fun _ label => cond label) start labels := by
  induction labels generalizing start with
  | nil => trivial
  | cons label rest ih =>
      refine ⟨hcond label List.mem_cons_self, fun next _ => ih ?_ next⟩
      intro other hother
      exact hcond other (List.mem_cons_of_mem _ hother)

theorem along_mono {cond weaker : State → Label → Prop}
    (himp : ∀ state label, cond state label → weaker state label)
    {start : State} {labels : List Label} (halong : sys.Along cond start labels) :
    sys.Along weaker start labels := by
  induction labels generalizing start with
  | nil => trivial
  | cons label rest ih =>
      exact ⟨himp _ _ halong.1, fun next hnext => ih (halong.2 next hnext)⟩

theorem along_and {cond other : State → Label → Prop} {start : State} {labels : List Label}
    (hcond : sys.Along cond start labels) (hother : sys.Along other start labels) :
    sys.Along (fun state label => cond state label ∧ other state label) start labels := by
  induction labels generalizing start with
  | nil => trivial
  | cons label rest ih =>
      exact ⟨⟨hcond.1, hother.1⟩, fun next hnext => ih (hcond.2 next hnext) (hother.2 next hnext)⟩

/-- The condition can be checked by making the run. -/
instance decidableAlong {cond : State → Label → Prop}
    [∀ state label, Decidable (cond state label)] :
    ∀ (start : State) (labels : List Label), Decidable (sys.Along cond start labels)
  | _, [] => isTrue trivial
  | start, label :: rest =>
      match hstep : sys.step start label with
      | none => decidable_of_iff (cond start label)
          ⟨fun hcond => ⟨hcond, fun _ hnext => by rw [hstep] at hnext; cases hnext⟩, And.left⟩
      | some next =>
          have : Decidable (sys.Along cond next rest) := decidableAlong next rest
          decidable_of_iff (cond start label ∧ sys.Along cond next rest)
            (and_congr_right fun _ => ⟨fun halong other hother => by
              rw [hstep] at hother
              exact Option.some.inj hother ▸ halong, fun halong => halong next hstep⟩)

/-- A run has a step outside the condition exactly if it splits at such a step. -/
theorem not_along_iff {cond : State → Label → Prop} {start final : State} {labels : List Label}
    (hrun : sys.run start labels = some final) :
    ¬ sys.Along cond start labels ↔
      ∃ before label after state next, labels = before ++ label :: after ∧
        sys.run start before = some state ∧ ¬ cond state label ∧
        sys.step state label = some next ∧ sys.run next after = some final := by
  constructor
  · intro hnot
    induction labels generalizing start with
    | nil => exact absurd trivial hnot
    | cons label rest ih =>
        obtain ⟨next, hnext, hrest⟩ := run_cons.1 hrun
        by_cases hcond : cond start label
        · have htail : ¬ sys.Along cond next rest := by
            intro halong
            refine hnot ⟨hcond, fun other hother => ?_⟩
            rw [Option.some.inj (hother.symm.trans hnext)]
            exact halong
          obtain ⟨before, bad, after, state, last, rfl, hbefore, hbad, hstep, hafter⟩ :=
            ih hrest htail
          exact ⟨label :: before, bad, after, state, last, rfl,
            run_cons.2 ⟨next, hnext, hbefore⟩, hbad, hstep, hafter⟩
        · exact ⟨[], label, rest, start, next, rfl, rfl, hcond, hnext, hrest⟩
  · rintro ⟨before, label, after, state, next, rfl, hbefore, hbad, -, -⟩ halong
    exact hbad ((along_append hbefore).1 halong).2.1

/-- When a property holds in every state of a run: an invariant that gives it is kept
by the steps within `calm`, and the steps outside break it. -/
theorem forall_states_iff_along {assumed calm : State → Label → Prop} (inv prop : State → Prop)
    (hprop : ∀ state, inv state → prop state)
    (hkeep : ∀ state label next, inv state → assumed state label → calm state label →
      sys.step state label = some next → inv next)
    (hbreak : ∀ state label next, inv state → assumed state label → ¬ calm state label →
      sys.step state label = some next → ¬ prop next)
    {start final : State} {labels : List Label} (hstart : inv start)
    (hassumed : sys.Along assumed start labels) (hrun : sys.run start labels = some final) :
    (∀ before after state, labels = before ++ after →
      sys.run start before = some state → prop state) ↔ sys.Along calm start labels := by
  constructor
  · intro hall
    induction labels generalizing start with
    | nil => trivial
    | cons label rest ih =>
        obtain ⟨next, hnext, hrest⟩ := run_cons.1 hrun
        have hcalm : calm start label := by
          by_contra hnot
          refine hbreak start label next hstart hassumed.1 hnot hnext ?_
          exact hall [label] rest next rfl (run_cons.2 ⟨next, hnext, rfl⟩)
        refine ⟨hcalm, fun other hother => ?_⟩
        rw [Option.some.inj (hother.symm.trans hnext)]
        have hinv := hkeep start label next hstart hassumed.1 hcalm hnext
        refine ih hinv (hassumed.2 next hnext) hrest fun before after state hsplit hbefore => ?_
        exact hall (label :: before) after state (by rw [hsplit, List.cons_append])
          (run_cons.2 ⟨next, hnext, hbefore⟩)
  · intro hcalm before after state hsplit hbefore
    subst hsplit
    have hassumedBefore := ((along_append hbefore).1 hassumed).1
    have hcalmBefore := ((along_append hbefore).1 hcalm).1
    exact hprop state (along_invariant inv
      (fun state label next hinv hcond hstep => hkeep state label next hinv hcond.1 hcond.2 hstep)
      hstart (along_and hassumedBefore hcalmBefore) hbefore)

end System

end ModelHub.Transition
