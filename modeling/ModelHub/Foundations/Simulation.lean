import ModelHub.Foundations.Transition

/-!
# Simulations

A system *simulates* into a more abstract one when each of its steps amounts to a run
of the abstract system between the views of its two states: `log` names the abstract
labels of the step, and a step that changes nothing of the view has an empty log.  An
invariant of the concrete system may be used.

A run of the concrete system is then a run of the abstract one, whose labels are the logs
of its steps one after another (`System.trace`, `Simulation.run`).
-/

namespace ModelHub.Transition

variable {State Label Abstract Event : Type*}

/-! ## What a run amounts to -/

/-- The logs of a run's steps, one after another. -/
def System.trace (sys : System State Label) (log : State → Label → List Event) :
    State → List Label → List Event
  | _, [] => []
  | state, label :: rest =>
      match sys.step state label with
      | none => []
      | some next => log state label ++ System.trace sys log next rest

section Trace

variable {sys : System State Label} {log : State → Label → List Event}
  {start middle : State} {label : Label} {labels before after : List Label}

theorem System.trace_cons {next : State} (hstep : sys.step start label = some next) :
    sys.trace log start (label :: labels) = log start label ++ sys.trace log next labels := by
  rw [trace, hstep]

theorem System.trace_append (hbefore : sys.run start before = some middle) :
    sys.trace log start (before ++ after) =
      sys.trace log start before ++ sys.trace log middle after := by
  induction before generalizing start with
  | nil =>
      obtain rfl := Option.some.inj hbefore
      rfl
  | cons label rest ih =>
      obtain ⟨next, hstep, hrest⟩ := System.run_cons.1 hbefore
      rw [List.cons_append, trace_cons hstep, trace_cons hstep, ih hrest, List.append_assoc]

/-- The last step's log comes last. -/
theorem System.trace_concat {last final : State} (hlast : sys.run start labels = some last)
    (hstep : sys.step last label = some final) :
    sys.trace log start (labels ++ [label]) = sys.trace log start labels ++ log last label := by
  rw [trace_append hlast, trace_cons hstep, trace, List.append_nil]

end Trace

/-! ## Runs of two systems -/

/-- Each step of `concrete` is a run of `abstract`, as long as `inv` holds. -/
structure Simulation (concrete : System State Label) (abstract : System Abstract Event) where
  inv : State → Prop
  view : State → Abstract
  log : State → Label → List Event
  keeps : ∀ state label next, inv state → concrete.step state label = some next → inv next
  simulates : ∀ state label next, inv state → concrete.step state label = some next →
    abstract.run (view state) (log state label) = some (view next)

namespace Simulation

variable {concrete : System State Label} {abstract : System Abstract Event}
  {sim : Simulation concrete abstract} {start final : State} {labels : List Label}

/-- A run of the concrete system is a run of the abstract one. -/
theorem run (hinv : sim.inv start) (hrun : concrete.run start labels = some final) :
    abstract.run (sim.view start) (concrete.trace sim.log start labels) = some (sim.view final) := by
  induction labels generalizing start with
  | nil =>
      obtain rfl := Option.some.inj hrun
      rfl
  | cons label rest ih =>
      obtain ⟨next, hstep, hrest⟩ := System.run_cons.1 hrun
      rw [System.trace_cons hstep, System.run_append]
      exact ⟨sim.view next, sim.simulates _ _ _ hinv hstep,
        ih (sim.keeps _ _ _ hinv hstep) hrest⟩

end Simulation

end ModelHub.Transition
