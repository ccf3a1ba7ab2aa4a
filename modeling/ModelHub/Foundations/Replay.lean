import Mathlib.Data.List.Basic
import Mathlib.Tactic.Common

/-!
# Replaying a log

A log is handled event by event; an event that fails ends the replay.  What is
known about a completed replay comes from what each handled event does:

* `replay_keeps`: a property that every handled event keeps, or every event of this log
  (`replay_keeps_of_mem`);
* `replay_follows`: a part of the state that follows the events by itself;
* `replay_succeeds`: a property of the state and the rest of the log under which
  the next event can be handled;
* `replay_isOk_iff`: a log whose events can be handled or not whatever the state.

`replayUntil` keeps what was handled before the first failure; `replayUntil_keeps` is
the rule for it.
-/

namespace ModelHub.Replay

variable {Event State Error Part : Type*}

def replay (handle : Event → State → Except Error State) :
    List Event → State → Except Error State
  | [], state => .ok state
  | event :: rest, state =>
      match handle event state with
      | .ok next => replay handle rest next
      | .error error => .error error

variable {handle : Event → State → Except Error State}

@[simp] theorem replay_nil (state : State) : replay handle [] state = .ok state := rfl

theorem replay_cons {event : Event} {rest : List Event} {state final : State} :
    replay handle (event :: rest) state = .ok final ↔
      ∃ next, handle event state = .ok next ∧ replay handle rest next = .ok final := by
  rw [replay]
  cases handle event state with
  | error error => simp
  | ok next => simp

theorem replay_append {before after : List Event} {state final : State} :
    replay handle (before ++ after) state = .ok final ↔
      ∃ middle, replay handle before state = .ok middle ∧ replay handle after middle = .ok final := by
  induction before generalizing state with
  | nil => simp
  | cons event rest ih =>
      simp only [List.cons_append, replay_cons, ih]
      constructor
      · rintro ⟨next, hnext, middle, hbefore, hafter⟩
        exact ⟨middle, ⟨next, hnext, hbefore⟩, hafter⟩
      · rintro ⟨middle, ⟨next, hnext, hbefore⟩, hafter⟩
        exact ⟨next, hnext, middle, hbefore, hafter⟩

theorem replay_keeps_of_mem (inv : State → Prop) {events : List Event}
    (hhandle : ∀ event ∈ events, ∀ state next, inv state → handle event state = .ok next → inv next)
    {start final : State} (hstart : inv start)
    (hreplay : replay handle events start = .ok final) : inv final := by
  induction events generalizing start with
  | nil =>
      cases hreplay
      exact hstart
  | cons event rest ih =>
      obtain ⟨next, hnext, hrest⟩ := replay_cons.1 hreplay
      exact ih (fun later hlater => hhandle later (List.mem_cons_of_mem _ hlater))
        (hhandle event List.mem_cons_self start next hstart hnext) hrest

theorem replay_keeps (inv : State → Prop)
    (hhandle : ∀ event state next, inv state → handle event state = .ok next → inv next)
    {events : List Event} {start final : State} (hstart : inv start)
    (hreplay : replay handle events start = .ok final) : inv final :=
  replay_keeps_of_mem inv (fun event _ => hhandle event) hstart hreplay

/-- A part of the state that no event needs the rest for. -/
theorem replay_follows (part : State → Part) (follow : Event → Part → Part)
    (hhandle : ∀ event state next, handle event state = .ok next →
      part next = follow event (part state))
    {events : List Event} {start final : State}
    (hreplay : replay handle events start = .ok final) :
    part final = events.foldl (fun value event => follow event value) (part start) := by
  induction events generalizing start with
  | nil =>
      cases hreplay
      rfl
  | cons event rest ih =>
      obtain ⟨next, hnext, hrest⟩ := replay_cons.1 hreplay
      rw [ih hrest, hhandle event start next hnext, List.foldl_cons]

theorem replay_succeeds (ready : State → List Event → Prop)
    (hhandle : ∀ event rest state, ready state (event :: rest) →
      ∃ next, handle event state = .ok next ∧ ready next rest)
    {events : List Event} {start : State} (hstart : ready start events) :
    ∃ final, replay handle events start = .ok final ∧ ready final [] := by
  induction events generalizing start with
  | nil => exact ⟨start, rfl, hstart⟩
  | cons event rest ih =>
      obtain ⟨next, hnext, hready⟩ := hhandle event rest start hstart
      obtain ⟨final, hfinal, hdone⟩ := ih hready
      exact ⟨final, replay_cons.2 ⟨next, hnext, hfinal⟩, hdone⟩

/-- If it is up to the event alone whether it can be handled, so it is for the log. -/
theorem replay_isOk_iff {accepted : Event → Prop}
    (hhandle : ∀ event state, (∃ next, handle event state = .ok next) ↔ accepted event)
    {events : List Event} {start : State} :
    (∃ final, replay handle events start = .ok final) ↔ ∀ event ∈ events, accepted event := by
  constructor
  · rintro ⟨final, hreplay⟩
    induction events generalizing start with
    | nil => simp
    | cons event rest ih =>
        obtain ⟨next, hnext, hrest⟩ := replay_cons.1 hreplay
        exact List.forall_mem_cons.2 ⟨(hhandle event start).1 ⟨next, hnext⟩, ih hrest⟩
  · intro haccepted
    obtain ⟨final, hfinal, -⟩ := replay_succeeds
      (fun _ rest => ∀ event ∈ rest, accepted event) (fun event rest state hall => by
        obtain ⟨hfirst, hrest⟩ := List.forall_mem_cons.1 hall
        obtain ⟨next, hnext⟩ := (hhandle event state).2 hfirst
        exact ⟨next, hnext, hrest⟩) haccepted
    exact ⟨final, hfinal⟩

/-! ## Up to the first failure -/

/-- The state when an event fails, with its error, or at the end of the log. -/
def replayUntil (handle : Event → State → Except Error State) :
    List Event → State → State × Option Error
  | [], state => (state, none)
  | event :: rest, state =>
      match handle event state with
      | .ok next => replayUntil handle rest next
      | .error error => (state, some error)

theorem replayUntil_keeps (inv : State → Prop)
    (hhandle : ∀ event state next, inv state → handle event state = .ok next → inv next)
    (events : List Event) {start : State} (hstart : inv start) :
    inv (replayUntil handle events start).1 := by
  induction events generalizing start with
  | nil => exact hstart
  | cons event rest ih =>
      rw [replayUntil]
      split
      case h_1 next hnext => exact ih (hhandle event start next hstart hnext)
      case h_2 => exact hstart

/-- Nothing fails exactly if the replay completes. -/
theorem replayUntil_eq_none {events : List Event} {start final : State} :
    replayUntil handle events start = (final, none) ↔ replay handle events start = .ok final := by
  induction events generalizing start with
  | nil => simp [replayUntil, replay]
  | cons event rest ih =>
      rw [replayUntil, replay]
      cases handle event start with
      | error error => simp
      | ok next => exact ih

end ModelHub.Replay
