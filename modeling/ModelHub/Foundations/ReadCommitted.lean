import ModelHub.Foundations.Transition
import Mathlib.Data.Fintype.Defs
import Mathlib.Data.Fintype.Basic
import Mathlib.Data.List.Basic
import Mathlib.Data.Set.Basic
import Mathlib.Logic.Function.Basic
import Mathlib.Logic.Relation

/-!
# Transactions at READ COMMITTED

Transactions that upsert and delete rows of one table, in any interleaving of their
statements.  A transaction sees what was committed and its own writes.  A row it has
written, be it deleted, stays locked until it commits, and a statement that comes to a row
somebody else has locked waits; here that is a step that is not enabled.

An upsert is one step.  A delete is not: it takes the rows that it sees when it starts, and
then locks and deletes them one by one.  So it misses a row that another transaction has
inserted and not committed at its start, and it deletes one that it had to wait for, unless
that is gone by then.

`Step` is everything a step does.  What a transaction commits if nobody moves in between is
what its statements say one after another (`Alone.commits`), and if it meets no locks it
comes to its end (`exists_alone`).
-/

namespace ModelHub.ReadCommitted

open Transition

/-! ## Maps with finitely many keys -/

structure FinMap (Key Value : Type*) where
  find : Key → Option Value
  keys : List Key
  complete : ∀ key, (find key).isSome → key ∈ keys

namespace FinMap

variable {Key Value : Type*}

def empty : FinMap Key Value where
  find := fun _ => none
  keys := []
  complete := fun _ hsome => absurd hsome (by simp)

/-- The keys that have a value. -/
def domain (map : FinMap Key Value) : Set Key := {key | (map.find key).isSome}

/-- Rows after some of them were written or deleted. -/
def overlay (base : FinMap Key Value) (changes : FinMap Key (Option Value)) : FinMap Key Value where
  find := fun key => (changes.find key).getD (base.find key)
  keys := changes.keys ++ base.keys
  complete := by
    intro key hsome
    cases hchange : changes.find key with
    | none =>
        rw [hchange] at hsome
        exact List.mem_append_right _ (base.complete key hsome)
    | some value =>
        exact List.mem_append_left _ (changes.complete key (by rw [hchange]; rfl))

@[simp] theorem find_empty (key : Key) : (empty : FinMap Key Value).find key = none := rfl

theorem mem_domain {map : FinMap Key Value} {key : Key} :
    key ∈ map.domain ↔ (map.find key).isSome := Iff.rfl

theorem notMem_domain {map : FinMap Key Value} {key : Key} :
    key ∉ map.domain ↔ map.find key = none := by
  rw [mem_domain, Option.not_isSome_iff_eq_none]

variable [DecidableEq Key]

def set (map : FinMap Key Value) (key : Key) (value : Value) : FinMap Key Value where
  find := Function.update map.find key (some value)
  keys := key :: map.keys
  complete := by
    intro other hsome
    by_cases hkey : other = key
    · exact List.mem_cons.2 (Or.inl hkey)
    · rw [Function.update_of_ne hkey] at hsome
      exact List.mem_cons_of_mem _ (map.complete other hsome)

@[simp] theorem find_set_self (map : FinMap Key Value) (key : Key) (value : Value) :
    (map.set key value).find key = some value := Function.update_self ..

@[simp] theorem find_set_ne (map : FinMap Key Value) {key other : Key} (hne : other ≠ key)
    (value : Value) : (map.set key value).find other = map.find other := Function.update_of_ne hne ..

end FinMap

/-! ## Stores -/

/-- The committed rows, and what each transaction has written and not committed. -/
structure Store (Tx Key Row : Type*) where
  committed : FinMap Key Row
  pending : Tx → FinMap Key (Option Row)

variable {Tx Key Row : Type*}

namespace Store

variable (store : Store Tx Key Row) (tx : Tx)

/-- What a transaction sees. -/
def view : FinMap Key Row := store.committed.overlay (store.pending tx)

def locks (key : Key) : Bool := ((store.pending tx).find key).isSome

/-- Nobody else has locked the row. -/
def Free (key : Key) : Prop := ∀ other, other ≠ tx → store.locks other key = false

instance [DecidableEq Tx] [Fintype Tx] (key : Key) : Decidable (store.Free tx key) :=
  inferInstanceAs (Decidable (∀ other, other ≠ tx → store.locks other key = false))

variable {store tx} {other : Tx} {key : Key} {row : Option Row}

theorem view_find : (store.view tx).find key =
    ((store.pending tx).find key).getD (store.committed.find key) := rfl

theorem locks_eq_false : store.locks tx key = false ↔ (store.pending tx).find key = none := by
  rw [locks, Option.isSome_eq_false_iff, Option.isNone_iff_eq_none]

theorem Free.pending (hfree : store.Free tx key) (hne : other ≠ tx) :
    (store.pending other).find key = none :=
  locks_eq_false.1 (hfree other hne)

variable [DecidableEq Tx]

def commit (store : Store Tx Key Row) (tx : Tx) : Store Tx Key Row where
  committed := store.view tx
  pending := Function.update store.pending tx .empty

@[simp] theorem commit_committed : (store.commit tx).committed = store.view tx := rfl

@[simp] theorem commit_pending : (store.commit tx).pending tx = .empty := Function.update_self ..

theorem commit_pending_ne (hne : other ≠ tx) :
    (store.commit tx).pending other = store.pending other := Function.update_of_ne hne ..

variable [DecidableEq Key]

def write (store : Store Tx Key Row) (tx : Tx) (key : Key) (row : Option Row) : Store Tx Key Row :=
  { store with pending := Function.update store.pending tx ((store.pending tx).set key row) }

@[simp] theorem write_committed : (store.write tx key row).committed = store.committed := rfl

@[simp] theorem write_pending : (store.write tx key row).pending tx =
    (store.pending tx).set key row := Function.update_self ..

theorem write_pending_ne (hne : other ≠ tx) :
    (store.write tx key row).pending other = store.pending other := Function.update_of_ne hne ..

theorem write_view : ((store.write tx key row).view tx).find =
    Function.update (store.view tx).find key row := by
  funext other
  by_cases hkey : other = key
  · simp [view_find, hkey]
  · simp [view_find, hkey]

end Store

/-! ## Transactions -/

inductive Statement (Key Row : Type*) where
  /-- `INSERT ... ON CONFLICT DO UPDATE`; `none` if it fails. -/
  | upsert (key : Key) (merge : Option Row → Option Row)
  | delete (sel : Key → Bool)

/-- How far a transaction is: the rows that the delete under way has still to delete, and
the statements after it. -/
structure Progress (Key Row : Type*) where
  todo : List Key
  rest : List (Statement Key Row)
  committed : Bool

structure State (Tx Key Row : Type*) where
  store : Store Tx Key Row
  progress : Tx → Progress Key Row

inductive Move (Key : Type*) where
  /-- The next statement. -/
  | next
  /-- The delete under way comes to this row. -/
  | row (key : Key)
  | commit

namespace State

variable (state : State Tx Key Row) (tx : Tx)

/-- The rows that a delete sees when it starts. -/
def selected (sel : Key → Bool) : List Key :=
  (state.store.view tx).keys.filter fun key =>
    ((state.store.view tx).find key).isSome && sel key

theorem mem_selected {state : State Tx Key Row} {tx : Tx} {sel : Key → Bool} {key : Key} :
    key ∈ state.selected tx sel ↔ key ∈ (state.store.view tx).domain ∧ sel key := by
  rw [selected, List.mem_filter, Bool.and_eq_true, FinMap.mem_domain]
  exact ⟨And.right, fun hkey => ⟨FinMap.complete _ key hkey.1, hkey⟩⟩

variable [DecidableEq Tx]

def advance (store : Store Tx Key Row) (progress : Progress Key Row) : State Tx Key Row where
  store := store
  progress := Function.update state.progress tx progress

@[simp] theorem advance_store (store : Store Tx Key Row) (progress : Progress Key Row) :
    (state.advance tx store progress).store = store := rfl

@[simp] theorem advance_progress (store : Store Tx Key Row) (progress : Progress Key Row) :
    (state.advance tx store progress).progress tx = progress := Function.update_self ..

theorem advance_progress_ne (store : Store Tx Key Row) (progress : Progress Key Row) {other : Tx}
    (hne : other ≠ tx) : (state.advance tx store progress).progress other = state.progress other :=
  Function.update_of_ne hne ..

variable [DecidableEq Key]

/-- The row is gone if whoever had locked it has deleted it. -/
def deleteRow (key : Key) : Store Tx Key Row :=
  if ((state.store.view tx).find key).isSome then state.store.write tx key none else state.store

variable {state tx} {key : Key}

@[simp] theorem deleteRow_committed :
    (state.deleteRow tx key).committed = state.store.committed := by
  unfold deleteRow
  split <;> rfl

theorem deleteRow_pending_ne {other : Tx} (hne : other ≠ tx) :
    (state.deleteRow tx key).pending other = state.store.pending other := by
  unfold deleteRow
  split
  · exact Store.write_pending_ne hne
  · rfl

theorem deleteRow_view : ((state.deleteRow tx key).view tx).find =
    Function.update (state.store.view tx).find key none := by
  unfold deleteRow
  split
  · exact Store.write_view
  case isFalse habsent =>
    rw [Option.not_isSome_iff_eq_none] at habsent
    rw [← habsent, Function.update_eq_self]

end State

variable [DecidableEq Tx] [DecidableEq Key] {state next final : State Tx Key Row} {tx other : Tx}

/-! ## What a step does -/

/-- What a step of a transaction does. -/
inductive Step (state : State Tx Key Row) (tx : Tx) : State Tx Key Row → Prop where
  | upsert (key : Key) (merge : Option Row → Option Row) (rest : List (Statement Key Row)) (row : Row)
      (hprogress : state.progress tx = ⟨[], .upsert key merge :: rest, false⟩)
      (hfree : state.store.Free tx key) (hmerge : merge ((state.store.view tx).find key) = some row) :
      Step state tx (state.advance tx (state.store.write tx key (some row)) ⟨[], rest, false⟩)
  | delete (sel : Key → Bool) (rest : List (Statement Key Row))
      (hprogress : state.progress tx = ⟨[], .delete sel :: rest, false⟩) :
      Step state tx (state.advance tx state.store ⟨state.selected tx sel, rest, false⟩)
  | row (key : Key) (todo : List Key) (rest : List (Statement Key Row))
      (hprogress : state.progress tx = ⟨todo, rest, false⟩) (hkey : key ∈ todo)
      (hfree : state.store.Free tx key) :
      Step state tx (state.advance tx (state.deleteRow tx key)
        ⟨todo.filter fun other => other ≠ key, rest, false⟩)
  | commit (hprogress : state.progress tx = ⟨[], [], false⟩) :
      Step state tx (state.advance tx (state.store.commit tx) ⟨[], [], true⟩)

namespace Step

theorem running (hstep : Step state tx next) : (state.progress tx).committed = false := by
  cases hstep with
  | upsert key merge rest row hprogress hfree hmerge => rw [hprogress]
  | delete sel rest hprogress => rw [hprogress]
  | row key todo rest hprogress hkey hfree => rw [hprogress]
  | commit hprogress => rw [hprogress]

theorem progress_ne (hstep : Step state tx next) (hne : other ≠ tx) :
    next.progress other = state.progress other := by
  cases hstep <;> exact State.advance_progress_ne _ _ _ _ hne

theorem pending_ne (hstep : Step state tx next) (hne : other ≠ tx) :
    next.store.pending other = state.store.pending other := by
  cases hstep with
  | upsert key merge rest row hprogress hfree hmerge => exact Store.write_pending_ne hne
  | delete sel rest hprogress => rfl
  | row key todo rest hprogress hkey hfree => exact State.deleteRow_pending_ne hne
  | commit hprogress => exact Store.commit_pending_ne hne

/-- Nothing is committed before the end. -/
theorem committed_eq (hstep : Step state tx next) (hrunning : (next.progress tx).committed = false) :
    next.store.committed = state.store.committed := by
  cases hstep with
  | upsert key merge rest row hprogress hfree hmerge => rfl
  | delete sel rest hprogress => rfl
  | row key todo rest hprogress hkey hfree => exact State.deleteRow_committed
  | commit hprogress => simp at hrunning

end Step

/-- No row is locked twice. -/
def Exclusive (store : Store Tx Key Row) : Prop :=
  ∀ tx other key, other ≠ tx → (store.pending tx).find key = none ∨
    (store.pending other).find key = none

theorem Exclusive.write {store : Store Tx Key Row} (hexclusive : Exclusive store) {key : Key}
    (hfree : store.Free tx key) (row : Option Row) : Exclusive (store.write tx key row) := by
  intro first second found hne
  by_cases hkey : found = key
  · subst hkey
    by_cases hfirst : first = tx
    · subst hfirst
      rw [Store.write_pending_ne hne]
      exact Or.inr (hfree.pending hne)
    · rw [Store.write_pending_ne hfirst]
      exact Or.inl (hfree.pending hfirst)
  · have hsame : ∀ one, ((store.write tx key row).pending one).find found =
        (store.pending one).find found := by
      intro one
      by_cases hone : one = tx
      · subst hone
        rw [Store.write_pending, FinMap.find_set_ne _ hkey]
      · rw [Store.write_pending_ne hone]
    rw [hsame, hsame]
    exact hexclusive first second found hne

theorem Step.exclusive (hstep : Step state tx next) (hexclusive : Exclusive state.store) :
    Exclusive next.store := by
  cases hstep with
  | upsert key merge rest row hprogress hfree hmerge => exact hexclusive.write hfree _
  | delete sel rest hprogress => exact hexclusive
  | row key todo rest hprogress hkey hfree =>
      rw [State.advance_store]
      unfold State.deleteRow
      split
      · exact hexclusive.write hfree _
      · exact hexclusive
  | commit hprogress =>
      intro first second key hne
      by_cases hfirst : first = tx
      · subst hfirst
        exact Or.inl (by simp)
      · by_cases hsecond : second = tx
        · subst hsecond
          exact Or.inr (by simp)
        · rw [State.advance_store, Store.commit_pending_ne hfirst, Store.commit_pending_ne hsecond]
          exact hexclusive first second key hne

/-! ## A transaction by itself -/

/-- What a statement makes of the rows, if it does not fail. -/
def Statement.effect : Statement Key Row → (Key → Option Row) → Option (Key → Option Row)
  | .upsert key merge, rows => (merge (rows key)).map fun row => Function.update rows key (some row)
  | .delete sel, rows => some fun key => if sel key then none else rows key

def effects : List (Statement Key Row) → (Key → Option Row) → Option (Key → Option Row)
  | [], rows => some rows
  | statement :: rest, rows => (statement.effect rows).bind (effects rest)

/-- What a transaction commits if nobody else moves. -/
def State.ahead (state : State Tx Key Row) (tx : Tx) : Option (Key → Option Row) :=
  effects (state.progress tx).rest fun key =>
    if key ∈ (state.progress tx).todo then none else (state.store.view tx).find key

theorem Step.ahead (hstep : Step state tx next) : next.ahead tx = state.ahead tx := by
  cases hstep with
  | upsert key merge rest row hprogress hfree hmerge =>
      simp only [State.ahead, State.advance_progress, State.advance_store, hprogress,
        Store.write_view, effects, Statement.effect, List.not_mem_nil, if_false, hmerge,
        Option.map_some, Option.bind_some]
  | delete sel rest hprogress =>
      simp only [State.ahead, State.advance_progress, State.advance_store, hprogress, effects,
        Statement.effect, List.not_mem_nil, if_false, Option.bind_some]
      congr 1
      funext key
      -- a selected key that has no row is not among those to delete
      by_cases hrow : key ∈ (state.store.view tx).domain
      · simp [State.mem_selected, hrow]
      · simp [State.mem_selected, hrow, FinMap.notMem_domain.1 hrow]
  | row key todo rest hprogress hkey hfree =>
      simp only [State.ahead, State.advance_progress, State.advance_store, hprogress,
        State.deleteRow_view]
      congr 1
      funext found
      by_cases hfound : found = key
      · simp [hfound, hkey]
      · simp [hfound]
  | commit hprogress =>
      simp only [State.ahead, State.advance_progress, State.advance_store, hprogress]
      congr 1
      funext key
      simp [Store.view_find]

/-- Steps of one transaction, with nobody moving in between. -/
def Alone (tx : Tx) : State Tx Key Row → State Tx Key Row → Prop :=
  Relation.ReflTransGen fun state next => Step state tx next

theorem Step.alone (hstep : Step state tx next) : Alone tx state next := .single hstep

namespace Alone

theorem trans {middle : State Tx Key Row} (hbefore : Alone tx state middle)
    (hafter : Alone tx middle final) : Alone tx state final :=
  Relation.ReflTransGen.trans hbefore hafter

theorem progress_ne (halone : Alone tx state final) (hne : other ≠ tx) :
    final.progress other = state.progress other := by
  induction halone with
  | refl => rfl
  | tail hbefore hstep ih => rw [hstep.progress_ne hne, ih]

theorem pending_ne (halone : Alone tx state final) (hne : other ≠ tx) :
    final.store.pending other = state.store.pending other := by
  induction halone with
  | refl => rfl
  | tail hbefore hstep ih => rw [hstep.pending_ne hne, ih]

theorem free (halone : Alone tx state final) {key : Key} (hfree : state.store.Free tx key) :
    final.store.Free tx key := by
  intro other hne
  rw [Store.locks_eq_false, halone.pending_ne hne]
  exact hfree.pending hne

theorem committed_eq (halone : Alone tx state final)
    (hrunning : (final.progress tx).committed = false) :
    final.store.committed = state.store.committed := by
  induction halone with
  | refl => rfl
  | tail hbefore hstep ih => rw [hstep.committed_eq hrunning, ih hstep.running]

theorem ahead (halone : Alone tx state final) : final.ahead tx = state.ahead tx := by
  induction halone with
  | refl => rfl
  | tail hbefore hstep ih => rw [hstep.ahead, ih]

/-- What is committed is what the statements say. -/
theorem commits (halone : Alone tx state final) {statements : List (Statement Key Row)}
    (hprogress : state.progress tx = ⟨[], statements, false⟩)
    (hcommitted : (final.progress tx).committed) :
    effects statements (state.store.view tx).find = some final.store.committed.find := by
  have hahead : state.ahead tx = effects statements (state.store.view tx).find := by
    simp [State.ahead, hprogress]
  rw [← hahead, ← halone.ahead]
  cases halone with
  | refl => simp [hprogress] at hcommitted
  | tail hbefore hstep =>
      cases hstep with
      | commit hlast =>
          simp only [State.ahead, effects, State.advance_progress, State.advance_store,
            List.not_mem_nil, if_false, Store.commit_committed]
          congr 1
          funext key
          simp [Store.view_find]
      | _ => simp at hcommitted

end Alone

/-- A delete whose rows are free comes to its end. -/
theorem exists_rows {todo : List Key} {rest : List (Statement Key Row)}
    (hprogress : state.progress tx = ⟨todo, rest, false⟩)
    (hfree : ∀ key ∈ todo, state.store.Free tx key) :
    ∃ final, Alone tx state final ∧ final.progress tx = ⟨[], rest, false⟩ := by
  induction hlength : todo.length using Nat.strong_induction_on generalizing state todo with
  | _ length ih =>
      cases todo with
      | nil => exact ⟨state, .refl, hprogress⟩
      | cons key others =>
          have hstep := Step.row key _ rest hprogress List.mem_cons_self
            (hfree key List.mem_cons_self)
          have hshorter : ((key :: others).filter fun other => other ≠ key).length < length := by
            rw [← hlength]
            exact List.length_filter_lt_length_iff_exists.2 ⟨key, List.mem_cons_self, by simp⟩
          obtain ⟨final, halone, hfinal⟩ := ih _ hshorter (State.advance_progress ..)
            (fun found hfound => hstep.alone.free (hfree found (List.mem_filter.1 hfound).1)) rfl
          exact ⟨final, .head hstep halone, hfinal⟩

/-- A transaction that meets no locks and none of whose statements fails comes to its end. -/
theorem exists_alone {statements : List (Statement Key Row)}
    (hprogress : state.progress tx = ⟨[], statements, false⟩)
    (hfree : ∀ key, state.store.Free tx key)
    (heffects : (effects statements (state.store.view tx).find).isSome) :
    ∃ final, Alone tx state final ∧ (final.progress tx).committed := by
  induction statements generalizing state with
  | nil => exact ⟨_, .single (.commit hprogress), by simp⟩
  | cons statement rest ih =>
      cases statement with
      | upsert key merge =>
          cases hmerge : merge ((state.store.view tx).find key) with
          | none => simp [effects, Statement.effect, hmerge] at heffects
          | some row =>
              have hstep := Step.upsert key merge rest row hprogress (hfree key) hmerge
              obtain ⟨final, halone, hfinal⟩ := ih (State.advance_progress ..)
                (fun found => hstep.alone.free (hfree found)) (by
                  rw [State.advance_store, Store.write_view]
                  simpa [effects, Statement.effect, hmerge] using heffects)
              exact ⟨final, .head hstep halone, hfinal⟩
      | delete sel =>
          have hstep := Step.delete sel rest hprogress
          obtain ⟨middle, hrows, hmiddle⟩ := exists_rows (State.advance_progress ..)
            fun found _ => hstep.alone.free (hfree found)
          have halone : Alone tx state middle := .head hstep hrows
          have hahead := halone.ahead
          simp only [State.ahead, hprogress, hmiddle, List.not_mem_nil, if_false] at hahead
          obtain ⟨final, hrest, hfinal⟩ := ih hmiddle (fun found => halone.free (hfree found))
            (hahead ▸ heffects)
          exact ⟨final, halone.trans hrest, hfinal⟩

/-! ## The system -/

variable [Fintype Tx]

def startNext (state : State Tx Key Row) (tx : Tx) :
    List (Statement Key Row) → Option (State Tx Key Row)
  | [] => none
  | .upsert key merge :: rest =>
      if state.store.Free tx key then
        (merge ((state.store.view tx).find key)).map fun row =>
          state.advance tx (state.store.write tx key (some row)) ⟨[], rest, false⟩
      else none
  | .delete sel :: rest => some (state.advance tx state.store ⟨state.selected tx sel, rest, false⟩)

def step (state : State Tx Key Row) : Tx × Move Key → Option (State Tx Key Row)
  | (tx, move) =>
      let progress := state.progress tx
      if progress.committed then none
      else match move with
      | .next => if progress.todo = [] then startNext state tx progress.rest else none
      | .row key =>
          if key ∈ progress.todo ∧ state.store.Free tx key then
            some (state.advance tx (state.deleteRow tx key)
              { progress with todo := progress.todo.filter fun other => other ≠ key })
          else none
      | .commit =>
          if progress.todo = [] ∧ progress.rest.length = 0 then
            some (state.advance tx (state.store.commit tx) { progress with committed := true })
          else none

def system : System (State Tx Key Row) (Tx × Move Key) := ⟨step⟩

/-- `Step` is all that a step does. -/
theorem step_spec {move : Move Key}
    (hstep : step state (tx, move) = some next) : Step state tx next := by
  unfold step at hstep
  rcases hprogress : state.progress tx with ⟨todo, rest, committed⟩
  simp only [hprogress] at hstep
  split at hstep
  · cases hstep
  case isFalse hrunning =>
    have hcommitted : committed = false := by simpa using hrunning
    subst hcommitted
    cases move with
    | next =>
        obtain ⟨rfl, hstart⟩ := Option.ite_none_right_eq_some.1 hstep
        cases rest with
        | nil => cases hstart
        | cons statement rest =>
            cases statement with
            | upsert key merge =>
                obtain ⟨hfree, hmerged⟩ := Option.ite_none_right_eq_some.1 hstart
                obtain ⟨row, hmerge, rfl⟩ := Option.map_eq_some_iff.1 hmerged
                exact .upsert key merge rest row hprogress hfree hmerge
            | delete sel =>
                rw [← Option.some.inj hstart]
                exact .delete sel rest hprogress
    | row key =>
        obtain ⟨⟨hkey, hfree⟩, hnext⟩ := Option.ite_none_right_eq_some.1 hstep
        rw [← Option.some.inj hnext]
        exact .row key todo rest hprogress hkey hfree
    | commit =>
        obtain ⟨⟨rfl, hrest⟩, hnext⟩ := Option.ite_none_right_eq_some.1 hstep
        obtain rfl := List.length_eq_zero_iff.1 hrest
        rw [← Option.some.inj hnext]
        exact .commit hprogress

/-- And each of them is enabled. -/
theorem Step.enabled (hstep : Step state tx next) :
    ∃ move, step state (tx, move) = some next := by
  cases hstep with
  | upsert key merge rest row hprogress hfree hmerge =>
      refine ⟨.next, ?_⟩
      simp [step, hprogress, startNext, hfree, hmerge]
  | delete sel rest hprogress =>
      refine ⟨.next, ?_⟩
      simp [step, hprogress, startNext]
  | row key todo rest hprogress hkey hfree =>
      refine ⟨.row key, ?_⟩
      simp [step, hprogress, hkey, hfree]
  | commit hprogress =>
      refine ⟨.commit, ?_⟩
      simp [step, hprogress]

theorem Alone.exists_run (halone : Alone tx state final) :
    ∃ labels, (∀ label ∈ labels, label.1 = tx) ∧ system.run state labels = some final := by
  induction halone with
  | refl => exact ⟨[], by simp, rfl⟩
  | tail hbefore hstep ih =>
      obtain ⟨labels, hlabels, hrun⟩ := ih
      obtain ⟨move, hmove⟩ := hstep.enabled
      refine ⟨labels ++ [(tx, move)], ?_, System.run_concat.2 ⟨_, hrun, hmove⟩⟩
      intro label hlabel
      rcases List.mem_append.1 hlabel with hold | hnew
      · exact hlabels label hold
      · rw [List.mem_singleton.1 hnew]

theorem alone_of_run {labels : List (Tx × Move Key)} (hlabels : ∀ label ∈ labels, label.1 = tx)
    (hrun : system.run state labels = some final) : Alone tx state final := by
  induction labels generalizing state with
  | nil =>
      cases hrun
      exact .refl
  | cons label rest ih =>
      obtain ⟨next, hstep, hrest⟩ := System.run_cons.1 hrun
      obtain ⟨first, move⟩ := label
      obtain rfl : first = tx := hlabels _ List.mem_cons_self
      exact .head (step_spec hstep) (ih (fun later hlater => hlabels later (List.mem_cons_of_mem _ hlater)) hrest)

end ModelHub.ReadCommitted
