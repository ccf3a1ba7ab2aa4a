import ModelHub.Foundations.ReadCommitted
import Mathlib.Data.Set.Lattice

/-!
# Two reports that replace a table

A transaction that is to leave exactly the rows of a report upserts them one by one and then
deletes the complement (`reconcile`).  Here two of them run at READ COMMITTED.

The delete of the second to commit takes the rows that it sees at its start.  If that comes
after the other has committed, what is left is the second report.  If it comes before, the
rows that the other has inserted are missed; then neither has waited for the other, and what
is left is the second report with them (`Phase`).

* `Upserting` and `Deleting` are how far one of the two is, and what it has locked;
* `replaced` is what every run with both committed leaves;
* `exists_mixed` makes the run that misses the rows, if `CanMix`;
* `never_mixed_iff`: only then is there a run that leaves neither report.
-/

namespace ModelHub.ReadCommitted

open Transition

/-- A row that a report wants, and whether the database accepts it. -/
structure Entry (Key Row : Type*) where
  key : Key
  valid : Bool
  merged : Option Row → Row

variable {Key Row : Type*}

def Entry.statement (entry : Entry Key Row) : Statement Key Row :=
  .upsert entry.key fun row => if entry.valid then some (entry.merged row) else none

def keys (report : List (Entry Key Row)) : Set Key := {key | key ∈ report.map Entry.key}

variable [DecidableEq Key]

/-- The upserts that are left, and the delete of the complement. -/
def remaining (report rest : List (Entry Key Row)) : List (Statement Key Row) :=
  rest.map Entry.statement ++ [.delete fun key => key ∉ report.map Entry.key]

def reconcile (report : List (Entry Key Row)) : List (Statement Key Row) := remaining report report

/-- Two reports before their first statements. -/
def start (initial : FinMap Key Row) (reports : Bool → List (Entry Key Row)) :
    State Bool Key Row where
  store := ⟨initial, fun _ => .empty⟩
  progress := fun tx => ⟨[], reconcile (reports tx), false⟩

def Finished (state : State Bool Key Row) : Prop := ∀ tx, (state.progress tx).committed

/-- The rows that `first` inserts can be missed by `second`: both are accepted, `second` waits
for no row of `first`, and what is left with the rows that it misses is neither report. -/
structure CanMix (initial : Set Key) (first second : List (Entry Key Row)) : Prop where
  valid_first : ∀ entry ∈ first, entry.valid
  valid_second : ∀ entry ∈ second, entry.valid
  apart : ∀ key ∈ keys second, key ∉ keys first ∪ initial
  inserts : (keys first \ initial).Nonempty
  mixed : (keys second).Nonempty ∨ (keys first ∩ initial).Nonempty

/-! ## How far one of them is -/

structure Upserting (state : State Bool Key Row) (tx : Bool)
    (report done rest : List (Entry Key Row)) : Prop where
  split : report = done ++ rest
  progress : state.progress tx = ⟨[], remaining report rest, false⟩
  valid : ∀ entry ∈ done, entry.valid
  written : ∀ key ∈ keys done, ∃ row, (state.store.pending tx).find key = some (some row)
  untouched : ∀ key ∉ keys done, (state.store.pending tx).find key = none

/-- `base` is what was there when the delete started, but for its own rows. -/
structure Deleting (state : State Bool Key Row) (tx : Bool) (report : List (Entry Key Row))
    (todo : List Key) (base : Set Key) : Prop where
  progress : state.progress tx = ⟨todo, [], false⟩
  valid : ∀ entry ∈ report, entry.valid
  written : ∀ key ∈ keys report, ∃ row, (state.store.pending tx).find key = some (some row)
  untouched : ∀ key, key ∉ keys report → key ∉ base → (state.store.pending tx).find key = none
  gone : ∀ key, key ∉ keys report → key ∈ base →
    key ∈ todo ∨ (state.store.view tx).find key = none
  stale : ∀ key ∈ todo, key ∉ keys report ∧ key ∈ base

variable {state next final : State Bool Key Row} {tx : Bool}
  {report done rest : List (Entry Key Row)} {todo : List Key} {base : Set Key}

theorem upserting_start (initial : FinMap Key Row) (reports : Bool → List (Entry Key Row))
    (tx : Bool) : Upserting (start initial reports) tx (reports tx) [] (reports tx) where
  split := rfl
  progress := rfl
  valid := by simp
  written := fun key hkey => absurd hkey (by simp [keys])
  untouched := fun _ _ => rfl

theorem Upserting.upsert {entry : Entry Key Row} (hup : Upserting state tx report done (entry :: rest))
    (hvalid : entry.valid) (row : Row) :
    Upserting (state.advance tx (state.store.write tx entry.key (some row))
      ⟨[], remaining report rest, false⟩) tx report (done ++ [entry]) rest where
  split := by rw [hup.split, List.append_assoc, List.singleton_append]
  progress := State.advance_progress ..
  valid := by
    intro found hfound
    rcases List.mem_append.1 hfound with hold | hnew
    · exact hup.valid found hold
    · rw [List.mem_singleton.1 hnew]
      exact hvalid
  written := by
    intro key hkey
    rw [State.advance_store, Store.write_pending]
    by_cases hsame : key = entry.key
    · exact ⟨row, by rw [hsame, FinMap.find_set_self]⟩
    · rw [FinMap.find_set_ne _ hsame]
      refine hup.written key ?_
      simpa [keys, hsame] using hkey
  untouched := by
    intro key hkey
    have hne : key ≠ entry.key := by
      rintro rfl
      exact hkey (by simp [keys])
    rw [State.advance_store, Store.write_pending, FinMap.find_set_ne _ hne]
    refine hup.untouched key fun hold => hkey ?_
    show key ∈ (done ++ [entry]).map Entry.key
    rw [List.map_append]
    exact List.mem_append_left _ hold

theorem Upserting.delete (hup : Upserting state tx report report []) :
    Deleting (state.advance tx state.store
      ⟨state.selected tx fun key => key ∉ report.map Entry.key, [], false⟩) tx report
      (state.selected tx fun key => key ∉ report.map Entry.key) state.store.committed.domain where
  progress := State.advance_progress ..
  valid := hup.valid
  written := hup.written
  untouched := fun key hkey _ => hup.untouched key hkey
  gone := by
    intro key hkey hbase
    refine Or.inl (State.mem_selected.2 ⟨?_, decide_eq_true (p := key ∉ report.map Entry.key) hkey⟩)
    rw [FinMap.mem_domain, Store.view_find, hup.untouched key hkey]
    exact hbase
  stale := by
    intro key hkey
    obtain ⟨hview, hnot⟩ := State.mem_selected.1 hkey
    have hother : key ∉ keys report := of_decide_eq_true (p := key ∉ report.map Entry.key) hnot
    refine ⟨hother, ?_⟩
    rw [FinMap.mem_domain, Store.view_find, hup.untouched key hother] at hview
    exact hview

theorem Deleting.row (hdel : Deleting state tx report todo base) {key : Key} (hkey : key ∈ todo) :
    Deleting (state.advance tx (state.deleteRow tx key)
      ⟨todo.filter fun other => other ≠ key, [], false⟩) tx report
      (todo.filter fun other => other ≠ key) base := by
  -- nothing but the row with this key is written, and the key is of neither kind
  have hpending : ∀ other, other ≠ key → ((state.deleteRow tx key).pending tx).find other =
      (state.store.pending tx).find other := by
    intro other hne
    unfold State.deleteRow
    split
    · rw [Store.write_pending, FinMap.find_set_ne _ hne]
    · rfl
  obtain ⟨hnot, hbase⟩ := hdel.stale key hkey
  refine ⟨State.advance_progress .., hdel.valid, ?_, ?_, ?_, ?_⟩
  · intro other hother
    rw [State.advance_store, hpending other (by rintro rfl; exact hnot hother)]
    exact hdel.written other hother
  · intro other hother hnew
    rw [State.advance_store, hpending other (by rintro rfl; exact hnew hbase)]
    exact hdel.untouched other hother hnew
  · intro other hother hold
    rw [State.advance_store, State.deleteRow_view]
    by_cases hsame : other = key
    · exact Or.inr (by rw [hsame, Function.update_self])
    · rw [Function.update_of_ne hsame]
      refine (hdel.gone other hother hold).imp_left fun hmem => ?_
      exact List.mem_filter.2 ⟨hmem, by simpa using hsame⟩
  · intro other hother
    exact hdel.stale other (List.mem_filter.1 hother).1

omit [DecidableEq Key] in
/-- What the last row leaves to be seen. -/
theorem Deleting.view_domain (hdel : Deleting state tx report [] base) :
    (state.store.view tx).domain = keys report ∪ (state.store.committed.domain \ base) := by
  ext key
  rw [Set.mem_union, Set.mem_sdiff, FinMap.mem_domain]
  by_cases hkey : key ∈ keys report
  · obtain ⟨row, hrow⟩ := hdel.written key hkey
    simp [Store.view_find, hrow, hkey]
  · by_cases hbase : key ∈ base
    · have hgone := (hdel.gone key hkey hbase).resolve_left (List.not_mem_nil)
      simp [hgone, hkey, hbase]
    · rw [Store.view_find, hdel.untouched key hkey hbase, Option.getD_none, ← FinMap.mem_domain]
      simp [hkey, hbase]

/-- A report that still upserts, or deletes what was there when it started to. -/
inductive Running (state : State Bool Key Row) (tx : Bool) (report : List (Entry Key Row))
    (base : Set Key) : Prop where
  | upserting (done rest : List (Entry Key Row)) (hup : Upserting state tx report done rest)
  | deleting (todo : List Key) (hdel : Deleting state tx report todo base)

/-- What its own step does to a report that deletes. -/
theorem Deleting.step (hdel : Deleting state tx report todo base) (hstep : Step state tx next) :
    (∃ left, Deleting next tx report left base) ∨
      todo = [] ∧ next = state.advance tx (state.store.commit tx) ⟨[], [], true⟩ := by
  cases hstep with
  | upsert key merge rest row hprogress hfree hmerge => simp [hdel.progress] at hprogress
  | delete sel rest hprogress => simp [hdel.progress] at hprogress
  | row key others rest hprogress hkey hfree =>
      rw [hdel.progress, Progress.mk.injEq] at hprogress
      obtain ⟨rfl, rfl, -⟩ := hprogress
      exact Or.inl ⟨_, hdel.row hkey⟩
  | commit hprogress =>
      rw [hdel.progress, Progress.mk.injEq] at hprogress
      exact Or.inr ⟨hprogress.1, rfl⟩

theorem Upserting.step (hup : Upserting state tx report done rest) (hstep : Step state tx next) :
    Running next tx report state.store.committed.domain := by
  cases rest with
  | nil =>
      obtain rfl : report = done := by rw [hup.split, List.append_nil]
      cases hstep with
      | upsert key merge rest row hprogress hfree hmerge =>
          simp [hup.progress, remaining] at hprogress
      | delete sel rest hprogress =>
          rw [hup.progress] at hprogress
          simp only [remaining, List.map_nil, List.nil_append, Progress.mk.injEq, List.cons.injEq,
            Statement.delete.injEq, true_and, and_true] at hprogress
          obtain ⟨rfl, rfl⟩ := hprogress
          exact .deleting _ hup.delete
      | row key others rest hprogress hkey hfree =>
          rw [hup.progress, Progress.mk.injEq] at hprogress
          rw [← hprogress.1] at hkey
          cases hkey
      | commit hprogress => simp [hup.progress, remaining] at hprogress
  | cons entry rest =>
      cases hstep with
      | upsert key merge others row hprogress hfree hmerge =>
          rw [hup.progress] at hprogress
          simp only [remaining, List.map_cons, List.cons_append, Progress.mk.injEq,
            List.cons.injEq, Entry.statement, Statement.upsert.injEq, true_and, and_true] at hprogress
          obtain ⟨⟨rfl, rfl⟩, rfl⟩ := hprogress
          have hvalid : entry.valid := (Option.ite_none_right_eq_some.1 hmerge).1
          exact .upserting _ _ (hup.upsert hvalid row)
      | delete sel others hprogress =>
          simp [hup.progress, remaining, Entry.statement] at hprogress
      | row key others rest hprogress hkey hfree =>
          rw [hup.progress, Progress.mk.injEq] at hprogress
          rw [← hprogress.1] at hkey
          cases hkey
      | commit hprogress => simp [hup.progress, remaining] at hprogress

theorem Running.step (hrunning : Running state tx report base)
    (hbase : state.store.committed.domain = base) (hstep : Step state tx next) :
    Running next tx report base ∨ Deleting state tx report [] base ∧
      next = state.advance tx (state.store.commit tx) ⟨[], [], true⟩ := by
  cases hrunning with
  | upserting done rest hup =>
      left
      rw [← hbase]
      exact hup.step hstep
  | deleting todo hdel =>
      rcases hdel.step hstep with ⟨left, hleft⟩ | ⟨rfl, hnext⟩
      · exact Or.inl (.deleting left hleft)
      · exact Or.inr ⟨hdel, hnext⟩

theorem Running.not_committed (hrunning : Running state tx report base) :
    (state.progress tx).committed = false := by
  cases hrunning with
  | upserting done rest hup => rw [hup.progress]
  | deleting todo hdel => rw [hdel.progress]

/-! ## What the other one does to it -/

theorem Upserting.congr (hup : Upserting state tx report done rest)
    (hprogress : next.progress tx = state.progress tx)
    (hpending : next.store.pending tx = state.store.pending tx) :
    Upserting next tx report done rest := by
  obtain ⟨hsplit, hdone, hvalid, hwritten, huntouched⟩ := hup
  rw [← hprogress] at hdone
  rw [← hpending] at hwritten huntouched
  exact ⟨hsplit, hdone, hvalid, hwritten, huntouched⟩

omit [DecidableEq Key] in
/-- What the delete has found gone is gone for good if it has deleted it, or if nobody commits. -/
theorem Deleting.congr (hdel : Deleting state tx report todo base)
    (hprogress : next.progress tx = state.progress tx)
    (hpending : next.store.pending tx = state.store.pending tx)
    (hbase : state.store.committed.domain = base ∨
      next.store.committed = state.store.committed) : Deleting next tx report todo base := by
  obtain ⟨hdone, hvalid, hwritten, huntouched, hgone, hstale⟩ := hdel
  rw [← hprogress] at hdone
  rw [← hpending] at hwritten huntouched
  refine ⟨hdone, hvalid, hwritten, huntouched, fun key hkey hold => ?_, hstale⟩
  refine (hgone key hkey hold).imp_right fun hnone => ?_
  rw [Store.view_find] at hnone ⊢
  rw [hpending]
  rcases hbase with hbase | hsame
  · rw [← hbase, FinMap.mem_domain] at hold
    cases hpend : (state.store.pending tx).find key with
    | none => simp [hpend, Option.isSome_iff_ne_none.1 hold] at hnone
    | some row =>
        rw [hpend, Option.getD_some] at hnone
        rw [Option.getD_some, hnone]
  · rw [hsame, hnone]

/-! ## Both together -/

/-- What a second report that deletes has not waited for. -/
structure Missed (initial : Set Key) (first second : List (Entry Key Row)) : Prop where
  valid_first : ∀ entry ∈ first, entry.valid
  apart : ∀ key ∈ keys second, key ∉ keys first ∪ initial

inductive Phase (initial : Set Key) (reports : Bool → List (Entry Key Row))
    (state : State Bool Key Row) : Prop where
  | both (hcommitted : state.store.committed.domain = initial) (hexclusive : Exclusive state.store)
      (hrunning : ∀ tx, Running state tx (reports tx) initial)
  | waited (first : Bool) (hfirst : (state.progress first).committed)
      (hvalid : ∀ entry ∈ reports first, entry.valid)
      (hcommitted : state.store.committed.domain = keys (reports first))
      (hrunning : Running state (!first) (reports !first) (keys (reports first)))
  | missed (first : Bool) (hfirst : (state.progress first).committed)
      (hmissed : Missed initial (reports first) (reports !first))
      (hcommitted : state.store.committed.domain = keys (reports first)) (todo : List Key)
      (hdeleting : Deleting state (!first) (reports !first) todo initial)
  | finished (hfinished : Finished state) (first : Bool) (hcommitted : state.store.committed.domain = keys (reports !first) ∨
      Missed initial (reports first) (reports !first) ∧
        (∀ entry ∈ reports !first, entry.valid) ∧
        state.store.committed.domain = keys (reports !first) ∪ (keys (reports first) \ initial))

variable {initial : Set Key} {reports : Bool → List (Entry Key Row)}

theorem phase_start (rows : FinMap Key Row) (reports : Bool → List (Entry Key Row)) :
    Phase rows.domain reports (start rows reports) :=
  .both rfl (fun _ _ _ _ => Or.inl rfl)
    fun tx => .upserting [] (reports tx) (upserting_start rows reports tx)

omit [DecidableEq Key] in
/-- A report whose delete is over has locked its own rows and those that it deleted. -/
theorem Deleting.locks (hdel : Deleting state tx report [] base)
    (hbase : state.store.committed.domain = base) {key : Key} (hkey : key ∈ keys report ∪ base) :
    (state.store.pending tx).find key ≠ none := by
  intro hnone
  by_cases hown : key ∈ keys report
  · obtain ⟨row, hrow⟩ := hdel.written key hown
    rw [hnone] at hrow
    cases hrow
  · have hold := hkey.resolve_left hown
    have hgone := (hdel.gone key hown hold).resolve_left List.not_mem_nil
    rw [Store.view_find, hnone, Option.getD_none] at hgone
    rw [← hbase, FinMap.mem_domain, hgone] at hold
    cases hold

/-- The first commit: the other report has either not started to delete, or it has waited for
no row. -/
theorem Phase.first_commit (hexclusive : Exclusive state.store)
    (hcommitted : state.store.committed.domain = initial)
    (hdel : Deleting state tx (reports tx) [] initial)
    (hother : Running state (!tx) (reports !tx) initial) :
    Phase initial reports (state.advance tx (state.store.commit tx) ⟨[], [], true⟩) := by
  have hne : (!tx) ≠ tx := by simp
  have hprogress := state.advance_progress_ne tx (state.store.commit tx) ⟨[], [], true⟩ hne
  have hpending : (state.advance tx (state.store.commit tx) ⟨[], [], true⟩).store.pending (!tx) =
      state.store.pending (!tx) := Store.commit_pending_ne hne
  have hdomain : (state.advance tx (state.store.commit tx) ⟨[], [], true⟩).store.committed.domain =
      keys (reports tx) := by
    rw [State.advance_store, Store.commit_committed, hdel.view_domain, hcommitted]
    simp
  have hdone : ((state.advance tx (state.store.commit tx) ⟨[], [], true⟩).progress tx).committed := by
    rw [State.advance_progress]
  cases hother with
  | upserting done rest hup =>
      exact .waited tx hdone hdel.valid hdomain (.upserting done rest (hup.congr hprogress hpending))
  | deleting todo hlate =>
      refine .missed tx hdone ⟨hdel.valid, ?_⟩ hdomain todo
        (hlate.congr hprogress hpending (Or.inl hcommitted))
      -- what both have locked would have been locked twice
      intro key hsecond hfirst
      obtain ⟨row, hrow⟩ := hlate.written key hsecond
      rcases hexclusive tx (!tx) key hne with hnone | hnone
      · exact hdel.locks hcommitted hfirst hnone
      · rw [hrow] at hnone
        cases hnone

/-- The second commit. -/
theorem Phase.second_commit {first : Bool} (hfirst : (state.progress first).committed)
    (hcommitted : (state.store.view (!first)).domain = keys (reports !first) ∨
      Missed initial (reports first) (reports !first) ∧
        (∀ entry ∈ reports !first, entry.valid) ∧
        (state.store.view (!first)).domain =
          keys (reports !first) ∪ (keys (reports first) \ initial)) :
    Phase initial reports
      (state.advance (!first) (state.store.commit (!first)) ⟨[], [], true⟩) := by
  refine .finished (fun tx => ?_) first hcommitted
  by_cases htx : tx = !first
  · rw [htx, State.advance_progress]
  · rw [State.advance_progress_ne _ _ _ _ htx, Bool.not_eq_not.1 htx]
    exact hfirst

theorem Phase.step (hphase : Phase initial reports state) (hstep : Step state tx next) :
    Phase initial reports next := by
  -- whoever has committed does not move
  have hmoves : ∀ {first}, (state.progress first).committed → tx = !first := by
    intro first hfirst
    refine Bool.eq_not.2 ?_
    rintro rfl
    rw [hstep.running] at hfirst
    cases hfirst
  have hkept : ∀ {other}, other ≠ tx → (state.progress other).committed →
      (next.progress other).committed := by
    intro other hne hdone
    rw [hstep.progress_ne hne]
    exact hdone
  cases hphase with
  | both hcommitted hexclusive hrunning =>
      have hother := hrunning (!tx)
      rcases (hrunning tx).step hcommitted hstep with hmine | ⟨hdel, rfl⟩
      · have hsame := hstep.committed_eq hmine.not_committed
        refine .both (by rw [hsame, hcommitted]) (hstep.exclusive hexclusive) fun other => ?_
        by_cases hwho : other = tx
        · exact hwho ▸ hmine
        · cases hrunning other with
          | upserting done rest hup =>
              exact .upserting done rest (hup.congr (hstep.progress_ne hwho) (hstep.pending_ne hwho))
          | deleting todo hdel =>
              exact .deleting todo
                (hdel.congr (hstep.progress_ne hwho) (hstep.pending_ne hwho) (Or.inr hsame))
      · exact first_commit hexclusive hcommitted hdel hother
  | waited first hfirst hvalid hcommitted hrunning =>
      obtain rfl := hmoves hfirst
      have hdone := hkept (by simp : first ≠ !first) hfirst
      rcases hrunning.step hcommitted hstep with hmine | ⟨hdel, rfl⟩
      · have hsame := hstep.committed_eq hmine.not_committed
        exact .waited first hdone hvalid (by rw [hsame, hcommitted]) hmine
      · refine second_commit hfirst (Or.inl ?_)
        rw [hdel.view_domain, hcommitted]
        simp
  | missed first hfirst hmissed hcommitted todo hdeleting =>
      obtain rfl := hmoves hfirst
      have hdone := hkept (by simp : first ≠ !first) hfirst
      rcases hdeleting.step hstep with ⟨left, hmine⟩ | ⟨rfl, rfl⟩
      · have hsame := hstep.committed_eq (by rw [hmine.progress])
        exact .missed first hdone hmissed (by rw [hsame, hcommitted]) left hmine
      · refine second_commit hfirst (Or.inr ⟨hmissed, hdeleting.valid, ?_⟩)
        rw [hdeleting.view_domain, hcommitted]
  | finished hfinished first hcommitted =>
      have hdone := hfinished tx
      rw [hstep.running] at hdone
      cases hdone

theorem phase_of_run {rows : FinMap Key Row} {labels : List (Bool × Move Key)}
    (hrun : system.run (start rows reports) labels = some final) :
    Phase rows.domain reports final := by
  apply System.run_invariant (Phase rows.domain reports) _ (phase_start rows reports) hrun
  intro state label next hphase hstep
  exact hphase.step (step_spec hstep)

/-- What every run with both committed leaves. -/
theorem replaced {rows : FinMap Key Row} {labels : List (Bool × Move Key)}
    (hrun : system.run (start rows reports) labels = some final) (hfinished : Finished final) :
    ∃ first, final.store.committed.domain = keys (reports !first) ∨
      Missed rows.domain (reports first) (reports !first) ∧
        (∀ entry ∈ reports !first, entry.valid) ∧
        final.store.committed.domain =
          keys (reports !first) ∪ (keys (reports first) \ rows.domain) := by
  cases phase_of_run hrun with
  | both hcommitted hexclusive hrunning =>
      have hdone := hfinished true
      rw [(hrunning true).not_committed] at hdone
      cases hdone
  | waited first hfirst hvalid hcommitted hrunning =>
      have hdone := hfinished (!first)
      rw [hrunning.not_committed] at hdone
      cases hdone
  | missed first hfirst hmissed hcommitted todo hdeleting =>
      have hdone := hfinished (!first)
      rw [hdeleting.progress] at hdone
      cases hdone
  | finished hfinished first hcommitted => exact ⟨first, hcommitted⟩

/-! ## The run that misses rows -/

theorem exists_upserted (hup : Upserting state tx report done rest)
    (hvalid : ∀ entry ∈ rest, entry.valid)
    (hfree : ∀ key ∈ keys rest, state.store.Free tx key) :
    ∃ next, Alone tx state next ∧ Upserting next tx report report [] := by
  induction rest generalizing state done with
  | nil =>
      have hsplit : report = done := by rw [hup.split, List.append_nil]
      exact ⟨state, .refl, hsplit ▸ hup⟩
  | cons entry rest ih =>
      have haccepted := hvalid entry List.mem_cons_self
      have hstep := Step.upsert entry.key _ _ (entry.merged ((state.store.view tx).find entry.key))
        hup.progress (hfree entry.key (by simp [keys])) (if_pos haccepted)
      obtain ⟨next, halone, hdone⟩ := ih (hup.upsert haccepted _)
        (fun later hlater => hvalid later (List.mem_cons_of_mem _ hlater))
        (fun key hkey => hstep.alone.free (hfree key (List.mem_cons_of_mem _ hkey)))
      exact ⟨next, .head hstep halone, hdone⟩

theorem Deleting.alone (hdel : Deleting state tx report todo base) (halone : Alone tx state final)
    {left : List Key} (hprogress : final.progress tx = ⟨left, [], false⟩) :
    Deleting final tx report left base := by
  suffices hsome : ∃ others, Deleting final tx report others base by
    obtain ⟨others, hothers⟩ := hsome
    have hsame := hothers.progress.symm.trans hprogress
    rw [Progress.mk.injEq] at hsame
    exact hsame.1 ▸ hothers
  have hrunning : (final.progress tx).committed = false := by rw [hprogress]
  clear hprogress
  induction halone with
  | refl => exact ⟨todo, hdel⟩
  | tail hbefore hstep ih =>
      obtain ⟨others, hothers⟩ := ih hstep.running
      rcases hothers.step hstep with hleft | ⟨-, rfl⟩
      · exact hleft
      · simp at hrunning

/-- With no locks in its way, a report deletes to the end. -/
theorem exists_deleted (hup : Upserting state tx report report [])
    (hfree : ∀ key, state.store.Free tx key) :
    ∃ next, Alone tx state next ∧
      Deleting next tx report [] state.store.committed.domain := by
  have hdel := hup.delete
  obtain ⟨next, halone, hnext⟩ := exists_rows hdel.progress fun key _ => hfree key
  exact ⟨next, .head (.delete _ _ hup.progress) halone, hdel.alone halone hnext⟩

theorem Alone.extend {origin : State Bool Key Row}
    (hbefore : ∃ labels, system.run origin labels = some state) (halone : Alone tx state final) :
    ∃ labels, system.run origin labels = some final := by
  obtain ⟨before, hbefore⟩ := hbefore
  obtain ⟨after, -, hafter⟩ := halone.exists_run
  exact ⟨before ++ after, System.run_append.2 ⟨state, hbefore, hafter⟩⟩

/-- The first report makes all its statements, with nothing in its way. -/
theorem exists_first {rows : FinMap Key Row} {first : Bool}
    (hvalid : ∀ entry ∈ reports first, entry.valid) :
    ∃ next, Alone first (start rows reports) next ∧ next.store.committed = rows ∧
      Deleting next first (reports first) [] rows.domain ∧
      Upserting next (!first) (reports !first) [] (reports !first) := by
  obtain ⟨upserted, hup, hupserted⟩ := exists_upserted (upserting_start rows reports first)
    hvalid fun key _ other _ => rfl
  obtain ⟨next, hdel, hdeleted⟩ := exists_deleted hupserted fun key => hup.free fun other _ => rfl
  rw [hup.committed_eq (by rw [hupserted.progress])] at hdeleted
  have halone := hup.trans hdel
  have hne : (!first) ≠ first := by simp
  refine ⟨next, halone, halone.committed_eq (by rw [hdeleted.progress]), hdeleted, ?_⟩
  exact (upserting_start rows reports !first).congr (halone.progress_ne hne) (halone.pending_ne hne)

/-- The second report upserts rows that the first has not touched, and starts to delete. -/
theorem exists_late {first : Bool} (hdel : Deleting state first (reports first) [] base)
    (hbase : state.store.committed.domain = base)
    (hup : Upserting state (!first) (reports !first) [] (reports !first))
    (hvalid : ∀ entry ∈ reports !first, entry.valid)
    (hapart : ∀ key ∈ keys (reports !first), key ∉ keys (reports first) ∪ base) :
    ∃ next todo, Alone (!first) state next ∧ next.store.committed = state.store.committed ∧
      Deleting next first (reports first) [] base ∧
      Deleting next (!first) (reports !first) todo base := by
  have hfree : ∀ key ∈ keys (reports !first), state.store.Free (!first) key := by
    intro key hkey other hwho
    rw [Bool.not_eq_not.1 (show other ≠ !first from hwho), Store.locks_eq_false]
    have huntouched := hapart key hkey
    exact hdel.untouched key (fun hold => huntouched (Or.inl hold))
      fun hold => huntouched (Or.inr hold)
  obtain ⟨late, hlate, hupserted⟩ := exists_upserted hup hvalid hfree
  have hcommitted := hlate.committed_eq (by rw [hupserted.progress])
  have hstarted := hupserted.delete
  have halone := hlate.trans (Step.delete _ _ hupserted.progress).alone
  have hne : first ≠ !first := by simp
  rw [hcommitted, hbase] at hstarted
  refine ⟨_, _, halone, hcommitted, ?_, hstarted⟩
  exact hdel.congr (halone.progress_ne hne) (halone.pending_ne hne) (Or.inr hcommitted)

theorem exists_mixed {rows : FinMap Key Row} {first : Bool}
    (hmix : CanMix rows.domain (reports first) (reports !first)) :
    ∃ labels final, system.run (start rows reports) labels = some final ∧ Finished final ∧
      final.store.committed.domain =
        keys (reports !first) ∪ (keys (reports first) \ rows.domain) := by
  have hne : (!first) ≠ first := by simp
  obtain ⟨deleted, hfirst, hcommitted, hdeleted, hwaiting⟩ := exists_first hmix.valid_first
  obtain ⟨late, todo, hlate, hsame, hready, hmissing⟩ := exists_late hdeleted
    (congrArg FinMap.domain hcommitted) hwaiting hmix.valid_second hmix.apart
  have hbase : late.store.committed.domain = rows.domain := by rw [hsame, hcommitted]
  -- the first report commits
  have hcommit := Step.commit hready.progress
  have hdomain : (late.store.view first).domain = keys (reports first) := by
    rw [hready.view_domain, hbase]
    simp
  have hdeleting := hmissing.congr (hcommit.progress_ne hne) (hcommit.pending_ne hne) (Or.inl hbase)
  -- the second deletes the rows that it has selected, and commits
  obtain ⟨last, hrest, hlast⟩ := exists_rows hdeleting.progress (by
    intro key _ other hwho
    rw [Bool.not_eq_not.1 (show other ≠ !first from hwho), Store.locks_eq_false,
      State.advance_store, Store.commit_pending, FinMap.find_empty])
  have hend := hdeleting.alone hrest hlast
  have hkept := hrest.committed_eq (by rw [hlast])
  have hdone : (last.progress first).committed := by
    rw [hrest.progress_ne hne.symm, State.advance_progress]
  have hbefore := hlate.extend (hfirst.extend ⟨[], rfl⟩)
  obtain ⟨labels, hrun⟩ :=
    (Step.commit hlast).alone.extend (hrest.extend (hcommit.alone.extend hbefore))
  refine ⟨labels, _, hrun, ?_, ?_⟩
  · intro tx
    by_cases htx : tx = !first
    · rw [htx, State.advance_progress]
    · rw [State.advance_progress_ne _ _ _ _ htx, Bool.not_eq_not.1 htx]
      exact hdone
  · rw [State.advance_store, Store.commit_committed, hend.view_domain, hkept, State.advance_store,
      Store.commit_committed, hdomain]

/-- In all runs one of the reports survives whole, unless rows can be missed. -/
theorem never_mixed_iff {rows : FinMap Key Row} :
    (∀ labels final, system.run (start rows reports) labels = some final → Finished final →
      ∃ winner, final.store.committed.domain = keys (reports winner)) ↔
    ∀ first, ¬ CanMix rows.domain (reports first) (reports !first) := by
  constructor
  · intro hnever first hmix
    obtain ⟨labels, final, hrun, hfinished, hdomain⟩ := exists_mixed hmix
    obtain ⟨winner, hwinner⟩ := hnever labels final hrun hfinished
    rw [hdomain] at hwinner
    obtain ⟨key, hkey, hnew⟩ := hmix.inserts
    have hmem : key ∈ keys (reports winner) := hwinner ▸ Or.inr ⟨hkey, hnew⟩
    by_cases hfirst : winner = first
    · subst hfirst
      rcases hmix.mixed with ⟨other, hother⟩ | ⟨other, hother, hold⟩
      · have hback : other ∈ keys (reports winner) := hwinner ▸ Or.inl hother
        exact hmix.apart other hother (Or.inl hback)
      · have hback : other ∈ keys (reports !winner) ∪ (keys (reports winner) \ rows.domain) := by
          rw [hwinner]
          exact hother
        rcases hback with hsecond | hinserted
        · exact hmix.apart other hsecond (Or.inl hother)
        · exact hinserted.2 hold
    · rw [Bool.eq_not.2 hfirst] at hmem
      exact hmix.apart key hmem (Or.inl hkey)
  · intro hcannot labels final hrun hfinished
    obtain ⟨first, hdomain | ⟨hmissed, hvalid, hdomain⟩⟩ := replaced hrun hfinished
    · exact ⟨!first, hdomain⟩
    · by_contra hneither
      have hnot : ∀ winner, final.store.committed.domain ≠ keys (reports winner) :=
        fun winner hwinner => hneither ⟨winner, hwinner⟩
      refine hcannot first ⟨hmissed.valid_first, hvalid, hmissed.apart, ?_, ?_⟩
      · by_contra hempty
        rw [Set.not_nonempty_iff_eq_empty] at hempty
        exact hnot (!first) (by rw [hdomain, hempty, Set.union_empty])
      · by_contra hnothing
        rw [not_or, Set.not_nonempty_iff_eq_empty, Set.not_nonempty_iff_eq_empty] at hnothing
        refine hnot first ?_
        rw [hdomain, hnothing.1, Set.empty_union]
        ext key
        rw [Set.mem_sdiff, and_iff_left_iff_imp]
        intro hkey hold
        exact Set.notMem_empty key (hnothing.2 ▸ ⟨hkey, hold⟩)

end ModelHub.ReadCommitted
