import Mathlib.Data.List.Nodup
import Mathlib.Data.Option.Basic
import Mathlib.Tactic.Common

/-!
# Tables with two unique columns

A table is a list of rows on which a primary key and one further unique column
have no duplicates.  Both facts are fields, so a table that violates them cannot
be built, and every operation shows what it owes them:

* `update` changes the selected rows and leaves both columns alone;
* `insert` needs a row that is fresh in both columns;
* `delete` needs nothing.

`updated` is what an `UPDATE ... RETURNING` hands back.  A row is found again by
`withId` or `withKey`, and the lemmas say what the operations do to what `withKey`
finds.
-/

namespace ModelHub

/-- Rows whose `id` and `key` are both unique. -/
structure Table {Row Id Key : Type*} (id : Row → Id) (key : Row → Key) where
  rows : List Row
  id_nodup : (rows.map id).Nodup
  key_nodup : (rows.map key).Nodup

namespace Table

variable {Row Id Key : Type*} {id : Row → Id} {key : Row → Key}

/-! ## Operations -/

def empty : Table id key := ⟨[], by simp, by simp⟩

/-- One selected row after an update. -/
def rewrite (sel : Row → Bool) (set : Row → Row) (row : Row) : Row :=
  if sel row then set row else row

/-- A column that the new values leave alone is left alone. -/
theorem rewrite_same {Column : Type*} (column : Row → Column) {sel : Row → Bool} {set : Row → Row}
    (hset : ∀ row, column (set row) = column row) (row : Row) :
    column (rewrite sel set row) = column row := by
  unfold rewrite
  split
  · exact hset row
  · rfl

def update (table : Table id key) (sel : Row → Bool) (set : Row → Row)
    (hid : ∀ row, id (set row) = id row) (hkey : ∀ row, key (set row) = key row) :
    Table id key where
  rows := table.rows.map (rewrite sel set)
  id_nodup := by
    have hsame : id ∘ rewrite sel set = id := funext (rewrite_same id hid)
    rw [List.map_map, hsame]
    exact table.id_nodup
  key_nodup := by
    have hsame : key ∘ rewrite sel set = key := funext (rewrite_same key hkey)
    rw [List.map_map, hsame]
    exact table.key_nodup

/-- The rows an update has changed, as it left them. -/
def updated (table : Table id key) (sel : Row → Bool) (set : Row → Row) : List Row :=
  (table.rows.filter sel).map set

def insert (table : Table id key) (row : Row) (hid : id row ∉ table.rows.map id)
    (hkey : key row ∉ table.rows.map key) : Table id key where
  rows := table.rows ++ [row]
  id_nodup := by
    rw [List.map_append, List.map_singleton, List.nodup_append]
    refine ⟨table.id_nodup, List.nodup_singleton _, ?_⟩
    intro found hfound other hother hsame
    rw [List.mem_singleton.1 hother] at hsame
    exact hid (hsame ▸ hfound)
  key_nodup := by
    rw [List.map_append, List.map_singleton, List.nodup_append]
    refine ⟨table.key_nodup, List.nodup_singleton _, ?_⟩
    intro found hfound other hother hsame
    rw [List.mem_singleton.1 hother] at hsame
    exact hkey (hsame ▸ hfound)

def delete (table : Table id key) (sel : Row → Bool) : Table id key where
  rows := table.rows.filter fun row => !sel row
  id_nodup := table.id_nodup.sublist (List.filter_sublist.map id)
  key_nodup := table.key_nodup.sublist (List.filter_sublist.map key)

def withId [DecidableEq Id] (table : Table id key) (wanted : Id) : Option Row :=
  table.rows.find? fun row => id row = wanted

def withKey [DecidableEq Key] (table : Table id key) (wanted : Key) : Option Row :=
  table.rows.find? fun row => key row = wanted

/-! ## Membership -/

variable {table : Table id key} {sel : Row → Bool} {set : Row → Row} {row other : Row}

@[ext] theorem ext_rows {first second : Table id key} (hrows : first.rows = second.rows) :
    first = second := by
  cases first
  cases second
  congr

theorem eq_of_id (hrow : row ∈ table.rows) (hother : other ∈ table.rows)
    (hsame : id row = id other) : row = other :=
  List.inj_on_of_nodup_map table.id_nodup hrow hother hsame

theorem eq_of_key (hrow : row ∈ table.rows) (hother : other ∈ table.rows)
    (hsame : key row = key other) : row = other :=
  List.inj_on_of_nodup_map table.key_nodup hrow hother hsame

@[simp] theorem rows_empty : (empty : Table id key).rows = [] := rfl

theorem rewrite_of_sel (hsel : sel row) : rewrite sel set row = set row := by
  simp [rewrite, hsel]

theorem rewrite_of_not_sel (hsel : ¬ sel row) : rewrite sel set row = row := by
  simp [rewrite, hsel]

/-- An update is not seen through a filter that its rows do not pass. -/
theorem filter_map_rewrite {keep : Row → Bool} {rows : List Row}
    (hset : ∀ row, keep (set row) = keep row) (hsel : ∀ row ∈ rows, sel row → ¬ keep row) :
    (rows.map (rewrite sel set)).filter keep = rows.filter keep := by
  induction rows with
  | nil => rfl
  | cons row rest ih =>
      have hrest := ih fun other hother => hsel other (List.mem_cons_of_mem _ hother)
      rw [List.map_cons]
      by_cases hmatch : sel row
      · have hkept := hsel row List.mem_cons_self hmatch
        have hdropped : ¬ keep (rewrite sel set row) := by
          rw [rewrite_of_sel hmatch, hset]
          exact hkept
        rw [List.filter_cons_of_neg hdropped, List.filter_cons_of_neg hkept, hrest]
      · rw [rewrite_of_not_sel hmatch, List.filter_cons, List.filter_cons, hrest]

@[simp] theorem mem_update {hid : ∀ row, id (set row) = id row}
    {hkey : ∀ row, key (set row) = key row} :
    row ∈ (table.update sel set hid hkey).rows ↔ ∃ old ∈ table.rows, rewrite sel set old = row := by
  simp [update]

@[simp] theorem mem_updated :
    row ∈ table.updated sel set ↔ ∃ old ∈ table.rows, sel old ∧ set old = row := by
  simp [updated, and_assoc]

@[simp] theorem mem_insert {new : Row} {hid : id new ∉ table.rows.map id}
    {hkey : key new ∉ table.rows.map key} :
    row ∈ (table.insert new hid hkey).rows ↔ row ∈ table.rows ∨ row = new := by
  simp [insert]

@[simp] theorem mem_delete : row ∈ (table.delete sel).rows ↔ row ∈ table.rows ∧ ¬ sel row := by
  simp [delete]

/-! ## Finding a row again -/

/-- In a list without duplicates in one column, `find?` by it finds the only row. -/
private theorem find?_column_eq_some {Column : Type*} [DecidableEq Column]
    {column : Row → Column} {rows : List Row} (hnodup : (rows.map column).Nodup)
    {wanted : Column} :
    rows.find? (fun row => column row = wanted) = some row ↔
      row ∈ rows ∧ column row = wanted := by
  constructor
  · intro hfound
    exact ⟨List.mem_of_find?_eq_some hfound, by simpa using List.find?_some hfound⟩
  · rintro ⟨hrow, hcolumn⟩
    have hsome : (rows.find? fun row => column row = wanted).isSome := by
      rw [List.find?_isSome]
      exact ⟨row, hrow, by simpa using hcolumn⟩
    obtain ⟨found, hfound⟩ := Option.isSome_iff_exists.1 hsome
    have hcolumn' : column found = wanted := by simpa using List.find?_some hfound
    rw [hfound, List.inj_on_of_nodup_map hnodup (List.mem_of_find?_eq_some hfound) hrow
      (hcolumn'.trans hcolumn.symm)]

private theorem find?_column_rewrite {Column : Type*} [DecidableEq Column]
    {column : Row → Column} (hset : ∀ row, column (set row) = column row) (rows : List Row)
    (wanted : Column) :
    (rows.map (rewrite sel set)).find? (fun row => column row = wanted) =
      (rows.find? fun row => column row = wanted).map (rewrite sel set) := by
  simp only [List.find?_map, Function.comp_def, rewrite_same column hset]

section FindId

variable [DecidableEq Id] {wanted : Id}

theorem withId_eq_some : table.withId wanted = some row ↔ row ∈ table.rows ∧ id row = wanted :=
  find?_column_eq_some table.id_nodup

theorem withId_eq_none : table.withId wanted = none ↔ wanted ∉ table.rows.map id := by
  simp [withId]

theorem withId_update {hid : ∀ row, id (set row) = id row}
    {hkey : ∀ row, key (set row) = key row} :
    (table.update sel set hid hkey).withId wanted =
      (table.withId wanted).map (rewrite sel set) :=
  find?_column_rewrite hid table.rows wanted

/-- The new row is found under its id, and the others under theirs. -/
theorem withId_append {next : Table id key} {new : Row} (hrows : next.rows = table.rows ++ [new]) :
    next.withId wanted = if wanted = id new then some new else table.withId wanted := by
  have hnew : id new ∉ table.rows.map id := by
    have hnodup := next.id_nodup
    rw [hrows, List.map_append, List.map_singleton, List.nodup_append] at hnodup
    intro hmem
    exact hnodup.2.2 _ hmem _ (List.mem_singleton_self _) rfl
  split
  case isTrue heq =>
    rw [withId_eq_some, hrows, heq]
    exact ⟨List.mem_append_right _ (List.mem_singleton_self _), rfl⟩
  case isFalse hne =>
    ext row
    rw [withId_eq_some, withId_eq_some, hrows, List.mem_append, List.mem_singleton]
    constructor
    · rintro ⟨hold | rfl, hsame⟩
      · exact ⟨hold, hsame⟩
      · exact absurd hsame.symm hne
    · rintro ⟨hold, hsame⟩
      exact ⟨Or.inl hold, hsame⟩

end FindId

section FindKey

variable [DecidableEq Key] {wanted : Key}

theorem withKey_eq_some : table.withKey wanted = some row ↔ row ∈ table.rows ∧ key row = wanted :=
  find?_column_eq_some table.key_nodup

theorem withKey_eq_none : table.withKey wanted = none ↔ wanted ∉ table.rows.map key := by
  simp [withKey]

theorem withKey_update {hid : ∀ row, id (set row) = id row}
    {hkey : ∀ row, key (set row) = key row} :
    (table.update sel set hid hkey).withKey wanted =
      (table.withKey wanted).map (rewrite sel set) :=
  find?_column_rewrite hkey table.rows wanted

/-- At most one row meets a selection that fixes the unique column. -/
theorem head?_updated (hsel : ∀ row, sel row → key row = wanted) :
    (table.updated sel set).head? = ((table.withKey wanted).filter sel).map set := by
  have hfind : (table.rows.filter sel).head? = (table.withKey wanted).filter sel := by
    ext row
    rw [List.head?_filter, Option.filter_eq_some_iff, withKey_eq_some]
    constructor
    · intro hfound
      have hmatch : sel row := by simpa using List.find?_some hfound
      exact ⟨⟨List.mem_of_find?_eq_some hfound, hsel row hmatch⟩, hmatch⟩
    · rintro ⟨⟨hrow, hkey⟩, hmatch⟩
      have hsome : (table.rows.find? sel).isSome := by
        rw [List.find?_isSome]
        exact ⟨row, hrow, hmatch⟩
      obtain ⟨found, hfound⟩ := Option.isSome_iff_exists.1 hsome
      have hkey' : key found = wanted := hsel found (by simpa using List.find?_some hfound)
      rw [hfound, eq_of_key (List.mem_of_find?_eq_some hfound) hrow (hkey'.trans hkey.symm)]
  rw [updated, List.head?_map, hfind]

theorem withKey_delete : (table.delete sel).withKey wanted = (table.withKey wanted).filter (!sel ·) := by
  ext row
  rw [Option.filter_eq_some_iff, withKey_eq_some, withKey_eq_some, mem_delete]
  simp only [Bool.not_eq_true, Bool.not_eq_eq_eq_not, Bool.not_true]
  tauto

end FindKey

end Table

end ModelHub
