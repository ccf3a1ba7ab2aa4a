import Mathlib.Data.List.Sort
import Mathlib.Tactic.Common

/-!
# Queries that order their rows

`SELECT ... ORDER BY key`: the rows that a scan returns, in whatever order it returns
them, sorted by a key.  Rows with equal keys keep the order of the scan, so the result
depends on it; the keys in the result do not (`map_select`), and where the keys are
different nothing does (`select_eq_orderBy`).
-/

namespace ModelHub

/-- How the values of a column are ordered. -/
structure KeyOrder (Key : Type*) where
  le : Key → Key → Bool
  total : ∀ first second, le first second || le second first
  trans : ∀ first second third, le first second → le second third → le first third
  antisymm : ∀ first second, le first second → le second first → first = second

/-- The order in which the rows of a query happen to be found. -/
structure Scan (Row : Type*) where
  rows : List Row → List Row
  perm : ∀ found, (rows found).Perm found

/-- A query by a unique column finds one row. -/
theorem filter_unique {Row Column : Type*} [DecidableEq Column] {column : Row → Column}
    {rows : List Row} (hnodup : (rows.map column).Nodup) {row : Row} (hrow : row ∈ rows) :
    rows.filter (fun found => column found = column row) = [row] := by
  apply List.perm_singleton.1
  refine (List.perm_ext_iff_of_nodup ((List.Nodup.of_map _ hnodup).filter _)
    (List.nodup_singleton row)).2 fun found => ?_
  rw [List.mem_filter, decide_eq_true_eq, List.mem_singleton]
  constructor
  · rintro ⟨hfound, hsame⟩
    exact List.inj_on_of_nodup_map hnodup hfound hrow hsame
  · rintro rfl
    exact ⟨hrow, rfl⟩

namespace KeyOrder

variable {Row Key : Type*} (order : KeyOrder Key) (key : Row → Key)

def orderBy (rows : List Row) : List Row :=
  rows.mergeSort fun first second => order.le (key first) (key second)

def select (scan : Scan Row) (rows : List Row) : List Row := order.orderBy key (scan.rows rows)

variable {order key} {rows rows' : List Row} {scan : Scan Row}

theorem orderBy_perm (rows : List Row) : (order.orderBy key rows).Perm rows :=
  List.mergeSort_perm rows _

theorem select_perm (rows : List Row) : (order.select key scan rows).Perm rows :=
  (orderBy_perm _).trans (scan.perm rows)

theorem orderBy_pairwise (rows : List Row) :
    (order.orderBy key rows).Pairwise fun first second => order.le (key first) (key second) :=
  List.pairwise_mergeSort (fun first second third => order.trans (key first) (key second) (key third))
    (fun first second => order.total (key first) (key second)) rows

/-- The keys come in one order only. -/
theorem map_orderBy (hperm : rows.Perm rows') :
    (order.orderBy key rows).map key = (order.orderBy key rows').map key := by
  have hsorted : ∀ rows, ((order.orderBy key rows).map key).Pairwise
      fun first second => order.le first second := by
    intro rows
    rw [List.pairwise_map]
    exact orderBy_pairwise rows
  have hkeys : ((order.orderBy key rows).map key).Perm ((order.orderBy key rows').map key) :=
    (((orderBy_perm rows).trans hperm).trans (orderBy_perm rows').symm).map key
  exact hkeys.eq_of_pairwise (fun _ _ _ _ => order.antisymm _ _) (hsorted rows) (hsorted rows')

/-- Where the keys are different, so do the rows. -/
theorem orderBy_eq_of_perm (hperm : rows.Perm rows') (hnodup : (rows.map key).Nodup) :
    order.orderBy key rows = order.orderBy key rows' := by
  have hboth : (order.orderBy key rows).Perm (order.orderBy key rows') :=
    ((orderBy_perm rows).trans hperm).trans (orderBy_perm rows').symm
  refine hboth.eq_of_pairwise (fun first second hfirst hsecond hle hge => ?_)
    (orderBy_pairwise rows) (orderBy_pairwise rows')
  have hmem : second ∈ rows := hperm.mem_iff.2 ((orderBy_perm rows').mem_iff.1 hsecond)
  exact List.inj_on_of_nodup_map hnodup ((orderBy_perm rows).mem_iff.1 hfirst) hmem
    (order.antisymm _ _ hle hge)

theorem map_select {scan' : Scan Row} (hperm : rows.Perm rows') :
    (order.select key scan rows).map key = (order.select key scan' rows').map key :=
  map_orderBy (((scan.perm rows).trans hperm).trans (scan'.perm rows').symm)

theorem select_eq_orderBy (hnodup : (rows.map key).Nodup) :
    order.select key scan rows = order.orderBy key rows :=
  orderBy_eq_of_perm (scan.perm rows) (((scan.perm rows).map key).nodup_iff.2 hnodup)

/-- Selecting from what was ordered is ordering what is selected. -/
theorem filter_select {keep : Row → Bool} (hnodup : ((rows.filter keep).map key).Nodup) :
    (order.select key scan rows).filter keep = order.orderBy key (rows.filter keep) := by
  have hperm : ((order.select key scan rows).filter keep).Perm
      (order.orderBy key (rows.filter keep)) :=
    ((select_perm rows).filter keep).trans (orderBy_perm _).symm
  refine hperm.eq_of_pairwise (fun first second hfirst hsecond hle hge => ?_)
    ((orderBy_pairwise _).filter keep) (orderBy_pairwise _)
  have hmem : first ∈ rows.filter keep := (orderBy_perm _).mem_iff.1 (hperm.mem_iff.1 hfirst)
  exact List.inj_on_of_nodup_map hnodup hmem ((orderBy_perm _).mem_iff.1 hsecond)
    (order.antisymm _ _ hle hge)

end KeyOrder

end ModelHub
