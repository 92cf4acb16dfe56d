import Mathlib.Data.List.Dedup
import Mathlib.Data.List.Sort
import TemporalFormat.Duration.Basic

/-!
# Sets of units

A shift takes a list of units for the set of its members: they are put in order, each of them once,
and all there is is spread over them, `Duration.shiftTo_eq_spread`. There is only one way to put
units in order, so lists with the same members lead to the same shift, `Duration.shiftTo_congr`.
This holds of magnitudes of any kind.

The shift itself sorts the units, drops repetitions and lets one unit after the other take its
amount; `Duration.spread` says by recursion what the units come to have. The two agree because each
unit is taken only once, `Duration.amount_takeRest_of_mem`.
-/

set_option autoImplicit false

namespace TemporalFormat

/-- A list of units with the larger ones first. -/
def Descending (units : List TimeUnit) : Prop :=
  units.Pairwise fun larger unit => unit.millis < larger.millis

/-- The list of all units begins with the largest. -/
theorem descending_all : Descending TimeUnit.all := by
  unfold Descending
  decide

namespace Descending

variable {units units' : List TimeUnit}

/-- Units in order are listed once. -/
theorem nodup (h : Descending units) : units.Nodup := by
  refine List.Pairwise.imp ?_ h
  rintro unit _ hlt rfl
  exact Nat.lt_irrefl _ hlt

/-- There is only one way to put units in order. -/
theorem ext (h : Descending units) (h' : Descending units')
    (hmem : ∀ unit, unit ∈ units ↔ unit ∈ units') : units = units' := by
  have hperm := (List.perm_ext_iff_of_nodup h.nodup h'.nodup).mpr hmem
  exact hperm.eq_of_pairwise (fun _ _ _ _ hlt hgt => absurd hlt (Nat.lt_asymm hgt)) h h'

end Descending

namespace TimeUnit

/-- Units of the same length are the same. -/
theorem eq_of_millis_eq {unit other : TimeUnit} (h : unit.millis = other.millis) :
    unit = other := by
  revert h
  cases unit <;> cases other <;> decide

/-- The members of a list, each of them once and the larger ones first. -/
def inOrder (units : List TimeUnit) : List TimeUnit :=
  units.dedup.mergeSort fun larger unit => decide (unit.millis ≤ larger.millis)

/-- Units that are put in order are the same units. -/
theorem mem_inOrder_iff {units : List TimeUnit} {unit : TimeUnit} :
    unit ∈ inOrder units ↔ unit ∈ units := by
  rw [inOrder, List.mem_mergeSort, List.mem_dedup]

/-- There is a unit in order when there is a unit. -/
theorem inOrder_ne_nil {units : List TimeUnit} (hne : units ≠ []) : inOrder units ≠ [] := by
  obtain ⟨unit, hunit⟩ := List.exists_mem_of_ne_nil units hne
  exact List.ne_nil_of_mem (mem_inOrder_iff.mpr hunit)

/-- Units that are put in order have the larger ones first. -/
theorem descending_inOrder (units : List TimeUnit) : Descending (inOrder units) := by
  have hnodup : (inOrder units).Nodup :=
    (List.mergeSort_perm _ _).nodup_iff.mpr (List.nodup_dedup units)
  have hsorted : (inOrder units).Pairwise fun larger unit =>
      decide (unit.millis ≤ larger.millis) = true := by
    apply List.pairwise_mergeSort
    · intro a b c hab hbc
      rw [decide_eq_true_eq] at hab hbc ⊢
      exact Nat.le_trans hbc hab
    · intro a b
      rw [Bool.or_eq_true, decide_eq_true_eq, decide_eq_true_eq]
      exact Nat.le_total _ _
  refine (hsorted.and hnodup).imp ?_
  rintro larger unit ⟨hle, hne⟩
  exact Nat.lt_of_le_of_ne (of_decide_eq_true hle) fun heq => hne (eq_of_millis_eq heq.symm)

/-- Lists with the same members have the same order. -/
theorem inOrder_congr {units units' : List TimeUnit}
    (hmem : ∀ unit, unit ∈ units ↔ unit ∈ units') : inOrder units = inOrder units' := by
  apply (descending_inOrder units).ext (descending_inOrder units')
  intro unit
  rw [mem_inOrder_iff, mem_inOrder_iff, hmem]

/-- To go through all units in order and to keep the members of a list is to put them in order. -/
theorem filter_all_eq_inOrder (units : List TimeUnit) :
    all.filter (fun unit => units.contains unit) = inOrder units := by
  apply Descending.ext (List.Pairwise.filter _ descending_all) (descending_inOrder units)
  intro unit
  have hall : unit ∈ all := by cases unit <;> decide
  rw [mem_inOrder_iff, List.mem_filter, List.contains_iff_mem]
  exact and_iff_right hall

/-! ## Sorting -/

/-- Units are sorted with the larger ones first. -/
theorem index_lt_iff {unit other : TimeUnit} :
    unit.index < other.index ↔ other.millis < unit.millis := by
  cases unit <;> cases other <;> decide

/-- Units at the same place are the same. -/
theorem eq_of_index_eq {unit other : TimeUnit} (h : unit.index = other.index) : unit = other := by
  revert h
  cases unit <;> cases other <;> decide

/-- Units are put into a list as by `List.orderedInsert`. -/
theorem insert_eq_orderedInsert (unit : TimeUnit) (units : List TimeUnit) :
    insert unit units = units.orderedInsert (fun unit other => unit.index ≤ other.index) unit := by
  induction units with
  | nil => rfl
  | cons other rest ih => rw [insert, List.orderedInsert, ih]

/-- Units are sorted as by `List.insertionSort`. -/
theorem sort_eq_insertionSort (units : List TimeUnit) :
    sort units = units.insertionSort fun unit other => unit.index ≤ other.index := by
  induction units with
  | nil => rfl
  | cons unit rest ih =>
    rw [List.insertionSort_cons, ← ih, ← insert_eq_orderedInsert]
    rfl

/-- Sorting keeps the units. -/
theorem mem_sort_iff {units : List TimeUnit} {unit : TimeUnit} :
    unit ∈ sort units ↔ unit ∈ units := by
  rw [sort_eq_insertionSort, List.mem_insertionSort]

/-- Sorted units stand in the order of all units. -/
theorem pairwise_sort (units : List TimeUnit) :
    (sort units).Pairwise fun unit other => unit.index ≤ other.index := by
  have : Std.Total fun unit other : TimeUnit => unit.index ≤ other.index :=
    ⟨fun unit other => Nat.le_total _ _⟩
  have : IsTrans TimeUnit fun unit other => unit.index ≤ other.index :=
    ⟨fun _ _ _ => Nat.le_trans⟩
  rw [sort_eq_insertionSort]
  exact List.pairwise_insertionSort _ units

end TimeUnit

section EraseReps

variable {α : Type}

/-- What the scan for repetitions has found so far stands in front of what it still finds. -/
theorem eraseRepsBy_loop_eq (r : α → α → Bool) (a : α) (l found : List α) :
    List.eraseRepsBy.loop r a l found = found.reverse ++ List.eraseRepsBy.loop r a l [] := by
  induction l generalizing a found with
  | nil => simp [List.eraseRepsBy.loop]
  | cons b l ih =>
    rw [List.eraseRepsBy.loop, List.eraseRepsBy.loop]
    cases r a b with
    | true => exact ih a found
    | false => rw [ih b (a :: found), ih b [a]]; simp

variable [DecidableEq α]

/-- An element that is repeated at once is dropped, and any other is kept. -/
theorem eraseReps_cons_cons (a b : α) (l : List α) :
    (a :: b :: l).eraseReps = if a = b then (b :: l).eraseReps else a :: (b :: l).eraseReps := by
  rw [List.eraseReps, List.eraseReps, List.eraseRepsBy, List.eraseRepsBy, List.eraseRepsBy.loop]
  by_cases h : a = b
  · simp [h]
  · rw [if_neg h, beq_false_of_ne h]
    exact eraseRepsBy_loop_eq _ b l [a]

/-- The elements are the same without repetitions. -/
theorem mem_eraseReps_iff {l : List α} {x : α} : x ∈ l.eraseReps ↔ x ∈ l := by
  induction l with
  | nil => rfl
  | cons a l ih =>
    cases l with
    | nil => rfl
    | cons b l =>
      rw [eraseReps_cons_cons]
      by_cases h : a = b
      · rw [if_pos h, ih, h, List.mem_cons (b := b)]
        simp
      · rw [if_neg h, List.mem_cons, ih, List.mem_cons (b := a)]

end EraseReps

/-- Without repetitions sorted units stand in strict order. -/
theorem TimeUnit.pairwise_eraseReps {units : List TimeUnit}
    (h : units.Pairwise fun unit other => unit.index ≤ other.index) :
    units.eraseReps.Pairwise fun unit other => unit.index < other.index := by
  induction units with
  | nil => exact .nil
  | cons unit rest ih =>
    obtain ⟨hunit, hrest⟩ := List.pairwise_cons.mp h
    cases rest with
    | nil => exact List.pairwise_singleton _ _
    | cons next rest =>
      rw [eraseReps_cons_cons]
      by_cases heq : unit = next
      · rw [if_pos heq]
        exact ih hrest
      · rw [if_neg heq, List.pairwise_cons]
        refine ⟨?_, ih hrest⟩
        intro other hother
        have hlt : unit.index < next.index :=
          Nat.lt_of_le_of_ne (hunit next List.mem_cons_self) (mt eq_of_index_eq heq)
        rcases List.mem_cons.mp (mem_eraseReps_iff.mp hother) with rfl | hmem
        · exact hlt
        · exact Nat.lt_of_lt_of_le hlt ((List.pairwise_cons.mp hrest).1 other hmem)

/-- **To sort units and to drop repetitions is to put them in order.** -/
theorem TimeUnit.eraseReps_sort (units : List TimeUnit) :
    (sort units).eraseReps = inOrder units := by
  apply Descending.ext _ (descending_inOrder units)
  · intro unit
    rw [mem_eraseReps_iff, mem_sort_iff, mem_inOrder_iff]
  · refine List.Pairwise.imp ?_ (pairwise_eraseReps (pairwise_sort units))
    exact fun hlt => index_lt_iff.mp hlt

/-! ## Shifts -/

namespace Duration

variable {α : Type} [Magnitude α]

/-- A number of milliseconds spread over units, the largest first. -/
def spread (millis : α) : List TimeUnit → Duration α
  | [] => zero
  | [unit] => zero.set unit (millis / unit.length)
  | unit :: smaller =>
    let whole := Magnitude.truncate (millis / unit.length)
    (spread (millis - whole * unit.length) smaller).set unit whole

/-- A unit that is not asked for has no amount. -/
theorem amount_spread_of_notMem (millis : α) {units : List TimeUnit} {unit : TimeUnit}
    (hunit : unit ∉ units) : (spread millis units).amount unit = Magnitude.ofInt 0 := by
  induction units generalizing millis with
  | nil => rfl
  | cons first smaller ih =>
    obtain ⟨hne, hrest⟩ := not_or.mp (mt List.mem_cons.mpr hunit)
    cases smaller with
    | nil => exact amount_set_of_ne _ _ hne
    | cons next smaller => exact (amount_set_of_ne _ _ hne).trans (ih _ hrest)

/-- With smaller units to follow, a unit takes a whole amount. -/
theorem spread_cons (millis : α) (unit : TimeUnit) {smaller : List TimeUnit} (hne : smaller ≠ []) :
    spread millis (unit :: smaller) =
      (spread (millis - Magnitude.truncate (millis / unit.length) * unit.length) smaller).set unit
        (Magnitude.truncate (millis / unit.length)) := by
  obtain ⟨next, rest, rfl⟩ := List.exists_cons_of_ne_nil hne
  rfl

/-- A unit that takes nothing has the amount it had. -/
theorem amount_takeRest_of_notMem (s : Shift α) {larger : List TimeUnit} {smallest unit : TimeUnit}
    (hunit : unit ∉ larger ++ [smallest]) :
    ((larger.foldl Shift.takeWhole s).takeRest smallest).amount unit = s.shifted.amount unit := by
  induction larger generalizing s with
  | nil => exact amount_set_of_ne _ _ (mt List.mem_singleton.mpr hunit)
  | cons first larger ih =>
    rw [List.cons_append, List.mem_cons, not_or] at hunit
    rw [List.foldl_cons, ih (s.takeWhole first) hunit.2]
    exact amount_set_of_ne _ _ hunit.1

/-- **One unit after the other takes its amount of what remains**, and what they come to have is
spread over them. -/
theorem amount_takeRest_of_mem (s : Shift α) {larger : List TimeUnit} {smallest unit : TimeUnit}
    (hnodup : (larger ++ [smallest]).Nodup) (hunit : unit ∈ larger ++ [smallest]) :
    ((larger.foldl Shift.takeWhole s).takeRest smallest).amount unit =
      (spread s.remaining (larger ++ [smallest])).amount unit := by
  induction larger generalizing s with
  | nil =>
    rw [List.mem_singleton.mp hunit]
    exact (amount_set_self _ _ _).trans (amount_set_self _ _ _).symm
  | cons first larger ih =>
    rw [List.cons_append, List.nodup_cons] at hnodup
    rw [List.foldl_cons, List.cons_append,
      spread_cons _ _ (List.append_ne_nil_of_right_ne_nil _ (List.cons_ne_nil _ _))]
    by_cases heq : unit = first
    · rw [heq, amount_takeRest_of_notMem _ hnodup.1]
      exact (amount_set_self _ _ _).trans (amount_set_self _ _ _).symm
    · rw [ih _ hnodup.2 ((List.mem_cons.mp hunit).resolve_left heq), amount_set_of_ne _ _ heq]
      rfl

variable (d : Duration α) {units units' : List TimeUnit}

/-- A shift to at least one unit spreads all there is over the units, the larger ones first. -/
theorem shiftTo_eq_spread (hne : units ≠ []) :
    d.shiftTo units = spread d.asMillis (TimeUnit.inOrder units) := by
  have hwanted := TimeUnit.inOrder_ne_nil hne
  have hsplit := List.dropLast_append_getLast hwanted
  have hnodup := (TimeUnit.descending_inOrder units).nodup
  rw [← hsplit] at hnodup
  simp only [shiftTo, TimeUnit.eraseReps_sort, List.getLast?_eq_some_getLast hwanted]
  ext unit
  by_cases hunit : unit ∈ TimeUnit.inOrder units
  · rw [amount_takeRest_of_mem _ hnodup (by rwa [hsplit]), hsplit]
  · rw [amount_takeRest_of_notMem _ (by rwa [hsplit]), amount_spread_of_notMem _ hunit]
    rfl

/-- **A shift depends on the set of the units.** -/
theorem shiftTo_congr (hmem : ∀ unit, unit ∈ units ↔ unit ∈ units') :
    d.shiftTo units = d.shiftTo units' := by
  rw [shiftTo, shiftTo, TimeUnit.eraseReps_sort, TimeUnit.eraseReps_sort,
    TimeUnit.inOrder_congr hmem]

/-- After a shift no other unit has an amount. -/
theorem amount_shiftTo_of_notMem (hne : units ≠ []) {unit : TimeUnit} (hunit : unit ∉ units) :
    (d.shiftTo units).amount unit = Magnitude.ofInt 0 := by
  rw [d.shiftTo_eq_spread hne]
  exact amount_spread_of_notMem _ (mt TimeUnit.mem_inOrder_iff.mp hunit)

end Duration

end TemporalFormat
