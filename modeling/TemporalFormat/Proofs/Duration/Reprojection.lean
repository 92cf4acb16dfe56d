import Mathlib.Algebra.BigOperators.Ring.Finset
import Mathlib.Data.Sign.Basic
import Mathlib.Tactic.Linarith
import TemporalFormat.Proofs.Duration.Remainder

/-!
# Shifted durations

A shift to some units says the same length in these units: `Duration.IsReprojection` lists what
holds of the amounts, and `Duration.shiftTo_characterized` says that the shifted duration is the
only one of which all of it holds. That the length is kept makes it irrelevant to which units a
duration was shifted before. Units are compared by their lengths alone, so nothing depends on
whether a unit is a whole number of smaller ones.
-/

set_option autoImplicit false

namespace TemporalFormat

/-! ## Signs -/

/-- A value has the sign of another one, unless it is zero. -/
def HasSignOf (total value : ℚ) : Prop :=
  value ≠ 0 → SignType.sign value = SignType.sign total

namespace HasSignOf

variable {total value other : ℚ}

/-- Zero has no sign that could differ. -/
theorem zero (total : ℚ) : HasSignOf total 0 := fun h => absurd rfl h

/-- A value has the sign of another one when it is on the same side of zero. -/
theorem of_imp (hpos : 0 ≤ total → 0 ≤ value) (hneg : total ≤ 0 → value ≤ 0) :
    HasSignOf total value := by
  intro hvalue
  rcases lt_trichotomy total 0 with hlt | rfl | hgt
  · rw [sign_neg hlt, sign_neg ((hneg hlt.le).lt_of_ne hvalue)]
  · exact absurd (le_antisymm (hneg le_rfl) (hpos le_rfl)) hvalue
  · rw [sign_pos hgt, sign_pos ((hpos hgt.le).lt_of_ne hvalue.symm)]

/-- To have the sign of a value that has the sign of another one is to have the sign of the other
one. -/
theorem trans (h : HasSignOf total value) (h' : HasSignOf value other) : HasSignOf total other := by
  intro hother
  have hsign := h' hother
  have hvalue : value ≠ 0 := by
    rintro rfl
    rw [sign_zero, sign_eq_zero_iff] at hsign
    exact hother hsign
  rw [hsign, h hvalue]

/-- Two values of one sign have a product that is not negative. -/
theorem mul_nonneg (h : HasSignOf total value) (h' : HasSignOf total other) :
    0 ≤ value * other := by
  by_cases hvalue : value = 0
  · rw [hvalue, zero_mul]
  · by_cases hother : other = 0
    · rw [hother, mul_zero]
    · have hsign := (h hvalue).trans (h' hother).symm
      rw [← sign_nonneg_iff, sign_mul, hsign]
      cases SignType.sign other <;> decide

/-- A positive factor keeps the sign. -/
theorem mul_of_pos {factor : ℚ} (hfactor : 0 < factor) (h : HasSignOf total value) :
    HasSignOf total (value * factor) := by
  refine h.trans (of_imp ?_ ?_)
  · exact fun hvalue => Rat.mul_nonneg hvalue hfactor.le
  · exact fun hvalue => mul_nonpos_of_nonpos_of_nonneg hvalue hfactor.le

end HasSignOf

/-- Truncation keeps what is not negative so. -/
theorem truncate_nonneg {q : ℚ} (h : 0 ≤ q) : 0 ≤ Magnitude.truncate q := by
  rw [truncate_eq]
  exact_mod_cast Int.tdiv_nonneg (Rat.num_nonneg.mpr h) (Int.natCast_nonneg _)

/-- Truncation keeps what is not positive so. -/
theorem truncate_nonpos {q : ℚ} (h : q ≤ 0) : Magnitude.truncate q ≤ 0 := by
  have hneg : (0 : ℤ) ≤ (-q.num).tdiv q.den :=
    Int.tdiv_nonneg (neg_nonneg.mpr (Rat.num_nonpos.mpr h)) (Int.natCast_nonneg _)
  rw [Int.neg_tdiv, neg_nonneg] at hneg
  rw [truncate_eq]
  exact_mod_cast hneg

/-- A truncated value has the sign of the whole. -/
theorem hasSignOf_truncate (q : ℚ) : HasSignOf q (Magnitude.truncate q) :=
  .of_imp truncate_nonneg truncate_nonpos

/-- What truncation takes away has the sign of the whole. -/
theorem hasSignOf_sub_truncate (q : ℚ) : HasSignOf q (q - Magnitude.truncate q) := by
  have hle := abs_truncate_le q
  refine .of_imp ?_ ?_
  · intro hq
    rw [abs_of_nonneg hq, abs_of_nonneg (truncate_nonneg hq)] at hle
    exact sub_nonneg.mpr hle
  · intro hq
    rw [abs_of_nonpos hq, abs_of_nonpos (truncate_nonpos hq), neg_le_neg_iff] at hle
    exact sub_nonpos.mpr hle

/-! ## What smaller units hold -/

/-- Whole numbers of a unit are equal when they differ by less than the unit. -/
theorem eq_of_rest_lt {length rest rest' : ℚ} {whole whole' : ℤ}
    (hrest : |rest| < length) (hrest' : |rest'| < length) (hsign : 0 ≤ rest * rest')
    (heq : whole * length + rest = whole' * length + rest') : whole = whole' := by
  rw [abs_lt] at hrest hrest'
  have hlength : 0 < length := by linarith
  have hsub : ((whole - whole' : ℤ) : ℚ) * length = rest' - rest := by
    push_cast
    linarith
  -- rests on the same side of zero are less than one unit apart
  have hnear : |((whole - whole' : ℤ) : ℚ) * length| < 1 * length := by
    rw [hsub, abs_lt]
    rcases mul_nonneg_iff.mp hsign with ⟨h, h'⟩ | ⟨h, h'⟩ <;> constructor <;> linarith
  rw [abs_mul, abs_of_pos hlength, mul_lt_mul_iff_of_pos_right hlength] at hnear
  have hone : |whole - whole'| < 1 := by exact_mod_cast hnear
  exact sub_eq_zero.mp (Int.abs_lt_one_iff.mp hone)

/-- The units of a list that are smaller than a given one. -/
def below (units : List TimeUnit) (unit : TimeUnit) : Finset TimeUnit :=
  units.toFinset.filter fun smaller => smaller.millis < unit.millis

/-- The smaller units of a list belong to the list. -/
theorem below_subset (units : List TimeUnit) (unit : TimeUnit) :
    below units unit ⊆ units.toFinset :=
  Finset.filter_subset _ _

section Below

variable {first unit : TimeUnit} {smaller : List TimeUnit} (h : Descending (first :: smaller))

include h

/-- The first unit is not among the smaller ones. -/
theorem notMem_smaller : first ∉ smaller := fun hmem =>
  lt_irrefl _ ((List.pairwise_cons.mp h).1 first hmem)

/-- Below the first unit are all the others. -/
theorem below_first : below (first :: smaller) first = smaller.toFinset := by
  ext unit
  simp only [below, Finset.mem_filter, List.mem_toFinset, List.mem_cons]
  constructor
  · rintro ⟨rfl | hmem, hlt⟩
    · exact absurd hlt (lt_irrefl _)
    · exact hmem
  · exact fun hmem => ⟨.inr hmem, (List.pairwise_cons.mp h).1 unit hmem⟩

/-- The first unit is below no other. -/
theorem below_of_mem (hunit : unit ∈ smaller) :
    below (first :: smaller) unit = below smaller unit := by
  have hfirst := (List.pairwise_cons.mp h).1 unit hunit
  rw [below, List.toFinset_cons, Finset.filter_insert, if_neg hfirst.asymm]
  rfl

end Below

namespace Duration

/-- The length of the amounts of some units, in milliseconds. -/
def lengthOver (d : Duration ℚ) (units : Finset TimeUnit) : ℚ :=
  ∑ unit ∈ units, d.amount unit * unit.millis

/-- The length over some units depends on their amounts only. -/
theorem lengthOver_congr {d e : Duration ℚ} {units : Finset TimeUnit}
    (h : ∀ unit ∈ units, d.amount unit = e.amount unit) :
    d.lengthOver units = e.lengthOver units :=
  Finset.sum_congr rfl fun unit hunit => by rw [h unit hunit]

/-- The length over all units of a list is that of the first one and that of the others. -/
theorem lengthOver_cons (d : Duration ℚ) {first : TimeUnit} {smaller : List TimeUnit}
    (h : Descending (first :: smaller)) :
    d.lengthOver (first :: smaller).toFinset =
      d.amount first * first.millis + d.lengthOver smaller.toFinset := by
  rw [lengthOver, List.toFinset_cons,
    Finset.sum_insert (mt List.mem_toFinset.mp (notMem_smaller h))]
  rfl

/-- The length of a duration is its length over all units. -/
theorem asMillis_eq_lengthOver_all (d : Duration ℚ) :
    d.asMillis = d.lengthOver TimeUnit.all.toFinset := by
  have hnodup : TimeUnit.all.Nodup := by decide
  rw [lengthOver, List.sum_toFinset _ hnodup]
  simp only [asMillis, lengths, TimeUnit.all, List.map_cons, List.map_nil, List.foldl_cons,
    List.foldl_nil, List.sum_cons, List.sum_nil, add_zero, ← add_assoc]
  rfl

/-- A duration is as long as the amounts of the units that it has. -/
theorem asMillis_eq_lengthOver {d : Duration ℚ} {units : List TimeUnit}
    (h : ∀ unit, unit ∉ units → d.amount unit = 0) :
    d.asMillis = d.lengthOver units.toFinset := by
  rw [asMillis_eq_lengthOver_all, lengthOver, lengthOver]
  symm
  apply Finset.sum_subset
  · intro unit _
    cases unit <;> decide
  · intro unit _ hunit
    rw [h unit (mt List.mem_toFinset.mpr hunit), zero_mul]

/-! ## Amounts that are spread -/

/-- The smaller units hold what the first one leaves over. -/
theorem lengthOver_spread_of_subset (millis : ℚ) {first : TimeUnit} {smaller : List TimeUnit}
    {units : Finset TimeUnit} (h : Descending (first :: smaller))
    (hunits : units ⊆ smaller.toFinset) :
    (spread millis (first :: smaller)).lengthOver units =
      (spread (remainder millis first) smaller).lengthOver units :=
  lengthOver_congr fun _ hunit =>
    amount_spread_of_mem millis h (List.mem_toFinset.mp (hunits hunit))

/-- The amounts are as long together as what is spread. -/
theorem lengthOver_spread (millis : ℚ) {units : List TimeUnit} (h : Descending units)
    (hne : units ≠ []) : (spread millis units).lengthOver units.toFinset = millis := by
  induction units generalizing millis with
  | nil => exact absurd rfl hne
  | cons first smaller ih =>
    rw [lengthOver_cons _ h]
    cases smaller with
    | nil =>
      have hamount : (spread millis [first]).amount first = millis / first.millis :=
        amount_set_self _ _ _
      rw [hamount, div_mul_cancel₀ _ first.millis_pos.ne', List.toFinset_nil, lengthOver,
        Finset.sum_empty, add_zero]
    | cons next smaller =>
      have hamount : (spread millis (first :: next :: smaller)).amount first =
          Magnitude.truncate (millis / first.millis) := amount_set_self _ _ _
      rw [hamount, lengthOver_spread_of_subset millis h subset_rfl,
        ih _ (List.pairwise_cons.mp h).2 (List.cons_ne_nil _ _), remainder, add_sub_cancel]

/-- An amount has the sign of the milliseconds that it counts. -/
theorem hasSignOf_div_millis (millis : ℚ) (unit : TimeUnit) :
    HasSignOf millis (millis / unit.millis) :=
  .of_imp (fun h => div_nonneg h unit.millis_pos.le)
    (fun h => div_nonpos_of_nonpos_of_nonneg h unit.millis_pos.le)

/-- What is left has the sign of what there was. -/
theorem hasSignOf_remainder (millis : ℚ) (unit : TimeUnit) :
    HasSignOf millis (remainder millis unit) := by
  rw [remainder_eq]
  exact ((hasSignOf_div_millis millis unit).trans (hasSignOf_sub_truncate _)).mul_of_pos
    unit.millis_pos

/-- Each amount has the sign of what is spread. -/
theorem hasSignOf_amount_spread (millis : ℚ) {units : List TimeUnit} (h : Descending units)
    (unit : TimeUnit) : HasSignOf millis ((spread millis units).amount unit) := by
  by_cases hunit : unit ∈ units
  · induction units generalizing millis with
    | nil => cases hunit
    | cons first smaller ih =>
      rcases List.mem_cons.mp hunit with rfl | hmem
      · have hquotient := hasSignOf_div_millis millis unit
        obtain ⟨-, hamount⟩ | hamount := amount_spread_first millis unit smaller
        · rw [hamount]
          exact hquotient
        · rw [hamount]
          exact hquotient.trans (hasSignOf_truncate _)
      · rw [amount_spread_of_mem millis h hmem]
        exact (hasSignOf_remainder millis first).trans (ih _ (List.pairwise_cons.mp h).2 hmem)
  · rw [amount_spread_of_notMem millis hunit]
    exact .zero millis

/-- The units below a unit hold less than the unit together. -/
theorem abs_lengthOver_below_lt (millis : ℚ) {units : List TimeUnit} (h : Descending units)
    {unit : TimeUnit} (hunit : unit ∈ units) :
    |(spread millis units).lengthOver (below units unit)| < unit.millis := by
  induction units generalizing millis with
  | nil => cases hunit
  | cons first smaller ih =>
    have hsmaller := (List.pairwise_cons.mp h).2
    rcases List.mem_cons.mp hunit with rfl | hmem
    · rw [below_first h, lengthOver_spread_of_subset millis h subset_rfl]
      cases smaller with
      | nil =>
        rw [List.toFinset_nil, lengthOver, Finset.sum_empty, abs_zero]
        exact unit.millis_pos
      | cons next smaller =>
        rw [lengthOver_spread _ hsmaller (List.cons_ne_nil _ _)]
        exact abs_remainder_lt millis unit
    · rw [below_of_mem h hmem,
        lengthOver_spread_of_subset millis h (below_subset smaller unit)]
      exact ih _ hsmaller hmem

/-! ## Carried amounts -/

/-- All amounts but that of the smallest unit are whole, and the units below a unit hold less than
the unit. -/
structure Carried (d : Duration ℚ) (units : List TimeUnit) : Prop where
  whole : ∀ unit ∈ units, ∀ smaller ∈ units, smaller.millis < unit.millis →
    ∃ whole : ℤ, d.amount unit = whole
  below_lt : ∀ unit ∈ units, |d.lengthOver (below units unit)| < unit.millis

/-- What is spread over units is carried. -/
theorem carried_spread (millis : ℚ) {units : List TimeUnit} (h : Descending units) :
    Carried (spread millis units) units where
  whole _ hunit _ hsmaller hlt := amount_spread_whole millis h hunit hsmaller hlt
  below_lt _ hunit := abs_lengthOver_below_lt millis h hunit

namespace Carried

variable {d e : Duration ℚ} {units : List TimeUnit}

/-- Neither the order of the units nor repetitions among them matter. -/
theorem congr {units' : List TimeUnit} (hmem : ∀ unit, unit ∈ units ↔ unit ∈ units')
    (h : Carried d units) : Carried d units' := by
  have hbelow : ∀ unit, below units' unit = below units unit := by
    intro unit
    rw [below, below, List.toFinset.ext fun other => (hmem other).symm]
  refine ⟨?_, ?_⟩
  · intro unit hunit smaller hsmaller hlt
    exact h.whole unit ((hmem unit).mpr hunit) smaller ((hmem smaller).mpr hsmaller) hlt
  · intro unit hunit
    rw [hbelow]
    exact h.below_lt unit ((hmem unit).mpr hunit)

/-- Without the first unit a carried duration is carried. -/
theorem tail {first : TimeUnit} {smaller : List TimeUnit} (hdesc : Descending (first :: smaller))
    (h : Carried d (first :: smaller)) : Carried d smaller := by
  refine ⟨?_, ?_⟩
  · intro unit hunit other hother hlt
    exact h.whole unit (List.mem_cons_of_mem _ hunit) other (List.mem_cons_of_mem _ hother) hlt
  · intro unit hunit
    rw [← below_of_mem hdesc hunit]
    exact h.below_lt unit (List.mem_cons_of_mem _ hunit)

/-- Durations whose amounts are carried are told apart by their lengths, if the signs agree. -/
theorem amount_eq (hdesc : Descending units) (hd : Carried d units) (he : Carried e units)
    (hsign : ∀ unit ∈ units, ∀ other ∈ units, 0 ≤ d.amount unit * e.amount other)
    (hlength : d.lengthOver units.toFinset = e.lengthOver units.toFinset) :
    ∀ unit ∈ units, d.amount unit = e.amount unit := by
  induction units with
  | nil =>
    intro unit hunit
    cases hunit
  | cons first smaller ih =>
    have hpos := first.millis_pos
    have hrest := hd.below_lt first List.mem_cons_self
    have hrest' := he.below_lt first List.mem_cons_self
    rw [below_first hdesc] at hrest hrest'
    rw [lengthOver_cons _ hdesc, lengthOver_cons _ hdesc] at hlength
    -- less than one of the first unit is left for the others, and on the same side of zero
    have hfirst : d.amount first = e.amount first := by
      cases smaller with
      | nil =>
        rw [List.toFinset_nil, lengthOver, lengthOver, Finset.sum_empty, Finset.sum_empty,
          add_zero, add_zero] at hlength
        exact mul_right_cancel₀ hpos.ne' hlength
      | cons next smaller =>
        have hnext : next ∈ first :: next :: smaller := List.mem_cons_of_mem _ List.mem_cons_self
        have hlt := (List.pairwise_cons.mp hdesc).1 next List.mem_cons_self
        obtain ⟨whole, hwhole⟩ := hd.whole first List.mem_cons_self next hnext hlt
        obtain ⟨whole', hwhole'⟩ := he.whole first List.mem_cons_self next hnext hlt
        have hproduct : 0 ≤ d.lengthOver (next :: smaller).toFinset *
            e.lengthOver (next :: smaller).toFinset := by
          rw [lengthOver, lengthOver, Finset.sum_mul_sum]
          refine Finset.sum_nonneg fun unit hunit => Finset.sum_nonneg fun other hother => ?_
          rw [mul_mul_mul_comm]
          exact mul_nonneg
            (hsign unit (List.mem_cons_of_mem _ (List.mem_toFinset.mp hunit)) other
              (List.mem_cons_of_mem _ (List.mem_toFinset.mp hother)))
            (mul_nonneg unit.millis_pos.le other.millis_pos.le)
        rw [hwhole, hwhole'] at hlength ⊢
        rw [eq_of_rest_lt hrest hrest' hproduct hlength]
    rw [hfirst, add_right_inj] at hlength
    have hsmaller := ih (List.pairwise_cons.mp hdesc).2 (hd.tail hdesc) (he.tail hdesc)
      (fun unit hunit other hother =>
        hsign unit (List.mem_cons_of_mem _ hunit) other (List.mem_cons_of_mem _ hother)) hlength
    intro unit hunit
    rcases List.mem_cons.mp hunit with rfl | hmem
    · exact hfirst
    · exact hsmaller unit hmem

end Carried

/-! ## Reprojections -/

/-- A duration is another one in some units only: it is as long, other units have no amount, the
amounts are carried, and they have the sign of the whole. -/
structure IsReprojection (d : Duration ℚ) (units : List TimeUnit) (e : Duration ℚ) : Prop
    extends Carried e units where
  asMillis_eq : e.asMillis = d.asMillis
  absent : ∀ unit, unit ∉ units → e.amount unit = 0
  sign : ∀ unit, e.amount unit ≠ 0 → SignType.sign (e.amount unit) = SignType.sign d.asMillis

variable {d e e' : Duration ℚ} {units : List TimeUnit}

/-- A shifted duration is a reprojection. -/
theorem isReprojection_shiftTo (d : Duration ℚ) (hne : units ≠ []) :
    d.IsReprojection units (d.shiftTo units) := by
  have hdesc := TimeUnit.descending_inOrder units
  have habsent : ∀ unit, unit ∉ TimeUnit.inOrder units →
      (spread d.asMillis (TimeUnit.inOrder units)).amount unit = 0 :=
    fun unit hunit => amount_spread_of_notMem _ hunit
  rw [d.shiftTo_eq_spread hne]
  refine { (carried_spread d.asMillis hdesc).congr fun unit => TimeUnit.mem_inOrder_iff with
    asMillis_eq := ?_
    absent := fun unit hunit => habsent unit (mt TimeUnit.mem_inOrder_iff.mp hunit)
    sign := hasSignOf_amount_spread d.asMillis hdesc }
  rw [asMillis_eq_lengthOver habsent, lengthOver_spread _ hdesc (TimeUnit.inOrder_ne_nil hne)]

/-- There is only one reprojection. -/
theorem IsReprojection.unique (h : d.IsReprojection units e) (h' : d.IsReprojection units e') :
    e = e' := by
  have hmem : ∀ unit, unit ∈ units ↔ unit ∈ TimeUnit.inOrder units :=
    fun unit => TimeUnit.mem_inOrder_iff.symm
  have hlength : e.lengthOver (TimeUnit.inOrder units).toFinset =
      e'.lengthOver (TimeUnit.inOrder units).toFinset := by
    rw [← List.toFinset.ext hmem, ← asMillis_eq_lengthOver h.absent,
      ← asMillis_eq_lengthOver h'.absent, h.asMillis_eq, h'.asMillis_eq]
  have hwanted : ∀ unit ∈ TimeUnit.inOrder units, e.amount unit = e'.amount unit :=
    (h.toCarried.congr hmem).amount_eq (TimeUnit.descending_inOrder units) (h'.toCarried.congr hmem)
      (fun unit _ other _ => HasSignOf.mul_nonneg (h.sign unit) (h'.sign other)) hlength
  have hamount : e.amount = e'.amount := by
    funext unit
    by_cases hunit : unit ∈ units
    · exact hwanted unit ((hmem unit).mp hunit)
    · rw [h.absent unit hunit, h'.absent unit hunit]
  obtain ⟨amount⟩ := e
  obtain ⟨amount'⟩ := e'
  exact congrArg Duration.mk hamount

/-- A shift keeps the length. -/
theorem asMillis_shiftTo (d : Duration ℚ) (units : List TimeUnit) :
    (d.shiftTo units).asMillis = d.asMillis := by
  by_cases hne : units = []
  · rw [hne]
    rfl
  · exact (d.isReprojection_shiftTo hne).asMillis_eq

/-- Durations of the same length have the same reprojections. -/
theorem IsReprojection.congr (hlength : d.asMillis = e'.asMillis) (h : d.IsReprojection units e) :
    e'.IsReprojection units e :=
  { h.toCarried with
    asMillis_eq := h.asMillis_eq.trans hlength
    absent := h.absent
    sign := hlength ▸ h.sign }

/-- What a duration was shifted to before does not matter. -/
theorem shiftTo_shiftTo (d : Duration ℚ) (before : List TimeUnit) (hne : units ≠ []) :
    (d.shiftTo before).shiftTo units = d.shiftTo units := by
  have hlength := d.asMillis_shiftTo before
  exact (((d.shiftTo before).isReprojection_shiftTo hne).congr hlength).unique
    (d.isReprojection_shiftTo hne)

/-- To shift a duration again changes nothing. -/
theorem shiftTo_self (d : Duration ℚ) (units : List TimeUnit) :
    (d.shiftTo units).shiftTo units = d.shiftTo units := by
  by_cases hne : units = []
  · rw [hne]
    rfl
  · exact d.shiftTo_shiftTo units hne

/-- **A shift says the same length in other units**, in the only way in which all amounts but the
smallest are whole, no smaller units hold as much as a larger one, and no amount has the wrong sign.
It follows that it does not matter what a duration was shifted to before, and that to shift it again
changes nothing. -/
theorem shiftTo_characterized (d : Duration ℚ) {units : List TimeUnit} (hne : units ≠ []) :
    (∀ e, d.IsReprojection units e ↔ e = d.shiftTo units) ∧
    (∀ before, (d.shiftTo before).shiftTo units = d.shiftTo units) ∧
    (∀ again, (d.shiftTo again).shiftTo again = d.shiftTo again) := by
  refine ⟨?_, fun before => d.shiftTo_shiftTo before hne, d.shiftTo_self⟩
  intro e
  constructor
  · exact fun h => h.unique (d.isReprojection_shiftTo hne)
  · rintro rfl
    exact d.isReprojection_shiftTo hne

/-- Eight hundred days and a half ago are two years, two months and ten days and a half ago, although
no number of months makes up a year. -/
theorem shiftTo_characterized_days :
    let d : Duration ℚ := zero.set .day (-1601 / 2)
    let units : List TimeUnit := [.day, .month, .year, .month]
    units ≠ [] ∧ d.IsReprojection units
        (((zero.set .year (-2)).set .month (-2)).set .day (-21 / 2)) ∧
      (d.shiftTo [.hour, .second]).shiftTo units = d.shiftTo units := by
  intro d units
  have hne : units ≠ [] := List.cons_ne_nil _ _
  obtain ⟨hunique, hbefore, -⟩ := d.shiftTo_characterized hne
  refine ⟨hne, (hunique _).mpr ?_, hbefore _⟩
  refine congrArg Duration.mk (funext fun unit => ?_)
  cases unit <;> decide +kernel

end Duration

end TemporalFormat
