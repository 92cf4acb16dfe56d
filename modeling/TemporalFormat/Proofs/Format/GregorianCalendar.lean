import TemporalFormat.Moment.DateTime
import TemporalFormat.Proofs.Format.Likeness
import TemporalFormat.Proofs.Format.Composition
import TemporalFormat.Proofs.Numeral.Decoding

/-!
# The Gregorian calendar as an output calendar

Dates are kept in the Gregorian calendar, so its choice as the output calendar leaves every date as
it is. But numbers of a date are then written by the locale, and of the seven tokens that stand for
such numbers one is written in another way: the locale pads no year, so that `yyyy` says what `y`
says (`Formatter.resolve_gregory`). Where this makes a difference is the subject of
`Formatter.gregorian_calendar_outputs`.
-/

set_option autoImplicit false

namespace TemporalFormat

/-- The directive of `yyyy`. -/
def Directive.fourDigitYear : Directive :=
  .dated .year 4 .year { year := some .numeric }

namespace Directive

/-- The directives for dated numbers are listed in the table. -/
theorem filter_isDated_table :
    table.filter (fun entry => entry.2.isDated) =
      [("d", .dated .day 0 .day { day := some .numeric }),
        ("dd", .dated .day 2 .day { day := some .twoDigit }),
        ("M", .dated .month 0 .month { month := some (.number .numeric) }),
        ("MM", .dated .month 2 .month { month := some (.number .twoDigit) }),
        ("y", .dated .year 0 .year { year := some .numeric }),
        ("yy", .dated .yearTwoDigit 2 .year { year := some .twoDigit }),
        ("yyyy", fourDigitYear)] := rfl

/-- A token that has a directive stands with it in the table. -/
theorem mem_table {token : String} {d : Directive} (h : ofToken? token = some d) :
    (token, d) ∈ table := by
  obtain ⟨before, after, htable, -⟩ := List.lookup_eq_some_iff.mp h
  rw [htable]
  exact List.mem_append_right before List.mem_cons_self

/-- A dated number other than `yyyy` is a field of the locale, whether or not an output calendar is
chosen. -/
theorem isDated_cases {token : String} {d : Directive} (h : ofToken? token = some d)
    (hdated : d.isDated = true) :
    token = "yyyy" ∧ d = fourDigitYear ∨
      ∃ skeleton field, ∀ (f : Formatter) (m : Moment),
        f.applyDirective m d = f.locale.fieldText m skeleton field := by
  have hmem : (token, d) ∈ table.filter (fun entry => entry.2.isDated) :=
    List.mem_filter.mpr ⟨mem_table h, hdated⟩
  rw [filter_isDated_table] at hmem
  simp only [List.mem_cons, List.not_mem_nil, or_false, Prod.mk.injEq] at hmem
  rcases hmem with ⟨-, rfl⟩ | ⟨-, rfl⟩ | ⟨-, rfl⟩ | ⟨-, rfl⟩ | ⟨-, rfl⟩ | ⟨-, rfl⟩ | hyear
  · exact .inr ⟨_, _, fun f m => f.applyDirective_day m .numeric⟩
  · exact .inr ⟨_, _, fun f m => f.applyDirective_day m .twoDigit⟩
  · exact .inr ⟨_, _, fun f m => f.applyDirective_month m .numeric⟩
  · exact .inr ⟨_, _, fun f m => f.applyDirective_month m .twoDigit⟩
  · exact .inr ⟨_, _, fun f m => f.applyDirective_year m⟩
  · exact .inr ⟨_, _, fun f m => f.applyDirective_twoDigitYear m⟩
  · exact .inl hyear

end Directive

/-- The formatter with an output calendar or without one. -/
def Formatter.withCalendar (f : Formatter) (choice : Option Calendar) : Formatter :=
  { f with locale := { f.locale with outputCalendar := choice } }

namespace Formatter

variable (f : Formatter) (m : Moment)

/-! ## Tokens -/

/-- The Gregorian calendar changes nothing but dated numbers. -/
theorem alike_gregory {R : String → String → Prop} (hR : TextCongruence R) :
    Alike R (f.withCalendar (some .gregory)) (f.withCalendar none) where
  locale :=
    { data_eq := rfl
      calendar_eq := rfl
      formatNumber := fun _ _ => hR.refl _ }
  formatOffset _ _ _ _ := hR.refl _
  strict_eq := rfl

/-- In the Gregorian calendar the year is not filled up to four digits. -/
theorem fourDigitYear_gregory :
    (f.withCalendar (some .gregory)).applyDirective m .fourDigitYear =
      pure (f.formatNumber 0 m.date.year) := rfl

/-- Without an output calendar the year is filled up to four digits. -/
theorem fourDigitYear_none :
    (f.withCalendar none).applyDirective m .fourDigitYear =
      pure (f.formatNumber 4 m.date.year) := rfl

/-- The calendar makes no more difference to a token than padding makes to the year. -/
theorem agree_resolve_gregory {R : String → String → Prop} (hR : TextCongruence R) {token : String}
    (hyear : token = "yyyy" → R (f.formatNumber 0 m.date.year) (f.formatNumber 4 m.date.year)) :
    Agree R ((f.withCalendar (some .gregory)).resolve m token)
      ((f.withCalendar none).resolve m token) := by
  have halike := f.alike_gregory hR
  refine halike.resolve hR m ?_
  intro d hd hdated
  rcases Directive.isDated_cases hd hdated with ⟨htoken, rfl⟩ | ⟨skeleton, field, hfield⟩
  · rw [fourDigitYear_gregory, fourDigitYear_none]
    exact Agree.pure (hyear htoken)
  · rw [hfield, hfield]
    exact halike.locale.fieldText hR m skeleton field

/-- With the calendar `yyyy` says what `y` says without it, and any other token says the same. -/
theorem resolve_gregory (token : String) :
    (f.withCalendar (some .gregory)).resolve m token =
      (f.withCalendar none).resolve m (if token = "yyyy" then "y" else token) := by
  split
  · rename_i htoken
    subst htoken
    rfl
  · rename_i htoken
    exact (f.agree_resolve_gregory m textCongruence_eq fun h => absurd h htoken).eq

/-! ## Padded years -/

/-- Four digits are needed from 1000 on. -/
theorem four_le_length_toDigits_iff (n : Nat) :
    4 ≤ (Nat.toDigits 10 n).length ↔ 1000 ≤ n := by
  have hle : (Nat.toDigits 10 n).length ≤ 3 ↔ n < 1000 :=
    Nat.length_toDigits_le_iff (by decide) (by decide)
  omega

/-- A year of four digits or more is the same with padding and without it. -/
theorem formatNumber_four_of_le {year : Int} (h : 1000 ≤ year.natAbs) :
    f.formatNumber 0 year = f.formatNumber 4 year := by
  have hlength := (four_le_length_toDigits_iff year.natAbs).mpr h
  exact f.locale.numberingSystem.signedNumeral_eq_iff.mpr ⟨rfl, by omega⟩

/-- A number is as long as its digits, or as long as it is asked to be, and its sign. -/
theorem length_formatNumber_eq (minDigits : Nat) (value : Int) :
    (f.formatNumber minDigits value).length =
      (if value < 0 then 1 else 0) + max minDigits (Nat.toDigits 10 value.natAbs).length :=
  f.locale.numberingSystem.length_signedNumeral_eq_add minDigits value

/-- Padding makes a text longer or leaves it as it is. -/
theorem length_formatNumber_zero_le (year : Int) :
    (f.formatNumber 0 year).length ≤ (f.formatNumber 4 year).length := by
  rw [length_formatNumber_eq, length_formatNumber_eq]
  omega

/-- Without filling up, a year of fewer than four digits is shorter. -/
theorem length_formatNumber_zero_lt {year : Int} (h : year.natAbs < 1000) :
    (f.formatNumber 0 year).length < (f.formatNumber 4 year).length := by
  have hlength := four_le_length_toDigits_iff year.natAbs
  rw [length_formatNumber_eq, length_formatNumber_eq]
  omega

/-! ## Patterns -/

/-- Texts of which the first is not longer than the second. -/
def NoLonger (s t : String) : Prop :=
  s.length ≤ t.length

/-- Texts in a row are not longer when none of them is. -/
theorem textCongruence_noLonger : TextCongruence NoLonger where
  refl _ := le_rfl
  append {s t s' t'} h h' := by
    unfold NoLonger at *
    rw [String.length_append, String.length_append]
    omega

/-- No token says more with the calendar than without it. -/
theorem noLonger_resolve_gregory (token : String) :
    Agree NoLonger ((f.withCalendar (some .gregory)).resolve m token)
      ((f.withCalendar none).resolve m token) :=
  f.agree_resolve_gregory m textCongruence_noLonger
    fun _ => f.length_formatNumber_zero_le m.date.year

/-- A pattern whose `yyyy` needs no padding, or that has none, says the same with the calendar and
without it. -/
theorem formatDateTime_gregory_eq {pattern : String}
    (h : 1000 ≤ m.date.year.natAbs ∨
      ∀ t ∈ tokenize pattern, t.literal = false → t.text ≠ "yyyy") :
    (f.withCalendar (some .gregory)).formatDateTime m pattern =
      (f.withCalendar none).formatDateTime m pattern := by
  refine (agree_render textCongruence_eq ?_).eq
  intro t ht hliteral
  refine f.agree_resolve_gregory m textCongruence_eq ?_
  intro htext
  rcases h with hyear | hnone
  · exact f.formatNumber_four_of_le hyear
  · exact absurd htext (hnone t ht hliteral)

/-- A pattern with a `yyyy` that needs padding says less with the calendar than without it. -/
theorem agree_formatDateTime_gregory {pattern : String} (hyear : m.date.year.natAbs < 1000)
    (h : ∃ t ∈ tokenize pattern, t.literal = false ∧ t.text = "yyyy") :
    Agree (fun s t => s.length < t.length)
      ((f.withCalendar (some .gregory)).formatDateTime m pattern)
      ((f.withCalendar none).formatDateTime m pattern) := by
  obtain ⟨u, hmem, hliteral, hu⟩ := h
  refine agree_render_of_exists textCongruence_noLonger ?_ ?_ ?_ ⟨u, hmem, hliteral, ?_⟩
  · intro s t s' t' hlt hle
    unfold NoLonger at hle
    rw [String.length_append, String.length_append]
    omega
  · intro s t s' t' hle hlt
    unfold NoLonger at hle
    rw [String.length_append, String.length_append]
    omega
  · intro t _ _
    exact f.noLonger_resolve_gregory m t.text
  · rw [hu]
    exact Agree.pure (f.length_formatNumber_zero_lt hyear)

/-- **What the choice of the Gregorian calendar changes.** A moment after a pattern is then what the
pattern says without an output calendar when each of its tokens `yyyy` is read as `y`. This makes no
difference exactly when the year has four digits or more, when there is no such token, or when the
pattern fails, and it never makes a difference to a preset. -/
theorem gregorian_calendar_outputs :
    (∀ pattern, (f.withCalendar (some .gregory)).formatDateTime m pattern =
      render (fun token => (f.withCalendar none).resolve m (if token = "yyyy" then "y" else token))
        (tokenize pattern)) ∧
    (∀ pattern, (f.withCalendar (some .gregory)).formatDateTime m pattern =
        (f.withCalendar none).formatDateTime m pattern ↔
      1000 ≤ m.date.year.natAbs ∨
        (∀ t ∈ tokenize pattern, t.literal = false → t.text ≠ "yyyy") ∨
        ∃ e, (f.withCalendar none).formatDateTime m pattern = .error e) ∧
    (∀ preset, (f.withCalendar (some .gregory)).formatPreset m preset =
      (f.withCalendar none).formatPreset m preset) := by
  refine ⟨?_, ?_, ?_⟩
  · intro pattern
    rw [formatDateTime, funext (f.resolve_gregory m)]
  · intro pattern
    constructor
    · intro heq
      by_contra hnot
      push Not at hnot
      obtain ⟨hyear, hexists, hok⟩ := hnot
      have hlt := f.agree_formatDateTime_gregory m hyear hexists
      -- equal texts would be shorter than themselves
      rw [heq] at hlt
      obtain ⟨e, he⟩ := hlt.error_of_irrefl fun s => lt_irrefl s.length
      exact hok e he
    · rintro (hyear | hnone | ⟨e, he⟩)
      · exact f.formatDateTime_gregory_eq m (.inl hyear)
      · exact f.formatDateTime_gregory_eq m (.inr hnone)
      · -- a failure agrees with nothing but itself, whatever the texts might have been
        have hagree := agree_render textCongruence_noLonger fun t (_ : t ∈ tokenize pattern) _ =>
          f.noLonger_resolve_gregory m t.text
        exact hagree.eq_of_error he
  · intro preset
    exact ((f.alike_gregory textCongruence_eq).formatPreset textCongruence_eq m preset).eq

/-- In the year 5 the choice of the calendar makes a difference. -/
theorem formatDateTime_year_five :
    (withCalendar {} (some .gregory)).formatDateTime
        (DateTime.run .epoch [.onDate 5 1 1]).toMoment "yyyy" = .ok "5" ∧
      (withCalendar {} none).formatDateTime
        (DateTime.run .epoch [.onDate 5 1 1]).toMoment "yyyy" = .ok "0005" := by
  decide

end Formatter

end TemporalFormat
