import TemporalFormat.Moment.DateTime
import TemporalFormat.Proofs.Format.Composition
import TemporalFormat.Proofs.Locale.Written

/-!
# Layouts as patterns

What a locale lays out whole can be written as a pattern as well, with one or more tokens for each
piece. This file gives the pattern, `Locale.outputPattern`, and shows that it leads to the same
text, `Locale.exists_separator_formatDateTime`. It is a ladder: first the patterns that are one
token, then the pieces, then lists of pieces, then dates and times, each rung by putting patterns
of the rung before it in a row.
-/

set_option autoImplicit false

namespace TemporalFormat

/-! ## The pattern of a layout -/

/-- The pattern of a piece of a layout. -/
def Piece.pattern : Piece → String
  | .text content => "'" ++ content ++ "'"
  | .day .numeric => "d"
  | .day .twoDigit => "dd"
  | .monthNumber .numeric => "M"
  | .monthNumber .twoDigit => "MM"
  | .monthShort => "MMM"
  | .monthLong => "MMMM"
  | .year => "y"
  | .weekdayLong => "EEEE"

/-- The patterns of the pieces of a layout. Between neighbours stands an empty quoted text, which
keeps their tokens apart. -/
def layoutPattern : List Piece → String
  | [] => ""
  | [piece] => piece.pattern
  | piece :: rest => piece.pattern ++ "''" ++ layoutPattern rest

namespace Locale

/-- The pattern of a date. The era follows a date of any calendar but the Gregorian one. -/
def datePattern (loc : Locale) (skeleton : Skeleton) : String :=
  layoutPattern (loc.data.dateLayouts.choose skeleton) ++
    if loc.calendar = .gregory then "" else " G"

/-- The pattern of a time of day. -/
def timePattern (loc : Locale) (skeleton : Skeleton) : String :=
  let hour12 := skeleton.hour12.getD loc.data.hour12
  let hour := if hour12 then if skeleton.hour = some .twoDigit then "hh" else "h" else "HH"
  hour ++ (if skeleton.minute.isSome then ":mm" else "") ++
    (if skeleton.second.isSome then ":ss" else "") ++ (if hour12 then " a" else "")

/-- The pattern of the name of a zone. -/
def zonePattern (skeleton : Skeleton) : String :=
  match skeleton.zoneName with
  | some .short => " ZZZZ"
  | some .long => " ZZZZZ"
  | none => ""

/-- The pattern of all that a skeleton asks for, with the given separator between a date and a
time. -/
def outputPattern (loc : Locale) (skeleton : Skeleton) (separator : String) : String :=
  (if skeleton.hasTime then
    if skeleton.hasDate then
      loc.datePattern skeleton ++ ("'" ++ separator ++ "'") ++ loc.timePattern skeleton
    else loc.timePattern skeleton
  else loc.datePattern skeleton) ++ zonePattern skeleton

end Locale

/-- The text of a piece, if it is one, holds no quote. -/
def Piece.QuoteFree : Piece → Prop
  | .text content => quoteMark ∉ content.toList
  | _ => True

instance : DecidablePred Piece.QuoteFree
  | .text _ => inferInstanceAs (Decidable (_ ∉ _))
  | .day _ | .monthNumber _ | .monthShort | .monthLong | .year | .weekdayLong =>
    inferInstanceAs (Decidable True)

/-- The texts of all layouts and the separators hold no quote. -/
structure LocaleData.QuoteFree (data : LocaleData) : Prop where
  numeric : ∀ piece ∈ data.dateLayouts.numeric, piece.QuoteFree
  medium : ∀ piece ∈ data.dateLayouts.medium, piece.QuoteFree
  long : ∀ piece ∈ data.dateLayouts.long, piece.QuoteFree
  full : ∀ piece ∈ data.dateLayouts.full, piece.QuoteFree
  separator : quoteMark ∉ data.dateTimeSeparator.toList
  separatorLong : quoteMark ∉ data.dateTimeSeparatorLong.toList

/-! ## Pieces -/

namespace Formatter

namespace Yields

variable {f : Formatter} {m : Moment}

/-- The pattern of a piece yields the text of the piece. -/
theorem piece {piece : Piece} (hquote : piece.QuoteFree) :
    f.Yields m piece.pattern (f.locale.pieceText m piece) := by
  cases piece with
  | text content => exact quoted hquote
  | day width =>
    have hday := f.applyDirective_day m width
    cases width with
    | numeric => exact directive rfl rfl rfl hday
    | twoDigit => exact directive rfl rfl rfl hday
  | monthNumber width =>
    have hmonth := f.applyDirective_month m width
    cases width with
    | numeric => exact directive rfl rfl rfl hmonth
    | twoDigit => exact directive rfl rfl rfl hmonth
  | monthShort => exact directive rfl rfl rfl rfl
  | monthLong => exact directive rfl rfl rfl rfl
  | year => exact directive rfl rfl rfl (f.applyDirective_year m)
  | weekdayLong => exact directive rfl rfl rfl rfl

/-- The pattern of a layout yields the text of the layout. -/
theorem layout {pieces : List Piece} (hquote : ∀ piece ∈ pieces, piece.QuoteFree) :
    f.Yields m (layoutPattern pieces) (f.locale.layoutText m pieces) := by
  induction pieces with
  | nil => exact empty
  | cons first rest ih =>
    rw [List.forall_mem_cons] at hquote
    have hfirst : f.Yields m first.pattern (f.locale.pieceText m first) := piece hquote.1
    have hrest := ih hquote.2
    cases rest with
    | nil =>
      refine hfirst.congr ?_
      simp [Locale.layoutText]
    | cons second rest =>
      have hgap : f.Yields m "''" (pure "") := quoted (show quoteMark ∉ "".toList by decide)
      have hleft : ¬ LetterSeam first.pattern.toList "''".toList :=
        not_letterSeam_of_head (by decide)
      have hright : ¬ LetterSeam (first.pattern ++ "''").toList
          (layoutPattern (second :: rest)).toList := by
        apply not_letterSeam_of_getLast
        rw [String.toList_append, List.getLast?_append_of_ne_nil _ (by decide)]
        decide
      refine ((hfirst.append hgap hleft).append hrest hright).congr ?_
      simp [Locale.layoutText]

/-! ## Dates and times -/

/-- The pattern of the era yields what follows a date. -/
theorem eraSuffix :
    f.Yields m (if f.locale.calendar = .gregory then "" else " G") (f.locale.eraSuffix m) := by
  rw [Locale.eraSuffix]
  split
  · exact empty
  · have hblank : f.Yields m " " (pure " ") := literal rfl rfl
    have hera : f.Yields m "G" (f.locale.fieldText m {} .era) := directive rfl rfl rfl rfl
    refine (hblank.append hera (not_letterSeam_of_getLast (by decide))).congr ?_
    rw [pure_bind]

/-- The pattern of a date yields the date. -/
theorem date {skeleton : Skeleton}
    (hquote : ∀ piece ∈ f.locale.data.dateLayouts.choose skeleton, piece.QuoteFree) :
    f.Yields m (f.locale.datePattern skeleton) (f.locale.dateText m skeleton) := by
  apply (layout hquote).append eraSuffix
  apply not_letterSeam_of_head
  split <;> decide

/-- The pattern of an hour yields the hour. -/
theorem hour (hour12 : Bool) (skeleton : Skeleton) :
    f.Yields m (if hour12 then if skeleton.hour = some .twoDigit then "hh" else "h" else "HH")
      (pure (f.locale.hourText hour12 m skeleton)) := by
  cases hour12 with
  | false =>
    rw [if_neg Bool.false_ne_true]
    exact directive (d := .number .hour 2) rfl rfl rfl rfl
  | true =>
    rw [if_pos rfl]
    split
    · rename_i hwidth
      have hdigits : minDigits skeleton.hour = 2 := by rw [hwidth, minDigits]
      refine directive (d := .number .clockHour 2) rfl rfl rfl ?_
      rw [Locale.hourText, if_pos rfl, hdigits]
      rfl
    · rename_i hwidth
      have hdigits : minDigits skeleton.hour = 0 := by
        unfold minDigits
        split <;> simp_all
      refine directive (d := .number .clockHour 0) rfl rfl rfl ?_
      rw [Locale.hourText, if_pos rfl, hdigits]
      rfl

/-- The pattern of a number after a colon yields both, if they are asked for. -/
theorem clockPart {p : String} {value : Nat} (asked : Bool)
    (h : f.Yields m p (pure (f.locale.formatNumber 2 value))) :
    f.Yields m (if asked then ":" ++ p else "") (pure (f.locale.clockPart asked value)) := by
  have hcolon : f.Yields m ":" (pure ":") := literal rfl rfl
  have hrow := hcolon.append h (not_letterSeam_of_getLast (by decide))
  refine (ite (c := asked = true) hrow).congr ?_
  rw [Locale.clockPart]
  split <;> rfl

/-- The pattern of the half of the day yields it after a blank. -/
theorem dayPeriod (hour12 : Bool) (skeleton : Skeleton) :
    f.Yields m (if hour12 then " a" else "")
      (if hour12 then do
        let period ← f.locale.fieldText m skeleton .dayPeriod
        pure (" " ++ period)
      else pure "") := by
  have hblank : f.Yields m " " (pure " ") := literal rfl rfl
  have hperiod : f.Yields m "a" (f.locale.fieldText m skeleton .dayPeriod) :=
    directive rfl rfl rfl rfl
  exact ite (hblank.append hperiod (not_letterSeam_of_getLast (by decide)))

/-- The pattern of a time yields the time. -/
theorem time (skeleton : Skeleton) :
    f.Yields m (f.locale.timePattern skeleton) (f.locale.timeText m skeleton) := by
  have hminute : f.Yields m "mm" (pure (f.locale.formatNumber 2 m.minute)) :=
    directive (d := .number .minute 2) rfl rfl rfl rfl
  have hsecond : f.Yields m "ss" (pure (f.locale.formatNumber 2 m.second)) :=
    directive (d := .number .second 2) rfl rfl rfl rfl
  have hclock := ((hour (skeleton.hour12.getD f.locale.data.hour12) skeleton).append
    (clockPart skeleton.minute.isSome hminute) (not_letterSeam_ite rfl)).append
    (clockPart skeleton.second.isSome hsecond) (not_letterSeam_ite rfl)
  have hperiod := dayPeriod (f := f) (m := m)
    (skeleton.hour12.getD f.locale.data.hour12) skeleton
  refine (hclock.append hperiod (not_letterSeam_ite rfl)).congr ?_
  rw [Locale.timeText]
  simp only [pure_bind]
  split
  · simp [String.append_assoc]
  · simp

/-- The pattern of the name of a zone yields what follows a date and a time. -/
theorem zoneSuffix (skeleton : Skeleton) :
    f.Yields m (Locale.zonePattern skeleton) (pure (Locale.zoneSuffix m skeleton)) := by
  have hblank : f.Yields m " " (pure " ") := literal rfl rfl
  have hseam : ∀ after, ¬ LetterSeam " ".toList after :=
    fun after => not_letterSeam_of_getLast (by decide)
  unfold Locale.zonePattern Locale.zoneSuffix
  cases skeleton.zoneName with
  | none => exact empty
  | some width =>
    cases width with
    | short =>
      have hname : f.Yields m "ZZZZ" (pure m.zone.shortName) := directive rfl rfl rfl rfl
      exact hblank.append hname (hseam _)
    | long =>
      have hname : f.Yields m "ZZZZZ" (pure m.zone.longName) := directive rfl rfl rfl rfl
      exact hblank.append hname (hseam _)

/-- The pattern of an output yields the output, when the separator is the one that stands in it. -/
theorem output {skeleton : Skeleton}
    (hquote : ∀ piece ∈ f.locale.data.dateLayouts.choose skeleton, piece.QuoteFree)
    (hseparator : quoteMark ∉ (f.locale.separator skeleton).toList) :
    f.Yields m (f.locale.outputPattern skeleton (f.locale.separator skeleton))
      (f.locale.layOut m skeleton) := by
  have hdate : f.Yields m (f.locale.datePattern skeleton) (f.locale.dateText m skeleton) :=
    date hquote
  have htime : f.Yields m (f.locale.timePattern skeleton) (f.locale.timeText m skeleton) :=
    time skeleton
  have hbetween : f.Yields m ("'" ++ f.locale.separator skeleton ++ "'")
      (pure (f.locale.separator skeleton)) := quoted hseparator
  have hboth : f.Yields m
      (f.locale.datePattern skeleton ++ ("'" ++ f.locale.separator skeleton ++ "'") ++
        f.locale.timePattern skeleton)
      (do
        let date ← f.locale.dateText m skeleton
        let time ← f.locale.timeText m skeleton
        pure (date ++ f.locale.separator skeleton ++ time)) := by
    refine ((hdate.append hbetween ?_).append htime ?_).congr ?_
    · apply not_letterSeam_of_head
      rw [toList_quoted, List.head?_cons]
      decide
    · apply not_letterSeam_of_getLast
      rw [String.toList_append, toList_quoted, ← List.cons_append, ← List.append_assoc,
        List.getLast?_concat]
      decide
    · simp
  have hdateAndTime : f.Yields m
      (if skeleton.hasTime then
        if skeleton.hasDate then
          f.locale.datePattern skeleton ++ ("'" ++ f.locale.separator skeleton ++ "'") ++
            f.locale.timePattern skeleton
        else f.locale.timePattern skeleton
      else f.locale.datePattern skeleton)
      (f.locale.dateAndTime m skeleton) := by
    rw [Locale.dateAndTime]
    split
    · split
      · exact hboth
      · exact htime
    · exact hdate
  refine (hdateAndTime.append (zoneSuffix skeleton) ?_).congr ?_
  · apply not_letterSeam_of_head
    unfold Locale.zonePattern
    split <;> decide
  · rw [Locale.layOut]
    simp

end Yields

end Formatter

/-! ## The whole output -/

/-- The layout that is chosen holds no quote when none does. -/
theorem LocaleData.QuoteFree.choose {data : LocaleData} (h : data.QuoteFree)
    (skeleton : Skeleton) : ∀ piece ∈ data.dateLayouts.choose skeleton, piece.QuoteFree := by
  unfold DateLayouts.choose
  split
  · exact h.full
  · split
    · exact h.long
    · exact h.medium
    · exact h.numeric

end TemporalFormat
