import TemporalFormat.Proofs.Format.OtherDigits
import TemporalFormat.Zone.Basic

/-!
# Offsets that are written alike

A written offset can be read again but for one thing: less than an hour to the west has the sign of
less than an hour to the east. So two offsets are written alike only when they are the same or, less
than an hour from zero, opposite. `Formatter.offset_collisions` says this of every style and every
numbering system, and of the names of fixed zones.
-/

set_option autoImplicit false

namespace TemporalFormat

/-! ## Reading offsets -/

namespace OffsetStyle

/-- The digits of the hours in an offset without its sign. -/
def hourDigits (style : OffsetStyle) (chars : List Char) : List Char :=
  match style with
  | .short | .narrow => beforeMark ':' chars
  | .techie => chars.take (chars.length - 2)

/-- The digits of the minutes in an offset without its sign. -/
def minuteDigits (style : OffsetStyle) (chars : List Char) : List Char :=
  match style with
  | .short | .narrow => afterMark ':' chars
  | .techie => chars.drop (chars.length - 2)

/-- A text gives an offset in a style: a sign, which tells the side of whole hours only, and then
the digits of hours and of minutes that together come to as many minutes as the offset has. -/
structure Gives (style : OffsetStyle) (system : NumberingSystem) (text : List Char)
    (offset : Int) : Prop where
  sign_eq : text.head? = some (if offset ≤ -60 then '-' else '+')
  hours_ne_nil : style.hourDigits text.tail ≠ []
  mem_digits_of_mem_hours : ∀ c ∈ style.hourDigits text.tail, c ∈ system.digits.toList
  mem_digits_of_mem_minutes : ∀ c ∈ style.minuteDigits text.tail, c ∈ system.digits.toList
  minutes_lt : system.natural (style.minuteDigits text.tail) < 60
  natAbs_eq : 60 * system.natural (style.hourDigits text.tail) +
    system.natural (style.minuteDigits text.tail) = offset.natAbs

/-- An offset without its sign. -/
def unsigned (style : OffsetStyle) (system : NumberingSystem) (n : Nat) : String :=
  match style with
  | .short => system.numeral 2 (n / 60) ++ ":" ++ system.numeral 2 (n % 60)
  | .narrow =>
    if 0 < n % 60 then system.numeral 0 (n / 60) ++ ":" ++ system.numeral 0 (n % 60)
    else system.numeral 0 (n / 60)
  | .techie => system.numeral 2 (n / 60) ++ system.numeral 2 (n % 60)

/-- Locales write an offset with the numerals of their system. -/
theorem render_signedNumeral (style : OffsetStyle) (system : NumberingSystem) (offset : Int) :
    style.render system.signedNumeral offset =
      sign offset ++ style.unsigned system offset.natAbs := by
  have hhours : (offset.tdiv 60).natAbs = offset.natAbs / 60 := Int.natAbs_tdiv offset 60
  have hminutes : (offset.tmod 60).natAbs = offset.natAbs % 60 := Int.natAbs_tmod offset 60
  cases style <;>
    simp only [render, unsigned, hhours, hminutes, NumberingSystem.signedNumeral_natCast,
      Int.natCast_pos]

/-- An offset is written in the same way by those who write the same numbers that are not
negative. -/
theorem render_congr (style : OffsetStyle) {num num' : Nat → Int → String}
    (h : ∀ minDigits n, 0 ≤ n → num minDigits n = num' minDigits n) (offset : Int) :
    style.render num offset = style.render num' offset := by
  have hnum : ∀ minDigits (n : Nat), num minDigits n = num' minDigits n :=
    fun minDigits n => h minDigits n (Int.natCast_nonneg n)
  simp only [render, hnum]

/-- Names of zones and locales with ASCII digits write the same offsets. -/
theorem render_asciiNumber (style : OffsetStyle) (offset : Int) :
    style.render asciiNumber offset = style.render NumberingSystem.latn.signedNumeral offset :=
  style.render_congr (fun _ _ => NumberingSystem.asciiNumber_eq_signedNumeral _) offset

/-- The offsets with a minus are those of an hour or more to the west. -/
theorem sign_eq_ite (offset : Int) : sign offset = if offset ≤ -60 then "-" else "+" := by
  have hhours : offset.tdiv 60 < 0 ↔ offset ≤ -60 := by
    have hone : Int.sign 60 = 1 := rfl
    rw [Int.tdiv_eq_ediv, hone]
    split <;> omega
  simp only [sign, hhours]

/-- The characters of an offset are its sign and the rest. -/
theorem toList_render (style : OffsetStyle) (system : NumberingSystem) (offset : Int) :
    (style.render system.signedNumeral offset).toList =
      (if offset ≤ -60 then '-' else '+') :: (style.unsigned system offset.natAbs).toList := by
  rw [render_signedNumeral, sign_eq_ite, String.toList_append]
  split <;> rfl

/-! ## Reading gives back the offset -/

section Unsigned

variable (style : OffsetStyle) (system : NumberingSystem) (n : Nat)

/-- A numeral has digits only. -/
theorem colon_notMem_numeral (minDigits : Nat) : ':' ∉ (system.numeral minDigits n).toList :=
  fun h => system.colon_notMem_digits (system.mem_digits_of_mem_numeral h)

/-- The characters of hours and minutes with a colon between them. -/
theorem toList_joined (hours minutes : String) :
    (hours ++ ":" ++ minutes).toList = hours.toList ++ ':' :: minutes.toList := by
  rw [String.toList_append, String.toList_append, List.append_assoc]
  rfl

/-- The hours that are read are those that are written. -/
theorem exists_hourDigits_eq :
    ∃ minDigits, style.hourDigits (style.unsigned system n).toList =
      (system.numeral minDigits (n / 60)).toList := by
  have hcolon := colon_notMem_numeral system (n / 60)
  cases style with
  | short =>
    refine ⟨2, ?_⟩
    rw [hourDigits, unsigned, toList_joined, beforeMark_append (hcolon 2)]
  | narrow =>
    refine ⟨0, ?_⟩
    rw [hourDigits, unsigned]
    split
    · rw [toList_joined, beforeMark_append (hcolon 0)]
    · exact beforeMark_of_notMem (hcolon 0)
  | techie =>
    have hlength : (system.numeral 2 (n % 60)).toList.length = 2 :=
      system.length_numeral_of_lt (by decide) (by omega)
    refine ⟨2, ?_⟩
    rw [hourDigits, unsigned, String.toList_append, List.length_append, hlength,
      Nat.add_sub_cancel, List.take_left]

/-- The minutes that are read are those that are written, and there are none when nothing is
written. -/
theorem minuteDigits_cases :
    (∃ minDigits, style.minuteDigits (style.unsigned system n).toList =
      (system.numeral minDigits (n % 60)).toList) ∨
    n % 60 = 0 ∧ style.minuteDigits (style.unsigned system n).toList = [] := by
  have hcolon := colon_notMem_numeral system (n / 60)
  cases style with
  | short =>
    refine .inl ⟨2, ?_⟩
    rw [minuteDigits, unsigned, toList_joined, afterMark_append (hcolon 2)]
  | narrow =>
    rw [minuteDigits, unsigned]
    split
    · refine .inl ⟨0, ?_⟩
      rw [toList_joined, afterMark_append (hcolon 0)]
    · exact .inr ⟨by omega, afterMark_of_notMem (hcolon 0)⟩
  | techie =>
    have hlength : (system.numeral 2 (n % 60)).toList.length = 2 :=
      system.length_numeral_of_lt (by decide) (by omega)
    refine .inl ⟨2, ?_⟩
    rw [minuteDigits, unsigned, String.toList_append, List.length_append, hlength,
      Nat.add_sub_cancel, List.drop_left]

/-- The hours that are read are the whole hours. -/
theorem natural_hourDigits :
    system.natural (style.hourDigits (style.unsigned system n).toList) = n / 60 := by
  obtain ⟨minDigits, hhours⟩ := style.exists_hourDigits_eq system n
  rw [hhours, system.natural_numeral]

/-- Minutes that are not written are none. -/
theorem natural_minuteDigits :
    system.natural (style.minuteDigits (style.unsigned system n).toList) = n % 60 := by
  obtain ⟨minDigits, hminutes⟩ | ⟨hnone, hminutes⟩ := style.minuteDigits_cases system n
  · rw [hminutes, system.natural_numeral]
  · rw [hminutes, hnone]
    rfl

/-- The minutes that are read have digits only. -/
theorem mem_digits_of_mem_minuteDigits {c : Char}
    (h : c ∈ style.minuteDigits (style.unsigned system n).toList) : c ∈ system.digits.toList := by
  obtain ⟨minDigits, hminutes⟩ | ⟨-, hminutes⟩ := style.minuteDigits_cases system n
  · rw [hminutes] at h
    exact system.mem_digits_of_mem_numeral h
  · rw [hminutes] at h
    cases h

end Unsigned

section Render

variable (style : OffsetStyle) (system : NumberingSystem)

/-- A written offset gives the offset. -/
theorem gives_render (offset : Int) :
    style.Gives system (style.render system.signedNumeral offset).toList offset := by
  obtain ⟨minDigits, hhours⟩ := style.exists_hourDigits_eq system offset.natAbs
  have hminutes := style.natural_minuteDigits system offset.natAbs
  rw [toList_render]
  refine ⟨rfl, ?_, ?_, ?_, ?_, ?_⟩
  · rw [List.tail_cons, hhours]
    exact system.numeral_ne_nil minDigits _
  · rw [List.tail_cons, hhours]
    exact fun _ => system.mem_digits_of_mem_numeral
  · exact fun _ => style.mem_digits_of_mem_minuteDigits system offset.natAbs
  · rw [List.tail_cons, hminutes]
    exact Nat.mod_lt _ (by decide)
  · rw [List.tail_cons, hminutes, style.natural_hourDigits system, Nat.div_add_mod]

/-- A text gives one offset, up to the sign of less than an hour. -/
theorem Gives.eq_or_eq_neg {style : OffsetStyle} {system : NumberingSystem} {text : List Char}
    {a b : Int} (ha : style.Gives system text a) (hb : style.Gives system text b) :
    a = b ∨ a = -b ∧ 0 < a.natAbs ∧ a.natAbs < 60 := by
  have hsize : a.natAbs = b.natAbs := ha.natAbs_eq.symm.trans hb.natAbs_eq
  have hsign : a ≤ -60 ↔ b ≤ -60 := by
    have hsame := ha.sign_eq.symm.trans hb.sign_eq
    by_cases hwest : a ≤ -60 <;> by_cases hwest' : b ≤ -60 <;> simp [hwest, hwest'] at hsame ⊢
  omega

/-- Less than an hour is written alike on both sides of zero. -/
theorem render_neg {offset : Int} (h : offset.natAbs < 60) :
    style.render system.signedNumeral (-offset) = style.render system.signedNumeral offset := by
  have hplus : sign (-offset) = sign offset := by
    rw [sign_eq_ite, sign_eq_ite, if_neg (by omega), if_neg (by omega)]
  rw [render_signedNumeral, render_signedNumeral, hplus, Int.natAbs_neg]

/-- **The offsets that are written alike.** -/
theorem render_eq_render_iff {a b : Int} :
    style.render system.signedNumeral a = style.render system.signedNumeral b ↔
      a = b ∨ a = -b ∧ 0 < a.natAbs ∧ a.natAbs < 60 := by
  constructor
  · intro h
    have ha := style.gives_render system a
    rw [h] at ha
    exact ha.eq_or_eq_neg (style.gives_render system b)
  · rintro (rfl | ⟨rfl, -, hlt⟩)
    · rfl
    · exact style.render_neg system (by rwa [Int.natAbs_neg] at hlt)

/-- A written offset begins with its sign and not with a letter. -/
theorem render_ne_Z (offset : Int) : style.render system.signedNumeral offset ≠ "Z" := by
  intro h
  have hsign := (style.gives_render system offset).sign_eq
  rw [h] at hsign
  split at hsign <;> cases hsign

end Render

end OffsetStyle

/-! ## Offsets of formatters and names of zones -/

section RenderOffset

variable (system : NumberingSystem) (style : OffsetStyle) (allowZ fixed : Bool) (a b : Int)

/-- The letter is written where it is allowed, for a zone fixed at zero. -/
theorem renderOffset_eq_Z_iff :
    renderOffset system.signedNumeral style allowZ fixed a = "Z" ↔
      allowZ = true ∧ fixed = true ∧ a = 0 := by
  rw [renderOffset]
  split
  · rename_i hzero
    exact iff_of_true rfl hzero
  · rename_i hzero
    exact iff_of_false (style.render_ne_Z system a) hzero

/-- The letter stands for one offset only, so that it makes no two alike. -/
theorem renderOffset_eq_renderOffset_iff :
    renderOffset system.signedNumeral style allowZ fixed a =
        renderOffset system.signedNumeral style allowZ fixed b ↔
      a = b ∨ a = -b ∧ 0 < a.natAbs ∧ a.natAbs < 60 := by
  have hletter := renderOffset_eq_Z_iff system style allowZ fixed
  have hrender : ∀ {offset}, renderOffset system.signedNumeral style allowZ fixed offset ≠ "Z" →
      renderOffset system.signedNumeral style allowZ fixed offset =
        style.render system.signedNumeral offset :=
    fun h => if_neg fun hzero => h ((hletter _).mpr hzero)
  constructor
  · intro h
    by_cases ha : renderOffset system.signedNumeral style allowZ fixed a = "Z"
    · have hzero : a = 0 := ((hletter a).mp ha).2.2
      have hzero' : b = 0 := ((hletter b).mp (h.symm.trans ha)).2.2
      exact .inl (hzero.trans hzero'.symm)
    · have hb : renderOffset system.signedNumeral style allowZ fixed b ≠ "Z" :=
        fun hb => ha (h.trans hb)
      rw [hrender ha, hrender hb] at h
      exact (style.render_eq_render_iff system).mp h
  · rintro (rfl | ⟨rfl, hpos, hlt⟩)
    · rfl
    · -- opposite offsets are not zero, so no letter stands for them
      have hnumbers : ∀ {offset : Int}, offset ≠ 0 →
          renderOffset system.signedNumeral style allowZ fixed offset =
            style.render system.signedNumeral offset :=
        fun hne => hrender fun h => hne ((hletter _).mp h).2.2
      rw [hnumbers (by omega), hnumbers (by omega)]
      exact (style.render_eq_render_iff system).mpr (.inr ⟨rfl, hpos, hlt⟩)

end RenderOffset

namespace Zone

/-- A zone whose offset is not zero is named for it. -/
theorem fixedName_of_ne_zero {offset : Int} (h : offset ≠ 0) :
    fixedName offset =
      "UTC" ++ OffsetStyle.narrow.render NumberingSystem.latn.signedNumeral offset := by
  rw [← OffsetStyle.render_asciiNumber]
  exact if_neg h

/-- Only universal time has a name without an offset. -/
theorem fixedName_eq_UTC_iff {offset : Int} : fixedName offset = "UTC" ↔ offset = 0 := by
  constructor
  · intro h
    by_contra hne
    have hchars := congrArg String.toList ((fixedName_of_ne_zero hne).symm.trans h)
    rw [String.toList_append, OffsetStyle.toList_render] at hchars
    simp at hchars
  · rintro rfl
    rfl

/-- Fixed zones have the same name exactly when their offsets are written alike. -/
theorem fixedName_eq_fixedName_iff {a b : Int} :
    fixedName a = fixedName b ↔ a = b ∨ a = -b ∧ 0 < a.natAbs ∧ a.natAbs < 60 := by
  by_cases ha : a = 0
  · rw [ha, eq_comm, fixedName_eq_UTC_iff.mpr rfl, fixedName_eq_UTC_iff]
    omega
  · by_cases hb : b = 0
    · rw [hb, fixedName_eq_UTC_iff.mpr rfl, fixedName_eq_UTC_iff]
      omega
    · rw [fixedName_of_ne_zero ha, fixedName_of_ne_zero hb, String.append_right_inj,
        OffsetStyle.render_eq_render_iff]

end Zone

/-- **What offsets lose.** A formatter writes two offsets alike exactly when they are the same, or
opposite and less than an hour from zero. It writes `Z` exactly where that is allowed for a zone
fixed at zero, and otherwise a sign, hours and minutes that give the offset. The names of fixed zones are
alike for the same offsets as their offsets are. They are `UTC` and, unless the offset is zero, the
offset in the narrow style and in ASCII digits. -/
theorem Formatter.offset_collisions (f : Formatter) (style : OffsetStyle) (allowZ fixed : Bool)
    (a b : Int) :
    (f.formatOffset style allowZ fixed a = f.formatOffset style allowZ fixed b ↔
      a = b ∨ a = -b ∧ 0 < a.natAbs ∧ a.natAbs < 60) ∧
    (f.formatOffset style allowZ fixed a = "Z" ↔ allowZ = true ∧ fixed = true ∧ a = 0) ∧
    (f.formatOffset style allowZ fixed a = "Z" ∨
      style.Gives f.locale.numberingSystem (f.formatOffset style allowZ fixed a).toList a) ∧
    ((Zone.fixedAt a).name = (Zone.fixedAt b).name ↔
      a = b ∨ a = -b ∧ 0 < a.natAbs ∧ a.natAbs < 60) ∧
    (Zone.fixedAt a).shortName = (Zone.fixedAt a).name ∧
    (Zone.fixedAt a).longName = (Zone.fixedAt a).name ∧
    (Zone.fixedAt a).name =
      if a = 0 then "UTC"
      else "UTC" ++ (f.inDigits .latn).formatOffset .narrow allowZ fixed a := by
  refine ⟨?_, ?_, ?_, ?_, rfl, rfl, ?_⟩
  · exact renderOffset_eq_renderOffset_iff _ style allowZ fixed a b
  · exact renderOffset_eq_Z_iff _ style allowZ fixed a
  · rw [formatOffset, renderOffset]
    split
    · exact .inl rfl
    · exact .inr (style.gives_render _ a)
  · exact Zone.fixedName_eq_fixedName_iff
  · split
    · rename_i hzero
      exact Zone.fixedName_eq_UTC_iff.mpr hzero
    · rename_i hne
      have hnumber : (f.inDigits .latn).formatOffset .narrow allowZ fixed a =
          OffsetStyle.narrow.render NumberingSystem.latn.signedNumeral a :=
        if_neg fun h => hne h.2.2
      rw [hnumber]
      exact Zone.fixedName_of_ne_zero hne

end TemporalFormat
