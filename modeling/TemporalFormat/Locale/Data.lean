import TemporalFormat.Locale.Skeleton

/-!
# What a locale knows

The words, marks and layouts of one language and region. Names come in three widths. Month and
weekday names have a form for use beside a day and a form for use on their own. English has one form
only; in Russian a month stands in the genitive beside a day and in the nominative on its own.
-/

set_option autoImplicit false

namespace TemporalFormat

/-- The names of `n` things in three widths. -/
structure NameSet (n : Nat) where
  narrow : Vector String n
  short : Vector String n
  long : Vector String n
  deriving DecidableEq

/-- The names of one width. -/
def NameSet.ofWidth {n : Nat} (names : NameSet n) : NameWidth → Vector String n
  | .narrow => names.narrow
  | .short => names.short
  | .long => names.long

/-- The name of a month, if there is a month of this number. -/
def NameSet.monthName (names : NameSet 12) (width : NameWidth) (month : Nat) :
    Except FormatError String :=
  if h : 1 ≤ month ∧ month ≤ 12 then .ok ((names.ofWidth width).get ⟨month - 1, by omega⟩)
  else .error (.unnamedMonth month)

/-- The numbers of the months, which serve as narrow names where letters would not tell the months
apart. -/
def monthNumbers : Vector String 12 :=
  #v["1", "2", "3", "4", "5", "6", "7", "8", "9", "10", "11", "12"]

/-- A part of a date layout: a fixed text or a field. -/
inductive Piece where
  | text (content : String)
  | day (width : NumberWidth)
  | monthNumber (width : NumberWidth)
  | monthShort
  | monthLong
  | year
  | weekdayLong
  deriving DecidableEq

/-- The four layouts of a date, such as `10/14/1983`, `Oct 14, 1983`, `October 14, 1983` and
`Friday, October 14, 1983`. -/
structure DateLayouts where
  numeric : List Piece
  medium : List Piece
  long : List Piece
  full : List Piece
  deriving DecidableEq

/-- What is known of one language and region. The lists of day names begin with Monday, and the
list of era names with the era before year 1. -/
structure LocaleData where
  tag : String
  decimalSeparator : Char
  am : String
  pm : String
  monthNames : NameSet 12
  monthNamesAlone : NameSet 12
  dayNames : NameSet 7
  dayNamesAlone : NameSet 7
  eraNames : NameSet 2
  islamicMonthNames : NameSet 12
  islamicEra : String
  buddhistEra : String
  hour12 : Bool
  dateLayouts : DateLayouts
  dateTimeSeparator : String
  dateTimeSeparatorLong : String
  deriving DecidableEq

/-! ## English as used in the United States -/

namespace English

/-- Month names, which have one form only. -/
def months : NameSet 12 where
  narrow := #v["J", "F", "M", "A", "M", "J", "J", "A", "S", "O", "N", "D"]
  short := #v["Jan", "Feb", "Mar", "Apr", "May", "Jun", "Jul", "Aug", "Sep", "Oct", "Nov", "Dec"]
  long := #v["January", "February", "March", "April", "May", "June", "July", "August",
    "September", "October", "November", "December"]

/-- Weekday names, which have one form only. -/
def days : NameSet 7 where
  narrow := #v["M", "T", "W", "T", "F", "S", "S"]
  short := #v["Mon", "Tue", "Wed", "Thu", "Fri", "Sat", "Sun"]
  long := #v["Monday", "Tuesday", "Wednesday", "Thursday", "Friday", "Saturday", "Sunday"]

/-- The names of the months of the Islamic calendar. -/
def islamicMonths : NameSet 12 where
  narrow := monthNumbers
  short := #v["Muh.", "Saf.", "Rab. I", "Rab. II", "Jum. I", "Jum. II", "Raj.", "Sha.", "Ram.",
    "Shaw.", "Dhuʻl-Q.", "Dhuʻl-H."]
  long := #v["Muharram", "Safar", "Rabiʻ I", "Rabiʻ II", "Jumada I", "Jumada II", "Rajab",
    "Shaʻban", "Ramadan", "Shawwal", "Dhuʻl-Qiʻdah", "Dhuʻl-Hijjah"]

/-- The names of the Gregorian eras. -/
def eras : NameSet 2 where
  narrow := #v["B", "A"]
  short := #v["BC", "AD"]
  long := #v["Before Christ", "Anno Domini"]

/-- Dates begin with the month, after the weekday if there is one. -/
def dateLayouts : DateLayouts where
  numeric := [.monthNumber .numeric, .text "/", .day .numeric, .text "/", .year]
  medium := [.monthShort, .text " ", .day .numeric, .text ", ", .year]
  long := [.monthLong, .text " ", .day .numeric, .text ", ", .year]
  full := [.weekdayLong, .text ", ", .monthLong, .text " ", .day .numeric, .text ", ", .year]

end English

/-- English as used in the United States. -/
def LocaleData.english : LocaleData where
  tag := "en-US"
  decimalSeparator := '.'
  am := "AM"
  pm := "PM"
  monthNames := English.months
  monthNamesAlone := English.months
  dayNames := English.days
  dayNamesAlone := English.days
  eraNames := English.eras
  islamicMonthNames := English.islamicMonths
  islamicEra := "AH"
  buddhistEra := "BE"
  hour12 := true
  dateLayouts := English.dateLayouts
  dateTimeSeparator := ", "
  dateTimeSeparatorLong := " at "

/-! ## Russian -/

namespace Russian

/-- Month names beside a day. -/
def months : NameSet 12 where
  narrow := #v["Я", "Ф", "М", "А", "М", "И", "И", "А", "С", "О", "Н", "Д"]
  short := #v["янв.", "февр.", "мар.", "апр.", "мая", "июн.", "июл.", "авг.", "сент.", "окт.",
    "нояб.", "дек."]
  long := #v["января", "февраля", "марта", "апреля", "мая", "июня", "июля", "августа",
    "сентября", "октября", "ноября", "декабря"]

/-- Month names on their own. -/
def monthsAlone : NameSet 12 where
  narrow := months.narrow
  short := #v["янв.", "февр.", "март", "апр.", "май", "июнь", "июль", "авг.", "сент.", "окт.",
    "нояб.", "дек."]
  long := #v["январь", "февраль", "март", "апрель", "май", "июнь", "июль", "август", "сентябрь",
    "октябрь", "ноябрь", "декабрь"]

/-- Weekday names, which have one form only. -/
def days : NameSet 7 where
  narrow := #v["П", "В", "С", "Ч", "П", "С", "В"]
  short := #v["пн", "вт", "ср", "чт", "пт", "сб", "вс"]
  long := #v["понедельник", "вторник", "среда", "четверг", "пятница", "суббота", "воскресенье"]

/-- The names of the months of the Islamic calendar. -/
def islamicMonths : NameSet 12 where
  narrow := monthNumbers
  short := #v["мух.", "саф.", "раб. I", "раб. II", "джум. I", "джум. II", "радж.", "шааб.",
    "рам.", "шав.", "зуль-к.", "зуль-х."]
  long := #v["мухаррам", "сафар", "раби-уль-авваль", "раби-уль-ахир", "джумад-уль-авваль",
    "джумад-уль-ахир", "раджаб", "шаабан", "рамадан", "шавваль", "зуль-каада", "зуль-хиджжа"]

/-- The names of the Gregorian eras. -/
def eras : NameSet 2 where
  narrow := #v["до н.э.", "н.э."]
  short := #v["до н. э.", "н. э."]
  long := #v["до Рождества Христова", "от Рождества Христова"]

/-- Dates begin with the day, after the weekday if there is one. -/
def dateLayouts : DateLayouts where
  numeric := [.day .twoDigit, .text ".", .monthNumber .twoDigit, .text ".", .year]
  medium := [.day .numeric, .text " ", .monthShort, .text " ", .year, .text " г."]
  long := [.day .numeric, .text " ", .monthLong, .text " ", .year, .text " г."]
  full := [.weekdayLong, .text ", ", .day .numeric, .text " ", .monthLong, .text " ", .year,
    .text " г."]

end Russian

/-- Russian as used in Russia. -/
def LocaleData.russian : LocaleData where
  tag := "ru-RU"
  decimalSeparator := ','
  am := "AM"
  pm := "PM"
  monthNames := Russian.months
  monthNamesAlone := Russian.monthsAlone
  dayNames := Russian.days
  dayNamesAlone := Russian.days
  eraNames := Russian.eras
  islamicMonthNames := Russian.islamicMonths
  islamicEra := "AH"
  buddhistEra := "BE"
  hour12 := false
  dateLayouts := Russian.dateLayouts
  dateTimeSeparator := ", "
  dateTimeSeparatorLong := " в "

end TemporalFormat
