import TemporalFormat.Moment.Timestamp
import TemporalFormat.Locale.Tag
import TemporalFormat.Proofs.Pattern.Grammar
import TemporalFormat.Proofs.Locale.LayoutPattern
import TemporalFormat.Proofs.Format.Timestamp
import TemporalFormat.Proofs.Format.OtherDigits
import TemporalFormat.Proofs.Format.Carrying
import TemporalFormat.Proofs.Format.Faultless
import TemporalFormat.Proofs.Format.GregorianCalendar
import TemporalFormat.Proofs.Format.DurationCalls
import TemporalFormat.Proofs.Format.Composition
import TemporalFormat.Proofs.Format.Strictness
import TemporalFormat.Proofs.Calendar.Almanac
import TemporalFormat.Proofs.Moment.Interchange
import TemporalFormat.Proofs.Calendar.HijriDays
import TemporalFormat.Proofs.Calendar.WeekDate
import TemporalFormat.Proofs.Duration.Reprojection
import TemporalFormat.Proofs.Locale.Separator
import TemporalFormat.Proofs.Format.ShownDate
import TemporalFormat.Proofs.Zone.Collisions
import TemporalFormat.Proofs.Locale.Decimals
import TemporalFormat.Proofs.Format.WholeMagnitudes
import TemporalFormat.Proofs.Calendar.CountedWeeks
import TemporalFormat.Proofs.Locale.Integers
import TemporalFormat.Proofs.Format.SortedTexts
import TemporalFormat.Proofs.Format.UnitTexts
import TemporalFormat.Proofs.Locale.TagLanguage
