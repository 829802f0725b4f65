import TrackSearch.Main
import TrackSearch.Proofs.Expression.Token
import TrackSearch.Proofs.Expression.Feed
import TrackSearch.Proofs.Expression.TokenReading
import TrackSearch.Proofs.Expression.RoundTrip
import TrackSearch.Proofs.Query.Condition
import TrackSearch.Proofs.Query.Meaning
import TrackSearch.Proofs.Query.Negation
import TrackSearch.Proofs.Expression.Growth
import TrackSearch.Proofs.Expression.Quote
import TrackSearch.Proofs.Query.Nesting
import TrackSearch.Proofs.Query.Shape
import TrackSearch.Proofs.Query.Fault
import TrackSearch.Proofs.Catalog.FieldSet
import TrackSearch.Proofs.Query.Support
import TrackSearch.Proofs.Json.Document
import TrackSearch.Proofs.Calendar.DayNumber
import TrackSearch.Proofs.Calendar.Instant
import TrackSearch.Proofs.DateValue.Range
import TrackSearch.Proofs.Number.Digits
import TrackSearch.Proofs.DateFormat.Reader
import TrackSearch.Proofs.DateValue.Written
import TrackSearch.Proofs.Calendar.Moment
import TrackSearch.Proofs.DateFormat.Mismatch
import TrackSearch.Proofs.DateValue.Amount
import TrackSearch.Proofs.DateValue.DayMonth
import TrackSearch.Proofs.DateValue.Resolver
import TrackSearch.Proofs.DateValue.CountingBack
import TrackSearch.Proofs.DateValue.Spelling
import TrackSearch.Proofs.DateValue.Comparison
import TrackSearch.Proofs.Query.Exclusion
import TrackSearch.Proofs.Expression.Sign
import TrackSearch.Proofs.Expression.PlainWords
import TrackSearch.Proofs.Expression.Juxtaposition
import TrackSearch.Proofs.Expression.Occurrence
import TrackSearch.Proofs.Expression.Settled
import TrackSearch.Proofs.Query.Outline
import TrackSearch.Proofs.Expression.Separator
import TrackSearch.Proofs.Expression.UnclosedQuote
import TrackSearch.Proofs.Number.Numeral
import TrackSearch.Proofs.Query.WholeNumber
import TrackSearch.Proofs.Number.Binary64
import TrackSearch.Proofs.Number.Decimal
import TrackSearch.Proofs.Number.Rounding
import TrackSearch.Proofs.Query.SizeWindow
import TrackSearch.Proofs.Command.Palette
import TrackSearch.Proofs.Catalog.FieldName
import TrackSearch.Proofs.Catalog.NamedSet
import TrackSearch.Proofs.DateValue.Phrase
import TrackSearch.Proofs.Query.Indentation
import TrackSearch.Proofs.Expression.Invariant
import TrackSearch.Proofs.Catalog.Flags
import TrackSearch.Proofs.Catalog.History
import TrackSearch.Proofs.DateFormat.TimeOfDay
import TrackSearch.Proofs.Catalog.FileType
import TrackSearch.Proofs.Query.FieldValue
