import RecordQuery.Catalog.Cluster
import RecordQuery.Catalog.Deployment
import RecordQuery.Listing.Answer
import RecordQuery.Proofs.BlankParts
import RecordQuery.Proofs.ConstantIdentifiers
import RecordQuery.Proofs.FieldReadings
import RecordQuery.Proofs.FilterMeaning
import RecordQuery.Proofs.FilterWriting
import RecordQuery.Proofs.HiddenData
import RecordQuery.Proofs.KindSafety
import RecordQuery.Proofs.LetterCase
import RecordQuery.Proofs.ListAnswer
import RecordQuery.Proofs.PageBounds
import RecordQuery.Proofs.RawSpelling
import RecordQuery.Proofs.RejectionMessages
import RecordQuery.Proofs.SelectionLog
import RecordQuery.Proofs.SelectionPlaces
import RecordQuery.Proofs.SnakeCase
import RecordQuery.Proofs.SortingReading
import RecordQuery.Proofs.SortingWriting
import RecordQuery.Proofs.SplitAnnotations
import RecordQuery.Proofs.StageRuns
import RecordQuery.Proofs.StarMatching
import RecordQuery.Proofs.TextContainment
import RecordQuery.Proofs.ValueWriting
import RecordQuery.Proofs.WireForms
import RecordQuery.Schema.Expansion
