import TemplateAudit.Engine
import TemplateAudit.Files
import TemplateAudit.Proofs.CasedLines
import TemplateAudit.Proofs.CatalogShape
import TemplateAudit.Proofs.ComplementarySelections
import TemplateAudit.Proofs.DistinctKeys
import TemplateAudit.Proofs.EqualDocuments
import TemplateAudit.Proofs.EvaluationMeaning
import TemplateAudit.Proofs.GuardNarrowing
import TemplateAudit.Proofs.IntegerComparison
import TemplateAudit.Proofs.LayoutIndependence
import TemplateAudit.Proofs.LetterCase
import TemplateAudit.Proofs.MemberOrder
import TemplateAudit.Proofs.NearestLine
import TemplateAudit.Proofs.Negation
import TemplateAudit.Proofs.PathComposition
import TemplateAudit.Proofs.RecasedRules
import TemplateAudit.Proofs.RecordRoundTrip
import TemplateAudit.Proofs.ReportedPlaces
import TemplateAudit.Proofs.ResourceChains
import TemplateAudit.Proofs.SilentFailures
import TemplateAudit.Proofs.SourceLines
import TemplateAudit.Proofs.UnknownIds
import TemplateAudit.Proofs.Violations
import TemplateAudit.Proofs.WorkerOrder
import TemplateAudit.Proofs.WrittenLocations
