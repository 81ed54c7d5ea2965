import PartialUpdate.Expansion
import PartialUpdate.Report
import PartialUpdate.Update.Description
import PartialUpdate.Document.Serialize
import PartialUpdate.Proofs.Emission.Meaning
import PartialUpdate.Proofs.Acceptance
import PartialUpdate.Proofs.Clashes
import PartialUpdate.Proofs.DeclarationOrder.Generation
import PartialUpdate.Proofs.Expansion
import PartialUpdate.Proofs.Metadata
import PartialUpdate.Proofs.Outcome
import PartialUpdate.Proofs.Overlap
import PartialUpdate.Proofs.PartialAnalysis
import PartialUpdate.Proofs.Rendering
import PartialUpdate.Proofs.TargetPath.Display
import PartialUpdate.Proofs.Emission.Isolation
import PartialUpdate.Proofs.Routing
import PartialUpdate.Proofs.Ambiguity
import PartialUpdate.Proofs.Places
import PartialUpdate.Proofs.Shadowing
import PartialUpdate.Proofs.Reports
import PartialUpdate.Proofs.DeclarationOrder.Aggregation
import PartialUpdate.Proofs.StoredNames
import PartialUpdate.Proofs.MarkerPlaces
import PartialUpdate.Proofs.Stripping
import PartialUpdate.Proofs.Accounting
import PartialUpdate.Proofs.Faults
import PartialUpdate.Proofs.Classification
import PartialUpdate.Proofs.Layout
import PartialUpdate.Proofs.BuilderRuns
import PartialUpdate.Proofs.TableEntries
