import LinkedAccess.Authorize
import LinkedAccess.Interchange.Configuration
import LinkedAccess.Interchange.Credentials
import LinkedAccess.Interchange.Graph
import LinkedAccess.Interchange.Permission
import LinkedAccess.Storage.Observed
import LinkedAccess.Triples.Render
import LinkedAccess.Proofs.Policy.Meaning
import LinkedAccess.Proofs.WebAccess.Batch
import LinkedAccess.Proofs.WebAccess.Meaning
import LinkedAccess.Proofs.WebAccess.Vanishing
import LinkedAccess.Proofs.Policy.Denial
import LinkedAccess.Proofs.Policy.Batch
import LinkedAccess.Proofs.Control
import LinkedAccess.Proofs.WebAccess.Outside
import LinkedAccess.Proofs.Triples.Lines
import LinkedAccess.Proofs.Triples.RoundTrip
import LinkedAccess.Proofs.Policy.Accesses
import LinkedAccess.Proofs.WebAccess.Agents
import LinkedAccess.Proofs.Interview
import LinkedAccess.Proofs.WebAccess.Asking
import LinkedAccess.Proofs.WebAccess.Accesses
import LinkedAccess.Proofs.WebAccess.Discipline
import LinkedAccess.Proofs.Rounds
import LinkedAccess.Proofs.Deployment
import LinkedAccess.Proofs.Policy.Identities
import LinkedAccess.Proofs.Policy.Labels
import LinkedAccess.Proofs.Triples.Composition
import LinkedAccess.Proofs.Authorization
import LinkedAccess.Proofs.Construction
import LinkedAccess.Proofs.Policy.Decoding
import LinkedAccess.Proofs.Caching
import LinkedAccess.Proofs.WebAccess.Nesting
