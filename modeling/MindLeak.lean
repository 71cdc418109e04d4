import MindLeak.Proofs.Exclusivity
import MindLeak.Proofs.Log
import MindLeak.Proofs.Windows
import MindLeak.Proofs.Shape
import MindLeak.Proofs.Cap
import MindLeak.Proofs.Exceptions
import MindLeak.Proofs.Scope
import MindLeak.Proofs.TaskScopes
import MindLeak.Proofs.Waits
import MindLeak.Proofs.Plans
import MindLeak.Proofs.FreshStart
import MindLeak.Proofs.Isolation
import MindLeak.Proofs.Handshake
import MindLeak.Proofs.Revocation
import MindLeak.Proofs.Acknowledgement
import MindLeak.Proofs.Duplicates
import MindLeak.Proofs.Overlap
import MindLeak.Proofs.Activations
import MindLeak.Proofs.Releases
import MindLeak.Proofs.CommandRetries
import MindLeak.Proofs.DirectiveReports
import MindLeak.Proofs.Outbox
import MindLeak.Proofs.Positions
import MindLeak.Proofs.Bundles
import MindLeak.Proofs.SignalCalls
import MindLeak.Proofs.DelegationUses
import MindLeak.Proofs.KnowledgeLifecycle
import MindLeak.Proofs.Migrations
import MindLeak.Proofs.Checkpoints
import MindLeak.Proofs.Interruptions
import MindLeak.Proofs.Prunes
import MindLeak.Proofs.Reconciliations
import MindLeak.Proofs.WaitCycles
import MindLeak.Proofs.ClauseDiffs
import MindLeak.Proofs.SourcedLessons
import MindLeak.Proofs.TransferRings
import MindLeak.Proofs.DesignActs
import MindLeak.Proofs.Imports
import MindLeak.Proofs.Embeddings
import MindLeak.Proofs.ContextPackets
import MindLeak.Proofs.Contexts
import MindLeak.Proofs.Reinforcements
import MindLeak.Proofs.RelativeImports
import MindLeak.Proofs.Roots
import MindLeak.Proofs.SingleProbe
