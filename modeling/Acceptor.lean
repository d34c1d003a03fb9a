import Acceptor.Builder
import Acceptor.Main
import Acceptor.Proofs.Violations
import Acceptor.Proofs.Multiplicity
import Acceptor.Proofs.Validity
import Acceptor.Proofs.Compilation
import Acceptor.Proofs.Invariant
import Acceptor.Proofs.TableTrace
import Acceptor.Proofs.PlainRun
import Acceptor.Proofs.Concatenation
import Acceptor.Proofs.Recognition
import Acceptor.Proofs.Bets
import Acceptor.Proofs.Stars.Phase
import Acceptor.Proofs.Stars
import Acceptor.Proofs.Registration
import Acceptor.Proofs.History
import Acceptor.Proofs.Json.Spelling
import Acceptor.Proofs.Json.RoundTrip
import Acceptor.Proofs.Json.Fields
import Acceptor.Proofs.Json.OneLine
import Acceptor.Proofs.Cuts
import Acceptor.Proofs.DefinitionText
import Acceptor.Proofs.TraceText
import Acceptor.Proofs.RunCommand
import Acceptor.Proofs.Conversation
import Acceptor.Proofs.Agreement
import Acceptor.Proofs.Atomicity
import Acceptor.Proofs.Reconstruction
import Acceptor.Proofs.AuditCommand
import Acceptor.Proofs.Loading
import Acceptor.Proofs.PropertiesText
import Acceptor.Proofs.Accounting
import Acceptor.Proofs.Collecting
import Acceptor.Proofs.Run
import Acceptor.Proofs.Coherence
import Acceptor.Proofs.Rejections
import Acceptor.Sorted.Image
import Acceptor.Proofs.Renaming
import Acceptor.Proofs.ReportOrder
import Acceptor.Proofs.Messages
import Acceptor.Proofs.Relaxation
import Acceptor.Proofs.Respelling
