import ClassLayout.Config
import ClassLayout.Proofs.Config
import ClassLayout.Proofs.Config.Presentation
import ClassLayout.Proofs.Identifier.Descriptor
import ClassLayout.Proofs.Name.Fit
import ClassLayout.Proofs.Tree.DeviceNames
import ClassLayout.Proofs.Tree.Caseless
import ClassLayout.Proofs.Tree.Containment
import ClassLayout.Proofs.Tree.Counting
import ClassLayout.Proofs.Tree.Embedding
import ClassLayout.Proofs.Tree.Interview
import ClassLayout.Proofs.Tree.Numbering
import ClassLayout.Proofs.Tree.PlainNames
import ClassLayout.Proofs.Tree.Reachable
import ClassLayout.Proofs.Tree.Stability
import ClassLayout.Proofs.Tree.Subtree
import ClassLayout.Proofs.Volume.CaseProbe
import ClassLayout.Proofs.Volume.CaseVerdict
import ClassLayout.Proofs.Volume.ReservedProbe
import ClassLayout.Proofs.Volume.Document
import ClassLayout.Proofs.Identifier.Forms
import ClassLayout.Tree
import ClassLayout.Volume.Document
import ClassLayout.Volume.Probe
import ClassLayout.Proofs.Name.Cursors
import ClassLayout.Proofs.Name.Nested
import ClassLayout.Proofs.Tree.Bookkeeping
import ClassLayout.Proofs.Volume.Nearest
import ClassLayout.Proofs.Location
