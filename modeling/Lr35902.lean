import Lr35902.Lcd
import Lr35902.Main
import Lr35902.Proofs.Assembly.Agreement
import Lr35902.Proofs.Diagnosis
import Lr35902.Proofs.Footprint
import Lr35902.Proofs.Operations
import Lr35902.Proofs.Dependence
import Lr35902.Proofs.Control
import Lr35902.Proofs.Stack
import Lr35902.Proofs.Sweep
import Lr35902.Proofs.FlagHistory
import Lr35902.Proofs.Log
import Lr35902.Proofs.Endings
import Lr35902.Proofs.Lengths
import Lr35902.Proofs.Multibyte.Decimal
import Lr35902.Proofs.Multibyte.Shift
import Lr35902.Proofs.Assembly.Encoding
import Lr35902.Proofs.Multibyte.Wide
import Lr35902.Proofs.Listing
import Lr35902.Proofs.MemoryDump
import Lr35902.Proofs.Report
import Lr35902.Proofs.Image
import Lr35902.Proofs.Title
import Lr35902.Proofs.CommandLine
import Lr35902.Proofs.ByteOrder
import Lr35902.Proofs.Handlers
