import Reckon.Main
import Reckon.Proofs.Bitwise
import Reckon.Proofs.CanonicalText
import Reckon.Proofs.FirstFailure
import Reckon.Proofs.FrontEnds
import Reckon.Proofs.InOrder
import Reckon.Proofs.Literals
import Reckon.Proofs.Nesting
import Reckon.Proofs.NumberTexts
import Reckon.Proofs.Outlines
import Reckon.Proofs.ParserCalls
import Reckon.Proofs.RoundTrip
import Reckon.Proofs.ScannerCalls
import Reckon.Proofs.Sessions
import Reckon.Proofs.Spacing
import Reckon.Proofs.Truncation
import Reckon.Web
