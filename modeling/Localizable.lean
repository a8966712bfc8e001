import Localizable.Main
import Localizable.Workspace
import Localizable.Proofs.Layout
import Localizable.Proofs.Segmentation
import Localizable.Proofs.TokenReading
import Localizable.Proofs.LayoutMeaning
import Localizable.Proofs.LayoutOfTokens
import Localizable.Proofs.MessageOfLayout
import Localizable.Proofs.RoundTrip
import Localizable.Proofs.Renderings
import Localizable.Proofs.FirstMatch
import Localizable.Proofs.JoinedBodies
import Localizable.Proofs.Tiling
import Localizable.Proofs.Mentions
import Localizable.Proofs.Declarations
import Localizable.Proofs.Histories
import Localizable.Proofs.Commands
import Localizable.Proofs.ShownDigits
import Localizable.Proofs.ShownPlurals
import Localizable.Proofs.WholeNumbers
import Localizable.Proofs.DigitOptions
import Localizable.Proofs.ReadBack
import Localizable.Proofs.Integers
import Localizable.Proofs.DigitLayers
import Localizable.Proofs.DanglingNames
import Localizable.Proofs.Streaming
import Localizable.Proofs.ErrorPlaces
import Localizable.Proofs.Glossaries
import Localizable.Proofs.Suggestions
import Localizable.Proofs.RememberedRules
import Localizable.Proofs.Scanning
