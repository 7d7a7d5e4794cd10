import PhaseBench.Main
import PhaseBench.Proofs.Campaign.Charts
import PhaseBench.Proofs.Campaign.Policy
import PhaseBench.Proofs.Chart.Alignment
import PhaseBench.Proofs.Chart.Caption
import PhaseBench.Proofs.Chart.Document
import PhaseBench.Proofs.Chart.Rows
import PhaseBench.Proofs.Command.Substitution
import PhaseBench.Proofs.Report.Lines
import PhaseBench.Proofs.Session.Output
import PhaseBench.Proofs.Chart.Greatest
import PhaseBench.Proofs.Chart.Ragged
import PhaseBench.Proofs.Double.Numeral
import PhaseBench.Proofs.Chart.Spacing
import PhaseBench.Proofs.Chart.Height
import PhaseBench.Proofs.Gallery.Order
import PhaseBench.Proofs.Settings.RoundTrip
import PhaseBench.Proofs.Session.Waiting
import PhaseBench.Proofs.Campaign.Inputs
import PhaseBench.Proofs.Chart.Underline
import PhaseBench.Proofs.Campaign.Message
import PhaseBench.Proofs.Host.Standard
