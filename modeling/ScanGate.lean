import ScanGate.Main
import ScanGate.Proofs.Clearance
import ScanGate.Proofs.Client.Address
import ScanGate.Proofs.Client.Upload
import ScanGate.Proofs.CommandLine.Choices
import ScanGate.Proofs.Digest
import ScanGate.Proofs.Evaluation.Locality
import ScanGate.Proofs.Evaluation.Standing
import ScanGate.Proofs.Fingerprint
import ScanGate.Proofs.Gate.Calls
import ScanGate.Proofs.Gate.Outcome
import ScanGate.Proofs.Gate.Warnings
import ScanGate.Proofs.Leniency
import ScanGate.Proofs.PasteBack
import ScanGate.Proofs.ProductId.Numbered
import ScanGate.Proofs.ProductId.Places
import ScanGate.Proofs.Report.Presentation
import ScanGate.Proofs.Report.Writing
import ScanGate.Proofs.Recording
import ScanGate.Proofs.Run.Delivery
import ScanGate.Proofs.Run.HandOver
import ScanGate.Proofs.Run.Secrecy
import ScanGate.Proofs.Run.Supply
import ScanGate.Proofs.Submission
import ScanGate.Proofs.Text.Split
import ScanGate.Proofs.Triage
import ScanGate.Proofs.View.Account
import ScanGate.Proofs.View.Colors
import ScanGate.Proofs.View.Image
import ScanGate.Proofs.View.Lines
import ScanGate.Proofs.View.Status
import ScanGate.Proofs.Waivers.Form
