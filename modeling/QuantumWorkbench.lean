import QuantumWorkbench.Circuit.Wire
import QuantumWorkbench.Debugger.Interleaving
import QuantumWorkbench.Main
import QuantumWorkbench.Service.Target
import QuantumWorkbench.Proofs.Debugger.Sections
import QuantumWorkbench.Proofs.Debugger.Transition
import QuantumWorkbench.Proofs.Debugger.Custody
import QuantumWorkbench.Proofs.Debugger.Provenance
import QuantumWorkbench.Proofs.Debugger.Tally
import QuantumWorkbench.Proofs.Debugger.Stale
import QuantumWorkbench.Proofs.Debugger.Course
import QuantumWorkbench.Proofs.Debugger.Continue
import QuantumWorkbench.Proofs.Debugger.Whole
import QuantumWorkbench.Proofs.Script.Words
import QuantumWorkbench.Proofs.Script.RoundTrip
import QuantumWorkbench.Proofs.Circuit.Inside
import QuantumWorkbench.Proofs.Circuit.Placement
import QuantumWorkbench.Proofs.Circuit.Index
import QuantumWorkbench.Proofs.Circuit.Span
import QuantumWorkbench.Proofs.Circuit.FirstSteps
import QuantumWorkbench.Proofs.Circuit.Construction
import QuantumWorkbench.Proofs.Simulator.Outcomes
import QuantumWorkbench.Proofs.Simulator.Pairs
import QuantumWorkbench.Proofs.Simulator.Exchange
import QuantumWorkbench.Proofs.Simulator.Order
import QuantumWorkbench.Proofs.Script.Export
import QuantumWorkbench.Proofs.Json.Record
import QuantumWorkbench.Proofs.Json.Lexing
import QuantumWorkbench.Proofs.Json.ReadBack
import QuantumWorkbench.Proofs.Circuit.Written
import QuantumWorkbench.Proofs.Circuit.Loaded
import QuantumWorkbench.Proofs.Circuit.RoundTrip
import QuantumWorkbench.Proofs.Circuit.Untrusted
import QuantumWorkbench.Proofs.Script.Lines
import QuantumWorkbench.Proofs.Script.Concatenation
import QuantumWorkbench.Proofs.Debugger.Ledger
import QuantumWorkbench.Proofs.Debugger.Requests
import QuantumWorkbench.Proofs.Debugger.Localization
import QuantumWorkbench.Proofs.Debugger.Publication
import QuantumWorkbench.Proofs.Simulator.Incremental
import QuantumWorkbench.Proofs.Simulator.Simultaneous
import QuantumWorkbench.Proofs.Simulator.Reordering
import QuantumWorkbench.Proofs.Script.Grammar
import QuantumWorkbench.Proofs.Debugger.Breakpoints
import QuantumWorkbench.Proofs.Console.Prompt
import QuantumWorkbench.Proofs.Simulator.Measurement
import QuantumWorkbench.Proofs.Simulator.Classical
import QuantumWorkbench.Proofs.Simulator.Guarded
import QuantumWorkbench.Proofs.Simulator.Bounds
import QuantumWorkbench.Proofs.Script.Dialects
import QuantumWorkbench.Proofs.Circuit.FirstRefusal
import QuantumWorkbench.Proofs.Service.Delivery
import QuantumWorkbench.Proofs.Json.SingleField
import QuantumWorkbench.Proofs.Service.Refusal
import QuantumWorkbench.Proofs.Script.Layout
import QuantumWorkbench.Proofs.Evaluation.Ranking
import QuantumWorkbench.Proofs.Decimal.WordsAsDoubles
import QuantumWorkbench.Proofs.Evaluation.Total
import QuantumWorkbench.Proofs.Settings.Sound
import QuantumWorkbench.Proofs.Settings.Overrides
import QuantumWorkbench.Proofs.Settings.Token
import QuantumWorkbench.Proofs.Console.Sending
import QuantumWorkbench.Proofs.Console.Credential
import QuantumWorkbench.Proofs.Console.Verdict
