import CausalCast.Cluster
import CausalCast.CommandLine
import CausalCast.Files
import CausalCast.Live
import CausalCast.Main
import CausalCast.Participant
import CausalCast.Proofs.Copies
import CausalCast.Proofs.Dependencies
import CausalCast.Proofs.Ensemble.Agreement
import CausalCast.Proofs.Ensemble.CausalOrder
import CausalCast.Proofs.Ensemble.Chronicle
import CausalCast.Proofs.Ensemble.Completeness
import CausalCast.Proofs.Ensemble.Convergence
import CausalCast.Proofs.Ensemble.Handling
import CausalCast.Proofs.Ensemble.Invariant
import CausalCast.Proofs.Ensemble.Runs
import CausalCast.Proofs.Ensemble.Soundness
import CausalCast.Proofs.Ensemble.Steps
import CausalCast.Proofs.Ensemble.Uniformity
import CausalCast.Proofs.Funnel.Completion
import CausalCast.Proofs.Funnel.Delivery
import CausalCast.Proofs.Funnel.Invariant
import CausalCast.Proofs.Funnel.Progress
import CausalCast.Proofs.Funnel.Runs
import CausalCast.Proofs.Funnel.Soundness
import CausalCast.Proofs.Funnel.Steps
import CausalCast.Proofs.Link.Exchanges
import CausalCast.Proofs.Link.Loops
import CausalCast.Proofs.Link.Progress
import CausalCast.Proofs.Link.Retention
import CausalCast.Proofs.Link.Traffic
import CausalCast.Proofs.Members
import CausalCast.Proofs.Node.Effects
import CausalCast.Proofs.Node.Handling
import CausalCast.Proofs.Streams
import CausalCast.Proofs.Tracker.Completeness
import CausalCast.Proofs.Tracker.Confluence
import CausalCast.Proofs.Tracker.Consistency
import CausalCast.Proofs.Tracker.Deliveries
import CausalCast.Proofs.Tracker.Guarantees
import CausalCast.Proofs.Tracker.Hearings
import CausalCast.Proofs.Tracker.Immediate
import CausalCast.Proofs.Tracker.Releases
import CausalCast.Proofs.Tracker.Tables
import CausalCast.Proofs.Tracker.Totals
import CausalCast.Proofs.Tracker.Gate
import CausalCast.Proofs.Link.Accounts
import CausalCast.Proofs.Node.Race
import CausalCast.Proofs.Node.Relays
import CausalCast.Proofs.Link.Probe
import CausalCast.Proofs.Datagrams
import CausalCast.Proofs.Tracker.Quorum
import CausalCast.Proofs.Ensemble.Announcements
import CausalCast.Proofs.Tracker.FirstTestimony
import CausalCast.Proofs.Tracker.Storage
import CausalCast.Proofs.Tracker.Answers
import CausalCast.Proofs.Tracker.Numbers
import CausalCast.Proofs.Link.Steps
import CausalCast.Proofs.Link.Journeys
import CausalCast.Proofs.Link.Retirement
import CausalCast.Proofs.Link.Deadlines
import CausalCast.Proofs.Link.Punctuality
import CausalCast.Proofs.Link.Dispatch
import CausalCast.Proofs.Node.Reception
import CausalCast.Proofs.Node.Listening
import CausalCast.Proofs.Membership.Admission
import CausalCast.Proofs.Link.Responses
import CausalCast.Proofs.Text.Numerals
import CausalCast.Proofs.Text.Layout
import CausalCast.Proofs.Outcomes
import CausalCast.Proofs.Address.Literals
import CausalCast.Proofs.Membership.Listing
import CausalCast.Proofs.Config.Reading
import CausalCast.Proofs.Output.Draining
import CausalCast.Proofs.Text.Newlines
import CausalCast.Proofs.Output.Lines
import CausalCast.Proofs.Passage
import CausalCast.Proofs.Node.Operations
import CausalCast.Proofs.Node.Bystanders
import CausalCast.Proofs.Node.Producer
import CausalCast.Proofs.Node.Production
import CausalCast.Proofs.Node.Workload
import CausalCast.Proofs.Node.Backpressure
import CausalCast.Proofs.Simulation
import CausalCast.Proofs.Edges
import CausalCast.Proofs.Tracker.Worklist
