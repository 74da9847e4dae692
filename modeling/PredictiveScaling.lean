import PredictiveScaling.Cluster.Kubernetes
import PredictiveScaling.Main
import PredictiveScaling.Metric.Written
import PredictiveScaling.Remote.Session
import PredictiveScaling.Sample.Written
import PredictiveScaling.Simulation.Actions
import PredictiveScaling.Source.Prometheus
import PredictiveScaling.Workload.Written
import PredictiveScaling.Proofs.Scaling.Decision
import PredictiveScaling.Proofs.Scaling.History
import PredictiveScaling.Proofs.Scaling.Bounds
import PredictiveScaling.Proofs.Scaling.Window
import PredictiveScaling.Proofs.Scaling.Action
import PredictiveScaling.Proofs.Scaling.Delay
import PredictiveScaling.Proofs.Scaling.Failure
import PredictiveScaling.Proofs.Scaling.Steadiness
import PredictiveScaling.Proofs.Evaluation.Groups
import PredictiveScaling.Proofs.Replicas.Fold
import PredictiveScaling.Proofs.Evaluation.Goal
import PredictiveScaling.Proofs.Evaluation.Round
import PredictiveScaling.Proofs.Evaluation.Visit
import PredictiveScaling.Proofs.Evaluation.Advance
import PredictiveScaling.Proofs.Evaluation.Tick
import PredictiveScaling.Proofs.Evaluation.Outcome
import PredictiveScaling.Proofs.Evaluation.Protection
import PredictiveScaling.Proofs.Evaluation.Aim
import PredictiveScaling.Proofs.Evaluation.Repetition
import PredictiveScaling.Proofs.Remote.Lifecycle
import PredictiveScaling.Proofs.Store.Coherence
import PredictiveScaling.Proofs.Controller.Inventory
import PredictiveScaling.Proofs.Controller.Install
import PredictiveScaling.Proofs.Controller.Consistency
import PredictiveScaling.Proofs.Controller.Removal
import PredictiveScaling.Proofs.Evaluation.Report
import PredictiveScaling.Proofs.Evaluation.Isolation
import PredictiveScaling.Proofs.Evaluation.Target
import PredictiveScaling.Proofs.Evaluation.Demand
import PredictiveScaling.Proofs.Evaluation.Reordering
import PredictiveScaling.Proofs.Collector.Ledger
import PredictiveScaling.Proofs.Forecast.Horizon
import PredictiveScaling.Proofs.Remote.Flag
import PredictiveScaling.Proofs.Health.Component
import PredictiveScaling.Proofs.Health.Rota
import PredictiveScaling.Proofs.Health.Watch
import PredictiveScaling.Proofs.Health.Presence
import PredictiveScaling.Proofs.Health.Succession
import PredictiveScaling.Proofs.Health.Separation
import PredictiveScaling.Proofs.Store.Records
import PredictiveScaling.Proofs.Controller.Trainings
import PredictiveScaling.Proofs.Controller.Records
import PredictiveScaling.Proofs.Forecast.Course
import PredictiveScaling.Proofs.Forecast.Exact
import PredictiveScaling.Proofs.Remote.Exclusion
import PredictiveScaling.Proofs.Metric.Key
import PredictiveScaling.Proofs.Controller.Identity
import PredictiveScaling.Proofs.Decimal.Exact
import PredictiveScaling.Proofs.Forecast.Acceptance
import PredictiveScaling.Proofs.Controller.Sufficiency
import PredictiveScaling.Proofs.Controller.Siblings
import PredictiveScaling.Proofs.Store.Removal
import PredictiveScaling.Proofs.Controller.Exactness
import PredictiveScaling.Proofs.Evaluation.Capacity
import PredictiveScaling.Proofs.Remote.Withdrawal
import PredictiveScaling.Proofs.Controller.Withdrawal
import PredictiveScaling.Proofs.Json.Literal
import PredictiveScaling.Proofs.Json.Numeral
import PredictiveScaling.Proofs.Json.Rendering
import PredictiveScaling.Proofs.Json.Fields
import PredictiveScaling.Proofs.Remote.Framing
import PredictiveScaling.Proofs.Remote.Verdict
import PredictiveScaling.Proofs.Remote.Completion
import PredictiveScaling.Proofs.Decimal.Finite
import PredictiveScaling.Proofs.Json.Range
import PredictiveScaling.Proofs.Json.Settling
import PredictiveScaling.Proofs.Json.Stability
import PredictiveScaling.Proofs.Controller.Agenda
import PredictiveScaling.Proofs.Controller.Occupation
import PredictiveScaling.Proofs.Controller.Moves
import PredictiveScaling.Proofs.Abstract.Pace
import PredictiveScaling.Proofs.Controller.Notes
import PredictiveScaling.Proofs.Controller.PaceRefinement
import PredictiveScaling.Proofs.Abstract.Duty
import PredictiveScaling.Proofs.Controller.DutyRefinement
import PredictiveScaling.Proofs.Controller.Shutdown
import PredictiveScaling.Proofs.Replicas.Envelope
import PredictiveScaling.Proofs.Metric.Origin
import PredictiveScaling.Proofs.Source.Prometheus
import PredictiveScaling.Proofs.Http.Listing
