import RateGuard.Foundation.Decimal
import RateGuard.Foundation.Outcome
import RateGuard.Foundation.DecimalValue
import RateGuard.Foundation.DecimalOrder
import RateGuard.Foundation.Span
import RateGuard.Foundation.DecimalExact
import RateGuard.Foundation.DecimalGrid
import RateGuard.Foundation.DecimalLine
import RateGuard.Foundation.Clamp
import RateGuard.Foundation.Commutation
import RateGuard.Foundation.Dictionary
import RateGuard.Foundation.DecimalText
import RateGuard.Foundation.DecimalNormal
import RateGuard.Foundation.CalendarDate
import RateGuard.Foundation.TopologicalSort
import RateGuard.Foundation.DateTime
import RateGuard.Foundation.Transition
import RateGuard.Foundation.Scanning
import RateGuard.Ipir.Value
import RateGuard.Ipir.Expression
import RateGuard.Ipir.References
import RateGuard.Ipir.Package
import RateGuard.Ipir.Coverage
import RateGuard.Oracle.Errors
import RateGuard.Oracle.Expression
import RateGuard.Oracle.References
import RateGuard.Oracle.Rounding
import RateGuard.Oracle.Inputs
import RateGuard.Oracle.TableLookup
import RateGuard.Oracle.TableReference
import RateGuard.IpirV2.Expression
import RateGuard.IpirV2.Package
import RateGuard.Oracle.Ambiguity
import RateGuard.Oracle.Evaluator
import RateGuard.Oracle.Clamping
import RateGuard.Oracle.Scheduling
import RateGuard.Oracle.Independence
import RateGuard.Oracle.Charges
import RateGuard.IpirV2.Direct
import RateGuard.IpirV2.Strictness
import RateGuard.IpirV2.Lowering
import RateGuard.IpirV2.Schedule
import RateGuard.IpirV2.Phases
import RateGuard.IpirV2.Simulation
import RateGuard.IpirV2.Lowerable
import RateGuard.IpirV2.Worksheet
import RateGuard.Oracle.Congruence
import RateGuard.Oracle.PackageCongruence
import RateGuard.Oracle.Permutation
import RateGuard.Oracle.Calculator
import RateGuard.Diff.TableDiff
import RateGuard.Diff.Completeness
import RateGuard.Diff.Comparator
import RateGuard.Diff.Unchecked
import RateGuard.Diff.Soundness
import RateGuard.Diff.Reflexive
import RateGuard.Diff.Mirror
import RateGuard.Impact.Graph
import RateGuard.Impact.Predicates
import RateGuard.Impact.Slices
import RateGuard.Portfolio.Analyzer
import RateGuard.Portfolio.Soundness
import RateGuard.Portfolio.Totals
import RateGuard.Portfolio.Cohorts
import RateGuard.Portfolio.Covering
import RateGuard.Portfolio.Eligibility
import RateGuard.Portfolio.Repository
import RateGuard.Ingestion.Cells
import RateGuard.Ingestion.ControlCases
import RateGuard.Ingestion.Mapping
import RateGuard.Ingestion.Formulas
import RateGuard.Ingestion.Grammar
import RateGuard.Ingestion.Compiler
import RateGuard.Ingestion.Representation
import RateGuard.Ingestion.Hazards
import RateGuard.Ingestion.Workbook
import RateGuard.Testing.Probes
import RateGuard.Testing.InputAgreement
import RateGuard.Testing.KeyCongruence
import RateGuard.Remediation.Proposal
import RateGuard.Remediation.Revalidation
import RateGuard.Scan.Records
import RateGuard.Scan.Processor
import RateGuard.Scan.Aggregate
import RateGuard.Scan.Store
import RateGuard.Scan.Coordinator
import RateGuard.Scan.System
import RateGuard.Scan.Accounting
import RateGuard.Scan.Moves
import RateGuard.Scan.Batches
import RateGuard.Scan.Fencing
import RateGuard.Scan.Evidence
import RateGuard.Scan.Exposure
import RateGuard.Scan.Ledger
import RateGuard.Scan.Finalization
import RateGuard.Scan.Backpressure
import RateGuard.Scan.Answering
import RateGuard.Scan.Transparency
import RateGuard.Mission.Transitions
import RateGuard.Mission.Lease
import RateGuard.Mission.Process
import RateGuard.Mission.System
import RateGuard.Mission.Conduct
import RateGuard.Mission.Moves
import RateGuard.Mission.Absorption
import RateGuard.Mission.Exclusion
import RateGuard.Mission.Stranding
import RateGuard.Mission.Retrying
import RateGuard.Foundation.Precedence
import RateGuard.Reconciliation.TraceAlignment
import RateGuard.Reconciliation.RootCause
import RateGuard.Oracle.Tracing
import RateGuard.Reconciliation.Comparator
import RateGuard.Testing.Scenarios
import RateGuard.Testing.PackageProbes
import RateGuard.Testing.CandidateGenerator
import RateGuard.Testing.Planner
import RateGuard.Testing.ProbeBounds
import RateGuard.Testing.ProbeSoundness
import RateGuard.Testing.PlanBounds
import RateGuard.Testing.PlanIdentity
import RateGuard.Testing.CandidateSoundness
import RateGuard.RateLimit.Limiter
import RateGuard.RateLimit.SlotBound
import RateGuard.RateLimit.InMemory
import RateGuard.RateLimit.Equivalence
import RateGuard.Connector.Errors
import RateGuard.Connector.Security
import RateGuard.Connector.Client
import RateGuard.Scan.Breaker
import RateGuard.Scan.Remote
import RateGuard.Scan.Joining
import RateGuard.Scan.Halting
import RateGuard.Explanations.Draft
import RateGuard.Explanations.Fallback
import RateGuard.Storage.Tenancy
import RateGuard.Access.Users
import RateGuard.Access.RequestLimit
import RateGuard.Explanations.Review
import RateGuard.Explanations.Finality
import RateGuard.Storage.Artifacts
import RateGuard.Foundation.EarlyExit
import RateGuard.Supervisor.Stages
import RateGuard.Supervisor.Inputs
import RateGuard.Supervisor.Probing
import RateGuard.Supervisor.Investigation
import RateGuard.Supervisor.Run
import RateGuard.Supervisor.Release
import RateGuard.Supervisor.Accounting
import RateGuard.Supervisor.Evidence
import RateGuard.Supervisor.Course
import RateGuard.Supervisor.Closing
import RateGuard.Supervisor.Findings
import RateGuard.Supervisor.Verdict
import RateGuard.Supervisor.Decision
import RateGuard.Supervisor.Equivalence
import RateGuard.Supervisor.Advice
import RateGuard.Supervisor.Confinement
