import LotusRisk.Lib.Table
import LotusRisk.Lib.Fencing
import LotusRisk.Lib.Json
import LotusRisk.Lib.Sha256
import LotusRisk.Lib.Effects
import LotusRisk.Lib.Emission
import LotusRisk.Lib.Reconcile
import LotusRisk.Lib.Dict
import LotusRisk.Lib.Base64
import LotusRisk.Lib.Base64Strict
import LotusRisk.Lib.JsonRoundTrip
import LotusRisk.Lib.Keyset
import LotusRisk.Lib.Noninterference
import LotusRisk.Lib.RunningPeak
import LotusRisk.Lib.MaximalRuns
import LotusRisk.Lib.Series
import LotusRisk.Lib.Precedence
import LotusRisk.Lib.Compounding
import LotusRisk.Lib.Raising
import LotusRisk.Lib.Latest
import LotusRisk.Lib.Bucketing
import LotusRisk.Lib.OrderStatistics
import LotusRisk.Lib.TokenChain
import LotusRisk.Lib.Tally
import LotusRisk.Lib.Shares
import LotusRisk.Lib.Foremost
import LotusRisk.Lib.SampleCovariance
import LotusRisk.Lib.SampleRecovery
import LotusRisk.Lib.FloatOps
import LotusRisk.Lib.Doubles
import LotusRisk.Python
import LotusRisk.PythonFloats
import LotusRisk.PythonDecimals
import LotusRisk.Scenario.Contracts
import LotusRisk.Scenario.Evaluation
import LotusRisk.Scenario.Losses
import LotusRisk.Scenario.SpecialWeights
import LotusRisk.ScenarioJobs.Identity
import LotusRisk.Security.Resolution
import LotusRisk.Security.CompactEncoding
import LotusRisk.ScenarioJobs.Service
import LotusRisk.ScenarioJobs.Admission
import LotusRisk.ScenarioJobs.Worker
import LotusRisk.ScenarioJobs.Attempts
import LotusRisk.ScenarioJobs.WorkerOutcomes
import LotusRisk.ScenarioJobs.JobRefinement
import LotusRisk.ScenarioJobs.Reading
import LotusRisk.ScenarioJobs.Paging
import LotusRisk.ScenarioJobs.Isolation
import LotusRisk.Calendar
import LotusRisk.Ordinals
import LotusRisk.Drawdown.Wealth
import LotusRisk.Drawdown.Details
import LotusRisk.Drawdown.Maximum
import LotusRisk.Drawdown.Episodes
import LotusRisk.Drawdown.Partition
import LotusRisk.Statistics
import LotusRisk.Quantile
import LotusRisk.Drawdown.Summary
import LotusRisk.Drawdown.Agreement
import LotusRisk.Drawdown.TailRisk
import LotusRisk.Risk.Contracts
import LotusRisk.Supportability.Reasons
import LotusRisk.Supportability.Periods
import LotusRisk.Supportability.Calculation
import LotusRisk.Supportability.Verdict
import LotusRisk.Supportability.Readiness
import LotusRisk.Supportability.Severity
import LotusRisk.Upstream
import LotusRisk.DateTexts
import LotusRisk.Risk.Options
import LotusRisk.Risk.Buckets
import LotusRisk.Risk.Resampling
import LotusRisk.Risk.ResampledReturns
import LotusRisk.Risk.SourceReturns
import LotusRisk.Risk.ReturnsAdmission
import LotusRisk.Risk.WindowClamping
import LotusRisk.Risk.Metrics
import LotusRisk.Risk.ValueAtRisk
import LotusRisk.Risk.Periods
import LotusRisk.Risk.Engine
import LotusRisk.Risk.LookAhead
import LotusRisk.Risk.RiskFree
import LotusRisk.Risk.RiskFreeRate
import LotusRisk.Attribution.GroupEvidence
import LotusRisk.Attribution.EvidenceErrors
import LotusRisk.Attribution.GroupEvidenceSoundness
import LotusRisk.Attribution.ActiveGroupEvidence
import LotusRisk.Attribution.ActiveGroupCompleteness
import LotusRisk.Attribution.PositionTimeseries
import LotusRisk.Attribution.BenchmarkExposure
import LotusRisk.Attribution.UpstreamPagers
import LotusRisk.Attribution.ExposurePoints
import LotusRisk.Attribution.ExposureGrouping
import LotusRisk.Attribution.ExposureOrder
import LotusRisk.Attribution.Decomposition
import LotusRisk.Attribution.TotalRisk
import LotusRisk.Attribution.WeightProxy
import LotusRisk.Concentration.Exposures
import LotusRisk.Concentration.Issuers
import LotusRisk.Concentration.Snapshot
import LotusRisk.Concentration.Metrics
import LotusRisk.Concentration.Projection
import LotusRisk.Concentration.Bounds
import LotusRisk.Enterprise.Authorization
import LotusRisk.Enterprise.CapabilityLookup
import LotusRisk.Performance.AsyncExecution
import LotusRisk.Performance.BoundedPolling
import LotusRisk.Lib.TrailingWindows
import LotusRisk.Lib.Pivot
import LotusRisk.Rolling.Contracts
import LotusRisk.Risk.StatefulRequest
import LotusRisk.Risk.SourcedRuns
import LotusRisk.Risk.MetricAgreement
import LotusRisk.Risk.PeriodIndependence
import LotusRisk.Risk.VarSamples
import LotusRisk.Risk.PeriodReports
import LotusRisk.Rolling.MetricSeries
import LotusRisk.Rolling.MetricOutputs
import LotusRisk.Rolling.SummaryCounts
import LotusRisk.Rolling.Engine
import LotusRisk.Rolling.TimeSeries
import LotusRisk.Risk.VarReports
import LotusRisk.Risk.SourcedSampling
import LotusRisk.Risk.MandateHealth
import LotusRisk.Risk.BenchmarkReports
import LotusRisk.Concentration.SessionSafety
import LotusRisk.Concentration.ModeAgreement
import LotusRisk.Enterprise.VerifiedConcentration
import LotusRisk.Rolling.WindowReports
import LotusRisk.Lib.Ranking
import LotusRisk.Drawdown.Periods
import LotusRisk.Drawdown.Reports
import LotusRisk.Supportability.RiskResults
