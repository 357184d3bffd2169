import StorageConfig.Api.Server
import StorageConfig.Controller
import StorageConfig.Http.Script
import StorageConfig.Json.Reader
import StorageConfig.Main
import StorageConfig.Memory.World
import StorageConfig.Metrics.Exposition
import StorageConfig.Proofs.Concurrency.Exclusion
import StorageConfig.Proofs.Concurrency.LostUpdate
import StorageConfig.Proofs.Pass.Effect
import StorageConfig.Proofs.Pass.Settling
import StorageConfig.Proofs.Converge.SingleController
import StorageConfig.Proofs.Pass.Atomicity
import StorageConfig.Proofs.Api.Client
import StorageConfig.Proofs.Api.Protocol
import StorageConfig.Proofs.Api.ConfigMapServer
import StorageConfig.Proofs.Api.Refinement
import StorageConfig.Proofs.Pass.Detection
import StorageConfig.Proofs.Pass.Dependents
import StorageConfig.Proofs.Http.Form
import StorageConfig.Proofs.Selector.Grammar
import StorageConfig.Proofs.Selector.RoundTrip
import StorageConfig.Proofs.Api.Replacement
import StorageConfig.Proofs.Controller
import StorageConfig.Proofs.Metrics
import StorageConfig.Proofs.Metrics.Accounting
import StorageConfig.Proofs.Pass.Staleness
import StorageConfig.Proofs.Pass.Independence
import StorageConfig.Proofs.RoundTrip
import StorageConfig.Proofs.StorageCluster.Undeclared
import StorageConfig.Proofs.Ownership.Controllers
import StorageConfig.Proofs.Selector.Terms
import StorageConfig.Proofs.Selector.Acceptance
import StorageConfig.Proofs.Converge.Refusal
import StorageConfig.Proofs.Converge.Update
import StorageConfig.Proofs.Restart
import StorageConfig.Proofs.Memory.Restart
import StorageConfig.Proofs.FailureDomain
