import VibeShield.Lib.PyDict
import VibeShield.Lib.Machine
import VibeShield.Lib.HashChain
import VibeShield.Lib.MerkleTree
import VibeShield.Python.Value
import VibeShield.Python.Runtime
import VibeShield.Security.Utils
import VibeShield.Security.Audit.Entry
import VibeShield.Security.Audit.Log
import VibeShield.Security.Audit.Import
import VibeShield.Security.Audit.Merkle
import VibeShield.Security.Audit.Run
import VibeShield.Python.Json
import VibeShield.Security.Audit.Commitment
import VibeShield.Security.Audit.Stored
import VibeShield.Security.Audit.Tamper
import VibeShield.Escrow.Model
import VibeShield.Escrow.Effect
import VibeShield.Lib.RecencyMean
import VibeShield.Escrow.Reputation
import VibeShield.Escrow.Settlement
import VibeShield.Security.Egress.Model
import VibeShield.Security.Egress.Allowlist
import VibeShield.Security.Egress.Isolation
import VibeShield.Security.Egress.Trail
import VibeShield.Security.Seccomp.Blocklist
import VibeShield.Security.Seccomp.Precedence
import VibeShield.Security.Seccomp.Reports
import VibeShield.Layer1.Host
import VibeShield.Python.Encode
import VibeShield.Layer1.OpenShell
import VibeShield.Layer1.Sandbox
import VibeShield.Layer1.Refusals
import VibeShield.Security.RateLimit.Model
import VibeShield.Security.RateLimit.Bucket
import VibeShield.Security.RateLimit.Eviction
import VibeShield.Security.RateLimit.Checks
import VibeShield.Security.RateLimit.RetryAfter
import VibeShield.Security.RateLimit.CheckAll
import VibeShield.Security.RateLimit.Window
import VibeShield.Security.RateLimit.Denials
import VibeShield.Security.RateLimit.Remaining
import VibeShield.Security.RateLimit.Stats
import VibeShield.Security.Egress.Rate
import VibeShield.Escrow.Claims
import VibeShield.Escrow.Accounting
import VibeShield.Escrow.Disputes
import VibeShield.Lib.StableSort
import VibeShield.Escrow.Board
import VibeShield.Escrow.Standing
import VibeShield.Escrow.Lifecycle
import VibeShield.Layer1.Gates
import VibeShield.Python.Regex
import VibeShield.Security.Exfil.Patterns
import VibeShield.Security.Exfil.Model
import VibeShield.Security.Exfil.Entropy
import VibeShield.Security.Exfil.Scores
import VibeShield.Security.Exfil.Keys
import VibeShield.Security.Exfil.Sampling
import VibeShield.Security.Exfil.Verdicts
import VibeShield.Layer1.Completion
import VibeShield.Layer1.Delivery
import VibeShield.Layer1.EgressRules
import VibeShield.Python.Files
import VibeShield.Security.Audit.Export
import VibeShield.Lib.Trace
import VibeShield.Lib.Paging
import VibeShield.Lib.MerkleCollision
import VibeShield.Security.Audit.Confinement
import VibeShield.Security.Audit.Lines
import VibeShield.Security.Audit.RoundTrip
import VibeShield.Security.Audit.Incremental
import VibeShield.Layer1.Outcomes
import VibeShield.Layer1.States
import VibeShield.Security.Audit.Atomicity
import VibeShield.Api.Commands
import VibeShield.Layer2.Orchestrator
import VibeShield.Layer2.Liveness
import VibeShield.Security.Image.Model
import VibeShield.Security.Image.Soundness
import VibeShield.Security.Workspace.Model
import VibeShield.Security.Workspace.Wiping
import VibeShield.Security.Workspace.Cleanup
import VibeShield.Security.Workspace.Sessions
import VibeShield.Layer1.Policy
import VibeShield.Scripts.ExitCode
import VibeShield.Security.Audit.Query
import VibeShield.Lib.Counts
import VibeShield.Security.Audit.Statistics
import VibeShield.Security.Audit.Append
import VibeShield.Security.Audit.Anchoring
import VibeShield.Security.Seccomp.Hardening
import VibeShield.Security.Injection.Patterns
import VibeShield.Security.Injection.Model
import VibeShield.Security.Injection.Scoring
import VibeShield.Security.Injection.Invisible
import VibeShield.Api.Parsing
import VibeShield.Api.Router
import VibeShield.Api.Services
import VibeShield.Layer2.Batch
import VibeShield.Layer2.Sessions
import VibeShield.Security.Egress.Limits
import VibeShield.Security.Image.Completeness
import VibeShield.Security.Image.Trust
import VibeShield.Lib.FileTree
import VibeShield.Security.Workspace.Overwriting
import VibeShield.Security.Egress.Volumes
import VibeShield.Security.Egress.Reports
import VibeShield.Layer1.Isolation
import VibeShield.Layer1.Deployments
import VibeShield.Layer1.Profiles
import VibeShield.Security.Identifiers
import VibeShield.Security.PathValidation
