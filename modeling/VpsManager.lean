import VpsManager.Control.SingleUse
import VpsManager.Runbook.Checks
import VpsManager.Runbook.StatLine
import VpsManager.Ssh.Resolve
import VpsManager.Connector.ScopeDigest
import VpsManager.Terminal.Output
import VpsManager.Control.Executed
import VpsManager.Control.Settled
import VpsManager.Control.Scope
import VpsManager.Connector.LedgerRuns
import VpsManager.Persistence.SafeJson
import VpsManager.Control.Addresses
import VpsManager.Terminal.Approval
import VpsManager.Store.Audit
import VpsManager.Persistence.Lease
import VpsManager.Persistence.Signals
import VpsManager.Cloudflare.EndState
import VpsManager.Cloudflare.Superseded
import VpsManager.Store.MutateJob
import VpsManager.Persistence.Paging
import VpsManager.Protocol.Signing
import VpsManager.Ssh.Session
import VpsManager.Control.ScanJob
import VpsManager.Control.KeyContext
import VpsManager.Control.Redaction
import VpsManager.Terminal.Capacity
import VpsManager.Terminal.BrowserStream
import VpsManager.Web.ControlPlaneFetch
import VpsManager.Control.Snapshot
