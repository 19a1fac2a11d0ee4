import CiaoHost.Lib.JsonSize
import CiaoHost.Lib.KeyedMap
import CiaoHost.Protocol.Tokens
import CiaoHost.Protocol.Timeline
import CiaoHost.Protocol.Interaction
import CiaoHost.Protocol.Snapshot
import CiaoHost.Protocol.Reducer
import CiaoHost.Protocol.Fit
import CiaoHost.Session.Input
import CiaoHost.Session.State
import CiaoHost.Session.Publish
import CiaoHost.Session.Append
import CiaoHost.Session.Change
import CiaoHost.Session.SnapshotNumbering
import CiaoHost.Session.ReconcileNumbering
import CiaoHost.Session.SoundRun
import CiaoHost.Session.NumberedRun
import CiaoHost.Session.CoherentRun
import CiaoHost.Session.FollowsRun
import CiaoHost.Session.StoreFailure
import CiaoHost.Protocol.Deliveries
import CiaoHost.Pairing.Authorised
import CiaoHost.Session.RegisterFrame
import CiaoHost.Codex.DrawnOnce
import CiaoHost.Codex.Ownership
import CiaoHost.Codex.Handover
import CiaoHost.Codex.Subscription
import CiaoHost.Codex.Terminals
import CiaoHost.Bridge.Unwound
import CiaoHost.Daemon.Leases
import CiaoHost.Notify.Bounded
import CiaoHost.Notify.Gate
import CiaoHost.Codex.CarriedRun
import CiaoHost.Upload.Published
import CiaoHost.Upload.Reads
import CiaoHost.Upload.Retained
import CiaoHost.Upload.SafeNames
import CiaoHost.Protocol.ReducerValid
import CiaoHost.Session.Page
import CiaoHost.Hook.Preview
import CiaoHost.Managed.Store
import CiaoHost.Session.Renumbering
import CiaoHost.Session.PlanProtects
import CiaoHost.Session.Idempotent
import CiaoHost.Devices.Reload
import CiaoHost.Managed.Presented
import CiaoHost.Storage.AtomicWrite
import CiaoHost.Pairing.Offers
import CiaoHost.Protocol.FitLeast
import CiaoHost.Protocol.EntryBody
import CiaoHost.Session.Streamed
import CiaoHost.Session.ReceiptsAgree
import CiaoHost.Codex.Delivery
import CiaoHost.Codex.Watches
import CiaoHost.Codex.OwnRows
import CiaoHost.Codex.Growth
import CiaoHost.Codex.InStep
import CiaoHost.Release.Signature
