import EventChannel.Action
import EventChannel.ActionTable
import EventChannel.Bitmap
import EventChannel.Channels
import EventChannel.Client
import EventChannel.Config
import EventChannel.Error
import EventChannel.Event
import EventChannel.Fault
import EventChannel.Guest.Allocation
import EventChannel.Guest.Binding
import EventChannel.Guest.Deferred
import EventChannel.Guest.Lifecycle
import EventChannel.Guest.Queue
import EventChannel.Guest.Scan
import EventChannel.Guest.Snapshot
import EventChannel.Hypercall
import EventChannel.InterruptLine
import EventChannel.Notice
import EventChannel.Operation
import EventChannel.Operation.Run
import EventChannel.PassOutcome
import EventChannel.Platform
import EventChannel.Port
import EventChannel.Proofs.ActionTable
import EventChannel.Proofs.Announced
import EventChannel.Proofs.Assertion
import EventChannel.Proofs.Conservation
import EventChannel.Proofs.Conservation.Balance
import EventChannel.Proofs.Conservation.Deliveries
import EventChannel.Proofs.Conservation.Dispatch
import EventChannel.Proofs.Conservation.Events
import EventChannel.Proofs.Conservation.Page
import EventChannel.Proofs.CurrentBinding
import EventChannel.Proofs.CurrentBinding.Invariant
import EventChannel.Proofs.CurrentBinding.Table
import EventChannel.Proofs.DeferredWork
import EventChannel.Proofs.DeferredWork.Invariant
import EventChannel.Proofs.DeferredWork.Pass
import EventChannel.Proofs.DeferredWork.Table
import EventChannel.Proofs.History
import EventChannel.Proofs.Keeping.Binding
import EventChannel.Proofs.Keeping.Lifecycle
import EventChannel.Proofs.Keeping.Operation
import EventChannel.Proofs.Keeping.Scan
import EventChannel.Proofs.SharedPage
import EventChannel.Proofs.Wakeup
import EventChannel.Proofs.Wakeup.Invariant
import EventChannel.Proofs.Wakeup.Pass
import EventChannel.Scenario
import EventChannel.Scenario.Bench
import EventChannel.Scenario.Change
import EventChannel.Scenario.Step
import EventChannel.SharedPage
import EventChannel.SharedPage.Layout
import EventChannel.Slot
import EventChannel.Text.Prefix
import EventChannel.Text.Printable
import EventChannel.Text.Quoted
import EventChannel.Word
import EventChannel.Proofs.WorkAccount.Ledger
import EventChannel.Proofs.WorkAccount.Table
import EventChannel.Proofs.WorkAccount
import EventChannel.Proofs.Independence.Locality
import EventChannel.Proofs.Independence
import EventChannel.Proofs.Erasure.Steps
import EventChannel.Proofs.Erasure
import EventChannel.Proofs.Teardown.Invariant
import EventChannel.Proofs.Teardown.Table
import EventChannel.Proofs.Teardown
import EventChannel.Proofs.Arrival
import EventChannel.Proofs.DeferredPass
import EventChannel.Proofs.Batching.Page
import EventChannel.Proofs.Batching
import EventChannel.Proofs.Invocation
import EventChannel.Proofs.Deeds.Record
import EventChannel.Proofs.Deeds.Steps
import EventChannel.Proofs.Deeds
import EventChannel.Proofs.CurrentBinding.Settlement
import EventChannel.Proofs.BoundedPass.Steps
import EventChannel.Proofs.BoundedPass
import EventChannel.Proofs.Bounds
import EventChannel.Proofs.LifecycleState
import EventChannel.Proofs.ReaderIsolation
import EventChannel.Proofs.ScannerPass.Broadcast
import EventChannel.Proofs.SuspendBroadcast
import EventChannel.Proofs.LifecycleState.Flags
import EventChannel.Proofs.Quiescence
import EventChannel.Proofs.WorkOrigin.Invariant
import EventChannel.Proofs.WorkOrigin.Table
import EventChannel.Proofs.WorkOrigin.Rebinding
import EventChannel.Proofs.WorkOrigin
import EventChannel.Proofs.DrainedQueue
import EventChannel.Proofs.Contention
import EventChannel.Proofs.RefusedBinding
import EventChannel.Proofs.InterruptedReset
import EventChannel.Proofs.Description.Truncation
import EventChannel.Proofs.Description.Invariant
import EventChannel.Proofs.Description.Table
import EventChannel.Proofs.Description
import EventChannel.Proofs.PortCustody.Allotment
import EventChannel.Proofs.PortCustody.Account
import EventChannel.Proofs.PortCustody.Settlement
import EventChannel.Proofs.PortCustody.Answer
import EventChannel.Proofs.PortCustody
import EventChannel.Proofs.Addressing
