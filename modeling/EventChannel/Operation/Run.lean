import EventChannel.Guest.Deferred
import EventChannel.Guest.Lifecycle
import EventChannel.Guest.Scan
import EventChannel.Operation

namespace EventChannel

variable {σ : Type} (P : Platform σ)

namespace PageOperation

open Guest

/-- Lets the observer see an event about a word of the page, if it happened. -/
def emitIf (happened : Bool) (word : Nat) (event : Fin 64 → Event) : Guest σ Unit :=
  if h : happened ∧ word < 64 then emit P (event ⟨word, h.2⟩) else return

def run : PageOperation → Guest σ Report
  | mask port => return .truth (← onPage (PageM.mask port))
  | unmask port => return .truth (← onPage (PageM.unmask port))
  | isMasked port => return .truth ((← channels).page.isMasked port)
  | isPending port => return .truth ((← channels).page.isPending port)
  | clear port => do
    let cleared ← onPage (PageM.clear port)
    emitIf P cleared port.word fun w => .discarded w port.bit
    return .truth cleared
  | unmaskAt word bit => return .truth (← onPage (PageM.unmaskAt word bit))
  | clearAt word bit => do
    let cleared ← onPage (PageM.clearAt word bit)
    emitIf P cleared word fun w => .discarded w bit
    return .truth cleared
  | ready word => return .word (← onPage (PageM.ready word))
  | maskAll => do
    modifyPage fun s => s.maskAll
    return .done
  | clearAll => do
    let pending := (← channels).page.pending
    modifyPage fun s => s.clearPendingAll
    emit P (.pendingDropped pending)
    return .done
  | alert port vcpu => do
    onPage (PageM.alert port vcpu)
    return .done
  | raise port vcpu => do
    let raised ← onPage (PageM.raise port vcpu)
    emitIf P raised port.word fun w => .raised w port.bit
    return .truth raised
  | raiseAt word bit vcpu => do
    let raised ← onPage (PageM.raiseAt word bit vcpu)
    emitIf P raised word fun w => .raised w bit
    return .truth raised

end PageOperation

namespace VcpuOperation

open Guest

def run (vcpu : Nat) : VcpuOperation → Guest σ Report
  | isUpcallPending => return .truth (← onPage (PageM.readVcpu vcpu)).isUpcallPending
  | isUpcallMasked => return .truth (← onPage (PageM.readVcpu vcpu)).isUpcallMasked
  | clearUpcall => do
    onPage (PageM.updateVcpu vcpu VcpuSlot.clearUpcall)
    return .done
  | raiseUpcall => do
    onPage (PageM.updateVcpu vcpu VcpuSlot.raiseUpcall)
    return .done
  | maskUpcall masked => do
    onPage (PageM.updateVcpu vcpu fun v => v.maskUpcall masked)
    return .done
  | reset => do
    onPage (PageM.updateVcpu vcpu VcpuSlot.reset)
    return .done
  | selector => return .word (← onPage (PageM.readVcpu vcpu)).selector
  | drainSelector => return .word (← onPage (PageM.drainSelector vcpu))
  | flagWord word => return .truth (← onPage (PageM.flagWord word vcpu))

end VcpuOperation

/-- The report of an operation that returns nothing of interest. -/
def Report.ofUnit : Except ChannelError Unit → Except ChannelError Report
  | .error e => .error e
  | .ok _ => .ok .done

/-- The report of an operation that returns a port. -/
def Report.ofPort : Except ChannelError Port → Except ChannelError Report
  | .error e => .error e
  | .ok port => .ok (.number port.index)

namespace TableOperation

open Guest

def run : TableOperation → Guest σ (Except ChannelError Report)
  | kind port => return .ok (.kind ((← table).kind port))
  | publish port action => return Report.ofUnit (← Guest.publish P port action)
  | dropAction port => return Report.ofUnit (← Guest.dropAction P port)
  | resetSlot port => return Report.ofUnit (← Guest.resetSlot P port)
  | reset => return Report.ofUnit (← resetTable P)
  | callHandler port expected => do
    match (← table).handler? port expected with
    | some handler =>
      call P (.handle .direct handler port)
      return .ok (.truth true)
    | none => return .ok (.truth false)
  | irqDetails port => return .ok (.irqDetails ((← table).irqDetails? port))
  | isQueued port => return .ok (.truth ((← table).isQueued port))
  | enqueue port => return .ok (.truth (← Guest.enqueue P port))
  | cancel port => return .ok (.truth (← Guest.cancel P port))
  | cancelAll => return .ok (.number (← Guest.cancelAll P))
  | setOutstanding port => return .ok (.truth (← onTable fun t => t.setOutstanding port))
  | acknowledge port => return .ok (.truth (← Guest.acknowledge port))
  | isOutstanding port => return .ok (.truth ((← table).isOutstanding port))
  | countDelivery port => do
    let count ← onTable fun t => t.countDelivery port
    return .ok (.number count.toNat)
  | deliveries port => return .ok (.number ((← table).slot port).deliveries.toNat)
  | broadcast => do
    let (marked, queued) ← Guest.broadcast P
    return .ok (.broadcast marked queued)
  | runWordAt word => return .ok (.number (← Guest.runWordAt P word))
  | takeReader port => do
    modifyTable fun t => t.takeReader port
    emit P (.readerTaken port)
    return .ok .done
  | releaseReader port => do
    match (← table).releaseReader? port with
    | none => return .ok .noReader
    | some (details, t) =>
      modifyTable fun _ => t
      emit P (.readerReleased port)
      return .ok (.irqDetails details)

end TableOperation

namespace ChannelOperation

open Guest

def run : ChannelOperation → Guest σ (Except ChannelError Report)
  | init => return Report.ofPort (← Guest.init P)
  | resume => return Report.ofPort (← Guest.resume P)
  | suspend => do
    Guest.suspend P
    return .ok .done
  | shutdown => do
    Guest.shutdown P
    return .ok .done
  | connect => return Report.ofUnit (← connectLine P)
  | disconnect => do
    disconnectLine P
    return .ok .done
  | bindInline port handler => return Report.ofUnit (← Guest.bindInline P port handler)
  | bindDeferred port handler => return Report.ofUnit (← Guest.bindDeferred P port handler)
  | bindIrq port vector description handler =>
    return Report.ofUnit (← Guest.bindIrq P port vector description handler)
  | unbind port => return Report.ofUnit (← Guest.unbind P port)
  | mask port => do
    Guest.mask port
    return .ok .done
  | unmask port => do
    Guest.unmask port
    return .ok .done
  | signal port => do
    Guest.signal P port
    return .ok .done
  | close port => do
    Guest.close P port
    return .ok .done
  | allocUnbound remote => return Report.ofPort (← Guest.allocUnbound P remote)
  | allocIpi vcpu => return Report.ofPort (← Guest.allocIpi P vcpu)
  | scannerPass => return .ok (.scanned (← Guest.scannerPass P))
  | deferredPass => return .ok (.number (← Guest.deferredPass P))
  | acknowledge port => return .ok (.truth (← Guest.acknowledge port))
  | isOutstanding port => return .ok (.truth ((← table).isOutstanding port))
  | portSnapshot port => return .ok (.portSnapshot (← Guest.portSnapshot port))
  | status => return .ok (.status (← Guest.status))

end ChannelOperation

namespace Operation

/-- Runs an operation; its result is a report, or the error with which it was refused. -/
def run : Operation → Guest σ (Except ChannelError Report)
  | page op => return .ok (← op.run P)
  | vcpu v op => return .ok (← op.run v)
  | table op => op.run P
  | channels op => op.run P

end Operation

end EventChannel
