import EventChannel.Proofs.Conservation.Deliveries
import EventChannel.Proofs.Conservation.Dispatch
import EventChannel.Proofs.Conservation.Page
import EventChannel.Proofs.Deeds

namespace EventChannel

/-- No event is lost or serviced twice at an entry: the account of every bit is balanced, dispatches
and inline starts are prompt, and the delivery counters tell the dispatches. -/
structure Entry.Conserves (initial : Bitmap 64) (entry : Entry) (before : History) : Prop where
  balances : entry.Balances initial before
  prompt : entry.IsPrompt before
  tallies : entry.Tallies before

/-- Every event is dispatched once or removed or still pending, whatever operations are run and
however they are nested. The resets that delivery counters start again at are those that the
operations tell of. -/
theorem events_are_conserved (c : Client) (depth : Nat) {α : Type} (program : Program α)
    {page : SharedPage} {config : Config} {start : Channels}
    (hstart : Channels.ofPage page config = .ok start) :
    (c.history depth program start).Always (Entry.Conserves page.pending) ∧
    (c.history depth program start).head?.bind Entry.consumedPort? = none ∧
    (c.history depth program start).head?.bind Entry.foundInline? = none ∧
    (c.history depth program start).Always Entry.TellsDeeds := by
  obtain ⟨_, hstart⟩ := Channels.eq_of_ofPage hstart
  have hpending : start.page.pending = page.pending := by rw [hstart]
  have htable : start.table = .powerOn := by rw [hstart]
  have hbalances := c.always_balances depth program start
  have hprompt := c.always_prompt depth program start
  have htallies := c.always_tallies depth program htable
  rw [hpending] at hbalances
  refine ⟨?_, hprompt.port, hprompt.inline, c.always_tellsDeeds depth program start⟩
  apply ((hbalances.and hprompt.always).and htallies).mono
  intro entry before h
  obtain ⟨⟨hbalances, hprompt⟩, htallies⟩ := h
  exact ⟨hbalances, hprompt, htallies⟩

/-- An event is pending at the start, another is raised again by its handler in a nested pass. -/
theorem events_are_conserved_reraising :
    Channels.ofPage (SharedPage.zero.setPending 20 9) { callbackIrq := 5 } =
      .ok ⟨SharedPage.zero.setPending 20 9, .powerOn, { callbackIrq := 5 }, true, false, none⟩ ∧
    (Client.reraising.history 2
      (.sequence () [.channels .init, .channels (.bindInline ⟨7⟩ "service"), .page (.raise ⟨7⟩ 0),
        .page (.raiseAt 20 9 0), .channels .scannerPass, .page .clearAll])
      ⟨SharedPage.zero.setPending 20 9, .powerOn, { callbackIrq := 5 }, true, false, none⟩).Always
        (Entry.Conserves (SharedPage.zero.setPending 20 9).pending) := by
  have hstart : Channels.ofPage (SharedPage.zero.setPending 20 9) { callbackIrq := 5 } =
      .ok ⟨SharedPage.zero.setPending 20 9, .powerOn, { callbackIrq := 5 }, true, false, none⟩ := rfl
  exact ⟨hstart, (events_are_conserved Client.reraising 2 _ hstart).1⟩

end EventChannel
