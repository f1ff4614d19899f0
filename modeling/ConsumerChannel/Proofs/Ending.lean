import ConsumerChannel.Proofs.Operations

/-! What stopping and destroying come to. Stopping changes flags and nothing else; destroying is a chain of
stopping, deleting the consumer and closing the transport that breaks off at the first link to fail, and only
its end freezes the session. -/
namespace ConsumerChannel.Channel
open Operation

/-- The flags of the loop may change, and nothing else does. -/
structure Chronicle.Idles (c later : Chronicle) : Prop where
  memory : later.memory = { c.memory with flags := later.memory.flags }
  signals : later.signals = c.signals

/-- A memory with the right to destroy the channel claimed, or free. -/
def State.locked (m : State) (destroying : Bool) : State := { m with destroying := destroying }

/-- What stopping comes to: where no loop runs, nothing. -/
structure Stops (c : Chronicle) (r : Except Failure Unit) (later : Chronicle) : Prop where
  idles : c.Idles later
  resting : c.memory.flags.running = false → r = .ok () ∧ later = c

section
variable (surroundings : Surroundings) (caller : Thread) (settings : Settings)

/-- What destroying comes to between claiming the right to it and giving it up. -/
inductive Dissolves (c : Chronicle) : Except Failure Unit → Chronicle → Prop where
  | frozen (inactive : c.memory.session.active = false) : Dissolves c (.ok ()) c
  | unstopped (active : c.memory.session.active = true) (stops : Stops c (.error e) later) :
      Dissolves c (.error e) later
  | undeleted {left : Session String Value} (active : c.memory.session.active = true)
      (stops : Stops c (.ok ()) d)
      (deletes : Deletes surroundings caller settings d.memory (.error e) left signals)
      (deleted : d.Becomes surroundings left d.memory.context signals later) : Dissolves c (.error e) later
  | unclosed {left : Session String Value} (active : c.memory.session.active = true)
      (stops : Stops c (.ok ()) d)
      (deletes : Deletes surroundings caller settings d.memory (.ok ()) left signals)
      (deleted : d.Becomes surroundings left d.memory.context signals k)
      (closed : k.Becomes surroundings k.memory.session k.memory.context
        [⟨k.memory, .closed k.memory.transport (.error e)⟩] later)
      (careless : ¬ surroundings.Dependable) : Dissolves c (.error e) later
  | dissolved {left : Session String Value} (active : c.memory.session.active = true)
      (stops : Stops c (.ok ()) d)
      (deletes : Deletes surroundings caller settings d.memory (.ok ()) left signals)
      (deleted : d.Becomes surroundings left d.memory.context signals k)
      (closed : k.Becomes surroundings k.memory.session k.memory.context
        [⟨k.memory, .closed k.memory.transport (.ok ())⟩] l)
      (frozen : l.Becomes surroundings l.memory.session.deactivate l.memory.context [] later)
      (quiet : surroundings.LogsQuietly → r = .ok ()) : Dissolves c r later

/-- What destroying comes to. -/
inductive Destroys (c : Chronicle) : Except Failure Unit → Chronicle → Prop where
  | contended (busy : c.memory.destroying = true) :
      Destroys c (.error (.transient contentionMessage (some destroyName))) c
  | tried (free : c.memory.destroying = false)
      (dissolves : Dissolves surroundings caller settings (c.remember (c.memory.locked true)) r d) :
      Destroys c r (d.remember (d.memory.locked false))

end

section
variable {surroundings : Surroundings} {nested : List Move → Chronicle → Chronicle} {caller : Thread}
  {c later last : Chronicle} {settings : Settings} {r : Except Failure Unit}

namespace Chronicle

theorem Idles.refl : c.Idles c := ⟨rfl, rfl⟩

theorem Idles.trans (first : c.Idles later) (second : later.Idles last) : c.Idles last := by
  refine ⟨?_, second.signals.trans first.signals⟩
  rw [second.memory, first.memory]

theorem Idles.guard (idles : c.Idles later) : later.memory.guard = c.memory.guard := by rw [idles.memory]

theorem Idles.session (idles : c.Idles later) : later.memory.session = c.memory.session := by
  rw [idles.memory]

theorem Idles.destroying (idles : c.Idles later) : later.memory.destroying = c.memory.destroying := by
  rw [idles.memory]

theorem Idles.transport (idles : c.Idles later) : later.memory.transport = c.memory.transport := by
  rw [idles.memory]

/-- Logging and sleeping give other threads time to touch the flags. -/
theorem Becomes.idles
    (passed : c.Becomes surroundings c.memory.session c.memory.context [] later) : c.Idles later := by
  refine ⟨?_, passed.signals.trans (List.append_nil _)⟩
  obtain ⟨⟨guard, session, context, destroying, transport, -⟩, -⟩ := passed
  show later.memory = ⟨c.memory.guard, c.memory.session, later.memory.flags, c.memory.context,
    c.memory.destroying, c.memory.transport⟩
  rw [← guard, ← session, ← context, ← destroying, ← transport]

end Chronicle

/-! ## Stopping -/

theorem leads_awaitEnd (rounds : Nat) :
    Leads (surroundings.host nested caller) (awaitEnd settings rounds) c fun _ d => c.Idles d := by
  have logs (d : Chronicle) (level : Level) (message : String) (extras : List (String × Value)) :
      Leads (surroundings.host nested caller) (log level message extras) d fun _ t => d.Idles t :=
    (leads_log level message extras).weaken fun _ _ logged => logged.2.idles
  have sleeps (d : Chronicle) : Leads (surroundings.host nested caller) (sleep settings.stopPeriod) d
      fun _ t => d.Idles t :=
    Chronicle.Becomes.idles (outside_becomes surroundings nested d (.sleep settings.stopPeriod) (by simp))
  induction rounds generalizing c with
  | zero =>
    unfold awaitEnd
    apply leads_step_bind
    show Leads _ (if c.memory.flags.running then throw _ >>= fun _ => _ else log _ _ _) c _
    split
    · exact .refl
    · exact logs c _ _ _
  | succ rounds ih =>
    unfold awaitEnd
    apply leads_step_bind
    show Leads _ (if c.memory.flags.running then log _ _ _ >>= fun _ => sleep _ >>= fun _ => awaitEnd _ _
      else log _ _ _) c _
    split
    · refine (logs c _ _ _).bind ?_ fun e d idles => idles
      intro a d first
      refine (sleeps d).bind ?_ fun e k idles => first.trans idles
      intro a k second
      refine ih.weaken ?_
      intro r last rest
      exact (first.trans second).trans rest
    · exact logs c _ _ _

theorem leads_stop (rounds : Nat) :
    Leads (surroundings.host nested caller) (stop settings rounds) c (Stops c) := by
  unfold stop
  apply leads_step_bind
  cases running : c.memory.flags.running with
  | false =>
    simp only [Step.apply, running, Bool.not_false, ↓reduceIte]
    exact ⟨.refl, fun _ => ⟨rfl, rfl⟩⟩
  | true =>
    simp only [Step.apply, running, Bool.not_true, Bool.false_eq_true, ↓reduceIte]
    have stops {r : Except Failure Unit} {d : Chronicle} (idles : c.Idles d) : Stops c r d :=
      ⟨idles, fun resting => Bool.noConfusion (running.symm.trans resting)⟩
    apply leads_step_bind
    have asked : c.Idles (c.remember { c.memory with flags := c.memory.flags.tryRequestStop.2 }) := ⟨rfl, rfl⟩
    show Leads _ (if !c.memory.flags.tryRequestStop.1 then pure () else held >>= fun own => if own then _ else _)
      (c.remember { c.memory with flags := c.memory.flags.tryRequestStop.2 }) _
    cases c.memory.flags.tryRequestStop.1 with
    | false => exact stops asked
    | true =>
      simp only [Bool.not_true, Bool.false_eq_true, ↓reduceIte]
      apply leads_step_bind
      show Leads _ (if c.memory.guard.heldBy caller then _ else _)
        (c.remember { c.memory with flags := c.memory.flags.tryRequestStop.2 }) _
      cases c.memory.guard.heldBy caller with
      | true =>
        refine (leads_log _ _ _).weaken ?_
        rintro r d ⟨-, logged⟩
        exact stops (asked.trans logged.idles)
      | false =>
        have waited : Leads (surroundings.host nested caller)
            (rescue (awaitEnd settings rounds) fun e => throw (stopFailure e))
            (c.remember { c.memory with flags := c.memory.flags.tryRequestStop.2 }) fun _ d => c.Idles d :=
          (leads_awaitEnd rounds).rescue (fun _ _ idles => asked.trans idles)
            fun _ _ idles => asked.trans idles
        refine waited.lastly ?_
        intro r d idles
        have cleared : d.Idles (d.remember { d.memory with flags := d.memory.flags.clearStopRequest }) :=
          ⟨rfl, rfl⟩
        exact ⟨fun _ => stops (idles.trans cleared), fun _ failed => by cases failed⟩

/-! ## Destroying -/

theorem leads_dissolve (opened : c.memory.guard.OpenTo caller) (rounds : Nat) :
    Leads (surroundings.host nested caller) (do
      if (← session).active then
        stop settings rounds
        delete settings
        closeTransport
        step .deactivate
        log Level.info "Channel destroyed" [("consumer_group", settings.group)]) c
      (Dissolves surroundings caller settings c) := by
  apply leads_step_bind
  show Leads _ (if c.memory.session.active then _ else pure ()) c _
  cases active : c.memory.session.active with
  | false => exact .frozen active
  | true =>
    refine (leads_stop rounds).bind ?_ fun e d stops => .unstopped active stops
    rintro ⟨⟩ d stops
    refine (leads_delete (by rwa [stops.idles.guard]) (by rw [stops.idles.session, active])).bind ?_ ?_
    · rintro ⟨⟩ k ⟨left, signals, deletes, deleted⟩
      refine leads_closeTransport.bind ?_ ?_
      · rintro ⟨⟩ l ⟨-, closed⟩
        apply leads_step_bind
        refine (leads_log _ _ _).weaken ?_
        rintro r last ⟨quiet, logged⟩
        have frozen : l.Becomes surroundings l.memory.session.deactivate l.memory.context []
            (l.remember { l.memory with session := l.memory.session.deactivate }) :=
          ⟨⟨rfl, rfl, rfl, rfl, rfl, fun _ => rfl⟩, (List.append_nil _).symm⟩
        exact .dissolved active stops deletes deleted closed (frozen.silently logged) quiet
      · rintro e l ⟨granted, closed⟩
        exact .unclosed active stops deletes deleted closed fun dependable => nomatch granted dependable
    · rintro e k ⟨left, signals, deletes, deleted⟩
      exact .undeleted active stops deletes deleted

/-- Nothing gives up the right to destroy the channel before the end. -/
theorem Dissolves.destroying (dissolves : Dissolves surroundings caller settings c r later) :
    later.memory.destroying = c.memory.destroying := by
  cases dissolves with
  | frozen inactive => rfl
  | unstopped active stops => exact stops.idles.destroying
  | undeleted active stops deletes deleted => rw [deleted.state.destroying, stops.idles.destroying]
  | unclosed active stops deletes deleted closed careless =>
    rw [closed.state.destroying, deleted.state.destroying, stops.idles.destroying]
  | dissolved active stops deletes deleted closed frozen quiet =>
    rw [frozen.state.destroying, closed.state.destroying, deleted.state.destroying, stops.idles.destroying]

/-- Nothing is left to dissolve of an inactive channel. -/
theorem Dissolves.of_inactive (dissolves : Dissolves surroundings caller settings c r later)
    (inactive : c.memory.session.active = false) : r = .ok () ∧ later = c := by
  cases dissolves with
  | frozen inactive => exact ⟨rfl, rfl⟩
  | unstopped active => exact nomatch inactive.symm.trans active
  | undeleted active => exact nomatch inactive.symm.trans active
  | unclosed active => exact nomatch inactive.symm.trans active
  | dissolved active => exact nomatch inactive.symm.trans active

/-- Destroying an inactive channel again does nothing. -/
theorem Destroys.of_inactive (destroys : Destroys surroundings caller settings c r later)
    (inactive : c.memory.session.active = false) (free : c.memory.destroying = false) :
    r = .ok () ∧ later = c := by
  cases destroys with
  | contended busy => exact nomatch free.symm.trans busy
  | tried _ dissolves =>
    obtain ⟨rfl, rfl⟩ := dissolves.of_inactive inactive
    refine ⟨rfl, ?_⟩
    show c.remember { c.memory with destroying := false } = c
    rw [← free]
    rfl

theorem leads_unlockDestroy (claimed : c.memory.destroying = true) :
    Leads (surroundings.host nested caller) unlockDestroy c fun r later =>
      r = .ok () ∧ later = c.remember (c.memory.locked false) := by
  have taken : Step.apply caller .unlockDestroy c.memory = (.ok (), c.memory.locked false) := by
    simp only [Step.apply, claimed, ↓reduceIte]
    rfl
  show (Step.apply caller .unlockDestroy c.memory).1 = .ok () ∧
    c.remember (Step.apply caller .unlockDestroy c.memory).2 = _
  rw [taken]
  exact ⟨rfl, rfl⟩

theorem leads_destroy (opened : c.memory.guard.OpenTo caller) (rounds : Nat) :
    Leads (surroundings.host nested caller) (destroy settings rounds) c
      (Destroys surroundings caller settings c) := by
  unfold destroy
  apply leads_step_bind
  show Leads _ (if !!c.memory.destroying then throw _ >>= fun _ => _ else _)
    (c.remember (c.memory.locked true)) _
  cases destroying : c.memory.destroying with
  | true =>
    have same : c.remember (c.memory.locked true) = c := by
      show c.remember { c.memory with destroying := true } = c
      rw [← destroying]
      rfl
    rw [same]
    exact .contended destroying
  | false =>
    simp only [Bool.not_false, Bool.not_true, Bool.false_eq_true, ↓reduceIte]
    refine (leads_dissolve (c := c.remember (c.memory.locked true)) opened rounds).ensuring ?_
    intro r d dissolves
    refine (leads_unlockDestroy dissolves.destroying).weaken ?_
    rintro - later ⟨rfl, rfl⟩
    exact ⟨rfl, .tried destroying dissolves⟩

end

end ConsumerChannel.Channel
