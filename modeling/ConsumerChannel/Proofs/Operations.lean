import ConsumerChannel.Proofs.Outcomes

/-! Every operation comes to one of its outcomes: its parts in turn, then the operations that are made of
them. Each is run by a thread that the guard lets in, on a channel that is still active. -/
namespace ConsumerChannel.Channel
open Operation

/-! ## Parts -/

theorem heldConsumer?_eq_some {s : Session String Value} {id : String} :
    heldConsumer? s = some id ↔ s.consumer = some id ∧ id ≠ "" := by
  unfold heldConsumer?
  cases s.consumer with
  | none => simp
  | some other =>
    by_cases blank : other = ""
    · simp only [blank, ↓reduceIte, reduceCtorEq, Option.some.injEq, false_iff, not_and]
      intro same filled
      exact filled same.symm
    · simp only [blank, ↓reduceIte, Option.some.injEq]
      exact ⟨fun same => ⟨same, same ▸ blank⟩, fun both => both.1⟩

/-- A consumer is held if one is stored, as long as its name is not blank. -/
theorem heldConsumer?_eq_consumer {s : Session String Value} (filled : s.consumer ≠ some "") :
    heldConsumer? s = s.consumer := by
  cases same : s.consumer with
  | none => simp [heldConsumer?, same]
  | some id =>
    refine heldConsumer?_eq_some.mpr ⟨same, ?_⟩
    rintro rfl
    exact filled same

theorem hasConsumer_eq_isSome (s : Session String Value) :
    s.hasConsumer = (heldConsumer? s).isSome := by
  unfold Session.hasConsumer heldConsumer?
  cases s.consumer with
  | none => rfl
  | some id =>
    by_cases blank : id = "" <;> simp [blank, Presence.present]

section
variable {surroundings : Surroundings} {nested : List Move → Chronicle → Chronicle} {caller : Thread}
  {c : Chronicle} {settings : Settings}

theorem exec_understand (api : Api) (reader : String → Checked α) (answer : Option String) :
    exec (surroundings.host nested caller) (understand api reader answer) c = (comprehended api reader answer, c) := by
  unfold understand
  split
  · rfl
  · rfl
  · rename_i text filled
    have given : text ≠ "" := filled
    simp only [comprehended, Option.getD_some, if_neg given]
    cases reader text <;> rfl

theorem leads_understand (api : Api) (reader : String → Checked α) (answer : Option String) :
    Leads (surroundings.host nested caller) (understand api reader answer) c fun r later =>
      later = c ∧ r = comprehended api reader answer ∧
        match r with
        | .ok a => Denotes reader answer a
        | .error e => Misread api e ∧ ∀ a, ¬ Denotes reader answer a := by
  rw [leads_iff, exec_understand]
  rintro r later ⟨⟩
  refine ⟨rfl, rfl, ?_⟩
  cases answer with
  | none => exact ⟨⟨_, _, rfl⟩, fun a ⟨_, absent, _⟩ => nomatch absent⟩
  | some text =>
    by_cases empty : text = ""
    · simp only [comprehended, Option.getD_some, if_pos empty]
      exact ⟨⟨_, _, rfl⟩, fun a ⟨_, same, filled, _⟩ => filled (Option.some.inj same ▸ empty)⟩
    · simp only [comprehended, Option.getD_some, if_neg empty]
      cases read : reader text with
      | ok a => exact ⟨text, rfl, empty, read⟩
      | error issues =>
        refine ⟨⟨_, _, rfl⟩, ?_⟩
        rintro a ⟨_, same, -, denoted⟩
        cases same
        exact nomatch read.symm.trans denoted

/-- A request whose failure goes by the name of its operation. -/
theorem leads_sendFor_bind {n : Nat} (through : c.memory.transport = n) {api : Api} {method : Method}
    {path : String} {body : Option String} {next : Option String → Operation α}
    {post : Except Failure α → Chronicle → Prop}
    (answered : ∀ answer t, c.Becomes surroundings c.memory.session c.memory.context
        [⟨c.memory, .sent n ⟨method, path, body, .ofApi api⟩ (.ok answer)⟩] t →
      Leads (surroundings.host nested caller) (next answer) t post)
    (failed : ∀ e t, c.Becomes surroundings c.memory.session c.memory.context
        [⟨c.memory, .sent n ⟨method, path, body, .ofApi api⟩ (.error e)⟩] t →
      post (.error (e.tag api.name)) t) :
    Leads (surroundings.host nested caller) (sendFor api method path body >>= next) c post := by
  subst through
  have sent : Leads (surroundings.host nested caller) (sendFor api method path body) c fun r later =>
      ∃ answer, r = answer.mapError (Failure.tag api.name) ∧
        c.Becomes surroundings c.memory.session c.memory.context
          [⟨c.memory, .sent c.memory.transport ⟨method, path, body, .ofApi api⟩ answer⟩] later := by
    unfold sendFor tagged
    refine (leads_send _).rescue ?_ ?_
    · intro answer t became
      exact ⟨.ok answer, rfl, became⟩
    · intro e t became
      exact ⟨.error e, rfl, became⟩
  refine sent.bind ?_ ?_
  · rintro a t ⟨answer, good, became⟩
    cases answer with
    | error e => cases good
    | ok answer =>
      cases good
      exact answered _ t became
  · rintro e t ⟨answer, bad, became⟩
    cases answer with
    | ok answer => cases bad
    | error e =>
      cases bad
      exact failed e t became

theorem leads_setConsumer (active : c.memory.session.active = true) (id : String) (api : Api) :
    Leads (surroundings.host nested caller) (setConsumer id api) c fun r later =>
      r = .ok () ∧ c.Becomes surroundings { c.memory.session with consumer := some id } c.memory.context []
        later := by
  have taken : Step.apply caller (.setConsumer id (some api.name)) c.memory =
      (.ok (), { c.memory with session := { c.memory.session with consumer := some id } }) := by
    simp only [Step.apply, Session.setConsumer, Session.change, active, ↓reduceIte, Step.attempt]
    rfl
  show (Step.apply caller (.setConsumer id (some api.name)) c.memory).1 = .ok () ∧
    c.Becomes surroundings { c.memory.session with consumer := some id } c.memory.context []
      (c.remember (Step.apply caller (.setConsumer id (some api.name)) c.memory).2)
  rw [taken]
  exact ⟨rfl, ⟨rfl, rfl, rfl, rfl, rfl, fun _ => rfl⟩, by simp⟩

theorem exec_written_creation :
    exec (surroundings.host nested caller) (written
      (CreateBody.ofArguments
        [("consumer_group", settings.group), ("configs", .dict settings.consumerEntries)])
      CreateBody.toText) c = (creationBody settings, c) := by
  unfold written creationBody
  cases CreateBody.ofArguments
    [("consumer_group", settings.group), ("configs", .dict settings.consumerEntries)] with
  | ok body => exact exec_ofFault _
  | error issues => rfl

/-- An operation on the consumer that is held. -/
theorem leads_consumerPath_bind {api : Api} {suffix : String} {next : String → Operation α}
    {post : Except Failure α → Chronicle → Prop}
    (found : ∀ consumer, heldConsumer? c.memory.session = some consumer →
      Leads (surroundings.host nested caller) (next (consumerAddress settings consumer ++ suffix)) c post)
    (missing : heldConsumer? c.memory.session = none → post (.error (unheldFailure api)) c) :
    Leads (surroundings.host nested caller) (consumerPath settings api suffix >>= next) c post := by
  have asked : exec (surroundings.host nested caller) session c = (.ok c.memory.session, c) := rfl
  cases held : heldConsumer? c.memory.session with
  | some consumer =>
    have path : exec (surroundings.host nested caller) (consumerPath settings api suffix) c =
        (.ok (consumerAddress settings consumer ++ suffix), c) := by
      unfold consumerPath
      rw [exec_bind_ok asked]
      simp only [held]
      rfl
    refine leads_bind_of_exec path ?_ (by simp)
    rintro a ⟨⟩
    exact found consumer held
  | none =>
    have path : exec (surroundings.host nested caller) (consumerPath settings api suffix) c =
        (.error (unheldFailure api), c) := by
      unfold consumerPath
      rw [exec_bind_ok asked]
      simp only [held]
      rfl
    refine leads_bind_of_exec path (by simp) ?_
    rintro e ⟨⟩
    exact missing held

/-- If an operation whose request was answered well comes to a failure, it is what the operation makes of the
answer. -/
def Explains (surroundings : Surroundings) (api : Api) (reader : String → Checked α) (r : Except Failure β)
    (signals : List Event) : Prop :=
  surroundings.LogsQuietly → ∀ m n request answer e, signals = [⟨m, .sent n request (.ok answer)⟩] → r = .error e →
    comprehended api reader answer = .error e

namespace Explains
variable {api : Api} {reader : String → Checked α} {r : Except Failure β} {signals : List Event} {m : State} {n : Nat}
  {request : Request} {e : Failure}

theorem unasked : Explains surroundings api reader r [] := by
  rintro - m n request answer e ⟨⟩

theorem failed : Explains surroundings api reader r [⟨m, .sent n request (.error e)⟩] := by
  rintro - m n request answer e ⟨⟩

theorem well (well : surroundings.LogsQuietly → ∃ a, r = .ok a) : Explains surroundings api reader r signals := by
  rintro quiet m n request answer e - ill
  obtain ⟨a, good⟩ := well quiet
  cases good.symm.trans ill

theorem unread {answer : Option String} (made : comprehended api reader answer = .error e) :
    Explains surroundings api reader (.error e : Except Failure β) [⟨m, .sent n request (.ok answer)⟩] := by
  rintro - _ _ _ _ _ ⟨⟩ ⟨⟩
  exact made

end Explains

/-! ## Creating -/

theorem leads_create_explained (opened : c.memory.guard.OpenTo caller) (active : c.memory.session.active = true) :
    Leads (surroundings.host nested caller) (create settings) c fun r later =>
      ∃ session signals, (Creates surroundings caller settings c.memory r session signals ∧
          Explains surroundings .create CreatedConsumer.ofText r signals) ∧
        c.Becomes surroundings session c.memory.context signals later := by
  unfold create
  apply leads_named opened active
  cases grouped : settings.group.truthy with
  | false => exact ⟨_, _, _, ⟨.groupless grouped, .unasked⟩, .refl⟩
  | true =>
    simp only [Bool.not_true, Bool.false_eq_true, ↓reduceIte]
    refine Leads.bind (leads_reset (by exact active) .create) ?_ ?_
    · rintro - d ⟨-, forgotten⟩
      refine leads_bind_of_exec exec_written_creation ?_ ?_
      · intro body written
        refine leads_sendFor_bind forgotten.state.transport ?_ ?_
        · intro answer t sent
          have answered := forgotten.still sent
          refine (leads_understand _ _ _).bind ?_ ?_
          · rintro created t ⟨rfl, -, denoted⟩
            refine Leads.bind (leads_setConsumer (by rw [answered.state.session]; rfl) _ _) ?_ (by simp)
            rintro - u ⟨-, named⟩
            rw [answered.state.session] at named
            refine (leads_changeContext _).bind ?_ (by simp)
            rintro - v ⟨-, attributed⟩
            refine (leads_log _ _ _).weaken ?_
            rintro r w ⟨quiet, logged⟩
            rw [named.state.session] at attributed
            exact ⟨_, _, _, ⟨.made written forgotten.state denoted quiet, .well fun calm => ⟨_, quiet calm⟩⟩,
              ((answered.trans named).trans attributed).silently logged⟩
          · rintro e t ⟨rfl, made, misread, meaningless⟩
            exact ⟨_, _, _, ⟨.unread written forgotten.state meaningless misread, .unread made.symm⟩, answered⟩
        · intro e t sent
          exact ⟨_, _, _, ⟨.failed written forgotten.state e, .failed⟩, forgotten.still sent⟩
      · intro e unwritten
        exact ⟨_, _, _, ⟨.unsent e fun _ => unwritten, .unasked⟩, forgotten⟩
    · rintro e d ⟨granted, forgotten⟩
      exact ⟨_, _, _, ⟨.unsent e fun dependable => (nomatch granted dependable), .unasked⟩, forgotten⟩

theorem leads_create (opened : c.memory.guard.OpenTo caller) (active : c.memory.session.active = true) :
    Leads (surroundings.host nested caller) (create settings) c fun r later =>
      ∃ session signals, Creates surroundings caller settings c.memory r session signals ∧
        c.Becomes surroundings session c.memory.context signals later := by
  refine (leads_create_explained opened active).weaken ?_
  rintro r later ⟨session, signals, ⟨creates, -⟩, became⟩
  exact ⟨session, signals, creates, became⟩

/-! ## Asking, deleting, pulling, and committing -/

theorem leads_subscriptions_explained (opened : c.memory.guard.OpenTo caller)
    (active : c.memory.session.active = true) :
    Leads (surroundings.host nested caller) (subscriptions settings) c fun r later =>
      ∃ session signals, (Inquires surroundings caller settings c.memory r session signals ∧
          Explains surroundings .subscriptions topicsOfText r signals) ∧
        c.Becomes surroundings session c.memory.context signals later := by
  unfold subscriptions
  apply leads_named opened active
  apply leads_consumerPath_bind
  · intro consumer (held : heldConsumer? c.memory.session = some consumer)
    refine leads_sendFor_bind rfl ?_ ?_
    · intro answer t sent
      split
      · exact ⟨_, _, _, ⟨.listed held .refl (.inl ⟨.inl rfl, rfl⟩), .well fun _ => ⟨_, rfl⟩⟩, sent⟩
      · exact ⟨_, _, _, ⟨.listed held .refl (.inl ⟨.inr rfl, rfl⟩), .well fun _ => ⟨_, rfl⟩⟩, sent⟩
      · rename_i text filled
        refine (leads_understand _ _ _).weaken ?_
        rintro r t ⟨rfl, made, reading⟩
        cases r with
        | ok topics => exact ⟨_, _, _, ⟨.listed held .refl (.inr reading), .well fun _ => ⟨_, rfl⟩⟩, sent⟩
        | error e =>
          have present : some text ≠ none ∧ some text ≠ some "" :=
            ⟨nofun, fun same => filled (Option.some.inj same)⟩
          exact ⟨_, _, _, ⟨.unread held .refl present reading.2 reading.1, .unread made.symm⟩, sent⟩
    · intro e t sent
      exact ⟨_, _, _, ⟨.failed held .refl e, .failed⟩, sent⟩
  · intro (absent : heldConsumer? c.memory.session = none)
    exact ⟨_, _, _, ⟨.unheld absent, .unasked⟩, .refl⟩

theorem leads_subscriptions (opened : c.memory.guard.OpenTo caller)
    (active : c.memory.session.active = true) :
    Leads (surroundings.host nested caller) (subscriptions settings) c fun r later =>
      ∃ session signals, Inquires surroundings caller settings c.memory r session signals ∧
        c.Becomes surroundings session c.memory.context signals later := by
  refine (leads_subscriptions_explained opened active).weaken ?_
  rintro r later ⟨session, signals, ⟨inquires, -⟩, became⟩
  exact ⟨session, signals, inquires, became⟩

/-- The request of a deletion and what is made of its answer. -/
theorem leads_deletion {consumer : String} (held : heldConsumer? c.memory.session = some consumer) :
    Leads (surroundings.host nested caller)
      (deletion settings consumer) c fun r later =>
      ∃ answer, (surroundings.LogsQuietly → r = deletionResult answer) ∧
        c.Becomes surroundings c.memory.session c.memory.context
          [⟨c.memory, .sent c.memory.transport (.deletion settings consumer) answer⟩] later := by
  have sending : Leads (surroundings.host nested caller)
      (do
        let path ← consumerPath settings .delete ""
        let _ ← send ⟨.delete, path, none, .ofApi .delete⟩
        log Level.info "Deleted consumer" [("consumer_id", .text consumer)]) c fun r t =>
      ∃ answer, c.Becomes surroundings c.memory.session c.memory.context
          [⟨c.memory, .sent c.memory.transport (.deletion settings consumer) answer⟩] t ∧
        (∀ e, answer = .error e → r = .error e) ∧
        ∀ text, answer = .ok text → surroundings.LogsQuietly → r = .ok () := by
    apply leads_consumerPath_bind
    · intro other same
      cases held.symm.trans same
      rw [String.append_empty]
      refine (leads_send _).bind ?_ ?_
      · intro answer t sent
        refine (leads_log _ _ _).weaken ?_
        rintro r u ⟨quiet, logged⟩
        exact ⟨.ok answer, sent.silently logged, by simp, fun _ _ => quiet⟩
      · intro e t sent
        exact ⟨.error e, sent, fun _ same => congrArg Except.error (Except.error.inj same), by simp⟩
    · intro absent
      cases held.symm.trans absent
  unfold deletion
  refine sending.rescue ?_ ?_
  · rintro a t ⟨answer, sent, failed, -⟩
    cases answer with
    | ok text => exact ⟨.ok text, fun _ => rfl, sent⟩
    | error e => cases failed e rfl
  · rintro e t ⟨answer, sent, failed, passed⟩
    have reason (quiet : surroundings.LogsQuietly) : answer = .error e := by
      cases answer with
      | ok text => cases passed text rfl quiet
      | error f =>
        cases failed f rfl
        rfl
    split
    · rename_i lost
      refine (leads_log _ _ _).weaken ?_
      rintro r u ⟨quiet, logged⟩
      refine ⟨answer, fun calm => ?_, sent.silently logged⟩
      rw [quiet calm, reason calm, deletionResult, if_pos lost]
    · rename_i other
      refine ⟨answer, fun calm => ?_, sent⟩
      rw [reason calm, deletionResult, if_neg other]
      rfl

theorem leads_delete (opened : c.memory.guard.OpenTo caller) (active : c.memory.session.active = true) :
    Leads (surroundings.host nested caller) (delete settings) c fun r later =>
      ∃ session signals, Deletes surroundings caller settings c.memory r session signals ∧
        c.Becomes surroundings session c.memory.context signals later := by
  unfold delete
  apply leads_named opened active
  apply leads_step_bind
  cases held : heldConsumer? (c.memory.inside caller settings .delete).session with
  | none =>
    simp only [Step.apply, memory_remember, held]
    exact ⟨_, _, _, .unheld held, .refl⟩
  | some consumer =>
    simp only [Step.apply, memory_remember, remember_remember, held]
    refine (leads_deletion (by exact held)).lastly ?_
    rintro r t ⟨answer, settled, sent⟩
    have still : t.memory.session.active = true := by
      rw [sent.state.session]
      exact active
    refine (leads_reset still .delete).weaken ?_
    rintro closing u ⟨granted, forgotten⟩
    refine ⟨?_, ?_⟩
    · rintro rfl
      exact ⟨_, _, _, .sent held .refl fun dependable => settled dependable.logs, sent.trans forgotten⟩
    · rintro e rfl
      exact ⟨_, _, _, .sent held .refl fun dependable => (by cases granted dependable), sent.trans forgotten⟩

theorem Request.pull_eq (settings : Settings) (consumer : String) {timeout : Value} {positive : Bool}
    (compared : timeout.isPositive = .ok positive) : Request.pull settings consumer timeout =
      ⟨.get, if positive then consumerAddress settings consumer ++ "/records" ++ "?timeout=" ++ timeout.plain
        else consumerAddress settings consumer ++ "/records", none, .ofApi .consume⟩ := by
  unfold Request.pull
  rw [compared]
  cases positive <;> rfl

theorem leads_consume_explained (opened : c.memory.guard.OpenTo caller) (active : c.memory.session.active = true)
    (timeout : Value) :
    Leads (surroundings.host nested caller) (consume settings timeout) c fun r later =>
      ∃ session signals, (Consumes surroundings caller settings timeout c.memory r session signals ∧
          Explains surroundings .consume Batch.ofText r signals) ∧
        c.Becomes surroundings session c.memory.context signals later := by
  unfold consume
  apply leads_named opened active
  apply leads_step_bind
  show Leads _ (if !c.memory.session.isSubscribed then _ else _) _ _
  cases subscribed : c.memory.session.isSubscribed with
  | false => exact ⟨_, _, _, ⟨.unsubscribed subscribed, .unasked⟩, .refl⟩
  | true =>
    simp only [Bool.not_true, Bool.false_eq_true, ↓reduceIte]
    apply leads_consumerPath_bind
    · intro consumer (held : heldConsumer? c.memory.session = some consumer)
      refine leads_bind_of_exec (exec_ofFault _) ?_ ?_
      · intro positive compared
        have request := Request.pull_eq settings consumer (mapError_eq_ok compared)
        refine leads_sendFor_bind rfl ?_ ?_
        · intro answer t sent
          rw [← request] at sent
          refine (leads_understand _ _ _).bind ?_ ?_
          · rintro batch t ⟨rfl, -, denoted⟩
            apply leads_step_bind
            refine (leads_log _ _ _).bind ?_ ?_
            · rintro - u ⟨-, logged⟩
              exact ⟨_, _, _, ⟨.read subscribed held .refl denoted fun _ => rfl, .well fun _ => ⟨_, rfl⟩⟩,
                sent.silently logged⟩
            · rintro e u ⟨quiet, logged⟩
              exact ⟨_, _, _, ⟨.read subscribed held .refl denoted fun calm => (by cases quiet calm),
                .well fun calm => (by cases quiet calm)⟩, sent.silently logged⟩
          · rintro e t ⟨rfl, made, misread, meaningless⟩
            exact ⟨_, _, _, ⟨.unread subscribed held .refl meaningless misread, .unread made.symm⟩, sent⟩
        · intro e t sent
          rw [← request] at sent
          exact ⟨_, _, _, ⟨.failed subscribed held .refl e, .failed⟩, sent⟩
      · intro e incomparable
        obtain ⟨f, compared, rfl⟩ := mapError_eq_error incomparable
        exact ⟨_, _, _, ⟨.incomparable compared, .unasked⟩, .refl⟩
    · intro (absent : heldConsumer? c.memory.session = none)
      exact ⟨_, _, _, ⟨.unheld absent, .unasked⟩, .refl⟩

theorem leads_consume (opened : c.memory.guard.OpenTo caller) (active : c.memory.session.active = true)
    (timeout : Value) :
    Leads (surroundings.host nested caller) (consume settings timeout) c fun r later =>
      ∃ session signals, Consumes surroundings caller settings timeout c.memory r session signals ∧
        c.Becomes surroundings session c.memory.context signals later := by
  refine (leads_consume_explained opened active timeout).weaken ?_
  rintro r later ⟨session, signals, ⟨consumes, -⟩, became⟩
  exact ⟨session, signals, consumes, became⟩

theorem leads_commit (opened : c.memory.guard.OpenTo caller) (active : c.memory.session.active = true) :
    Leads (surroundings.host nested caller) (commit settings) c fun r later =>
      ∃ session signals, Commits surroundings caller settings c.memory r session signals ∧
        c.Becomes surroundings session c.memory.context signals later := by
  unfold commit
  apply leads_named opened active
  cases automatic : settings.autoCommits with
  | true => exact ⟨_, _, _, .automatic automatic, .refl⟩
  | false =>
    simp only [Bool.false_eq_true, ↓reduceIte]
    apply leads_consumerPath_bind
    · intro consumer (held : heldConsumer? c.memory.session = some consumer)
      refine leads_sendFor_bind rfl ?_ ?_
      · intro answer t sent
        exact ⟨_, _, _, .sent automatic held .refl answer, sent⟩
      · intro e t sent
        exact ⟨_, _, _, .failed automatic held .refl e, sent⟩
    · intro (absent : heldConsumer? c.memory.session = none)
      exact ⟨_, _, _, .unheld automatic absent, .refl⟩

/-! ## Subscribing -/

theorem leads_replaceTopics (active : c.memory.session.active = true)
    (holding : c.memory.session.hasConsumer = true) (names : List Value) (api : Api) :
    Leads (surroundings.host nested caller) (replaceTopics names api) c fun r later =>
      r = .ok () ∧ c.Becomes surroundings { c.memory.session with topics := names } c.memory.context []
        later := by
  have taken : Step.apply caller (.replaceTopics names (some api.name)) c.memory =
      (.ok (), { c.memory with session := { c.memory.session with topics := names } }) := by
    simp only [Step.apply, Session.replaceTopics, Session.change, active, holding, Bool.not_true,
      Bool.and_false, Bool.false_eq_true, ↓reduceIte, Step.attempt]
    rfl
  show (Step.apply caller (.replaceTopics names (some api.name)) c.memory).1 = .ok () ∧
    c.Becomes surroundings { c.memory.session with topics := names } c.memory.context []
      (c.remember (Step.apply caller (.replaceTopics names (some api.name)) c.memory).2)
  rw [taken]
  exact ⟨rfl, ⟨rfl, rfl, rfl, rfl, rfl, fun _ => rfl⟩, by simp⟩

/-- A consumer that was created is held. -/
theorem Creates.held {m : State} {fresh : Session String Value} {signals : List Event}
    (creates : Creates surroundings caller settings m (.ok ()) fresh signals) :
    fresh.active = true ∧ ∃ consumer, heldConsumer? fresh = some consumer := by
  cases creates with
  | made written amid named quiet =>
    obtain ⟨text, -, -, read⟩ := named
    exact ⟨rfl, _, heldConsumer?_eq_some.mpr ⟨rfl, CreatedConsumer.id_ne_empty read⟩⟩

theorem Equips.holds {m : State} {equipped : Session String Value} {signals : List Event}
    (equips : Equips surroundings caller settings m equipped signals) (active : m.session.active = true) :
    equipped.active = true ∧ ∃ consumer, heldConsumer? equipped = some consumer := by
  cases equips with
  | held holding =>
    rw [hasConsumer_eq_isSome] at holding
    exact ⟨active, Option.isSome_iff_exists.mp holding⟩
  | created lacking creates => exact creates.held

/-- The rest of a subscription once a consumer is held. -/
theorem leads_subscribeHeld {topics : Topics} {names : List Value} {d : Chronicle}
    {equipped : Session String Value} {signals : List Event} (active : c.memory.session.active = true)
    (wanted : wantedTopics topics = .ok names)
    (equips : Equips surroundings caller settings c.memory equipped signals)
    (begun : (c.remember (c.memory.inside caller settings .subscribe)).Becomes surroundings equipped
      (c.memory.inside caller settings .subscribe).context signals d) :
    Leads (surroundings.host nested caller) (subscribeHeld settings names) d
      fun r later => ∃ session context signals,
        Subscribes surroundings caller settings topics c.memory r session signals ∧
          (c.remember (c.memory.inside caller settings .subscribe)).Becomes surroundings session context
            signals later := by
  obtain ⟨still, consumer, held⟩ := equips.holds active
  apply leads_consumerPath_bind
  · intro other same
    rw [begun.state.session] at same
    cases held.symm.trans same
    cases checked : TopicsBody.ofArguments [("topics", .list names)] with
    | error issues => exact ⟨_, _, _, .unwritten wanted equips checked, begun⟩
    | ok body =>
      have texts : Arguments.Texts names body.topics := TopicsBody.ofArguments_eq_ok_iff.mp checked
      refine leads_bind_of_exec
        (show exec (surroundings.host nested caller) _ d = (.ok body.toText, d) from rfl) ?_ (by simp)
      rintro - ⟨⟩
      refine leads_sendFor_bind begun.state.transport ?_ ?_
      · intro answer t sent
        have answered := begun.still sent
        refine Leads.bind (leads_replaceTopics (by rw [answered.state.session]; exact still) ?_ _ _) ?_
          (by simp)
        · rw [answered.state.session, hasConsumer_eq_isSome, held]
          rfl
        · rintro - u ⟨-, recorded⟩
          rw [answered.state.session] at recorded
          have subscribed := answered.trans recorded
          rw [List.append_nil] at subscribed
          apply leads_step_bind
          refine (leads_log _ _ _).weaken ?_
          rintro r v ⟨quiet, logged⟩
          exact ⟨_, _, _, .done wanted texts equips held begun.state quiet, subscribed.silently logged⟩
      · intro e t sent
        exact ⟨_, _, _, .failed wanted texts equips held begun.state e, begun.still sent⟩
  · intro absent
    rw [begun.state.session] at absent
    cases held.symm.trans absent

theorem leads_subscribe (opened : c.memory.guard.OpenTo caller) (active : c.memory.session.active = true)
    (topics : Topics) :
    Leads (surroundings.host nested caller) (subscribe settings topics) c fun r later =>
      ∃ session signals, Subscribes surroundings caller settings topics c.memory r session signals ∧
        c.Becomes surroundings session c.memory.context signals later := by
  unfold subscribe
  apply leads_named opened active
  refine leads_bind_of_exec (exec_settle _) ?_ ?_
  · intro names wanted
    apply leads_step_bind
    show Leads _ (if !c.memory.session.hasConsumer then create settings >>= fun _ => _ else _) _ _
    cases holding : c.memory.session.hasConsumer with
    | true => exact leads_subscribeHeld active wanted (.held holding) .refl
    | false =>
      refine Leads.bind (leads_create (by exact Guard.openTo_claimed) (by exact active)) ?_ ?_
      · rintro ⟨⟩ t ⟨fresh, signals, creates, created⟩
        exact leads_subscribeHeld active wanted (.created holding creates) created
      · rintro e t ⟨fresh, signals, creates, created⟩
        exact ⟨_, _, _, .uncreated wanted holding creates, created⟩
  · intro e refused
    exact ⟨_, _, _, .topicless refused, .refl⟩

/-! ## Sessions that operations leave -/

variable {m : State} {left : Session String Value} {signals : List Event}

theorem Creates.active {r : Except Failure Unit}
    (creates : Creates surroundings caller settings m r left signals) (active : m.session.active = true) :
    left.active = true := by
  cases creates with
  | groupless missing => exact active
  | _ => rfl

theorem Equips.active (equips : Equips surroundings caller settings m left signals)
    (active : m.session.active = true) : left.active = true := (equips.holds active).1

theorem Subscribes.active {topics : Topics} {r : Except Failure Unit}
    (subscribes : Subscribes surroundings caller settings topics m r left signals)
    (active : m.session.active = true) : left.active = true := by
  cases subscribes with
  | topicless refused => exact active
  | uncreated wanted lacking creates => exact creates.active active
  | unwritten wanted equips refused => exact equips.active active
  | failed wanted texts equips held amid e => exact equips.active active
  | done wanted texts equips held amid quiet => exact equips.active active

theorem Deletes.active {r : Except Failure Unit}
    (deletes : Deletes surroundings caller settings m r left signals) (active : m.session.active = true) :
    left.active = true := by
  cases deletes with
  | unheld absent => exact active
  | sent held amid settled => rfl

theorem Consumes.session_eq {timeout : Value} {r : Except Failure Batch}
    (consumes : Consumes surroundings caller settings timeout m r left signals) : left = m.session := by
  cases consumes <;> rfl

theorem Commits.session_eq {r : Except Failure Unit}
    (commits : Commits surroundings caller settings m r left signals) : left = m.session := by
  cases commits <;> rfl

end

end ConsumerChannel.Channel
