import ConsumerChannel.Proofs.Addressing
import ConsumerChannel.Proofs.Callbacks
import ConsumerChannel.Proofs.Running

/-! How batches are delivered. Every batch that a loop pulls is handed to the callback at once and once,
and what has been handed over is committed only after the callback is done with it. The laws are about
positions among the signals of a run; they are read off one round at a time and put together. -/
namespace ConsumerChannel.Channel
open Operation

/-! ## The law -/

section
variable (settings : Settings)

/-- Records are asked for. -/
def Event.IsPull (e : Event) : Prop :=
  ∃ consumer timeout answer, e.Sends (.pull settings consumer timeout) answer

/-- A batch is pulled for a consumer. -/
def Event.Pulls (e : Event) (consumer : String) (batch : Batch) : Prop :=
  ∃ timeout answer, e.Sends (.pull settings consumer timeout) (.ok answer) ∧ Denotes Batch.ofText answer batch

/-- A commit is asked for. -/
def Event.IsCommit (e : Event) : Prop := ∃ consumer answer, e.Sends (.offsets settings consumer) answer

/-- A batch is done with: it is committed, or the callback failed on it. -/
def Event.IsSpent (e : Event) : Prop :=
  e.IsCommit settings ∨ ∃ failure, e.happening = .returned (.error failure)

/-- How a run delivers what it pulls to a callback. -/
structure Delivers (callback : CallbackId) (signals : List Event) : Prop where
  /-- A batch is handed over at once, with the consumer that it was pulled for. -/
  handed : ∀ past pull future consumer batch, signals = past ++ pull :: future →
    pull.Pulls settings consumer batch →
      ∃ m id rest, pull.Pulls settings id batch ∧ future = ⟨m, .called callback batch (some id)⟩ :: rest
  /-- Nothing else is handed over. -/
  pulled : ∀ past m id batch consumer future, signals = past ++ ⟨m, .called id batch consumer⟩ :: future →
    ∃ earlier pull name, past = earlier ++ [pull] ∧ pull.Pulls settings name batch ∧
      id = callback ∧ consumer = some name
  /-- A commit comes right after the callback is done with the latest batch and the channel is active. -/
  committed : ∀ past commit future, signals = past ++ commit :: future → commit.IsCommit settings →
    commit.memory.session.active = true ∧ ∃ earlier m batch consumer own n wish,
      past = earlier ++ ⟨m, .called callback batch consumer⟩ :: own ++ [⟨n, .returned (.ok wish)⟩] ∧
        ∀ e ∈ own, e.IsRetreat settings
  /-- A batch that was committed or that the callback failed on is not committed any more: before any
  further commit another batch is handed over. -/
  fresh : ∀ past spent between commit future, signals = past ++ spent :: between ++ commit :: future →
    spent.IsSpent settings → commit.IsCommit settings →
      ∃ m batch consumer, ⟨m, .called callback batch consumer⟩ ∈ between
  /-- Unless the service commits by itself, no more is pulled before the commit is answered. -/
  settled : settings.autoCommits = false → ∀ past m wish future,
    signals = past ++ ⟨m, .returned (.ok wish)⟩ :: future → (∃ pull ∈ future, pull.IsPull settings) →
      ∃ commit rest, future = commit :: rest ∧ commit.IsCommit settings
  /-- The loop outlives a failure of the callback only if that is a lost session. -/
  resumed : ∀ past m e future, signals = past ++ ⟨m, .returned (.error e)⟩ :: future →
    (∃ pull ∈ future, pull.IsPull settings) → e.class? = some .sessionLost

/-- A run may pull again: whatever the callback was done with has been committed, unless the service
commits by itself, and whatever it failed on was a lost session. -/
structure Settled (signals : List Event) : Prop where
  committed : settings.autoCommits = false → ∀ past m wish future,
    signals = past ++ ⟨m, .returned (.ok wish)⟩ :: future →
      ∃ commit rest, future = commit :: rest ∧ commit.IsCommit settings
  lost : ∀ past m e future, signals = past ++ ⟨m, .returned (.error e)⟩ :: future →
    e.class? = some .sessionLost

/-- An event that is neither a pull nor a commit nor about a callback. -/
def Event.IsPlain (e : Event) : Prop :=
  match e.happening with
  | .sent _ request _ => request.method = .delete ∨ request.body ≠ none
  | .called _ _ _ => False
  | .returned _ => False
  | _ => True

end

/-! ## Stretches of a run -/

section
variable {settings : Settings} {callback : CallbackId} {signals more : List Event} {e : Event}

theorem Event.IsPlain.not_pull (plain : e.IsPlain) : ¬ e.IsPull settings := by
  rintro ⟨consumer, timeout, answer, n, same⟩
  simp [Event.IsPlain, same, Request.pull] at plain

theorem Event.IsPlain.not_commit (plain : e.IsPlain) : ¬ e.IsCommit settings := by
  rintro ⟨consumer, answer, n, same⟩
  simp [Event.IsPlain, same, Request.offsets] at plain

theorem Event.IsRetreat.plain (retreat : e.IsRetreat settings) : e.IsPlain := by
  obtain ⟨m, happening⟩ := e
  cases happening with
  | sent n request answer =>
    obtain ⟨consumer, rfl⟩ := retreat
    exact .inl rfl
  | called id batch consumer => exact retreat
  | returned answer => exact retreat
  | _ => trivial

theorem Event.Repairs.plain (repairs : e.Repairs settings) : e.IsPlain := by
  unfold Event.IsPlain
  cases repairs with
  | creation sends =>
    obtain ⟨n, sent⟩ := sends
    rw [sent]
    exact .inr nofun
  | deletion sends =>
    obtain ⟨n, sent⟩ := sends
    rw [sent]
    exact .inl rfl
  | closed closed => simp [closed]
  | opened opened => simp [opened]

theorem Event.Builds.plain {topics : Topics} (builds : e.Builds settings topics) : e.IsPlain := by
  cases builds with
  | repairs repairs => exact repairs.plain
  | subscription wanted texts sends =>
    obtain ⟨n, sent⟩ := sends
    unfold Event.IsPlain
    rw [sent]
    exact .inr nofun

theorem Event.IsCommit.not_pull (commit : e.IsCommit settings) : ¬ e.IsPull settings := by
  rintro ⟨consumer, timeout, answer, n, same⟩
  obtain ⟨other, another, k, sent⟩ := commit
  rw [same] at sent
  simp [Request.pull, Request.offsets] at sent

theorem Event.Pulls.isPull {consumer : String} {batch : Batch} (pulls : e.Pulls settings consumer batch) :
    e.IsPull settings := by
  obtain ⟨timeout, answer, sends, -⟩ := pulls
  exact ⟨consumer, timeout, _, sends⟩

/-- A pull was answered with one batch. -/
theorem Event.Pulls.batch_eq {consumer other : String} {batch another : Batch}
    (pulls : e.Pulls settings consumer batch) (again : e.Pulls settings other another) : another = batch := by
  obtain ⟨timeout, answer, ⟨n, sent⟩, text, rfl, -, read⟩ := pulls
  obtain ⟨_, _, ⟨_, same⟩, _, rfl, -, reads⟩ := again
  rw [sent] at same
  simp only [Happening.sent.injEq, Except.ok.injEq, Option.some.injEq] at same
  obtain ⟨-, -, rfl⟩ := same
  exact Except.ok.inj (reads.symm.trans read)

theorem plain_at {past future : List Event} (plain : ∀ e ∈ signals, e.IsPlain)
    (same : signals = past ++ e :: future) : e.IsPlain := plain e (by simp [same])

/-- Plain events deliver nothing and leave nothing to settle. -/
theorem Delivers.plain (plain : ∀ e ∈ signals, e.IsPlain) : Delivers settings callback signals where
  handed _ _ _ _ _ same pulls := absurd pulls.isPull (plain_at plain same).not_pull
  pulled _ _ _ _ _ _ same := False.elim (plain_at plain same)
  committed _ _ _ same commits := absurd commits (plain_at plain same).not_commit
  fresh _ _ _ _ _ same _ commits := absurd commits (plain_at plain same).not_commit
  settled _ _ _ _ _ same _ := False.elim (plain_at plain same)
  resumed _ _ _ _ same _ := False.elim (plain_at plain same)

theorem Settled.plain (plain : ∀ e ∈ signals, e.IsPlain) : Settled settings signals where
  committed _ _ _ _ _ same := False.elim (plain_at plain same)
  lost _ _ _ _ same := False.elim (plain_at plain same)

theorem Settled.append (first : Settled settings signals) (second : Settled settings more) :
    Settled settings (signals ++ more) where
  committed manual past m wish future same := by
    rcases split_append same with ⟨rest, here, rfl⟩ | ⟨rest, -, there⟩
    · obtain ⟨commit, others, rfl, commits⟩ := first.committed manual past m wish rest here
      exact ⟨commit, others ++ more, rfl, commits⟩
    · exact second.committed manual rest m wish future there
  lost past m e future same := by
    rcases split_append same with ⟨rest, here, rfl⟩ | ⟨rest, -, there⟩
    · exact first.lost past m e rest here
    · exact second.lost rest m e future there

/-- What a run has delivered stays delivered as it goes on; it pulls again only once that is settled. -/
theorem Delivers.append (first : Delivers settings callback signals)
    (second : Delivers settings callback more)
    (settles : (∃ pull ∈ more, pull.IsPull settings) → Settled settings signals) :
    Delivers settings callback (signals ++ more) where
  handed past pull future consumer batch same pulls := by
    rcases split_append same with ⟨rest, here, rfl⟩ | ⟨rest, -, there⟩
    · obtain ⟨m, id, others, names, rfl⟩ := first.handed past pull rest consumer batch here pulls
      exact ⟨m, id, others ++ more, names, rfl⟩
    · exact second.handed rest pull future consumer batch there pulls
  pulled past m id batch consumer future same := by
    rcases split_append same with ⟨rest, here, -⟩ | ⟨rest, rfl, there⟩
    · exact first.pulled past m id batch consumer rest here
    · obtain ⟨earlier, pull, name, rfl, pulls⟩ := second.pulled rest m id batch consumer future there
      exact ⟨signals ++ earlier, pull, name, by simp, pulls⟩
  committed past commit future same commits := by
    rcases split_append same with ⟨rest, here, -⟩ | ⟨rest, rfl, there⟩
    · exact first.committed past commit rest here commits
    · obtain ⟨active, earlier, m, batch, consumer, own, n, wish, rfl, retreats⟩ :=
        second.committed rest commit future there commits
      exact ⟨active, signals ++ earlier, m, batch, consumer, own, n, wish, by simp, retreats⟩
  fresh past spent between commit future same ends commits := by
    rcases split_append same with ⟨rest, here, -⟩ | ⟨rest, before, there⟩
    · exact first.fresh past spent between commit rest here ends commits
    · rcases split_append before.symm with ⟨part, -, rfl⟩ | ⟨part, -, rfl⟩
      · obtain ⟨-, earlier, m, batch, consumer, own, n, wish, rfl, -⟩ :=
          second.committed rest commit future there commits
        exact ⟨m, batch, consumer, by simp⟩
      · exact second.fresh part spent between commit future there ends commits
  settled manual past m wish future same pulls := by
    rcases split_append same with ⟨rest, here, rfl⟩ | ⟨rest, -, there⟩
    · obtain ⟨commit, others, rfl, commits⟩ : ∃ commit others, rest = commit :: others ∧
          commit.IsCommit settings := by
        obtain ⟨pull, member, pulls⟩ := pulls
        rcases List.mem_append.mp member with known | new
        · exact first.settled manual past m wish rest here ⟨pull, known, pulls⟩
        · exact (settles ⟨pull, new, pulls⟩).committed manual past m wish rest here
      exact ⟨commit, others ++ more, rfl, commits⟩
    · exact second.settled manual rest m wish future there pulls
  resumed past m e future same pulls := by
    rcases split_append same with ⟨rest, here, rfl⟩ | ⟨rest, -, there⟩
    · obtain ⟨pull, member, pulls⟩ := pulls
      rcases List.mem_append.mp member with known | new
      · exact first.resumed past m e rest here ⟨pull, known, pulls⟩
      · exact (settles ⟨pull, new, pulls⟩).lost past m e rest here
    · exact second.resumed rest m e future there pulls

/-! ## One delivery -/

/-- What may follow the return of a callback at once: a commit, if it came back well to an active channel. -/
def Concludes (settings : Settings) (answer : Except Failure Value) (conclusion : List Event) : Prop :=
  conclusion = [] ∨ ∃ commit wish, conclusion = [commit] ∧ commit.IsCommit settings ∧
    commit.memory.session.active = true ∧ answer = .ok wish

theorem delivery_position {pull called back : Event} {own conclusion past future : List Event}
    (same : pull :: called :: (own ++ back :: conclusion) = past ++ e :: future) :
    (past = [] ∧ e = pull ∧ future = called :: (own ++ back :: conclusion)) ∨
    (past = [pull] ∧ e = called) ∨ e ∈ own ∨
    (past = pull :: called :: own ∧ e = back ∧ future = conclusion) ∨
    ∃ rest, past = pull :: called :: (own ++ back :: rest) ∧ conclusion = rest ++ e :: future := by
  rcases List.cons_eq_append_iff.mp same with ⟨rfl, here⟩ | ⟨second, rfl, tail⟩
  · cases here
    exact .inl ⟨rfl, rfl, rfl⟩
  · rcases List.cons_eq_append_iff.mp tail with ⟨rfl, here⟩ | ⟨third, rfl, within⟩
    · cases here
      exact .inr (.inl ⟨rfl, rfl⟩)
    · rcases split_append within with ⟨rest, rfl, -⟩ | ⟨rest, rfl, last⟩
      · exact .inr (.inr (.inl (by simp)))
      · rcases List.cons_eq_append_iff.mp last with ⟨rfl, here⟩ | ⟨others, rfl, beyond⟩
        · cases here
          exact .inr (.inr (.inr (.inl ⟨by simp, rfl, rfl⟩)))
        · exact .inr (.inr (.inr (.inr ⟨others, by simp, beyond⟩)))

/-- A batch is pulled and handed over, the callback comes back, and at most a commit follows. -/
theorem Delivers.delivery {pull : Event} {own conclusion : List Event} {consumer : String} {batch : Batch}
    {k n : State} {answer : Except Failure Value} (pulls : pull.Pulls settings consumer batch)
    (retreats : ∀ e ∈ own, e.IsRetreat settings) (concludes : Concludes settings answer conclusion) :
    Delivers settings callback (pull :: ⟨k, .called callback batch (some consumer)⟩ ::
      (own ++ ⟨n, .returned answer⟩ :: conclusion)) := by
  have commits {rest future : List Event} {e : Event} (same : conclusion = rest ++ e :: future) :
      rest = [] ∧ e.IsCommit settings ∧ e.memory.session.active = true ∧ future = [] ∧
        ∃ wish, answer = .ok wish := by
    rcases concludes with rfl | ⟨commit, wish, rfl, commits, active, well⟩
    · simp at same
    · rcases List.cons_eq_append_iff.mp same with ⟨rfl, here⟩ | ⟨others, rfl, beyond⟩
      · cases here
        exact ⟨rfl, commits, active, rfl, wish, well⟩
      · simp at beyond
  have none : ¬ ∃ pull ∈ conclusion, pull.IsPull settings := by
    rintro ⟨again, member, pulled⟩
    obtain ⟨rest, future, same⟩ := List.append_of_mem member
    exact (commits same).2.1.not_pull pulled
  have quiet {e : Event} (member : e ∈ own) : e.IsPlain := (retreats e member).plain
  constructor
  · intro past e future name other same pulled
    rcases delivery_position same with ⟨-, rfl, rfl⟩ | ⟨-, rfl⟩ | member | ⟨-, rfl, -⟩ | ⟨rest, -, tail⟩
    · cases pulls.batch_eq pulled
      exact ⟨k, consumer, _, pulls, rfl⟩
    · exact nomatch pulled.isPull
    · exact absurd pulled.isPull (quiet member).not_pull
    · exact nomatch pulled.isPull
    · exact absurd pulled.isPull (commits tail).2.1.not_pull
  · intro past m id other name future same
    rcases delivery_position same with ⟨-, here, -⟩ | ⟨rfl, here⟩ | member | ⟨-, here, -⟩ | ⟨rest, -, tail⟩
    · rw [← here] at pulls
      exact nomatch pulls.isPull
    · cases here
      exact ⟨[], pull, consumer, rfl, pulls, rfl, rfl⟩
    · exact (quiet member).elim
    · cases here
    · exact nomatch (commits tail).2.1
  · intro past commit future same committed
    rcases delivery_position same with ⟨-, rfl, -⟩ | ⟨-, rfl⟩ | member | ⟨-, rfl, -⟩ | ⟨rest, rfl, tail⟩
    · exact absurd pulls.isPull committed.not_pull
    · exact nomatch committed
    · exact absurd committed (quiet member).not_commit
    · exact nomatch committed
    · obtain ⟨rfl, -, active, -, wish, rfl⟩ := commits tail
      exact ⟨active, [pull], k, batch, some consumer, own, n, wish, by simp, retreats⟩
  · intro past spent between commit future same ends committed
    rcases delivery_position same with ⟨-, rfl, -⟩ | ⟨-, rfl⟩ | member | ⟨-, rfl, -⟩ | ⟨rest, before, tail⟩
    · exact absurd pulls.isPull committed.not_pull
    · exact nomatch committed
    · exact absurd committed (quiet member).not_commit
    · exact nomatch committed
    · obtain ⟨rfl, -, -, -, wish, rfl⟩ := commits tail
      exfalso
      rcases delivery_position before.symm with ⟨-, rfl, -⟩ | ⟨-, rfl⟩ | member | ⟨-, rfl, -⟩ | ⟨rest, -, tail⟩
      · rcases ends with again | ⟨e, failed⟩
        · exact again.not_pull pulls.isPull
        · obtain ⟨_, _, ⟨n, sent⟩, -⟩ := pulls
          exact nomatch sent.symm.trans failed
      · exact nomatch ends
      · rcases ends with again | ⟨e, failed⟩
        · exact (quiet member).not_commit again
        · have plain := quiet member
          simp [Event.IsPlain, failed] at plain
      · exact nomatch ends
      · simp at tail
  · intro manual past m wish future same pulled
    rcases delivery_position same with ⟨-, here, -⟩ | ⟨-, here⟩ | member | ⟨-, -, rfl⟩ | ⟨rest, -, tail⟩
    · rw [← here] at pulls
      exact nomatch pulls.isPull
    · cases here
    · exact (quiet member).elim
    · exact absurd pulled none
    · exact nomatch (commits tail).2.1
  · intro past m e future same pulled
    rcases delivery_position same with ⟨-, here, -⟩ | ⟨-, here⟩ | member | ⟨-, -, rfl⟩ | ⟨rest, -, tail⟩
    · rw [← here] at pulls
      exact nomatch pulls.isPull
    · cases here
    · exact (quiet member).elim
    · exact absurd pulled none
    · exact nomatch (commits tail).2.1

/-- A delivery is settled if a commit concludes it or none is due, and if no failure but a lost session
ended it. -/
theorem Settled.delivery {pull : Event} {own conclusion : List Event} {consumer : String} {batch : Batch}
    {k n : State} {answer : Except Failure Value} (pulls : pull.IsPull settings)
    (retreats : ∀ e ∈ own, e.IsRetreat settings) (concludes : Concludes settings answer conclusion)
    (due : settings.autoCommits = false → ∀ wish, answer = .ok wish → conclusion ≠ [])
    (lost : ∀ e, answer = .error e → e.class? = some .sessionLost) :
    Settled settings (pull :: ⟨k, .called callback batch (some consumer)⟩ ::
      (own ++ ⟨n, .returned answer⟩ :: conclusion)) := by
  have concluded {rest future : List Event} {e : Event} (same : conclusion = rest ++ e :: future) :
      e.IsCommit settings := by
    rcases concludes with rfl | ⟨commit, wish, rfl, commits, -, -⟩
    · simp at same
    · have member : e ∈ [commit] := by simp [same]
      rwa [List.mem_singleton.mp member]
  constructor
  · intro manual past m wish future same
    rcases delivery_position same with ⟨-, here, -⟩ | ⟨-, here⟩ | member | ⟨-, here, rfl⟩ | ⟨rest, -, tail⟩
    · rw [← here] at pulls
      exact nomatch pulls
    · cases here
    · exact ((retreats _ member).plain).elim
    · cases here
      obtain ⟨commit, rest, rfl⟩ := List.exists_cons_of_ne_nil (due manual wish rfl)
      exact ⟨commit, rest, rfl, concluded (List.nil_append _).symm⟩
    · exact nomatch concluded tail
  · intro past m e future same
    rcases delivery_position same with ⟨-, here, -⟩ | ⟨-, here⟩ | member | ⟨-, here, rfl⟩ | ⟨rest, -, tail⟩
    · rw [← here] at pulls
      exact nomatch pulls
    · cases here
    · exact ((retreats _ member).plain).elim
    · cases here
      exact lost e rfl
    · exact nomatch concluded tail

end

/-! ## Rounds -/

section
variable {surroundings : Surroundings} {caller : Thread} {settings : Settings}
  {nested : List Move → Chronicle → Chronicle} {callback : CallbackId} {topics : List Value}
  {c later : Chronicle} {m : State} {left : Session String Value} {signals : List Event}

/-- A failure that a loop goes on after is a lost session. -/
theorem Recovers.lost_of_ok {goOn : Bool} {e : Failure} {next : LoopState}
    (recovers : Recovers surroundings caller settings goOn e c (.ok next) later) :
    e.class? = some .sessionLost := by
  generalize same : (Except.ok next : Except Failure LoopState) = r at recovers
  cases recovers with
  | foreign other => cases same
  | lost lost recreates => exact lost
  | @fatal r _ fatal cleans => cases r <;> cases same

/-- What is seen of the first half of a cycle once the topics are subscribed. -/
inductive Handover (settings : Settings) (callback : CallbackId) :
    Except Failure (Option Bool) → List Event → Prop where
  | nothing (ended : ∀ goOn, r ≠ .ok (some goOn)) : Handover settings callback r []
  | unread (asks : Event.IsPull settings pull)
      (empty : ∀ consumer batch, ¬ pull.Pulls settings consumer batch) :
      Handover settings callback (.error e) [pull]
  | handed {pull : Event} {own : List Event} {k n : State} {consumer : String} {batch : Batch}
      {answer : Except Failure Value} (pulls : pull.Pulls settings consumer batch)
      (retreats : ∀ e ∈ own, e.IsRetreat settings)
      (result : r.map (fun _ => ()) = answer.map fun _ => ()) :
      Handover settings callback r
        (pull :: ⟨k, .called callback batch (some consumer)⟩ :: (own ++ [⟨n, .returned answer⟩]))

/-- A batch that is consumed was pulled for the consumer that is held. -/
theorem Consumes.pulls {timeout : Value} {batch : Batch} (quiet : surroundings.LogsQuietly)
    (consumes : Consumes surroundings caller settings timeout m (.ok batch) left signals) :
    ∃ pull consumer, signals = [pull] ∧ pull.Pulls settings consumer batch ∧ left.consumer = some consumer := by
  generalize same : (Except.ok batch : Except Failure Batch) = r at consumes
  cases consumes with
  | read subscribed held amid denoted result =>
    rw [result quiet] at same
    cases same
    exact ⟨_, _, rfl, ⟨timeout, _, ⟨_, rfl⟩, denoted⟩, (heldConsumer?_eq_some.mp held).1⟩
  | _ => cases same

/-- Where consuming fails no batch was pulled. -/
theorem Consumes.empty {timeout : Value} {e : Failure} (quiet : surroundings.LogsQuietly)
    (consumes : Consumes surroundings caller settings timeout m (.error e) left signals) :
    signals = [] ∨ ∃ pull, signals = [pull] ∧ pull.IsPull settings ∧
      ∀ consumer batch, ¬ pull.Pulls settings consumer batch := by
  generalize same : (Except.error e : Except Failure Batch) = r at consumes
  cases consumes with
  | unsubscribed topicless => exact .inl rfl
  | unheld absent => exact .inl rfl
  | incomparable fault => exact .inl rfl
  | failed subscribed held amid e =>
    refine .inr ⟨_, rfl, ⟨_, timeout, _, _, rfl⟩, ?_⟩
    rintro consumer batch ⟨_, _, ⟨_, sent⟩, -⟩
    simp at sent
  | unread subscribed held amid meaningless misread =>
    refine .inr ⟨_, rfl, ⟨_, timeout, _, _, rfl⟩, ?_⟩
    rintro consumer batch ⟨_, _, ⟨_, sent⟩, denoted⟩
    simp only [Happening.sent.injEq, Except.ok.injEq] at sent
    rw [← sent.2.2] at denoted
    exact meaningless batch denoted
  | read subscribed held amid denoted result =>
    rw [result quiet] at same
    cases same

theorem Readies.plain {subscribed : Bool} {r : Except Failure Unit}
    (readies : Readies surroundings caller settings topics c subscribed r later) :
    c.Adds Event.IsPlain later := readies.builds.weaken fun _ => Event.Builds.plain

theorem Recovers.plain {goOn : Bool} {e : Failure} {r : Except Failure LoopState}
    (recovers : Recovers surroundings caller settings goOn e c r later) :
    c.Adds Event.IsPlain later := recovers.repairs.weaken fun _ => Event.Repairs.plain

theorem Fetches.handover {depth : Nat} {subscribed : Bool} {r : Except Failure (Option Bool)}
    (fetches : Fetches surroundings caller settings (perform surroundings settings caller depth) callback
      topics c subscribed r later)
    (quiet : surroundings.LogsQuietly) (ends : surroundings.OnlyEnds)
    (opened : c.memory.guard.OpenTo caller) :
    ∃ d rest, c.Adds Event.IsPlain d ∧ later.signals = d.signals ++ rest ∧
      Handover settings callback r rest := by
  have handed {d k : Chronicle} {batch : Batch} {left : Session String Value} {signals : List Event}
      {answer : Except Failure Value}
      (readies : Readies surroundings caller settings topics c subscribed (.ok ()) d)
      (consumes : Consumes surroundings caller settings settings.consumeTimeout d.memory (.ok batch) left
        signals)
      (pulled : d.Becomes surroundings left d.memory.context signals k)
      (called : surroundings.outside (perform surroundings settings caller depth)
        (.callback callback batch left.consumer) k = (answer, later))
      (result : r.map (fun _ => ()) = answer.map fun _ => ()) :
      ∃ rest, later.signals = d.signals ++ rest ∧ Handover settings callback r rest := by
    obtain ⟨pull, consumer, rfl, pulls, held⟩ := consumes.pulls quiet
    rw [held] at called
    have opened : k.memory.guard.OpenTo caller := by rwa [pulled.state.guard, readies.guard]
    obtain ⟨-, own, n, retreats, added⟩ := outside_callback ends depth opened called
    rw [pulled.signals, List.append_assoc] at added
    exact ⟨_, added, .handed pulls retreats result⟩
  cases fetches with
  | unready readies => exact ⟨later, [], readies.plain, by simp, .nothing nofun⟩
  | stopped readies asked => exact ⟨later, [], readies.plain, by simp, .nothing nofun⟩
  | @unpulled d e _ _ _ readies consumes pulled =>
    refine ⟨d, _, readies.plain, pulled.signals, ?_⟩
    rcases consumes.empty quiet with rfl | ⟨pull, rfl, asks, empty⟩
    · exact .nothing nofun
    · exact .unread asks empty
  | raised readies consumes pulled called =>
    obtain ⟨rest, added, handover⟩ := handed readies consumes pulled called rfl
    exact ⟨_, rest, readies.plain, added, handover⟩
  | handled readies consumes pulled called =>
    obtain ⟨rest, added, handover⟩ := handed readies consumes pulled called rfl
    exact ⟨_, rest, readies.plain, added, handover⟩

/-! ## Runs -/

/-- A pull that brings no batch delivers nothing and leaves nothing to settle. -/
theorem delivers_unread {pull : Event} (asks : pull.IsPull settings)
    (empty : ∀ consumer batch, ¬ pull.Pulls settings consumer batch) :
    Delivers settings callback [pull] ∧ Settled settings [pull] := by
  have only {past future : List Event} {e : Event} (same : [pull] = past ++ e :: future) : e = pull := by
    have member : e ∈ [pull] := by simp [same]
    exact List.mem_singleton.mp member
  have silent {m : State} {h : Happening} (same : ⟨m, h⟩ = pull) :
      ∃ n request answer, h = .sent n request answer := by
    obtain ⟨consumer, timeout, answer, n, sent⟩ := asks
    rw [← same] at sent
    exact ⟨n, _, answer, sent⟩
  refine ⟨⟨?_, ?_, ?_, ?_, ?_, ?_⟩, ?_, ?_⟩
  · intro past e future consumer batch same pulls
    rw [only same] at pulls
    exact absurd pulls (empty consumer batch)
  · intro past m id batch consumer future same
    exact nomatch silent (only same)
  · intro past commit future same commits
    rw [only same] at commits
    exact absurd asks commits.not_pull
  · intro past spent between commit future same ends commits
    rw [only same] at commits
    exact absurd asks commits.not_pull
  · intro manual past m wish future same pulls
    exact nomatch silent (only same)
  · intro past m e future same pulls
    exact nomatch silent (only same)
  · intro manual past m wish future same
    exact nomatch silent (only same)
  · intro past m e future same
    exact nomatch silent (only same)

/-- A stretch of a run delivers what it pulls; if `ready` holds, the run may pull again after it. -/
def Stretches (settings : Settings) (callback : CallbackId) (ready : Prop) (c later : Chronicle) : Prop :=
  ∃ more, later.signals = c.signals ++ more ∧ Delivers settings callback more ∧ (ready → Settled settings more)

theorem Stretches.after_plain {ready : Prop} {d : Chronicle} (plain : c.Adds Event.IsPlain d)
    (rest : Stretches settings callback ready d later) : Stretches settings callback ready c later := by
  obtain ⟨signals, added, all⟩ := plain
  obtain ⟨more, goes, delivers, settles⟩ := rest
  refine ⟨signals ++ more, by rw [goes, added, List.append_assoc], ?_, ?_⟩
  · exact (Delivers.plain all).append delivers fun _ => .plain all
  · exact fun go => (Settled.plain all).append (settles go)

theorem Stretches.before_plain {ready : Prop} {d : Chronicle} (first : Stretches settings callback ready c d)
    (plain : d.Adds Event.IsPlain later) : Stretches settings callback ready c later := by
  obtain ⟨signals, added, delivers, settles⟩ := first
  obtain ⟨more, goes, all⟩ := plain
  refine ⟨signals ++ more, by rw [goes, added, List.append_assoc], ?_, ?_⟩
  · refine delivers.append (.plain all) ?_
    rintro ⟨pull, member, asks⟩
    exact absurd asks (all pull member).not_pull
  · exact fun go => (settles go).append (.plain all)

theorem Stretches.trans {ready : Prop} {d : Chronicle} (first : Stretches settings callback True c d)
    (second : Stretches settings callback ready d later) : Stretches settings callback ready c later := by
  obtain ⟨signals, added, delivers, settles⟩ := first
  obtain ⟨more, goes, rest, settled⟩ := second
  exact ⟨signals ++ more, by rw [goes, added, List.append_assoc], delivers.append rest fun _ => settles trivial,
    fun go => (settles trivial).append (settled go)⟩

theorem Stretches.weaken {ready less : Prop} (stretches : Stretches settings callback ready c later)
    (weaken : less → ready) : Stretches settings callback less c later := by
  obtain ⟨more, added, delivers, settles⟩ := stretches
  exact ⟨more, added, delivers, fun go => settles (weaken go)⟩

/-- The first half of a cycle delivers; after a failure the loop may pull again if that is a lost session. -/
theorem Handover.delivers {r : Except Failure (Option Bool)} {rest : List Event}
    (handover : Handover settings callback r rest) :
    Delivers settings callback rest ∧
      ((∃ e, r = .error e ∧ e.class? = some .sessionLost) → Settled settings rest) := by
  cases handover with
  | nothing ended => exact ⟨.plain (List.forall_mem_nil _), fun _ => .plain (List.forall_mem_nil _)⟩
  | unread asks empty =>
    obtain ⟨delivers, settled⟩ := delivers_unread asks empty
    exact ⟨delivers, fun _ => settled⟩
  | handed pulls retreats result =>
    refine ⟨.delivery pulls retreats (.inl rfl), ?_⟩
    rintro ⟨e, rfl, lost⟩
    refine .delivery pulls.isPull retreats (.inl rfl) ?_ ?_
    · rintro - wish rfl
      cases result
    · rintro other rfl
      cases result
      exact lost

/-- A cycle that goes on to its commit has delivered a batch, which a commit concludes. -/
theorem Handover.concluded {goOn : Bool} {rest conclusion : List Event}
    (handover : Handover settings callback (.ok (some goOn)) rest)
    (concludes : conclusion = [] ∨ ∃ commit, conclusion = [commit] ∧ commit.IsCommit settings ∧
      commit.memory.session.active = true) :
    Delivers settings callback (rest ++ conclusion) ∧
      ((settings.autoCommits = false → conclusion ≠ []) → Settled settings (rest ++ conclusion)) := by
  cases handover with
  | nothing ended => exact absurd rfl (ended goOn)
  | @handed _ pull own k n consumer batch answer pulls retreats result =>
    have well : ∃ wish, answer = .ok wish := by
      cases answer with
      | ok wish => exact ⟨wish, rfl⟩
      | error e => cases result
    obtain ⟨wish, rfl⟩ := well
    have concluded : Concludes settings (.ok wish) conclusion := by
      rcases concludes with rfl | ⟨commit, rfl, commits, active⟩
      · exact .inl rfl
      · exact .inr ⟨commit, wish, rfl, commits, active, rfl⟩
    have shape : (pull :: ⟨k, .called callback batch (some consumer)⟩ ::
        (own ++ [⟨n, .returned (.ok wish)⟩])) ++ conclusion = pull :: ⟨k, .called callback batch (some consumer)⟩ ::
          (own ++ ⟨n, .returned (.ok wish)⟩ :: conclusion) := by simp
    rw [shape]
    exact ⟨.delivery pulls retreats concluded, fun due =>
      .delivery pulls.isPull retreats concluded (fun manual _ _ => due manual) nofun⟩

theorem Commits.concludes {r : Except Failure Unit}
    (commits : Commits surroundings caller settings m r left signals) (active : m.session.active = true) :
    signals = [] ∨ ∃ commit, signals = [commit] ∧ commit.IsCommit settings ∧
      commit.memory.session.active = true := by
  cases commits with
  | automatic automatic => exact .inl rfl
  | unheld manual absent => exact .inl rfl
  | failed manual held amid e =>
    exact .inr ⟨_, rfl, ⟨_, _, _, rfl⟩, by rw [amid.session, active]⟩
  | sent manual held amid answer =>
    exact .inr ⟨_, rfl, ⟨_, _, _, rfl⟩, by rw [amid.session, active]⟩

/-- Where a commit is due and the loop may go on, it was sent. -/
theorem Commits.due {r : Except Failure Unit}
    (commits : Commits surroundings caller settings m r left signals)
    (goes : ∀ e, r = .error e → e.class? = some .sessionLost) (manual : settings.autoCommits = false) :
    signals ≠ [] := by
  cases commits with
  | automatic automatic => exact nomatch automatic.symm.trans manual
  | unheld manual absent => exact nomatch goes _ rfl
  | failed manual held amid e => simp
  | sent manual held amid answer => simp

theorem Cycles.stretches {depth : Nat} {subscribed : Bool} {r : Except Failure LoopState}
    (cycles : Cycles surroundings caller settings (perform surroundings settings caller depth) callback topics
      c subscribed r later)
    (quiet : surroundings.LogsQuietly) (ends : surroundings.OnlyEnds)
    (opened : c.memory.guard.OpenTo caller) :
    Stretches settings callback (∃ next, r = .ok next ∧ next.goOn = true) c later := by
  cases cycles with
  | failed fetches recovers =>
    obtain ⟨d, rest, plain, added, handover⟩ := fetches.handover quiet ends opened
    obtain ⟨delivers, settles⟩ := handover.delivers
    refine .after_plain plain (.before_plain ⟨rest, added, delivers, ?_⟩ recovers.plain)
    rintro ⟨next, rfl, going⟩
    exact settles ⟨_, rfl, recovers.lost_of_ok⟩
  | ended fetches =>
    obtain ⟨d, rest, plain, added, handover⟩ := fetches.handover quiet ends opened
    refine .after_plain plain ⟨rest, added, handover.delivers.1, ?_⟩
    rintro ⟨next, ⟨⟩, going⟩
    cases going
  | committed fetches commits became =>
    obtain ⟨d, rest, plain, added, handover⟩ := fetches.handover quiet ends opened
    obtain ⟨delivers, settles⟩ := handover.concluded (commits.concludes fetches.active)
    refine .after_plain plain ⟨_, ?_, delivers, fun _ => settles (commits.due nofun)⟩
    rw [became.signals, added, List.append_assoc]
  | uncommitted fetches commits became recovers =>
    obtain ⟨d, rest, plain, added, handover⟩ := fetches.handover quiet ends opened
    obtain ⟨delivers, settles⟩ := handover.concluded (commits.concludes fetches.active)
    refine .after_plain plain (.before_plain ?_ recovers.plain)
    refine ⟨_, by rw [became.signals, added, List.append_assoc], delivers, ?_⟩
    rintro ⟨next, rfl, going⟩
    refine settles (commits.due ?_)
    rintro other ⟨⟩
    exact recovers.lost_of_ok

theorem Loops.ended {rounds : Nat} {state : LoopState} {r : Except Failure Unit}
    (loops : Loops surroundings caller settings nested callback topics rounds state c r later)
    (ended : state.goOn = false) : later = c := by
  cases loops with
  | done _ => rfl
  | exhausted going free => exact nomatch going.symm.trans ended
  | broken going free cycles => exact nomatch going.symm.trans ended
  | next going free cycles loops => exact nomatch going.symm.trans ended

theorem Loops.stretches {depth rounds : Nat} {state : LoopState} {r : Except Failure Unit}
    (loops : Loops surroundings caller settings (perform surroundings settings caller depth) callback topics
      rounds state c r later)
    (quiet : surroundings.LogsQuietly) (ends : surroundings.OnlyEnds)
    (opened : c.memory.guard.OpenTo caller) :
    Stretches settings callback False c later := by
  induction loops with
  | done ended => exact ⟨[], by simp, .plain (List.forall_mem_nil _), nofun⟩
  | exhausted going free => exact ⟨[], by simp, .plain (List.forall_mem_nil _), nofun⟩
  | broken going free cycles => exact (cycles.stretches quiet ends opened).weaken False.elim
  | @next state after _ d _ _ _ going free cycles loops ih =>
    have first := cycles.stretches quiet ends opened
    have kept := cycles.guard (leavesGuard_of_onlyEnds ends depth) opened
    cases goOn : after.goOn with
    | true => exact (first.weaken fun _ => ⟨after, rfl, goOn⟩).trans (ih (by rwa [kept]))
    | false =>
      rw [loops.ended goOn]
      exact first.weaken False.elim

end

/-- A run with a callback that touches the channel only to stop or destroy it hands every batch over once,
at once and under its consumer, commits only what the callback is done with, and leaves nothing uncommitted
behind when it pulls on. -/
theorem run_delivers (surroundings : Surroundings) (settings : Settings) (caller : Thread)
    (depth rounds : Nat) (callback : CallbackId) (topics : Topics) (c : Chronicle)
    (opened : c.memory.guard.OpenTo caller) (quiet : surroundings.LogsQuietly)
    (ends : surroundings.OnlyEnds) :
    ∃ signals, (exec (surroundings.hosting settings caller depth)
        (run settings rounds (some callback) topics) c).2.signals = c.signals ++ signals ∧
      Delivers settings callback signals := by
  show Leads (surroundings.hosting settings caller depth)
    (run settings rounds (some callback) topics) c fun _ later =>
      ∃ signals, later.signals = c.signals ++ signals ∧ Delivers settings callback signals
  refine (leads_run quiet (leavesGuard_of_onlyEnds ends depth) opened rounds).weaken ?_
  intro r later runs
  cases runs with
  | inactive inactive => exact ⟨[], by simp, .plain (List.forall_mem_nil _)⟩
  | refused passed unready => exact ⟨[], passed.signals, .plain (List.forall_mem_nil _)⟩
  | looped active grouped chosen wanted begins stages loops finishes =>
    cases chosen
    obtain ⟨signals, added, delivers, -⟩ := loops.stretches quiet ends begins.opened
    exact ⟨signals, by rw [finishes.signals, added, begins.signals], delivers⟩

/-- A run delivers even with a callback that destroys the channel. -/
theorem run_delivers_destroyed :
    (Chronicle.start 0).memory.guard.OpenTo 0 ∧ (Surroundings.oneBatch (.destroy 0)).LogsQuietly ∧
      (Surroundings.oneBatch (.destroy 0)).OnlyEnds ∧
      ∃ signals, (exec ((Surroundings.oneBatch (.destroy 0)).hosting committing 0 1)
        (run committing 2 (some 0) (.single "t")) (.start 0)).2.signals =
          (Chronicle.start 0).signals ++ signals ∧ Delivers committing 0 signals := by
  have opened : (Chronicle.start 0).memory.guard.OpenTo 0 := .inl rfl
  have quiet : (Surroundings.oneBatch (.destroy 0)).LogsQuietly := (Surroundings.scripted_dependable ..).logs
  have ends : (Surroundings.oneBatch (.destroy 0)).OnlyEnds := fun _ => List.forall_mem_singleton.mpr trivial
  exact ⟨opened, quiet, ends, run_delivers _ committing 0 1 2 0 (.single "t") (.start 0) opened quiet ends⟩

end ConsumerChannel.Channel
