import ConsumerChannel.Channel.State

/-! The parts of a channel's memory. Every step looks at one part or writes it, and leaves all others as they
are. -/
namespace ConsumerChannel.Channel

/-- A part of the memory. -/
inductive Part where
  | guard
  | session
  | flags
  | context
  | destroying
  | transport
  deriving DecidableEq

/-- The part that a step may write; a step that only looks writes none. -/
def Step.part : Step → Option Part
  | acquire _ | release => some .guard
  | setConsumer _ _ | replaceTopics _ _ | resetSession _ | deactivate => some .session
  | tryStart | finish | tryRequestStop | clearStopRequest => some .flags
  | changeContext _ => some .context
  | lockDestroy | unlockDestroy => some .destroying
  | useTransport _ => some .transport
  | depth | held | session | flags | context | transport => none

/-- A part is the same in two memories. -/
def Part.Same (m later : State) : Part → Prop
  | guard => later.guard = m.guard
  | session => later.session = m.session
  | flags => later.flags = m.flags
  | context => later.context = m.context
  | destroying => later.destroying = m.destroying
  | transport => later.transport = m.transport

/-- What holds of a memory holds once a change was attempted, if it holds of the memory that was changed. -/
theorem Step.attempt_keeps (kept : State → Prop) {m : State} {changed : Except Failure α} {put : α → State}
    (before : kept m) (after : ∀ a, changed = .ok a → kept (put a)) : kept (attempt m changed put).2 := by
  cases changed with
  | ok a => exact after a rfl
  | error e => exact before

theorem Part.same_refl (m : State) (part : Part) : part.Same m m := by
  cases part <;> rfl

/-- An attempt leaves what the change leaves. -/
theorem Step.attempt_leaves {m : State} {changed : Except Failure α} {put : α → State} {part : Part}
    (leaves : ∀ a, part.Same m (put a)) : part.Same m (attempt m changed put).2 :=
  attempt_keeps (part.Same m ·) (part.same_refl m) fun a _ => leaves a

/-- A step leaves every part as it is that it does not write. -/
theorem Step.apply_leaves (s : Step) {part : Part} (other : s.part ≠ some part) (t : Thread) (m : State) :
    part.Same m (s.apply t m).2 := by
  cases s with
  | unlockDestroy =>
    simp only [Step.apply]
    cases part <;> first | exact absurd rfl other | split <;> rfl
  | _ => cases part <;> first | exact absurd rfl other | rfl | exact attempt_leaves fun _ => rfl

/-- Only deactivating changes whether a session is active. -/
theorem Step.active_apply (s : Step) (kept : s ≠ .deactivate) (t : Thread) (m : State) :
    (s.apply t m).2.session.active = m.session.active := by
  by_cases writes : s.part = some .session
  · have changed {api : Option String} {later : Session String Value}
        {result : Except Failure (Session String Value)} (same : ∀ s, result = .ok s → s.active = m.session.active)
        (recorded : m.session.change api result = .ok later) : later.active = m.session.active := by
      unfold Session.change at recorded
      split at recorded
      · exact same later recorded
      · cases recorded
    cases s with
    | setConsumer id api =>
      refine attempt_keeps (·.session.active = m.session.active) rfl fun later recorded => ?_
      exact changed (by rintro s ⟨⟩; rfl) recorded
    | replaceTopics topics api =>
      refine attempt_keeps (·.session.active = m.session.active) rfl fun later recorded => ?_
      refine changed (fun s replaced => ?_) recorded
      split at replaced
      · cases replaced
      · cases replaced
        rfl
    | resetSession api =>
      refine attempt_keeps (·.session.active = m.session.active) rfl fun later recorded => ?_
      exact changed (by rintro s ⟨⟩; rfl) recorded
    | deactivate => exact absurd rfl kept
    | _ => cases writes
  · have same : (s.apply t m).2.session = m.session := s.apply_leaves writes t m
    rw [same]

end ConsumerChannel.Channel
