import LanguageClient.Proofs.Session.Actions

namespace LanguageClient.Session

variable {s t : Session} {a : Action} {as : List Action} {first channel : Nat}

structure Bare (s : Session) : Prop where
  owned    : s.wiring.listeners = []
  attached : s.transport.listeners.attached = []
  router   : s.wiring.router?.map (·.channel) = none

-- A session that listens to each stream once, on one channel and with its own listeners.
structure Wired (s : Session) (first channel : Nat) : Prop where
  owned    : s.wiring.listeners = [first, first + 1, first + 2]
  attached : s.transport.listeners.attached =
    [⟨first, .message, channel⟩, ⟨first + 1, .log, channel⟩, ⟨first + 2, .error, channel⟩]
  router   : s.wiring.router?.map (·.channel) = some channel

theorem Wired.count_eq_one (h : s.Wired first channel) (stream : Stream) :
    s.transport.listeners.count stream = 1 := by
  rw [Listeners.count, h.attached]
  cases stream <;> rfl

theorem Bare.quietly {ops : List Pending.Operation} {emitted : List Event} (h : s.Bare)
    (q : s.Quietly t ops emitted) (hc : s.transport.listeners.closed = []) : t.Bare where
  owned    := q.owned.trans h.owned
  attached := (congrArg _ <| q.listeners hc).trans h.attached
  router   := q.channel.trans h.router

theorem Wired.quietly {ops : List Pending.Operation} {emitted : List Event}
    (h : s.Wired first channel) (q : s.Quietly t ops emitted)
    (hc : s.transport.listeners.closed = []) : t.Wired first channel where
  owned    := q.owned.trans h.owned
  attached := (congrArg _ <| q.listeners hc).trans h.attached
  router   := q.channel.trans h.router

-- The invariant of the wiring. A session that was never started has asked nothing yet.
structure Orderly (s : Session) : Prop where
  open_  : s.transport.listeners.closed = []
  wiring : s.Bare ∨ ∃ first channel, s.Wired first channel
  idle   : s.lifecycle = .idle → s.Bare ∧ s.pending.entries = []

theorem cleanup_bare (h : s.Bare ∨ ∃ first channel, s.Wired first channel) : s.cleanup.Bare where
  owned    := rfl
  router   := rfl
  attached := by
    rcases h with h | ⟨first, channel, h⟩
    · simp [cleanup, h.owned, h.attached]
    · simp [cleanup, h.owned, h.attached, Listeners.remove]

theorem attach_wired (h : s.Bare) :
    s.attach.Wired s.transport.listeners.issued s.wiring.wired where
  owned    := rfl
  router   := rfl
  attached := by simp [attach, Listeners.add, h.attached]

theorem idle_orderly : idle.Orderly where
  open_  := rfl
  wiring := .inl ⟨rfl, rfl, rfl⟩
  idle   := fun _ => ⟨⟨rfl, rfl, rfl⟩, rfl⟩

namespace Orderly

theorem cleanup_closed (s : Session) :
    s.cleanup.transport.listeners.closed = s.transport.listeners.closed := by
  have hr (ls : Listeners Nat) (ns : List Nat) :
      (ns.foldl Listeners.remove ls).closed = ls.closed := by
    induction ns generalizing ls
    case nil          => rfl
    case cons n ns hi => exact hi (ls.remove n)
  exact hr ..

theorem staged_wired (h : s.Orderly) :
    s.staged.transport.listeners.closed = [] ∧ ∃ first channel, s.staged.Wired first channel := by
  have ⟨notices, hs⟩ := s.staged_eq
  rw [hs]
  split
  case isTrue hi =>
    have ⟨ho, ha, hr⟩ := (h.idle hi).left
    exact ⟨h.open_, _, _, attach_wired ⟨ho, ha, hr⟩⟩
  case isFalse =>
    have ⟨ho, ha, hr⟩ := cleanup_bare h.wiring
    exact ⟨(cleanup_closed s).trans h.open_, _, _, attach_wired ⟨ho, ha, hr⟩⟩

theorem start_ok {command process : String} {args : List String} (h : s.Orderly)
    (hs : (s.start command args).1 = .ok process) :
    (s.start command args).2.transport.listeners.closed = [] ∧
      (s.start command args).2.lifecycle = .ready ∧
      ∃ first channel, (s.start command args).2.Wired first channel := by
  have ⟨hc, first, channel, ho, ha, hr⟩ := h.staged_wired
  match hf : s.transport.startRefusal? with
  | none =>
    have ⟨_, _, _, he⟩ := start_accepted hf command args
    rw [he]
    exact ⟨hc, rfl, first, channel, ho, ha, hr⟩
  | some _ =>
    have ⟨_, he⟩ := start_refused hf command args
    rw [he] at hs
    cases hs

theorem start_error {command : String} {args : List String} {f : Failure} (h : s.Orderly)
    (hs : (s.start command args).1 = .error f) :
    (s.start command args).2.transport.listeners.closed = [] ∧
      (s.start command args).2.lifecycle = .stopped ∧ (s.start command args).2.Bare := by
  have ⟨hc, first, channel, hw⟩ := h.staged_wired
  match hf : s.transport.startRefusal? with
  | none =>
    have ⟨_, _, _, he⟩ := start_accepted hf command args
    rw [he] at hs
    cases hs
  | some _ =>
    have ⟨_, he⟩ := start_refused hf command args
    have ⟨ho, ha, hr⟩ := cleanup_bare (.inr ⟨first, channel, hw⟩)
    rw [he]
    exact ⟨(cleanup_closed s.staged).trans hc, rfl, ho, ha, hr⟩

theorem stopped_bare (h : s.Orderly) : s.stopped.Bare := by
  have ⟨ho, ha, hr⟩ := cleanup_bare h.wiring
  exact ⟨ho, ha, hr⟩

theorem quiet_act (h : s.Orderly) (hq : a.isQuiet) : (s.act a).Orderly := by
  have q := s.act_quietly hq
  refine ⟨(congrArg _ <| q.listeners h.open_).trans h.open_, ?_, fun hi => ?_⟩
  · exact h.wiring.imp (·.quietly q h.open_) fun ⟨_, _, hw⟩ => ⟨_, _, hw.quietly q h.open_⟩
  · have hi := q.lifecycle.symm.trans hi
    have ⟨hb, he⟩ := h.idle hi
    refine ⟨hb.quietly q h.open_, q.pending ▸ Pending.entries_performAll_eq_nil he ?_⟩
    exact registered_operations_closed (by simp [hi, Lifecycle.acceptsTraffic]) a

theorem act (h : s.Orderly) (a : Action) : (s.act a).Orderly := by
  cases a
  case start command args =>
    rw [Session.act]
    cases hs : (s.start command args).1
    case ok =>
      obtain ⟨hc, hl, hw⟩ := h.start_ok hs
      exact ⟨hc, .inr hw, by simp [hl]⟩
    case error =>
      obtain ⟨hc, hl, hb⟩ := h.start_error hs
      exact ⟨hc, .inl hb, by simp [hl]⟩
  case cleanup =>
    have hb := cleanup_bare h.wiring
    exact ⟨(cleanup_closed s).trans h.open_, .inl hb, fun hi => ⟨hb, (h.idle hi).right⟩⟩
  case stop =>
    exact ⟨(cleanup_closed s).trans h.open_, .inl h.stopped_bare, fun hi => by cases hi⟩
  all_goals exact h.quiet_act rfl

theorem actAll (h : s.Orderly) (as : List Action) : (s.actAll as).Orderly := by
  induction as generalizing s
  case nil          => exact h
  case cons a as hi => exact hi (h.act a)

end Orderly

structure Numbered (s : Session) : Prop where
  sound   : s.pending.Sound
  timeout : s.pending.timeout = requestTimeout
  issued  : s.pending.issued = s.issued
  ids     : ∀ e ∈ s.pending.holders, e.id = e.ticket

theorem idle_numbered : idle.Numbered where
  sound   := .empty requestTimeout
  timeout := rfl
  issued  := rfl
  ids     := nofun

namespace Numbered

theorem act (h : s.Numbered) (a : Action) : (s.act a).Numbered where
  sound   := pending_act s a ▸ h.sound.performAll (a.operations s)
  timeout := by rw [pending_act, Pending.timeout_performAll, h.timeout]
  issued  := by rw [pending_act, issued_act, Pending.issued_performAll, h.issued]
  ids     := by
    have ⟨_, hr⟩ := registered_operations s a
    rw [pending_act]
    exact h.sound.id_eq_ticket h.ids (h.issued ▸ hr)

theorem actAll (h : s.Numbered) (as : List Action) : (s.actAll as).Numbered := by
  induction as generalizing s
  case nil          => exact h
  case cons a as hi => exact hi (h.act a)

end Numbered
end LanguageClient.Session
