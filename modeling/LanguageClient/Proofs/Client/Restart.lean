import LanguageClient.Proofs.Client.Callers

namespace LanguageClient

variable {ms : List Client.Move} {d : Caller}

namespace Session

variable {s : Session} {a : Action} {as : List Action} {e : Pending.Entry}

theorem quiet_of_ofCall {call : Call} (ha : a.ofCall call) (h : call ≠ .shutdown) : a.isQuiet := by
  cases a
  case stop => cases call <;> simp [Action.ofCall] at ha h
  all_goals first | rfl | cases ha

theorem routing_quiet : ∀ a ∈ s.routing, a.isQuiet := by
  rw [routing]
  split
  · exact List.forall_mem_nil _
  · simp [Action.isQuiet]

theorem act_honours (h : s.Numbered) (hq : a.isQuiet) (he : s.pending.Honours e) :
    (s.act a).pending.Honours e := by
  have hl : e.id < s.issued := by
    rw [h.ids e he.mem_holders, ← h.issued]
    exact Int.ofNat_lt.mpr (h.sound.ticket_lt he.mem_holders)
  rw [pending_act]
  refine he.performAll h.sound.toTimed fun op ho now hs => ?_
  cases a
  case start | cleanup | stop => cases hq
  case send method params =>
    -- A request that is sent, even if it is forgotten at once, has an id of its own.
    have hn : ¬ e.id = s.issued := Int.ne_of_lt hl
    simp only [Action.operations] at ho
    split at ho
    case isTrue =>
      split at ho
      all_goals
        simp only [List.mem_cons, List.not_mem_nil, or_false] at ho
        rcases ho with rfl | rfl
        all_goals exact absurd (by simpa [Pending.Operation.ends, Pending.hasId] using hs) hn
    case isFalse => cases ho
  case deliver ev =>
    simp only [Action.operations, Option.mem_toList, Option.map_eq_some_iff] at ho
    obtain ⟨_, _, ho⟩ := ho
    rw [← ho]
    rfl
  case cancel | advance =>
    cases List.mem_singleton.mp ho
    rfl
  all_goals cases ho

theorem actAll_honours (h : s.Numbered) (hq : ∀ a ∈ as, a.isQuiet) (he : s.pending.Honours e) :
    (s.actAll as).pending.Honours e := by
  induction as generalizing s
  case nil          => exact he
  case cons a as hi =>
    have ⟨ha, has⟩ := List.forall_mem_cons.mp hq
    exact hi (h.act a) has (act_honours h ha he)

structure Live (s : Session) : Prop where
  ready    : s.lifecycle = .ready
  open_    : s.transport.listeners.closed = []
  wired    : ∃ first channel, s.Wired first channel
  numbered : s.Numbered

namespace Live

theorem act (h : s.Live) (hq : a.isQuiet) : (s.act a).Live := by
  have q := s.act_quietly hq
  exact
    { ready    := q.lifecycle.trans h.ready
      open_    := (congrArg _ <| q.listeners h.open_).trans h.open_
      wired    := have ⟨_, _, hw⟩ := h.wired; ⟨_, _, hw.quietly q h.open_⟩
      numbered := h.numbered.act a }

theorem actAll (h : s.Live) (hq : ∀ a ∈ as, a.isQuiet) : (s.actAll as).Live := by
  induction as generalizing s
  case nil => exact h
  case cons a as hi =>
    have ⟨ha, has⟩ := List.forall_mem_cons.mp hq
    exact hi (h.act ha) has

end Live
end Session

namespace Client

variable {c : Client} {m : Move}

-- The moves that are no call to start, to shut down or to clean up.
def Move.keeps : Move → Bool
  | .input (.start ..) | .input .cleanup | .input (.call _ .shutdown) => false
  | _ => true

-- What is promised of the moves after a start: the session stays ready, it listens once to each stream,
-- and a request that waits at some point is never thrown away later on.
structure Isolated (c : Client) (ms : List Move) : Prop where
  ready   : (c.after ms).session.lifecycle = .ready
  single  : ∀ stream, (c.after ms).session.transport.listeners.count stream = 1
  retains : ∀ ms₁ ms₂, ms = ms₁ ++ ms₂ → ∀ e ∈ (c.after ms₁).session.pending.entries,
    (c.after ms).session.pending.Honours e

-- The invariant behind `Isolated`.
structure Steady (c : Client) : Prop where
  live    : c.session.Live
  callers : ∀ d ∈ c.callers, d.call ≠ .shutdown

theorem actions_quiet (h : ∀ d ∈ c.callers, d.call ≠ .shutdown) (hm : m.keeps) :
    ∀ a ∈ c.actions m, a.isQuiet := by
  cases m
  case input i =>
    cases i
    case start | cleanup => cases hm
    all_goals simp [actions, Input.actions, Action.isQuiet]
  case turn t =>
    cases t
    case router =>
      rw [actions]
      split
      · exact Session.routing_quiet
      · exact List.forall_mem_nil _
    case caller number =>
      rw [actions]
      split
      · exact List.forall_mem_nil _
      case h_2 d hd =>
        intro a ha
        exact Session.quiet_of_ofCall (resuming_ofCall _ d a ha) (h d (List.mem_of_find?_eq_some hd))

theorem Resumed.call_of_mem {d₀ : Caller} {c' : Client} (h : c.Resumed d₀ c') (hd : d ∈ c'.callers) :
    ∃ d' ∈ c.callers, d'.call = d.call := by
  cases h
  case waits =>
    have ⟨d', hd', he⟩ := List.mem_map.mp hd
    refine ⟨d', hd', he ▸ ?_⟩
    split
    · rfl
    · rfl
  case stays => exact ⟨d, hd, rfl⟩
  case settles | ends => exact ⟨d, List.mem_of_mem_filter hd, rfl⟩

theorem Performed.call_of_mem {i : Input} {c' : Client} (h : c.Performed i c')
    (hd : d ∈ c'.callers) :
    (∃ d' ∈ c.callers, d'.call = d.call) ∨ d.call = .response ∨ ∃ label, i = .call label d.call := by
  cases h
  case sends =>
    rcases List.mem_append.mp hd with hd | hd
    · exact .inl ⟨d, hd, rfl⟩
    · cases List.mem_singleton.mp hd
      exact .inr (.inl rfl)
  case calls label _ =>
    rcases List.mem_append.mp hd with hd | hd
    · exact .inl ⟨d, hd, rfl⟩
    · cases List.mem_singleton.mp hd
      exact .inr (.inr ⟨label, rfl⟩)
  case abandons     => exact .inl ⟨d, List.mem_of_mem_filter hd, rfl⟩
  case acts | stays => exact .inl ⟨d, hd, rfl⟩

theorem Turned.call_of_mem {t : Turn} {c' : Client} (h : c.Turned t c') (hd : d ∈ c'.callers) :
    ∃ d' ∈ c.callers, d'.call = d.call := by
  cases h
  case resumes hr => exact hr.call_of_mem hd
  all_goals exact ⟨d, hd, rfl⟩

theorem callers_move (hm : m.keeps) (h : ∀ d ∈ c.callers, d.call ≠ .shutdown) :
    ∀ d ∈ (c.move m).callers, d.call ≠ .shutdown := by
  intro d hd
  cases m
  case input i =>
    rcases (c.performed i).call_of_mem hd with ⟨d', hd', he⟩ | he | ⟨label, rfl⟩
    · exact he ▸ h d' hd'
    · simp [he]
    · intro he
      rw [he] at hm
      cases hm
  case turn t =>
    have ⟨d', hd', he⟩ := (turned _ t).call_of_mem hd
    exact he ▸ h d' hd'

namespace Steady

theorem move (h : c.Steady) (hm : m.keeps) : (c.move m).Steady where
  live    := c.session_move m ▸ h.live.actAll (actions_quiet h.callers hm)
  callers := callers_move hm h.callers

theorem after (h : c.Steady) (hm : ∀ m ∈ ms, m.keeps) : (c.after ms).Steady := by
  induction ms generalizing c
  case nil => exact h
  case cons m ms hi =>
    have ⟨hm, hms⟩ := List.forall_mem_cons.mp hm
    exact hi (h.move hm) hms

theorem trace_quiet (h : c.Steady) (hm : ∀ m ∈ ms, m.keeps) : ∀ a ∈ c.trace ms, a.isQuiet := by
  induction ms generalizing c
  case nil => nofun
  case cons m ms hi =>
    have ⟨hm, hms⟩ := List.forall_mem_cons.mp hm
    exact List.forall_mem_append.mpr ⟨actions_quiet h.callers hm, hi (h.move hm) hms⟩

theorem isolated (h : c.Steady) (hm : ∀ m ∈ ms, m.keeps) : c.Isolated ms where
  ready  := (h.after hm).live.ready
  single := by
    have ⟨_, _, hw⟩ := (h.after hm).live.wired
    exact hw.count_eq_one
  retains := by
    intro ms₁ ms₂ hms e he
    have ⟨hm₁, hm₂⟩ := List.forall_mem_append.mp (hms ▸ hm)
    have hs := h.after hm₁
    rw [hms, after_append, session_after]
    exact Session.actAll_honours hs.live.numbered (hs.trace_quiet hm₂) (.inl he)

end Steady

theorem begin_shutdown {s t : Session} {result : Except Failure Json}
    (h : s.begin .shutdown = (.over result, t)) : t.lifecycle = .stopped := by
  rw [Session.begin, Session.ask] at h
  cases hs : s.send "shutdown" .null
  case mk r s' =>
    rw [hs] at h
    cases r
    case error =>
      cases h
      rfl
    case ok => cases h

theorem Turned.shutdown {c' : Client} (ht : c.Turned (.caller d.number) c') (h : c.Enrolled)
    (hd : d ∈ c.callers) (hc : d.call = .shutdown) (hp : d.phase = .fresh) :
    c'.session.lifecycle = .stopped ∨
      ∃ ticket, { d with phase := .waiting ticket } ∈ c'.callers := by
  cases ht
  case resumes d' hf hr =>
    cases (h.find?_eq hd).symm.trans hf
    cases hr
    case waits ticket s _ _ =>
      exact .inr ⟨ticket, List.mem_map.mpr ⟨d, hd, if_pos rfl⟩⟩
    case settles hb           => exact .inl (begin_shutdown (hc ▸ hb))
    case stays hw _ | ends hw _ _ =>
      rw [hp] at hw
      cases hw
  case gone hf =>
    rw [h.find?_eq hd] at hf
    cases hf

theorem Turned.stopped {c' : Client} (ht : c.Turned (.caller d.number) c') (h : c.Enrolled)
    (hd : d ∈ c.callers) (hc : d.call = .shutdown) {ticket : Nat} (hp : d.phase = .waiting ticket)
    {outcome : Except Failure Json} (ho : c.session.pending.outcome? ticket = some outcome) :
    c'.session.lifecycle = .stopped := by
  cases ht
  case resumes d' hf hr =>
    cases (h.find?_eq hd).symm.trans hf
    cases hr
    case waits hw _ | settles hw _ =>
      rw [hp] at hw
      cases hw
    case stays hw hn =>
      cases hp.symm.trans hw
      rw [hn] at ho
      cases ho
    case ends hr =>
      rw [hc] at hr
      exact congrArg (·.2.lifecycle) hr.symm
  case gone hf =>
    rw [h.find?_eq hd] at hf
    cases hf

theorem Proper.shutdown_waiting (h : c.Proper) (hd : d ∈ c.callers) (hc : d.call = .shutdown)
    {ticket : Nat} (hp : d.phase = .waiting ticket) :
    (c.after [.input (.advance Session.requestTimeout), .turn (.caller d.number)]).session.lifecycle
      = .stopped := by
  let c' := c.move (.input (.advance Session.requestTimeout))
  have h' : c'.Proper := h.move _
  have hd' : d ∈ c'.callers := hd
  have he : c'.session.pending.entries = [] := by
    have hs := c.session_move (.input (.advance Session.requestTimeout))
    rw [hs]
    exact h.numbered.sound.entries_expired (Nat.le_of_eq h.numbered.timeout)
  have ⟨outcome, ho⟩ := h'.numbered.sound.outcome?_isSome he (h'.enrolled.given d hd' ticket hp)
  have hr : Enrolled { c' with turns := c'.turns.erase (.caller d.number) } := h'.enrolled
  exact (turned _ _).stopped hr hd' hc hp ho

theorem Proper.shutdown_unfinished (h : c.Proper) (hd : d ∈ c.callers) (hc : d.call = .shutdown) :
    ∃ ms : List Move, (∀ m ∈ ms, m.keeps) ∧ (c.after ms).session.lifecycle = .stopped := by
  match hp : d.phase with
  | .waiting ticket =>
    exact ⟨[.input (.advance Session.requestTimeout), .turn (.caller d.number)], by simp [Move.keeps],
      h.shutdown_waiting hd hc hp⟩
  | .fresh =>
    have he : Enrolled { c with turns := c.turns.erase (.caller d.number) } := h.enrolled
    rcases (turned _ _).shutdown he hd hc hp with hs | ⟨ticket, hd'⟩
    · exact ⟨[.turn (.caller d.number)], by simp [Move.keeps], hs⟩
    · refine ⟨[.turn (.caller d.number), .input (.advance Session.requestTimeout),
        .turn (.caller d.number)], by simp [Move.keeps], ?_⟩
      have hm := h.move (.turn (.caller d.number))
      exact hm.shutdown_waiting (d := { d with phase := .waiting ticket }) hd' hc rfl

theorem steady_start {command process : String} {args : List String} (h : c.Proper)
    (hs : (c.session.start command args).1 = .ok process)
    (hc : ∀ d ∈ c.callers, d.call ≠ .shutdown) :
    (c.move (.input (.start command args))).Steady := by
  have ⟨ho, hr, hw⟩ := h.orderly.start_ok hs
  exact ⟨⟨hr, ho, hw, h.numbered.act (.start command args)⟩, hc⟩

-- After a start that has succeeded the session is isolated from all that was there before exactly if no
-- shutdown is unfinished at the start.
theorem restart_isolated_iff (ms₀ : List Move) (command process : String) (args : List String)
    (hs : ((idle.after ms₀).session.start command args).1 = .ok process) :
    (∀ ms, (∀ m ∈ ms, m.keeps) →
        ((idle.after ms₀).move (.input (.start command args))).Isolated ms) ↔
      ∀ d ∈ (idle.after ms₀).callers, d.call ≠ .shutdown := by
  have h := idle_proper.after ms₀
  constructor
  case mp =>
    intro hi d hd hc
    -- Sooner or later the request of the shutdown is over, and then the shutdown ends the session.
    have ⟨ms, hm, hl⟩ := (h.move (.input (.start command args))).shutdown_unfinished hd hc
    have hr := (hi ms hm).ready
    rw [hl] at hr
    cases hr
  case mpr =>
    intro hc ms hm
    exact (steady_start h hs hc).isolated hm

theorem restart_isolated_of_handshake :
    let ms₀ : List Move :=
      [.input (.start "server" []), .input (.call "hello" (.handshake "file:///")),
        .turn (.caller 0)]
    (idle.after ms₀).callers = [⟨0, "hello", .handshake "file:///", .waiting 0⟩] ∧
      ∀ ms, (∀ m ∈ ms, m.keeps) →
        ((idle.after ms₀).move (.input (.start "server" []))).Isolated ms := by
  refine ⟨rfl, (restart_isolated_iff _ "server" _ [] rfl).mpr fun d hd => ?_⟩
  have hd : d ∈ [⟨0, "hello", .handshake "file:///", .waiting 0⟩] := hd
  cases List.mem_singleton.mp hd
  exact nofun

-- A shutdown that waits takes the next session down.
theorem restart_undone :
    let c := idle.run [.start "server" [], .call "bye" .shutdown]
    (∃ process, (c.session.start "server" []).1 = .ok process) ∧
      (c.run [.start "server" []]).session.lifecycle = .stopped ∧
      ∀ stream, (c.run [.start "server" []]).session.transport.listeners.count stream = 0 :=
  ⟨⟨_, rfl⟩, rfl, fun stream => by cases stream <;> rfl⟩

end Client
end LanguageClient
