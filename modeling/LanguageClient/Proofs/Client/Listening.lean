import LanguageClient.Proofs.Client.Bursts

namespace LanguageClient

def Action.handled? : Action → Option Event
  | deliver e => some e
  | _ => none

namespace Session

variable {s : Session} {a : Action} {as : List Action} {first channel : Nat}

def Listens (s : Session) : Prop :=
  ∃ first channel, s.Wired first channel

theorem Bare.count_eq_zero (h : s.Bare) (stream : Stream) :
    s.transport.listeners.count stream = 0 := by
  simp [Listeners.count, h.attached]

theorem Bare.subscriptionCount_eq (h : s.Bare) : s.subscriptionCount = 0 := by
  simp [subscriptionCount, h.owned]

theorem Wired.subscriptionCount_eq (h : s.Wired first channel) : s.subscriptionCount = 3 := by
  simp [subscriptionCount, h.owned, h.attached, Listeners.isActive]

def StopsUnheard (s : Session) : Prop :=
  ∀ k ∈ s.transport.stops, k = 0

theorem idle_stopsUnheard : idle.StopsUnheard :=
  fun k hk => nomatch (hk : k ∈ [])

theorem staged_stops (s : Session) : s.staged.transport.stops =
    s.transport.stops ++
      if s.lifecycle = .idle then [] else [s.cleanup.transport.listeners.count .message] := by
  have ⟨_, h⟩ := s.staged_eq
  rw [h]
  split
  · exact (List.append_nil _).symm
  · rfl

theorem start_stops (s : Session) (command : String) (args : List String) :
    (s.start command args).2.transport.stops = s.staged.transport.stops := by
  obtain ⟨_, _, _, _, _, h⟩ := s.start_eq command args
  rw [h]

theorem quiet_stops (hq : a.isQuiet) : (s.act a).transport.stops = s.transport.stops := by
  cases hw : a.writes
  case true =>
    obtain ⟨_, _, _, _, h⟩ := s.act_writes hw
    rw [h]
  case false =>
    cases a
    case start | cleanup | stop                            => cases hq
    case send | notify | sendNotification | cancel | write => cases hw
    case deliver e                                         =>
      obtain ⟨_, _, _, _, h⟩ := s.handle_eq e
      rw [act, h]
    all_goals rfl

theorem StopsUnheard.act (h : s.StopsUnheard) (ho : s.Orderly) (a : Action) :
    (s.act a).StopsUnheard := by
  cases a
  case start command args =>
    rw [StopsUnheard, Session.act, start_stops, staged_stops]
    refine List.forall_mem_append.mpr ⟨h, ?_⟩
    split
    · simp
    · exact List.forall_mem_singleton.mpr ((cleanup_bare ho.wiring).count_eq_zero .message)
  case cleanup | stop => exact h
  all_goals
    rw [StopsUnheard, quiet_stops rfl]
    exact h

theorem StopsUnheard.actAll (h : s.StopsUnheard) (ho : s.Orderly) (as : List Action) :
    (s.actAll as).StopsUnheard := by
  induction as generalizing s
  case nil          => exact h
  case cons a as hi => exact hi (h.act ho a) (ho.act a)

theorem Wired.inbox_emit (h : s.Wired first channel) (hc : s.transport.listeners.closed = [])
    (e : Event) : (s.emit e).inbox = s.inbox ++ [e] := by
  have ⟨r, hr, hrc⟩ := Option.map_eq_some_iff.mp h.router
  have hcount : (s.transport.listeners.receivers e.stream).count r.channel = 1 := by
    rw [Listeners.receivers, h.attached, hrc]
    cases e.stream
    all_goals simp [Listeners.isOpen, hc]
  simp [inbox, emit, hr, hcount]

theorem Bare.inbox (h : s.Bare) : s.inbox = [] := by
  simp [Session.inbox, Option.map_eq_none_iff.mp h.router]

end Session

namespace Client

open Session

variable {c : Client} {t : Turn} {ts : List Turn} {i : Input} {ms : List Move} {e : Event}
  {es : List Event} {first channel : Nat}

def handled (c : Client) (ms : List Move) : List Event :=
  (c.trace ms).filterMap (·.handled?)

theorem handled_append (c : Client) (ms₁ ms₂ : List Move) :
    c.handled (ms₁ ++ ms₂) = c.handled ms₁ ++ (c.after ms₁).handled ms₂ := by
  rw [handled, trace_append, List.filterMap_append]
  rfl

theorem handled_cons (c : Client) (m : Move) (ms : List Move) :
    c.handled (m :: ms) = (c.actions m).filterMap (·.handled?) ++ (c.move m).handled ms := by
  rw [handled, trace, List.filterMap_append]
  rfl

theorem handled_inputs (c : Client) (is : List Input) : c.handled (is.map .input) = [] := by
  induction is generalizing c
  case nil => rfl
  case cons i is hi =>
    have ha : (c.actions (.input i)).filterMap (·.handled?) = [] := by
      cases i
      all_goals rfl
    rw [List.map_cons, handled_cons, ha, hi]
    rfl

theorem handled_turn (c : Client) (t : Turn) :
    (c.actions (.turn t)).filterMap (·.handled?) =
      if c.session.wiring.router?.map (Turn.router ·.channel) = some t then c.session.inbox
      else [] := by
  cases t
  case router channel =>
    cases hr : c.session.wiring.router?
    case none => simp [actions, hr]
    case some r =>
      by_cases hc : r.channel = channel
      all_goals simp [actions, routing, hr, hc, Session.inbox, List.filterMap_map, Action.handled?]
  case caller number =>
    have hn : c.session.wiring.router?.map (Turn.router ·.channel) ≠ some (.caller number) := by
      cases c.session.wiring.router?
      all_goals simp
    rw [if_neg hn, List.filterMap_eq_nil_iff]
    intro a ha
    rw [actions] at ha
    split at ha
    case h_1 => cases ha
    -- No call handles events.
    case h_2 d _ =>
      have hc := resuming_ofCall _ d a ha
      cases a
      case deliver => cases hc
      all_goals rfl

theorem inbox_turn (h : c.session.inbox = []) (t : Turn) : (c.move (.turn t)).session.inbox = [] := by
  refine List.eq_nil_iff_forall_not_mem.mpr fun e he => ?_
  rw [session_move] at he
  rcases inbox_actAll he with he | he
  · rw [h] at he
    cases he
  · cases c.turn_actions t _ he

theorem handled_turns (h : c.session.inbox = []) (ts : List Turn) : c.handled (ts.map .turn) = [] := by
  induction ts generalizing c
  case nil          => rfl
  case cons t ts hi =>
    rw [List.map_cons, handled_cons, handled_turn, h, ite_self, hi (inbox_turn h t)]
    rfl

-- What a client looks like while events come to it that it has yet to handle.
structure Hearing (c : Client) (first channel : Nat) (es : List Event) : Prop where
  wired : c.session.Wired first channel
  open_ : c.session.transport.listeners.closed = []
  inbox : c.session.inbox = es
  turns : c.turns = if es = [] then [] else [.router channel]

theorem Hearing.emit (h : c.Hearing first channel es) (e : Event) :
    (c.move (.input (.emit e))).Hearing first channel (es ++ [e]) := by
  have q := c.session.act_quietly (a := .emit e) rfl
  have hi : (c.session.emit e).inbox = es ++ [e] :=
    h.inbox ▸ h.wired.inbox_emit h.open_ e
  have hw : (c.session.emit e).Wired first channel := h.wired.quietly q h.open_
  refine ⟨hw, (congrArg _ <| q.listeners h.open_).trans h.open_, hi, ?_⟩
  have hcallers : callerTurns c.callers c.session (c.session.emit e) = [] := by
    simp [callerTurns, Pending.completedSince, Session.emit]
  have hrouter : routerTurn c.session (c.session.emit e) =
      if es = [] then [.router channel] else [] := by
    obtain ⟨r, hr, hrc⟩ := Option.map_eq_some_iff.mp h.wired.router
    obtain ⟨r', hr', hrc'⟩ := Option.map_eq_some_iff.mp hw.router
    have hrn : r.inbox = es := by rw [← h.inbox, Session.inbox, hr]; rfl
    have hrn' : r'.inbox = es ++ [e] := by rw [← hi, Session.inbox, hr']; rfl
    simp [routerTurn, hr, hr', hrc, hrc', hrn, hrn']
  change (callerTurns c.callers c.session (c.session.emit e) ++
    routerTurn c.session (c.session.emit e)).foldl addTurn c.turns = _
  rw [hcallers, hrouter, h.turns]
  cases es
  all_goals simp [addTurn]

theorem Hearing.events (h : c.Hearing first channel []) (es : List Event) :
    (c.after ((es.map .emit).map .input)).Hearing first channel es := by
  induction es using List.reverseRecOn
  case nil => exact h
  case append_singleton es e hi =>
    rw [List.map_append, List.map_append, after_append]
    exact hi.emit e

theorem bare_events (h : c.session.Bare)
    (hc : c.session.transport.listeners.closed = []) (es : List Event) :
    (c.after ((es.map .emit).map .input)).session.Bare := by
  induction es generalizing c
  case nil => exact h
  case cons e es hi =>
    have q := c.session.act_quietly (a := .emit e) rfl
    exact hi (c := c.move (.input (.emit e))) (h.quietly q hc) ((congrArg _ <| q.listeners hc).trans hc)

theorem inbox_router (h : c.session.wiring.router?.map (·.channel) = some channel) :
    (c.move (.turn (.router channel))).session.inbox = [] := by
  rw [session_move, actions, if_pos h, ← route_eq]
  exact c.session.route_inbox

-- The events of a burst are handled in it: the turn of the router is the only one that is due.
theorem Hearing.handled (h : c.Hearing first channel []) (es : List Event) :
    c.handled (c.schedule (es.map .emit)) = es := by
  have hs := h.events es
  rw [schedule, handled_append, handled_inputs, List.nil_append]
  generalize c.after ((es.map .emit).map .input) = c' at hs ⊢
  cases es
  case nil => exact handled_turns hs.inbox _
  case cons e es =>
    have ht : c'.turns = [.router channel] := hs.turns
    have hw : c'.session.wiring.router?.map (Turn.router ·.channel) = some (.router channel) := by
      simpa [Function.comp_def] using congrArg (Option.map Turn.router) hs.wired.router
    simp only [ht, List.length_singleton, Nat.add_comm 1, turnsTaken, ← turn_of_cons ht,
      List.map_cons, handled_cons, handled_turn, if_pos hw, hs.inbox]
    rw [handled_turns (inbox_router hs.wired.router), List.append_nil]

theorem handled_of_bare (h : c.session.Bare) (hc : c.session.transport.listeners.closed = [])
    (es : List Event) : c.handled (c.schedule (es.map .emit)) = [] := by
  rw [schedule, handled_append, handled_inputs, List.nil_append]
  exact handled_turns (bare_events h hc es).inbox _

theorem handled_single (h : c.session.inbox = []) (hi : ∀ e, i ≠ .emit e) :
    c.handled (c.schedule [i]) = [] := by
  rw [schedule, handled_append, handled_inputs, List.nil_append]
  refine handled_turns (List.eq_nil_iff_forall_not_mem.mpr fun e he => ?_) _
  have hs : (c.after [.input i]).session = c.session.actAll i.actions := (c.performed i).session_eq
  rw [List.map_singleton, hs] at he
  rcases inbox_actAll he with he | he
  · rw [h] at he
    cases he
  · cases i
    case emit => exact hi _ rfl
    all_goals simp [Input.actions] at he

inductive Round
  | single (i : Input)
  | events (es : List Event)

namespace Round

def inputs : Round → List Input
  | single i  => [i]
  | events es => es.map .emit

def emitted : Round → List Event
  | single (.emit e) => [e]
  | single _         => []
  | events es        => es

theorem cases_emitted (r : Round) :
    r.inputs = r.emitted.map .emit ∨ ∃ i, r = single i ∧ (∀ e, i ≠ .emit e) ∧ r.emitted = [] := by
  cases r
  case events => exact .inl rfl
  case single i =>
    cases i
    case emit => exact .inl rfl
    all_goals exact .inr ⟨_, rfl, nofun, rfl⟩

end Round

-- However a client has come to rest, its session has as many listeners on each stream, none or one,
-- and it owns all of them. Whenever a server was stopped, nobody listened to it. What comes next is
-- handled once and in its order by a session that listens, and not at all by one that does not.
theorem listening (iss : List (List Input)) : ∃ n ≤ 1,
    (∀ stream, (idle.bursts iss).session.transport.listeners.count stream = n) ∧
    (idle.bursts iss).session.subscriptionCount = 3 * n ∧
    (∀ k ∈ (idle.bursts iss).session.transport.stops, k = 0) ∧
    ∀ r : Round, (idle.bursts iss).handled ((idle.bursts iss).schedule r.inputs) =
      if n = 1 then r.emitted else [] := by
  have ⟨ms, hms⟩ := idle.bursts_eq_after iss
  have hr := bursts_resting idle_resting idle_proper iss
  have ho : (idle.bursts iss).session.Orderly := hms ▸ (idle_proper.after ms).orderly
  have hi : (idle.bursts iss).session.inbox = [] := hr.inbox (hms ▸ idle_routerDue.after ms)
  have hs : (idle.bursts iss).session.StopsUnheard := by
    rw [hms, session_after]
    exact idle_stopsUnheard.actAll idle_orderly _
  rcases ho.wiring with hb | ⟨first, channel, hw⟩
  · refine ⟨0, by decide, hb.count_eq_zero, hb.subscriptionCount_eq, hs, fun r => ?_⟩
    rcases r.cases_emitted with he | ⟨i, rfl, hn, _⟩
    · exact he ▸ handled_of_bare hb ho.open_ _
    · exact handled_single hi hn
  · refine ⟨1, by decide, hw.count_eq_one, hw.subscriptionCount_eq, hs, fun r => ?_⟩
    rcases r.cases_emitted with he | ⟨i, rfl, hn, he⟩
    · exact he ▸ Hearing.handled ⟨hw, ho.open_, hi, hr.turns⟩ _
    · exact (handled_single hi hn).trans he.symm

end Client
end LanguageClient
