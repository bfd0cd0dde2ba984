import LanguageClient.Proofs.Client.Diagnostics
import LanguageClient.Proofs.Client.Listening
import LanguageClient.Proofs.Client.Silence

namespace LanguageClient

variable {s t : Session} {d : Caller} {ticket : Nat} {result outcome : Except Failure Json}

-- The actions that may end the wait of a request because it is answered, cancelled or late.
def Action.settles : Action → Bool
  | deliver _ | cancel _ | advance _ => true
  | _ => false

theorem Pending.Completion.outcome_of_not_isDue {x : Pending.Completion} (h : x.ending.isDue = false) :
    x.outcome = .error (.discarded x.entry.id x.entry.method) := by
  rw [outcome]
  cases hx : x.ending
  case discarded | replaced => rfl
  all_goals
    rw [hx] at h
    cases h

namespace Session

variable {a : Action} {as : List Action} {e : Pending.Entry}

theorem operations_not_isDue (ha : a.settles = false) :
    ∀ op ∈ a.operations s, ∀ timeout, (op.ending timeout).isDue = false := by
  intro op ho timeout
  cases a
  case deliver | cancel | advance => cases ha
  case start =>
    rw [Action.operations] at ho
    split at ho
    case isTrue  => cases ho
    case isFalse =>
      cases List.mem_singleton.mp ho
      rfl
  case stop =>
    cases List.mem_singleton.mp ho
    rfl
  case send =>
    rw [Action.operations] at ho
    split at ho
    case isFalse => cases ho
    case isTrue  =>
      obtain rfl | ho := List.mem_cons.mp ho
      · rfl
      · split at ho
        · cases ho
        · cases List.mem_singleton.mp ho
          rfl
  all_goals cases ho

theorem history_not_isDue (has : ∀ a ∈ as, a.settles = false) :
    ∀ op ∈ s.history as, ∀ timeout, (op.ending timeout).isDue = false := by
  induction as generalizing s
  case nil          => nofun
  case cons a as hi =>
    have ⟨ha, has⟩ := List.forall_mem_cons.mp has
    exact List.forall_mem_append.mpr ⟨operations_not_isDue ha, hi has⟩

-- Where nothing else ends a wait and nothing waits afterwards, who has waited is told that its request
-- was discarded.
theorem Numbered.discarded_actAll (h : s.Numbered) (has : ∀ a ∈ as, a.settles = false)
    (he : e ∈ s.pending.entries) (hn : (s.actAll as).pending.entries = []) :
    (s.actAll as).pending.outcome? e.ticket = some (.error (.discarded e.ticket e.method)) := by
  have hi : e.id = e.ticket := h.ids e (List.mem_append_right _ he)
  have hs := (h.actAll as).sound
  rw [pending_actAll] at hn hs ⊢
  obtain hw | ⟨op, ho, _, hx⟩ := h.sound.ended_performAll he (s.history as)
  · rw [hn] at hw
    cases hw
  · have hd := history_not_isDue has op ho s.pending.timeout
    rw [hs.outcome?_of_completed hx, Pending.Completion.outcome_of_not_isDue hd, hi]

theorem send_error_sent {method : String} {params : Json} {f : Failure}
    (h : s.send method params = (.error f, t)) : t.transport.sent = s.transport.sent := by
  cases ha : s.lifecycle.acceptsTraffic
  case false =>
    rw [send_closed ha] at h
    cases h
    rfl
  case true =>
    cases hr : s.transport.sendRefusal?
    case none =>
      obtain ⟨_, hs⟩ := send_accepted ha hr method params
      cases hs.symm.trans h
    case some =>
      obtain ⟨_, hs⟩ := send_refused ha hr method params
      cases hs.symm.trans h
      rfl

-- A session that has ended: nothing waits in it, and nothing listens for it.
structure Ended (s : Session) : Prop where
  lifecycle : s.lifecycle = .stopped
  handshake : s.handshake = .notStarted
  entries   : s.pending.entries = []
  listeners : ∀ stream, s.transport.listeners.count stream = 0
  owned     : s.subscriptionCount = 0

-- A session that has just been started, of a run in which ids were given out before.
structure Begun (s : Session) (ids : List Int) : Prop where
  lifecycle   : s.lifecycle = .ready
  listeners   : ∀ stream, s.transport.listeners.count stream = 1
  diagnostics : ∀ uri, s.bulletin.diagnostics uri = []
  above       : ∀ as, ∀ id ∈ s.issuedIds as, ∀ id' ∈ ids, id' < id

theorem start_begun (h : Roused as) {command : String} {args : List String}
    (hr : (idle.actAll as).transport.startRefusal? = none) :
    (∃ process, ((idle.actAll as).start command args).1 = .ok process) ∧
      ((idle.actAll as).start command args).2.Begun (idle.issuedIds as) := by
  have ho := idle_orderly.actAll as
  obtain ⟨process, hp⟩ : ∃ process, ((idle.actAll as).start command args).1 = .ok process := by
    obtain ⟨process, _, _, hs⟩ := start_accepted hr command args
    exact ⟨process, by rw [hs]⟩
  obtain ⟨_, hl, _, _, hw⟩ := ho.start_ok hp
  refine ⟨⟨process, hp⟩, hl, hw.count_eq_one, ?_, ?_⟩
  · exact (h.current.start (a := .start command args) rfl).diagnostics
  · intro later id hid id' hid'
    obtain ⟨k, hk⟩ := ((idle.actAll as).start command args).2.registered_history later
    rw [issuedIds, hk, start_issued] at hid
    rw [issuedIds_idle] at hid'
    simp only [List.mem_map, List.mem_range'_1, List.mem_range] at hid hid'
    omega

end Session

namespace Client

variable {c : Client} {m : Move} {ms : List Move}

-- The ways a session is taken down: a shutdown returns, or a start returns an error.
inductive TakesDown (c : Client) : Move → Prop
  | shutdown {d : Caller} {result : Except Failure Json} (caller : d ∈ c.callers)
      (call : d.call = .shutdown) (returns : Concludes c.session d result) :
      TakesDown c (.turn (.caller d.number))
  | start {command : String} {args : List String} {f : Failure}
      (fails : (c.session.start command args).1 = .error f) : TakesDown c (.input (.start command args))

inductive Leaving (s : Session) (d : Caller) : Prop
  | unasked (actions : resuming s d = [.send "shutdown" .null, .stop])
      (unsent : (s.send "shutdown" .null).2.transport.sent = s.transport.sent)
  | refused (actions : resuming s d = [.stop])
  | granted {ticket : Nat} {v : Json} (phase : d.phase = .waiting ticket)
      (told : s.pending.outcome? ticket = some (.ok v))
      (actions : resuming s d = [.notify "exit" .null, .stop])

theorem Concludes.leaving (h : Concludes s d result) (hc : d.call = .shutdown) : Leaving s d := by
  cases h
  case begins hp hb =>
    rw [hc, Session.begin, Session.ask] at hb
    cases hs : s.send "shutdown" .null
    case mk r s' =>
      cases r
      case ok handle =>
        rw [hs] at hb
        cases hb
      case error e =>
        refine .unasked ?_ ?_
        · simp [resuming, hp, hc, Session.beginning, Session.asking, hs, Session.finishing]
        · simpa [hs] using Session.send_error_sent hs
  case wakes ticket outcome hp ho =>
    cases outcome
    case error e => exact .refused (by simp [resuming, hp, ho, hc, Session.finishing])
    case ok v    => exact .granted hp ho (by simp [resuming, hp, ho, hc, Session.finishing])

theorem Leaving.exists_stop (h : Leaving s d) :
    ∃ before, resuming s d = before ++ [.stop] ∧ ∀ a ∈ before, a.settles = false := by
  cases h
  case unasked ha _   => exact ⟨[.send "shutdown" .null], ha, by simp [Action.settles]⟩
  case refused ha     => exact ⟨[], ha, by simp⟩
  case granted _ _ ha => exact ⟨[.notify "exit" .null], ha, by simp [Action.settles]⟩

theorem Leaving.sent (h : Leaving s d) :
    (s.actAll (resuming s d)).transport.sent = s.transport.sent ∨
      ∃ ticket v, d.phase = .waiting ticket ∧ s.pending.outcome? ticket = some (.ok v) ∧
        (s.actAll (resuming s d)).transport.sent =
          s.transport.sent ++ [Session.notificationFrame "exit" .null] := by
  cases h
  case unasked ha hs      => exact .inl (ha ▸ hs)
  case refused ha         => exact .inl (ha ▸ rfl)
  case granted hp ho ha =>
    rw [ha]
    cases hr : s.transport.sendRefusal?
    case none =>
      have hw := Session.write_accepted hr (Session.notificationFrame "exit" .null)
      refine .inr ⟨_, _, hp, ho, ?_⟩
      simp only [Session.notificationFrame] at hw
      simp only [Session.actAll_cons, Session.act, Session.notify, hw]
      rfl
    case some =>
      have hw := Session.write_refused hr (Session.notificationFrame "exit" .null)
      simp only [Session.notificationFrame] at hw
      refine .inl ?_
      simp only [Session.actAll_cons, Session.act, Session.notify, hw]
      rfl

theorem TakesDown.settles (h : c.Proper) (hd : c.TakesDown m) : ∀ a ∈ c.actions m, a.settles = false := by
  cases hd
  case start => exact List.forall_mem_singleton.mpr rfl
  case shutdown hd hc hr =>
    obtain ⟨before, ha, hb⟩ := (hr.leaving hc).exists_stop
    simp only [actions, h.enrolled.find?_eq hd, ha]
    exact List.forall_mem_append.mpr ⟨hb, List.forall_mem_singleton.mpr rfl⟩

theorem TakesDown.stopped (h : c.Proper) (hd : c.TakesDown m) :
    (c.move m).session.lifecycle = .stopped ∧ (c.move m).session.handshake = .notStarted := by
  cases hd
  case start hf =>
    rw [session_move]
    exact ⟨(h.orderly.start_error hf).right.left, Session.handshake_act c.session (.start _ _)⟩
  case shutdown hd hc hr =>
    obtain ⟨before, ha, _⟩ := (hr.leaving hc).exists_stop
    rw [session_turn (h.enrolled.find?_eq hd), ha, Session.actAll_append]
    exact ⟨rfl, rfl⟩

theorem finished_turn (h : c.Enrolled) (hd : d ∈ c.callers) (ht : c.told? d = some outcome) :
    (c.move (.turn (.caller d.number))).finished =
      c.finished ++ [(d.label, (c.session.finish d.call outcome).1)] := by
  have hr := resumed_turn (h.find?_eq hd)
  generalize c.move (.turn (.caller d.number)) = c' at hr ⊢
  cases hr
  case waits hp _ | settles hp _ =>
    rw [told?, hp] at ht
    cases ht
  case stays hp ho =>
    rw [c.told?_of_waiting hp] at ht
    cases ho.symm.trans ht
  case ends hp ho hf =>
    rw [c.told?_of_waiting hp] at ht
    cases ho.symm.trans ht
    rw [show c.session.finish d.call outcome = _ from hf]
    rfl

theorem woken_withSession {s : Session} (hx : c.session.pending.completed <+: s.pending.completed)
    (hd : d ∈ c.callers) (hp : d.phase = .waiting ticket)
    (ho : c.session.pending.outcome? ticket = none) (ho' : (s.pending.outcome? ticket).isSome) :
    .caller d.number ∈ (c.withSession s).turns := by
  obtain ⟨extra, he, _, _, hall⟩ :=
    foldl_addTurn (callerTurns c.callers c.session s ++ routerTurn c.session s) c.turns
  have hturns : (c.withSession s).turns = c.turns ++ extra := he
  rw [hturns]
  exact hall _ (List.mem_append_left _ (mem_callerTurns hx hd hp ho ho'))

theorem woken_move (hd : d ∈ c.callers) (hd' : d ∈ (c.move m).callers) (hp : d.phase = .waiting ticket)
    (ht : c.told? d = none) (ht' : ((c.move m).told? d).isSome) :
    .caller d.number ∈ (c.move m).turns := by
  have hx : c.session.pending.completed <+: (c.move m).session.pending.completed := by
    rw [session_move]
    exact Session.completed_actAll _ _
  rw [told?_of_waiting _ hp] at ht ht'
  cases m
  case input i =>
    have hi := c.performed i
    generalize c.move (.input i) = c' at hd' hi hx ht' ⊢
    -- Nobody is told anything as long as the session stays the same.
    have hn (hs : c'.session = c.session) : False := by
      rw [hs, ht] at ht'
      cases ht'
    cases hi
    case sends    => exact List.mem_append_left _ (woken_withSession hx hd hp ht ht')
    case acts     => exact woken_withSession hx hd hp ht ht'
    case calls    => exact (hn rfl).elim
    case abandons => exact (hn rfl).elim
    case stays    => exact (hn rfl).elim
  case turn t =>
    have htu : Turned { c with turns := c.turns.erase t } t (c.move (.turn t)) := turned _ t
    generalize c.move (.turn t) = c' at hd' htu hx ht' ⊢
    have hn (hs : c'.session = c.session) : False := by
      rw [hs, ht] at ht'
      cases ht'
    cases htu
    case routes  => exact woken_withSession hx hd hp ht ht'
    case strange => exact (hn rfl).elim
    case gone    => exact (hn rfl).elim
    case resumes hr =>
      cases hr
      case stays                  => exact (hn rfl).elim
      case waits | settles | ends => exact woken_withSession hx hd' hp ht ht'

-- A caller whose request was discarded: it is woken, and whenever it has its turn it finishes with that.
structure Dismissed (c : Client) (d : Caller) (ticket : Nat) : Prop where
  caller   : d ∈ c.callers
  woken    : .caller d.number ∈ c.turns
  finishes : ∃ method, ∀ ms, d ∈ (c.after ms).callers →
    ((c.after ms).move (.turn (.caller d.number))).finished =
      (c.after ms).finished ++ [(d.label, .error (.discarded ticket method))]

theorem TakesDown.dismissed (h : c.Proper) (hd : c.TakesDown m)
    (he : (c.move m).session.pending.entries = []) (hdc : d ∈ c.callers)
    (hp : d.phase = .waiting ticket) (ht : c.told? d = none) : (c.move m).Dismissed d ticket := by
  have h' := h.move m
  obtain ⟨e, hem, hte⟩ :=
    h.numbered.sound.exists_entry (h.enrolled.given d hdc ticket hp) (c.told?_of_waiting hp ▸ ht)
  have ht' : (c.move m).told? d = some (.error (.discarded ticket e.method)) := by
    rw [session_move] at he
    rw [told?_of_waiting _ hp, session_move, ← hte]
    exact h.numbered.discarded_actAll (hd.settles h) hem he
  have hd' : d ∈ (c.move m).callers := by
    obtain hd' | ⟨label, rfl⟩ | ⟨_, outcome, ho⟩ := mem_callers_move h.enrolled hdc hp m
    · exact hd'
    · cases hd
    · cases ht.symm.trans ho
  refine ⟨hd', woken_move hdc hd' hp ht (by rw [ht']; rfl), e.method, fun ms hm => ?_⟩
  rw [finished_turn (h'.after ms).enrolled hm (told?_after h' ht' ms), Session.finish_error]

-- What is left when a session is taken down. `exit` is sent if the server has answered the request
-- `shutdown`, and not otherwise.
structure Teardown (ms : List Move) (m : Move) : Prop where
  ended     : ((idle.after ms).move m).session.Ended
  dismisses : ∀ d ∈ (idle.after ms).callers, ∀ ticket, d.phase = .waiting ticket →
    (idle.after ms).told? d = none → ((idle.after ms).move m).Dismissed d ticket
  farewell  : ((idle.after ms).move m).session.transport.sent = (idle.after ms).session.transport.sent ∨
    ∃ d ticket v, m = .turn (.caller d.number) ∧ d ∈ (idle.after ms).callers ∧ d.call = .shutdown ∧
      d.phase = .waiting ticket ∧ Session.idle.Answered (idle.trace ms) ticket (.ok v) ∧
      ((idle.after ms).move m).session.transport.sent =
        (idle.after ms).session.transport.sent ++ [Session.notificationFrame "exit" .null]
  restarts  : ∀ later command args, let s := (((idle.after ms).move m).after later).session
    s.transport.startRefusal? = none →
      (∃ process, (s.start command args).1 = .ok process) ∧
        (s.start command args).2.Begun (Session.idle.issuedIds (idle.trace (ms ++ m :: later)))

theorem teardown_clean (ms : List Move) (m : Move) (hd : (idle.after ms).TakesDown m) :
    Teardown ms m := by
  have h := idle_proper.after ms
  obtain ⟨hl, hh⟩ := hd.stopped h
  have hy : ((idle.after ms).move m).session.Yields := by
    have hy := yields_after (ms ++ [m])
    rwa [after_append] at hy
  have he := hy (.inr hl)
  constructor
  case ended     =>
    exact ⟨hl, hh, he.entries, he.bare.count_eq_zero, he.bare.subscriptionCount_eq⟩
  case dismisses => exact fun d hdc ticket hp ht => hd.dismissed h he.entries hdc hp ht
  case farewell  =>
    rw [session_move]
    cases hd
    case start command args _ _ => exact .inl (Session.start_sent _ command args)
    case shutdown d _ hdc hc hr =>
      simp only [actions, h.enrolled.find?_eq hdc]
      obtain hs | ⟨ticket, v, hp, ho, hs⟩ := (hr.leaving hc).sent
      · exact .inl hs
      · rw [session_after] at ho
        exact .inr ⟨d, ticket, v, rfl, hdc, hc, hp, Session.answered_of_outcome _ ho rfl, hs⟩
  case restarts  =>
    intro later command args s hr
    have hs : s = Session.idle.actAll (idle.trace (ms ++ m :: later)) := by
      have ha := session_after idle (ms ++ m :: later)
      rw [after_append] at ha
      exact ha
    rw [hs] at hr ⊢
    exact Session.start_begun (roused_trace _) hr

theorem teardown_clean_of_answer :
    let ms : List Move := [.input (.start "server" []), .input (.send "work" "ask" .null),
      .input (.call "bye" .shutdown), .turn (.caller 1),
      .input (.emit ⟨.message, "\x7b\"id\":1,\"result\":null\x7d"⟩), .turn (.router 0)]
    let m : Move := .turn (.caller 1)
    (idle.after ms).TakesDown m ∧ Teardown ms m ∧
      (idle.after ms).callers.map (·.phase) = [.waiting 0, .waiting 1] ∧
      (idle.after (ms ++ [m])).session.transport.sent.length = 3 := by
  intro ms m
  have hc : ⟨1, "bye", .shutdown, .waiting 1⟩ ∈ (idle.after ms).callers :=
    List.mem_of_getElem? (i := 1) rfl
  have ho : (idle.after ms).session.pending.outcome? 1 = some (.ok .null) := rfl
  have hd : (idle.after ms).TakesDown m := .shutdown hc rfl (.wakes rfl ho)
  exact ⟨hd, teardown_clean ms m hd, rfl, rfl⟩

end Client
end LanguageClient
