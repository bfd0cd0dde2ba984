import LanguageClient.Proofs.Client.Punctual
import LanguageClient.Proofs.Client.Unfinished

namespace LanguageClient

variable {s : Session} {a : Action} {as : List Action} {d : Caller} {ticket : Nat}

def Action.isStart : Action → Bool
  | start .. => true
  | _ => false

namespace Session

theorem accepts_act (ha : a.isStart = false) (h : (s.act a).lifecycle.acceptsTraffic) :
    s.lifecycle.acceptsTraffic := by
  cases a
  case start   => cases ha
  case cleanup => exact h
  case stop    => cases h
  all_goals rwa [(act_quietly s rfl).lifecycle] at h

theorem accepts_actAll (ha : ∀ a ∈ as, a.isStart = false)
    (h : (s.actAll as).lifecycle.acceptsTraffic) : s.lifecycle.acceptsTraffic := by
  induction as generalizing s
  case nil          => exact h
  case cons a as hi =>
    have ⟨ha, has⟩ := List.forall_mem_cons.mp ha
    exact accepts_act ha (hi has h)

theorem finishing_silent (s : Session) {call : Call} {r : Except Failure Json}
    (h : ∀ v, r = .ok v → call.isHandshake = false) :
    ∀ a ∈ s.finishing call r, a.mayGreet = false := by
  cases call
  case handshake =>
    cases r
    case error => exact List.forall_mem_singleton.mpr rfl
    case ok v  => cases h v rfl
  case shutdown => cases r <;> simp [finishing, Action.mayGreet]
  all_goals simp [finishing]

theorem asking_silent (s : Session) (call : Call) (method : String) (params : Json) :
    ∀ a ∈ s.asking call method params, a.mayGreet = false := by
  rw [asking]
  split
  case h_1 => exact List.forall_mem_singleton.mpr rfl
  case h_2 => exact List.forall_mem_cons.mpr ⟨rfl, finishing_silent _ (by simp)⟩

theorem beginning_silent (s : Session) (call : Call) :
    ∀ a ∈ s.beginning call, a.mayGreet = false := by
  cases call
  case response => simp [beginning]
  case handshake root =>
    simp only [beginning]
    split
    case isTrue  => simp
    case isFalse => exact List.forall_mem_cons.mpr ⟨rfl, asking_silent _ _ _ _⟩
  all_goals exact s.asking_silent _ _ _

theorem routing_silent (s : Session) : ∀ a ∈ s.routing, a.mayGreet = false := by
  rw [routing]
  split
  · simp
  · simp [Action.mayGreet]

theorem Sends.waits {id : Nat} {method : String} {params : Json} (h : s.Sends id method params)
    (hn : s.Numbered) : ∃ e ∈ (s.act (.send method params)).pending.entries,
      e.ticket = id ∧ e.deadline = s.pending.now + requestTimeout := by
  have hh := h.handle
  cases ha : s.lifecycle.acceptsTraffic
  case false =>
    rw [send_closed ha] at hh
    cases hh
  case true =>
    match hr : s.transport.sendRefusal? with
    | none =>
      have ⟨hs, he⟩ := send_sends hn ha hr method params
      rw [hs.handle] at hh
      cases hh
      exact ⟨_, he, rfl, rfl⟩
    | some _ =>
      have ⟨_, hs⟩ := send_refused ha hr method params
      rw [hs] at hh
      cases hh

end Session

namespace Client

variable {c : Client} {m : Move} {ms ms₁ ms₂ : List Move} {v : Json}

theorem actions_isStart (hm : m.isStart = false) : ∀ a ∈ c.actions m, a.isStart = false := by
  cases m
  case input i =>
    cases i
    case start => cases hm
    all_goals simp [actions, Input.actions, Action.isStart]
  case turn t =>
    intro a ha
    have ht := c.turn_actions t a ha
    cases a
    case start => cases ht
    all_goals rfl

theorem accepts_move (hm : m.isStart = false) (h : (c.move m).session.lifecycle.acceptsTraffic) :
    c.session.lifecycle.acceptsTraffic := by
  rw [session_move] at h
  exact Session.accepts_actAll (actions_isStart hm) h

theorem exists_start (h : (idle.after ms).session.lifecycle.acceptsTraffic) :
    ∃ ms₁ command args ms₂, ms = ms₁ ++ .input (.start command args) :: ms₂ ∧
      ∀ m ∈ ms₂, m.isStart = false := by
  induction ms using List.reverseRecOn
  case nil => cases h
  case append_singleton ms m hi =>
    rw [after_append, after_cons, after_nil] at h
    cases hm : m.isStart
    case false =>
      have ⟨ms₁, command, args, ms₂, hs, hms⟩ := hi (accepts_move hm h)
      refine ⟨ms₁, command, args, ms₂ ++ [m], by rw [hs, List.append_assoc]; rfl, ?_⟩
      exact List.forall_mem_append.mpr ⟨hms, List.forall_mem_singleton.mpr hm⟩
    case true =>
      cases m
      case turn => cases hm
      case input i =>
        cases i
        case start command args => exact ⟨ms, command, args, [], rfl, nofun⟩
        all_goals cases hm

inductive Greets (c : Client) : Move → Prop
  | notifies {params : Json} (accepts : c.session.lifecycle.acceptsTraffic)
      (acknowledged : c.session.handshake = .acknowledged) :
      Greets c (.input (.notify "initialized" params))
  | concludes {d : Caller} {ticket : Nat} {v : Json} (accepts : c.session.lifecycle.acceptsTraffic)
      (caller : d ∈ c.callers) (waits : d.Initializes ticket) (told : c.told? d = some (.ok v))
      (complete : (c.move (.turn (.caller d.number))).session.handshake = .complete) :
      Greets c (.turn (.caller d.number))

theorem Greets.accepts (h : c.Greets m) : c.session.lifecycle.acceptsTraffic := by
  cases h <;> assumption

theorem greetings_notify (c : Client) (method : String) (params : Json) :
    c.greetings (.input (.notify method params)) =
      (c.session.greets (.sendNotification method params)).toNat :=
  rfl

theorem Proper.greetings_caller (h : c.Proper) (hd : d ∈ c.callers) :
    let m : Move := .turn (.caller d.number)
    c.greetings m = 0 ∨ (c.greetings m = 1 ∧ c.Greets m) := by
  intro m
  have hm : c.greetings m = c.session.greetings (resuming c.session d) := by
    simp only [m, greetings, actions, h.enrolled.find?_eq hd]
  cases hp : d.phase
  case fresh =>
    refine .inl (hm.trans ?_)
    rw [resuming, hp]
    exact Session.greetings_eq_zero (c.session.beginning_silent _)
  case waiting ticket =>
    cases ho : c.session.pending.outcome? ticket
    case none =>
      refine .inl (hm.trans ?_)
      simp only [resuming, hp, ho]
      rfl
    case some outcome =>
      have hm : c.greetings m = c.session.greetings (c.session.finishing d.call outcome) := by
        rw [hm]
        simp only [resuming, hp, ho]
      by_cases hc : ∃ v, outcome = .ok v ∧ d.call.isHandshake
      case pos =>
        obtain ⟨v, hv, hi⟩ := hc
        subst hv
        have hw : d.Initializes ticket := ⟨hi, hp⟩
        have ht := (c.told?_of_waiting hp).trans ho
        rcases handshake_concluded h hd hw ht with ⟨hg, hl, hh⟩ | ⟨hg, _⟩
        · exact .inr ⟨hg, .concludes hl hd hw ht hh⟩
        · exact .inl hg
      case neg =>
        refine .inl (hm.trans (Session.greetings_eq_zero ?_))
        refine c.session.finishing_silent fun v hv => ?_
        exact Bool.eq_false_iff.mpr fun hc' => hc ⟨v, hv, hc'⟩

theorem Proper.greetings (h : c.Proper) (m : Move) :
    c.greetings m = 0 ∨ (c.greetings m = 1 ∧ c.Greets m) := by
  cases m
  case input i =>
    cases i
    case notify method params =>
      rw [greetings_notify]
      cases hg : c.session.greets (.sendNotification method params)
      case false => exact .inl rfl
      case true  =>
        obtain ⟨_, hm, ha, _, hh⟩ := Session.greets_iff.mp hg
        cases hm
        exact .inr ⟨rfl, .notifies ha hh⟩
    all_goals
      exact .inl (Session.greetings_eq_zero (by simp [actions, Input.actions, Action.mayGreet]))
  case turn t =>
    cases t
    case router =>
      refine .inl (Session.greetings_eq_zero ?_)
      rw [actions]
      split
      · exact c.session.routing_silent
      · simp
    case caller number =>
      cases hf : c.callers.find? (·.number = number)
      case none => exact .inl (by simp only [Client.greetings, actions, hf, Session.greetings])
      case some d =>
        have hn : d.number = number := by simpa using List.find?_some hf
        exact hn ▸ h.greetings_caller (List.mem_of_find?_eq_some hf)

theorem asked_since (h : c.Proper) (hd : d ∈ (c.after ms).callers) (hp : d.phase = .waiting ticket) :
    d ∈ c.callers ∨ ∃ ms₁ m ms₂, ms = ms₁ ++ m :: ms₂ ∧ d ∈ ((c.after ms₁).move m).callers ∧
      (c.after ms₁).Asks m d ticket := by
  induction ms using List.reverseRecOn
  case nil => exact .inl hd
  case append_singleton ms m hi =>
    rw [after_append, after_cons, after_nil] at hd
    rcases asks_move (h.after ms) hd hp with hd' | ha
    · rcases hi hd' with hd' | ⟨ms₁, m', ms₂, hm, ha⟩
      · exact .inl hd'
      · exact .inr ⟨ms₁, m', ms₂ ++ [m], by rw [hm, List.append_assoc]; rfl, ha⟩
    · exact .inr ⟨ms, m, [], rfl, hd, ha⟩

-- In some moves a call to `initialize` sends its request, and the first response to this request is
-- handled while it waits and reports no error.
inductive Introduced (c : Client) (ms : List Move) : Prop
  | intro {ms₁ ms₂ : List Move} {m : Move} {d : Caller} {root : String} {ticket : Nat}
      {before between later : List Action} {e : Event} {r : Rpc.Response}
      (run : ms = ms₁ ++ m :: ms₂)
      (caller : d ∈ ((c.after ms₁).move m).callers)
      (call : d.call = .handshake root)
      (waits : d.phase = .waiting ticket)
      (asks : (c.after ms₁).actions m =
        before ++ [.send "initialize" (Protocol.initializeParams root)])
      (sent : ((c.after ms₁).session.actAll before).Sends ticket "initialize"
        (Protocol.initializeParams root))
      (answered : ((c.after ms₁).move m).trace ms₂ = between ++ .deliver e :: later)
      (spared : ∀ a ∈ between, a.spares ticket)
      (within : (between.map (·.millis)).sum < Session.requestTimeout)
      (stream : e.stream = .message)
      (decoded : Rpc.Message.decode e.text = .ok (.response r))
      (number : r.id = some (.number ticket))
      (granted : r.error = none) :
      Introduced c ms

theorem Introduced.append (h : c.Introduced ms₁) (ms₂ : List Move) : c.Introduced (ms₁ ++ ms₂) := by
  obtain ⟨run, caller, call, waits, asks, sent, answered, spared, within, stream, decoded, number,
    granted⟩ := h
  have answered := (trace_append _ _ ms₂).trans <|
    (congrArg (· ++ _) answered).trans (List.append_assoc ..)
  exact .intro (run ▸ List.append_assoc ..) caller call waits asks sent answered spared within stream
    decoded number granted

theorem Asks.handshake {root : String} (h : c.Asks m d ticket) (hc : d.call = .handshake root) :
    ∃ before, c.actions m = before ++ [.send "initialize" (Protocol.initializeParams root)] ∧
      (c.session.actAll before).Sends ticket "initialize" (Protocol.initializeParams root) := by
  have ⟨before, method, params, hs, ha, hsent⟩ := h
  cases hs
  case input hr => cases hc.symm.trans hr
  case turn hr  =>
    rw [hc] at hr
    cases hr
    exact ⟨before, ha, hsent⟩

-- An answer to `initialize` is the answer to a request that was sent since a point, if nobody who
-- waited then can still be answered.
theorem introduced_of_told (h : c.Proper) (hs : c.Spent) (hd : d ∈ (c.after ms).callers)
    (hw : d.Initializes ticket) (ht : (c.after ms).told? d = some (.ok v)) : c.Introduced ms := by
  rcases asked_since h hd hw.phase with hd | ⟨ms₁, m, ms₂, hm, hd', ha⟩
  · have ⟨f, hf⟩ := hs d hd ticket hw
    have hf := told?_after h hf ms
    cases ht.symm.trans hf
  -- The request was sent by one of the moves, and its answer came in those after it.
  · have ⟨root, hc⟩ := Call.exists_of_isHandshake hw.call
    have ⟨before, hact, hsent⟩ := ha.handshake hc
    have hp := h.after ms₁
    have hp' := hp.move m
    have ⟨e, he, hte, hdl⟩ := hsent.waits (hp.numbered.actAll before)
    have hses : ((c.after ms₁).move m).session = ((c.after ms₁).session.actAll before).act
        (.send "initialize" (Protocol.initializeParams root)) := by
      rw [session_move, hact, Session.actAll_append]
      rfl
    have ho := ((c.after ms).told?_of_waiting hw.phase).symm.trans ht
    rw [hm, after_append, after_cons, session_after] at ho
    rw [← hses] at he
    subst hte
    have ⟨between, later, ev, r, hb, hsp, hlt, hst, hdc, hi, hr⟩ :=
      Session.answered_of_waiting hp'.orderly hp'.numbered he ho rfl
    rw [hdl, hses, Session.now_act] at hlt
    refine .intro hm hd' hc hw.phase hact hsent hb hsp (Nat.add_lt_add_iff_left.mp hlt) hst hdc hi ?_
    rw [Rpc.Response.outcome] at hr
    split at hr
    case h_1 => cases hr
    case h_2 he => exact he

theorem greeting_introduced (ms : List Move) (m : Move) (h : idle.Punctual ms)
    (hg : 0 < (idle.after ms).greetings m) :
    ∃ ms₁ command args ms₂, ms = ms₁ ++ .input (.start command args) :: ms₂ ∧
      (∀ m ∈ ms₂, m.isStart = false) ∧
      ((idle.after ms₁).move (.input (.start command args))).Introduced ms₂ := by
  have hp := idle_proper.after ms
  rcases hp.greetings m with hz | ⟨_, hg⟩
  · omega
  · have ⟨ms₁, command, args, ms₂, hms, hlate⟩ := exists_start hg.accepts
    refine ⟨ms₁, command, args, ms₂, hms, hlate, ?_⟩
    rw [hms, punctual_append] at h
    have hp₁ := idle_proper.after ms₁
    have hp₂ := hp₁.move (.input (.start command args))
    -- At the start every older call to `initialize` has been told that it has no answer.
    have hs := (h.right.left (.inl rfl)).spent_start hp₁ command args
    rw [hms, after_append, after_cons] at hg
    match m, hg with
    | _, .notifies _ ha =>
      have hn : ((idle.after ms₁).move (.input (.start command args))).session.handshake ≠
          .acknowledged := by
        rw [handshake_start]
        nofun
      have ⟨run, hd, hw, ht, _, _⟩ := unheard_of_acknowledged hp₂ hn ha
      rw [run]
      exact (introduced_of_told hp₂ hs hd hw ht).append _
    | _, .concludes _ hd hw ht _ => exact introduced_of_told hp₂ hs hd hw ht

theorem greeting_introduced_of_answer :
    let ms : List Move :=
      [.input (.start "server" []), .input (.call "hello" (.handshake "/w")), .turn (.caller 0),
        .input (.emit ⟨.message, "\x7b\"id\":0,\"result\":null\x7d"⟩), .turn (.router 0)]
    idle.Punctual ms ∧ 0 < (idle.after ms).greetings (.turn (.caller 0)) ∧
      ∃ ms₁ command args ms₂, ms = ms₁ ++ .input (.start command args) :: ms₂ ∧
        (∀ m ∈ ms₂, m.isStart = false) ∧
        ((idle.after ms₁).move (.input (.start command args))).Introduced ms₂ := by
  intro ms
  have hp : idle.Punctual ms :=
    ⟨fun _ => by decide, fun _ => by decide, fun _ => by decide, fun _ => by decide,
      fun _ => by decide, trivial⟩
  have hd : ⟨0, "hello", .handshake "/w", .waiting 0⟩ ∈ (idle.after ms).callers :=
    List.mem_singleton_self _
  have ht : (idle.after ms).told? ⟨0, "hello", .handshake "/w", .waiting 0⟩ = some (.ok .null) := rfl
  have hg : 0 < (idle.after ms).greetings (.turn (.caller 0)) := by
    rcases handshake_concluded (idle_proper.after ms) hd ⟨rfl, rfl⟩ ht with ⟨hg, _⟩ | ⟨_, hh⟩
    · exact Nat.lt_of_lt_of_eq Nat.zero_lt_one hg.symm
    · cases hh
  exact ⟨hp, hg, greeting_introduced ms (.turn (.caller 0)) hp hg⟩

end Client
end LanguageClient
