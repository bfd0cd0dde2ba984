import LanguageClient.Proofs.Client.Bursts

namespace LanguageClient

-- The actions that write whatever the state of the session, and those that begin a session.
def Action.isForward : Action → Bool
  | start .. | notify .. | deliver _ | write _ => true
  | _ => false

namespace Session

variable {s t : Session} {a : Action} {as : List Action}

-- A session that was never started, or has been stopped.
def Halted (s : Session) : Prop :=
  s.lifecycle = .idle ∨ s.lifecycle = .stopped

instance : Decidable s.Halted :=
  inferInstanceAs (Decidable (_ ∨ _))

theorem Halted.closed (h : s.Halted) : s.lifecycle.acceptsTraffic = false := by
  rcases h with h | h
  all_goals simp [h, Lifecycle.acceptsTraffic]

structure Empty (s : Session) : Prop where
  bare    : s.Bare
  entries : s.pending.entries = []

def Yields (s : Session) : Prop :=
  s.Halted → s.Empty

theorem idle_yields : idle.Yields :=
  fun _ => ⟨⟨rfl, rfl, rfl⟩, rfl⟩

theorem Yields.quiet_act (h : s.Yields) (ho : s.Orderly) (hq : a.isQuiet) : (s.act a).Yields := by
  intro hh
  have q := s.act_quietly hq
  have hs : s.Halted := by rwa [Halted, q.lifecycle] at hh
  refine ⟨(h hs).bare.quietly q ho.open_, q.pending ▸ ?_⟩
  exact Pending.entries_performAll_eq_nil (h hs).entries (registered_operations_closed hs.closed a)

theorem Yields.act (h : s.Yields) (ho : s.Orderly) (a : Action) : (s.act a).Yields := by
  cases a
  case start command args =>
    intro hh
    rw [Session.act] at hh ⊢
    cases hs : (s.start command args).1
    case ok =>
      obtain ⟨_, hl, _⟩ := ho.start_ok hs
      simp [Halted, hl] at hh
    case error =>
      obtain ⟨_, _, hb⟩ := ho.start_error hs
      exact ⟨hb, ho.start_entries command args⟩
  case cleanup => exact fun hh => ⟨cleanup_bare ho.wiring, (h hh).entries⟩
  case stop =>
    refine fun _ => ⟨ho.stopped_bare, ?_⟩
    rw [pending_act]
    exact s.pending.entries_discardAll
  all_goals exact h.quiet_act ho rfl

theorem Yields.actAll (h : s.Yields) (ho : s.Orderly) (as : List Action) : (s.actAll as).Yields := by
  induction as generalizing s
  case nil          => exact h
  case cons a as hi => exact hi (h.act ho a) (ho.act a)

structure Still (s t : Session) : Prop where
  halted : t.Halted
  sent   : t.transport.sent = s.transport.sent

theorem Halted.act (h : s.Halted) (he : s.pending.entries = []) (ha : a.isForward = false) :
    s.Still (s.act a) := by
  cases a
  case start | notify | deliver | write => cases ha
  case send method params =>
    rw [Session.act, send_closed h.closed]
    exact ⟨h, rfl⟩
  case sendNotification method params =>
    rw [Session.act, sendNotification, refusal?, h.closed]
    exact ⟨h, rfl⟩
  case cancel id =>
    -- There is no request to cancel, so nobody is told.
    simp only [Session.act, Session.cancel, Pending.cancel, Pending.claim, Pending.contains, he]
    exact ⟨h, rfl⟩
  case stop => exact ⟨.inr rfl, rfl⟩
  all_goals exact ⟨h, rfl⟩

theorem Halted.actAll (h : s.Halted) (hy : s.Yields) (ho : s.Orderly)
    (has : ∀ a ∈ as, a.isForward = false) : s.Still (s.actAll as) := by
  induction as generalizing s
  case nil => exact ⟨h, rfl⟩
  case cons a as hi =>
    have ⟨ha, has⟩ := List.forall_mem_cons.mp has
    have hs := h.act (hy h).entries ha
    have ht := hi hs.halted (hy.act ho a) (ho.act a) has
    exact ⟨ht.halted, ht.sent.trans hs.sent⟩

theorem Halted.begin (h : s.Halted) (call : Call) :
    (∃ result, (s.begin call).1 = .over result) ∧ ∀ a ∈ s.beginning call, a.isForward = false := by
  have hask (s : Session) (h : s.Halted) (method : String) (params : Json) :
      (∃ result, (s.ask call method params).1 = .over result) ∧
        ∀ a ∈ s.asking call method params, a.isForward = false := by
    rw [ask, asking, send_closed h.closed]
    refine ⟨⟨_, rfl⟩, List.forall_mem_cons.mpr ⟨rfl, ?_⟩⟩
    cases call
    all_goals simp [finishing, Action.isForward]
  cases call
  case response => exact ⟨⟨_, rfl⟩, by simp [beginning]⟩
  case handshake root =>
    simp only [Session.begin, beginning]
    split
    case isTrue  => exact ⟨⟨_, rfl⟩, by simp⟩
    case isFalse =>
      obtain ⟨hr, ha⟩ := hask { s with handshake := .awaitingResponse } h "initialize"
        (Protocol.initializeParams root)
      exact ⟨hr, List.forall_mem_cons.mpr ⟨rfl, ha⟩⟩
  all_goals exact hask s h _ _

end Session

-- All that is done with a client, except to start a server and to write a frame past the session.
def Input.isUsual : Input → Bool
  | start .. | write _ => false
  | _ => true

namespace Client

variable {c : Client} {d : Caller} {i : Input} {is : List Input} {ms : List Move}

-- A client whose session is not running: no call waits in it.
structure Vacated (c : Client) : Prop where
  halted  : c.session.Halted
  callers : ∀ d ∈ c.callers, d.phase = .fresh

theorem yields_after (ms : List Move) : (idle.after ms).session.Yields := by
  rw [session_after]
  exact Session.idle_yields.actAll Session.idle_orderly _

theorem Resting.vacated (hr : c.Resting) (h : c.Proper) (hh : c.session.Halted)
    (he : c.session.pending.entries = []) : c.Vacated := by
  refine ⟨hh, fun d hd => ?_⟩
  have ⟨ticket, hp, ho⟩ := hr.callers d hd
  have ⟨_, ho'⟩ := h.numbered.sound.outcome?_isSome he (h.enrolled.given d hd ticket hp)
  cases ho.symm.trans ho'

structure Kept (c c' : Client) : Prop where
  vacated : c'.Vacated
  sent    : c'.session.transport.sent = c.session.transport.sent

namespace Vacated

theorem input (h : c.Vacated) (ho : c.session.Orderly) (hy : c.session.Yields) (hi : i.isUsual) :
    c.Kept (c.move (.input i)) := by
  have ha : ∀ a ∈ i.actions, a.isForward = false := by
    cases i
    case start | write => cases hi
    all_goals simp [Input.actions, Action.isForward]
  have hs := h.halted.actAll hy ho ha
  have hp := c.performed i
  rw [← hp.session_eq] at hs
  generalize c.move (.input i) = c' at hp hs
  refine ⟨⟨hs.halted, fun d hd => ?_⟩, hs.sent⟩
  cases hp
  case sends hsent =>
    rw [Session.send_closed h.halted.closed] at hsent
    cases hsent
  case calls =>
    rcases List.mem_append.mp hd with hd | hd
    · exact h.callers d hd
    · cases List.mem_singleton.mp hd
      rfl
  case abandons     => exact h.callers d (List.mem_of_mem_filter hd)
  case acts | stays => exact h.callers d hd

theorem turn_actions (h : c.Vacated) (hy : c.session.Yields) (t : Turn) :
    ∀ a ∈ c.actions (.turn t), a.isForward = false := by
  cases t
  case router channel =>
    have hr : c.session.wiring.router? = none :=
      Option.map_eq_none_iff.mp (hy h.halted).bare.router
    simp [actions, hr]
  case caller number =>
    rw [actions]
    split
    case h_1 => simp
    case h_2 d hd =>
      have hf := h.callers d (List.mem_of_find?_eq_some hd)
      simp only [resuming, hf]
      exact (h.halted.begin d.call).right

theorem turn (h : c.Vacated) (ho : c.session.Orderly) (hy : c.session.Yields) (t : Turn) :
    c.Kept (c.move (.turn t)) := by
  have hs := h.halted.actAll hy ho (h.turn_actions hy t)
  rw [← session_move] at hs
  refine ⟨⟨hs.halted, fun d hd => ?_⟩, hs.sent⟩
  have ht := turned { c with turns := c.turns.erase t } t
  rw [move] at hd
  generalize Client.turn { c with turns := c.turns.erase t } t = c' at ht hd
  cases ht
  case resumes number d' hf hr =>
    have hf := h.callers d' (List.mem_of_find?_eq_some hf)
    cases hr
    case waits hb =>
      obtain ⟨⟨_, hr⟩, _⟩ := h.halted.begin d'.call
      rw [show c.session.begin d'.call = _ from hb] at hr
      cases hr
    case settles                => exact h.callers d (List.mem_of_mem_filter hd)
    case stays hw _ | ends hw _ _ => cases hf.symm.trans hw
  all_goals exact h.callers d hd

end Vacated

def Move.isUsual : Move → Bool
  | .input i => i.isUsual
  | .turn _ => true

theorem Vacated.after (h : c.Vacated) (ho : c.session.Orderly) (hy : c.session.Yields)
    (hm : ∀ m ∈ ms, m.isUsual) : c.Kept (c.after ms) := by
  induction ms generalizing c
  case nil => exact ⟨h, rfl⟩
  case cons m ms hi =>
    have ⟨hm, hms⟩ := List.forall_mem_cons.mp hm
    have hk : c.Kept (c.move m) := by
      cases m
      case input => exact h.input ho hy hm
      case turn  => exact h.turn ho hy _
    have hs := c.session_move m
    have hk' := hi hk.vacated (hs ▸ ho.actAll _) (hs ▸ hy.actAll ho _) hms
    exact ⟨hk'.vacated, hk'.sent.trans hk.sent⟩

theorem schedule_isUsual (h : ∀ i ∈ is, i.isUsual) : ∀ m ∈ c.schedule is, m.isUsual := by
  rw [schedule]
  refine List.forall_mem_append.mpr ⟨?_, ?_⟩
  · exact List.forall_mem_map.mpr h
  · exact List.forall_mem_map.mpr fun _ _ => rfl

-- However a client has come to rest: when its session was never started or has been stopped, no
-- request waits, and whatever is then done with it short of a start, no frame is written and no
-- request waits.
theorem halted_silent (iss : List (List Input)) (h : (idle.bursts iss).session.Halted) :
    (idle.bursts iss).session.pending.entries = [] ∧
      ∀ is : List Input, (∀ i ∈ is, i.isUsual) →
        ((idle.bursts iss).burst is).2.session.transport.sent =
            (idle.bursts iss).session.transport.sent ∧
          ((idle.bursts iss).burst is).2.session.pending.entries = [] := by
  have hr := bursts_resting idle_resting idle_proper iss
  have ⟨ms, hms⟩ := idle.bursts_eq_after iss
  have hp : (idle.bursts iss).Proper := hms ▸ idle_proper.after ms
  have hy : (idle.bursts iss).session.Yields := hms ▸ yields_after ms
  refine ⟨(hy h).entries, fun is his => ?_⟩
  -- Nobody waits in such a session at rest, so that no turn can do anything either.
  have hk := (hr.vacated hp h (hy h).entries).after hp.orderly hy
    (schedule_isUsual (c := idle.bursts iss) his)
  have hs := (idle.bursts iss).session_after ((idle.bursts iss).schedule is)
  rw [burst_eq_after]
  exact ⟨hk.sent, ((hs ▸ hy.actAll hp.orderly _ : Session.Yields _) hk.vacated.halted).entries⟩

theorem halted_silent_of_shutdown :
    let c := idle.bursts [[.start "server" [], .call "bye" .shutdown],
      [.emit ⟨.message, "\x7b\"id\":0,\"result\":null\x7d"⟩]]
    (c.session.Halted ∧ c.session.transport.sent.length = 2) ∧
      (c.burst [.emit ⟨.message, "\x7b\"id\":1,\"method\":\"ping\"\x7d"⟩, .cancel 0,
        .call "bye" .shutdown, .call "hello" (.handshake "/w")]).2.session.transport.sent.length = 2 := by
  intro c
  have hh : c.session.Halted := .inr rfl
  have hl : c.session.transport.sent.length = 2 := rfl
  refine ⟨⟨hh, hl⟩, ?_⟩
  rw [((halted_silent _ hh).right _ (by simp [Input.isUsual])).left]
  exact hl

end Client
end LanguageClient
