import LanguageClient.Proofs.Client.Omissions

namespace LanguageClient

variable {first channel : Nat}

namespace Session

variable {s : Session} {as : List Action}

theorem Wired.actAll (h : s.Wired first channel) (hc : s.transport.listeners.closed = [])
    (hq : ∀ a ∈ as, a.isQuiet) :
    (s.actAll as).Wired first channel ∧ (s.actAll as).transport.listeners.closed = [] := by
  induction as generalizing s
  case nil          => exact ⟨h, hc⟩
  case cons a as hi =>
    have ⟨ha, hq⟩ := List.forall_mem_cons.mp hq
    have q := s.act_quietly ha
    exact hi (h.quietly q hc) ((congrArg _ <| q.listeners hc).trans hc) hq

theorem Bare.actAll (h : s.Bare) (hc : s.transport.listeners.closed = []) (hq : ∀ a ∈ as, a.isQuiet) :
    (s.actAll as).Bare ∧ (s.actAll as).transport.listeners.closed = [] := by
  induction as generalizing s
  case nil          => exact ⟨h, hc⟩
  case cons a as hi =>
    have ⟨ha, hq⟩ := List.forall_mem_cons.mp hq
    have q := s.act_quietly ha
    exact hi (h.quietly q hc) ((congrArg _ <| q.listeners hc).trans hc) hq

theorem Wired.inbox_actAll (h : s.Wired first channel) (hc : s.transport.listeners.closed = [])
    (hq : ∀ a ∈ as, a.isQuiet) (ha : ∀ a ∈ as, a.isCalm) : (s.actAll as).inbox = s.inbox := by
  have hr := (h.actAll hc hq).left.router
  obtain hw | hw := calm_actAll (s := s) ha
  · exact inbox_of_wiring hw
  · rw [hw] at hr
    cases hr

end Session

namespace Client

variable {c : Client} {m : Move} {ms : List Move}

theorem emitted_turn (c : Client) (t : Turn) : (c.actions (.turn t)).flatMap (·.emitted) = [] := by
  refine List.flatMap_eq_nil_iff.mpr fun a ha => ?_
  have hc := c.turn_actions t a ha
  cases a
  case emit => cases hc
  all_goals rfl

def arrived (c : Client) (ms : List Move) : List Event :=
  (c.trace ms).flatMap (·.emitted)

theorem arrived_append (c : Client) (ms ms' : List Move) :
    c.arrived (ms ++ ms') = c.arrived ms ++ (c.after ms).arrived ms' := by
  rw [arrived, trace_append, List.flatMap_append, ← arrived, ← arrived]

theorem handled_inbox_move (h : c.session.Wired first channel)
    (hc : c.session.transport.listeners.closed = []) (hq : ∀ a ∈ c.actions m, a.isQuiet) :
    (c.actions m).filterMap (·.handled?) ++ (c.move m).session.inbox =
      c.session.inbox ++ (c.actions m).flatMap (·.emitted) := by
  have hi (hm : m.isCalm) : (c.move m).session.inbox = c.session.inbox := by
    rw [session_move]
    exact h.inbox_actAll hc hq (actions_calm hm)
  cases m
  case input i =>
    have hh : (c.actions (.input i)).filterMap (·.handled?) = [] := by
      simpa [handled, trace] using c.handled_inputs [i]
    rw [hh, List.nil_append]
    cases i
    case start  => simp [actions, Input.actions, Action.isQuiet] at hq
    case emit e => exact h.inbox_emit hc e
    all_goals
      rw [hi rfl]
      exact (List.append_nil _).symm
  case turn t =>
    rw [handled_turn, emitted_turn, List.append_nil]
    cases t
    case caller number =>
      have hr : c.session.wiring.router?.map (Turn.router ·.channel) ≠ some (.caller number) := by simp
      rw [if_neg hr, hi rfl, List.nil_append]
    case router =>
      split
      case isTrue hr =>
        rw [inbox_router (by simpa using hr), List.append_nil]
      case isFalse hr =>
        rw [move_router_strange (by simpa using hr), List.nil_append]

theorem handled_inbox (h : c.session.Wired first channel)
    (hc : c.session.transport.listeners.closed = []) (hq : ∀ a ∈ c.trace ms, a.isQuiet) :
    c.handled ms ++ (c.after ms).session.inbox = c.session.inbox ++ c.arrived ms := by
  induction ms generalizing c
  case nil          => simp [handled, arrived, trace]
  case cons m ms hi =>
    rw [trace, List.forall_mem_append] at hq
    obtain ⟨hw, hc'⟩ := h.actAll hc hq.left
    rw [← session_move] at hw hc'
    have hm := handled_inbox_move h hc hq.left
    calc c.handled (m :: ms) ++ (c.after (m :: ms)).session.inbox
      _ = (c.actions m).filterMap (·.handled?) ++
          ((c.move m).handled ms ++ ((c.move m).after ms).session.inbox) := by
        rw [handled_cons, after_cons, List.append_assoc]
      _ = ((c.actions m).filterMap (·.handled?) ++ (c.move m).session.inbox) ++ (c.move m).arrived ms := by
        rw [hi hw hc' hq.right, List.append_assoc]
      _ = c.session.inbox ++ c.arrived (m :: ms) := by
        rw [hm, arrived, arrived, trace, List.flatMap_append, List.append_assoc]

theorem handled_bare (h : c.session.Bare) (hc : c.session.transport.listeners.closed = [])
    (hq : ∀ a ∈ c.trace ms, a.isQuiet) : c.handled ms = [] := by
  induction ms generalizing c
  case nil          => rfl
  case cons m ms hi =>
    rw [trace, List.forall_mem_append] at hq
    obtain ⟨hb, hc'⟩ := h.actAll hc hq.left
    rw [← session_move] at hb hc'
    have hm : (c.actions m).filterMap (·.handled?) = [] := by
      cases m
      case input i => simpa [handled, trace] using c.handled_inputs [i]
      case turn t  => rw [handled_turn, h.inbox, ite_self]
    rw [handled_cons, hm, hi hb hc' hq.right, List.append_nil]

end Client
end LanguageClient
