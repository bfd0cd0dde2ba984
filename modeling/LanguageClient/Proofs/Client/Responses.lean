import LanguageClient.Proofs.Client.Callers
import LanguageClient.Proofs.Session.Responses

namespace LanguageClient

variable {s t : Session} {ticket : Nat} {result : Except Failure Json} {d : Caller}

def Call.asks? : Call → Option (String × Json)
  | response => none
  | request method params _ => some (method, params)
  | handshake root => some ("initialize", Protocol.initializeParams root)
  | completion path line character =>
    some ("textDocument/completion", Protocol.completionParams path line character)
  | shutdown => some ("shutdown", .null)

namespace Session

theorem ask_waiting {call : Call} {method : String} {params : Json} (hn : s.Numbered)
    (h : s.ask call method params = (.waiting ticket, t)) :
    s.Sends ticket method params ∧ s.asking call method params = [.send method params] := by
  rw [ask] at h
  rw [asking]
  cases hs : s.send method params
  case mk r s' =>
    rw [hs] at h
    cases r
    case error => cases h
    case ok handle =>
      cases h
      exact ⟨sends_of_send hn hs, rfl⟩

theorem begin_waiting {call : Call} (hn : s.Numbered) (h : s.begin call = (.waiting ticket, t)) :
    ∃ before method params, call.asks? = some (method, params) ∧
      s.beginning call = before ++ [.send method params] ∧
      (s.actAll before).Sends ticket method params := by
  cases call
  case response => cases h
  case handshake root =>
    simp only [Session.begin] at h
    split at h
    case isTrue => cases h
    case isFalse hh =>
      have hn : Numbered { s with handshake := .awaitingResponse } :=
        hn.act (.handshake .awaitingResponse)
      obtain ⟨hs, ha⟩ := ask_waiting hn h
      refine ⟨[.handshake .awaitingResponse], _, _, rfl, ?_, hs⟩
      rw [beginning, if_neg hh, ha]
      rfl
  all_goals
    rw [Session.begin] at h
    obtain ⟨hs, ha⟩ := ask_waiting hn h
    exact ⟨[], _, _, rfl, ha, hs⟩

theorem finish_error (s : Session) (call : Call) (f : Failure) :
    (s.finish call (.error f)).1 = .error f := by
  cases call <;> rfl

theorem isAnswer_of_finish {call : Call} {outcome : Except Failure Json}
    (h : isAnswer (s.finish call outcome).1) : isAnswer outcome := by
  cases outcome
  case ok    => rfl
  case error => rwa [finish_error] at h

theorem ask_over {call : Call} {method : String} {params : Json}
    (h : s.ask call method params = (.over result, t)) : isAnswer result = false := by
  rw [ask] at h
  cases hs : s.send method params
  case mk r s' =>
    cases r
    case error f =>
      simp only [hs, Prod.mk.injEq, Call.Progress.over.injEq] at h
      rw [← h.left, finish_error]
      exact send_error hs
    case ok =>
      rw [hs] at h
      cases h

theorem begin_over {call : Call} (h : s.begin call = (.over result, t)) (ha : isAnswer result) :
    call = .response := by
  cases call
  case response => rfl
  case handshake root =>
    simp only [Session.begin] at h
    split at h
    case isTrue =>
      cases h
      cases ha
    case isFalse =>
      rw [ask_over h] at ha
      cases ha
  all_goals
    rw [Session.begin] at h
    rw [ask_over h] at ha
    cases ha

end Session

namespace Client

variable {c c' : Client} {m : Move} {ms : List Move}

inductive Sending (d : Caller) (method : String) (params : Json) : Move → Prop
  | input (call : d.call = .response) : Sending d method params (.input (.send d.label method params))
  | turn (call : d.call.asks? = some (method, params)) :
    Sending d method params (.turn (.caller d.number))

-- In a move a caller sends its request and gets a ticket for it.
def Asks (c : Client) (m : Move) (d : Caller) (ticket : Nat) : Prop :=
  ∃ before method params, Sending d method params m ∧
    c.actions m = before ++ [.send method params] ∧
    (c.session.actAll before).Sends ticket method params

def Asked (ms : List Move) (d : Caller) (ticket : Nat) : Prop :=
  ∃ ms₁ m ms₂, ms = ms₁ ++ m :: ms₂ ∧ (idle.after ms₁).Asks m d ticket

inductive Concludes (s : Session) (d : Caller) : Except Failure Json → Prop
  | begins {result : Except Failure Json} {t : Session} (phase : d.phase = .fresh)
      (begun : s.begin d.call = (.over result, t)) : Concludes s d result
  | wakes {ticket : Nat} {outcome : Except Failure Json} (phase : d.phase = .waiting ticket)
      (told : s.pending.outcome? ticket = some outcome) : Concludes s d (s.finish d.call outcome).1

theorem Resumed.finished_eq (h : c.Resumed d c') :
    c'.finished = c.finished ∨
      ∃ result, Concludes c.session d result ∧ c'.finished = c.finished ++ [(d.label, result)] := by
  cases h
  case waits | stays => exact .inl rfl
  case settles hp hb => exact .inr ⟨_, .begins hp hb, rfl⟩
  case ends hp ho hf => exact .inr ⟨_, .wakes hp ho, by rw [hf]; rfl⟩

theorem Turned.finished_eq {turn : Turn} (h : c.Turned turn c') :
    c'.finished = c.finished ∨ ∃ d result, turn = .caller d.number ∧ d ∈ c.callers ∧
      Concludes c.session d result ∧ c'.finished = c.finished ++ [(d.label, result)] := by
  cases h
  case resumes number d hf hr =>
    have hn : d.number = number := by simpa using List.find?_some hf
    rcases hr.finished_eq with h | ⟨result, h⟩
    · exact .inl h
    · exact .inr ⟨d, result, hn ▸ rfl, List.mem_of_find?_eq_some hf, h⟩
  all_goals exact .inl rfl

theorem Performed.finished_eq {i : Input} (h : c.Performed i c') : c'.finished = c.finished := by
  cases h
  all_goals rfl

theorem finished_after {label : String} (h : (label, result) ∈ (idle.after ms).finished) :
    ∃ ms₁ d ms₂, ms = ms₁ ++ .turn (.caller d.number) :: ms₂ ∧ d ∈ (idle.after ms₁).callers ∧
      d.label = label ∧ Concludes (idle.after ms₁).session d result := by
  induction ms using List.reverseRecOn
  case nil => cases h
  case append_singleton ms m hi =>
    -- A result that was there before the last move comes from a move before it.
    have hlater (h : (label, result) ∈ (idle.after ms).finished) :
        ∃ ms₁ d ms₂, ms ++ [m] = ms₁ ++ .turn (.caller d.number) :: ms₂ ∧
          d ∈ (idle.after ms₁).callers ∧ d.label = label ∧
          Concludes (idle.after ms₁).session d result := by
      have ⟨ms₁, d, ms₂, hm, h⟩ := hi h
      exact ⟨ms₁, d, ms₂ ++ [m], by rw [hm, List.append_assoc]; rfl, h⟩
    rw [after_append, after_cons, after_nil] at h
    cases m
    case input i => exact hlater ((performed _ i).finished_eq ▸ h)
    case turn turn =>
      rcases (turned _ turn).finished_eq with hf | ⟨d, result', hm, hd, hc, hf⟩
      · rw [move, hf] at h
        exact hlater h
      · rw [move, hf] at h
        rcases List.mem_append.mp h with h | h
        · exact hlater h
        · cases List.mem_singleton.mp h
          exact ⟨ms, d, [], by rw [hm], hd, rfl, hc⟩

theorem Resumed.asks {number : Nat} {d₀ : Caller} (h : c.Resumed d₀ c') (hn : c.session.Numbered)
    (he : c.Enrolled) (hf : c.callers.find? (·.number = number) = some d₀) (hd : d ∈ c'.callers)
    (hp : d.phase = .waiting ticket) :
    d ∈ c.callers ∨ c.Asks (.turn (.caller number)) d ticket := by
  cases h
  case waits hp₀ hb =>
    have ⟨d', hd', hm⟩ := List.mem_map.mp hd
    split at hm
    case isTrue hnum =>
      have h₀ : d₀.number = number := by simpa using List.find?_some hf
      have hd₀ : d' = d₀ :=
        List.inj_on_of_nodup_map he.numbers hd' (List.mem_of_find?_eq_some hf) hnum
      subst hd₀ hm
      cases hp
      have ⟨before, method, params, hq, ha, hs⟩ := Session.begin_waiting hn hb
      refine .inr ⟨before, method, params, ?_, ?_, hs⟩
      · exact h₀ ▸ .turn hq
      · simp only [actions, hf, resuming, hp₀, ha]
    case isFalse => exact .inl (hm ▸ hd')
  case stays => exact .inl hd
  case settles | ends => exact .inl (List.mem_of_mem_filter hd)

theorem Performed.asks {i : Input} (h : c.Performed i c') (hn : c.session.Numbered)
    (hd : d ∈ c'.callers) (hp : d.phase = .waiting ticket) :
    d ∈ c.callers ∨ c.Asks (.input i) d ticket := by
  cases h
  case sends method params _ _ hs =>
    rcases List.mem_append.mp hd with hd | hd
    · exact .inl hd
    · cases List.mem_singleton.mp hd
      cases hp
      exact .inr ⟨[], method, params, .input rfl, rfl, Session.sends_of_send hn hs⟩
  case calls =>
    rcases List.mem_append.mp hd with hd | hd
    · exact .inl hd
    · cases List.mem_singleton.mp hd
      cases hp
  case abandons     => exact .inl (List.mem_of_mem_filter hd)
  case acts | stays => exact .inl hd

theorem Turned.asks {turn : Turn} (h : c.Turned turn c') (hn : c.session.Numbered) (he : c.Enrolled)
    (hd : d ∈ c'.callers) (hp : d.phase = .waiting ticket) :
    d ∈ c.callers ∨ c.Asks (.turn turn) d ticket := by
  cases h
  case resumes hf hr => exact hr.asks hn he hf hd hp
  all_goals exact .inl hd

theorem asks_move (h : c.Proper) (hd : d ∈ (c.move m).callers) (hp : d.phase = .waiting ticket) :
    d ∈ c.callers ∨ c.Asks m d ticket := by
  cases m
  case input i => exact (c.performed i).asks h.numbered hd hp
  case turn turn =>
    have ha := (turned { c with turns := c.turns.erase turn } turn).asks h.numbered h.enrolled hd hp
    rw [Asks, actions_turns] at ha
    exact ha

theorem asked_after (hd : d ∈ (idle.after ms).callers) (hp : d.phase = .waiting ticket) :
    Asked ms d ticket := by
  induction ms using List.reverseRecOn
  case nil => cases hd
  case append_singleton ms m hi =>
    rw [after_append, after_cons, after_nil] at hd
    rcases asks_move (idle_proper.after ms) hd hp with hd | ha
    · have ⟨ms₁, m', ms₂, hm, ha⟩ := hi hd
      exact ⟨ms₁, m', ms₂ ++ [m], by rw [hm, List.append_assoc]; rfl, ha⟩
    · exact ⟨ms, m, [], rfl, ha⟩

theorem mem_inbox_of_deliver {e : Event} (h : .deliver e ∈ c.actions m) : e ∈ c.session.inbox := by
  cases m
  case input i => cases i <;> simp [actions, Input.actions] at h
  case turn turn =>
    cases turn
    case router channel =>
      simp only [actions, Session.routing] at h
      split at h
      case isTrue =>
        split at h
        case h_1      => cases h
        case h_2 r hr => simpa [Session.inbox, hr] using h
      case isFalse => cases h
    case caller number =>
      rw [actions] at h
      split at h
      case h_1   => cases h
      case h_2 d _ =>
        have h := resuming_ofCall _ d _ h
        cases hc : d.call
        all_goals
          rw [hc] at h
          cases h

theorem emitted_of_deliver {e : Event} (h : .deliver e ∈ (idle.after ms).actions m) :
    .emit e ∈ idle.trace ms := by
  have h := mem_inbox_of_deliver h
  rw [session_after] at h
  exact (Session.inbox_actAll h).resolve_left nofun

-- A result that is an answer, and what it is made of: the caller has waited for the request that it
-- has sent itself, and the run has answered this request. A call that only waits for a request that was
-- sent before is over at once if there is none.
inductive Earned (ms : List Move) (d : Caller) : Except Failure Json → Prop
  | answered {ticket : Nat} {outcome : Except Failure Json} (phase : d.phase = .waiting ticket)
      (asked : Asked ms d ticket) (answered : Session.idle.Answered (idle.trace ms) ticket outcome) :
      Earned ms d ((idle.after ms).session.finish d.call outcome).1
  | nothing (phase : d.phase = .fresh) (call : d.call = .response) : Earned ms d (.ok .null)

theorem Concludes.earned (h : Concludes (idle.after ms).session d result)
    (hd : d ∈ (idle.after ms).callers) (ha : isAnswer result) : Earned ms d result := by
  cases h
  case begins hp hb =>
    have hc := Session.begin_over hb ha
    rw [hc] at hb
    cases hb
    exact .nothing hp hc
  case wakes hp ho =>
    rw [session_after] at ho
    have hw := Session.answered_of_outcome (idle.trace ms) ho (Session.isAnswer_of_finish ha)
    exact .answered hp (asked_after hd hp) hw

structure Responses (ms : List Move) : Prop where
  ids     : Session.idle.issuedIds (idle.trace ms) =
    (List.range (idle.after ms).session.issued).map (Nat.cast : Nat → Int)
  answers : ∀ label result, (label, result) ∈ (idle.after ms).finished → isAnswer result →
    ∃ ms₁ d ms₂, ms = ms₁ ++ .turn (.caller d.number) :: ms₂ ∧ d.label = label ∧ Earned ms₁ d result
  inbound : ∀ ms₁ m ms₂, ms = ms₁ ++ m :: ms₂ →
    ∀ e, .deliver e ∈ (idle.after ms₁).actions m → .emit e ∈ idle.trace ms₁
  stale   : ∀ ms₁ command args ms₂, ms = ms₁ ++ .input (.start command args) :: ms₂ →
    ∀ (e : Event) (id : Int) answer, e.answer? = some (id, answer) →
      id < (idle.after ms₁).session.issued →
      ((idle.after ms).session.handle e).pending = (idle.after ms).session.pending

theorem run_responses (ms : List Move) : Responses ms where
  ids := by
    rw [session_after]
    exact Session.issuedIds_idle _
  answers := by
    intro label result h ha
    have ⟨ms₁, d, ms₂, hm, hd, hl, hc⟩ := finished_after h
    exact ⟨ms₁, d, ms₂, hm, hl, hc.earned hd ha⟩
  inbound := fun _ _ _ _ _ h => emitted_of_deliver h
  stale := by
    intro ms₁ command args ms₂ hm e id answer he hi
    rw [session_after] at hi
    have hs := Session.handle_stale (idle.trace ms₁)
      (((idle.after ms₁).move (.input (.start command args))).trace ms₂) command args he hi
    rw [session_after, hm, trace_append]
    exact hs

end Client
end LanguageClient
