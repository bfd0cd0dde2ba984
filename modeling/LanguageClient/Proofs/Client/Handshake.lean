import LanguageClient.Proofs.Client.Responses
import LanguageClient.Proofs.Client.Restart
import LanguageClient.Proofs.Session.Handshake

namespace LanguageClient

variable {s t : Session} {d : Caller} {ticket : Nat} {result : Except Failure Json}

def Call.isHandshake : Call → Bool
  | handshake _ => true
  | _ => false

theorem Call.exists_of_isHandshake {call : Call} (h : call.isHandshake) :
    ∃ root, call = .handshake root := by
  cases call
  case handshake root => exact ⟨root, rfl⟩
  all_goals cases h

structure Caller.Initializes (d : Caller) (ticket : Nat) : Prop where
  call  : d.call.isHandshake
  phase : d.phase = .waiting ticket

namespace Session

variable {call : Call} {root : String}

theorem finishing_plain (s : Session) (hc : call.isHandshake = false) (r : Except Failure Json) :
    (∀ a ∈ s.finishing call r, a.handshake? = none) ∨
      ∃ before, s.finishing call r = before ++ [.stop] := by
  cases call
  case handshake => cases hc
  case shutdown =>
    cases r
    case error => exact .inr ⟨[], rfl⟩
    case ok    => exact .inr ⟨[.notify "exit" .null], rfl⟩
  all_goals exact .inl nofun

theorem asking_plain (s : Session) (hc : call.isHandshake = false) (method : String)
    (params : Json) : (∀ a ∈ s.asking call method params, a.handshake? = none) ∨
      ∃ before, s.asking call method params = before ++ [.stop] := by
  rw [asking]
  split
  case h_1 => exact .inl (List.forall_mem_singleton.mpr rfl)
  case h_2 e t _ =>
    rcases t.finishing_plain hc (.error e) with h | ⟨before, h⟩
    · exact .inl (List.forall_mem_cons.mpr ⟨rfl, h⟩)
    · exact .inr ⟨.send method params :: before, by rw [h]; rfl⟩

theorem beginning_plain (s : Session) (hc : call.isHandshake = false) :
    (∀ a ∈ s.beginning call, a.handshake? = none) ∨ ∃ before, s.beginning call = before ++ [.stop] := by
  cases call
  case response  => exact .inl nofun
  case handshake => cases hc
  all_goals exact s.asking_plain hc _ _

theorem begin_handshake_waiting (hn : s.Numbered)
    (h : s.begin (.handshake root) = (.waiting ticket, t)) :
    s.handshake = .notStarted ∧ t.handshake = .awaitingResponse := by
  have ht : t = s.actAll (s.beginning (.handshake root)) := by rw [← begin_eq, h]
  simp only [Session.begin] at h
  split at h
  case isTrue => cases h
  case isFalse hs =>
    have hn : Numbered { s with handshake := .awaitingResponse } :=
      hn.act (.handshake .awaitingResponse)
    obtain ⟨_, ha⟩ := ask_waiting hn h
    refine ⟨not_ne_iff.mp hs, ?_⟩
    rw [ht, beginning, if_neg hs, ha, actAll_cons, actAll_cons, actAll_nil, handshake_act,
      handshake_act]
    rfl

theorem begin_handshake_over (h : s.begin (.handshake root) = (.over result, t)) :
    s.beginning (.handshake root) = [] ∨
      (s.handshake = .notStarted ∧ t.handshake = .notStarted) := by
  simp only [Session.begin] at h
  split at h
  case isTrue hs  => exact .inl (by rw [beginning, if_pos hs])
  case isFalse hs =>
    refine .inr ⟨not_ne_iff.mp hs, ?_⟩
    rw [ask] at h
    split at h
    case h_1 => cases h
    case h_2 =>
      cases h
      rfl

theorem finishing_handshake (s : Session) (root : String) (v : Json) :
    let as := s.finishing (.handshake root) (.ok v)
    (s.greetings as = 1 ∧ s.lifecycle.acceptsTraffic ∧ (s.actAll as).handshake = .complete) ∨
      (s.greetings as = 0 ∧ (s.actAll as).handshake = .acknowledged) := by
  let u : Session := { s with handshake := .acknowledged }
  have hu : s.act (.handshake .acknowledged) = u := rfl
  by_cases h : u.Admits "initialized"
  case pos =>
    refine .inl ⟨?_, h.left, ?_⟩
    · have hg : u.greets (.sendNotification "initialized" (.object [])) :=
        greets_sendNotification.mpr ⟨h.left, h.right.left, rfl⟩
      rw [finishing, sendNotification_admitted h]
      simp only [greetings, hu, hg]
      rfl
    · rw [finishing, sendNotification_admitted h]
      simp only [actAll_cons, actAll_nil, handshake_act]
      rfl
  case neg =>
    obtain ⟨_, hb⟩ := sendNotification_barred h (.object [])
    have hg : u.greets (.sendNotification "initialized" (.object [])) = false := by
      refine Bool.eq_false_iff.mpr fun hg => h ?_
      obtain ⟨ha, hr, hh⟩ := greets_sendNotification.mp hg
      exact ⟨ha, hr, fun _ => hh⟩
    refine .inr ⟨?_, ?_⟩
    · rw [finishing, hb]
      simp only [greetings, hu, hg]
      rfl
    · rw [finishing, hb]
      simp only [actAll_cons, actAll_nil, handshake_act]
      rfl

end Session

namespace Client

variable {c c' : Client} {m : Move} {ms : List Move}

-- What a caller has been told of the request that it waits for.
def told? (c : Client) (d : Caller) : Option (Except Failure Json) :=
  match d.phase with
  | .fresh          => none
  | .waiting ticket => c.session.pending.outcome? ticket

theorem told?_of_waiting (c : Client) (h : d.phase = .waiting ticket) :
    c.told? d = c.session.pending.outcome? ticket := by
  rw [told?, h]

def Fresh (c : Client) (m : Move) : Prop :=
  ∃ d ∈ c.callers, m = .turn (.caller d.number) ∧ d.phase = .fresh

-- All that a move can do to the handshake.
inductive HandshakeStep (c : Client) : Move → Prop
  | keeps {m : Move} (kept : ∀ a ∈ c.actions m, a.handshake? = none) : HandshakeStep c m
  | starts {command : String} {args : List String} : HandshakeStep c (.input (.start command args))
  | stops {m : Move} (lifecycle : (c.move m).session.lifecycle = .stopped)
      (handshake : (c.move m).session.handshake = .notStarted) : HandshakeStep c m
  | begins {m : Move} {d : Caller} {ticket : Nat} (fresh : c.Fresh m)
      (before : c.session.handshake = .notStarted) (caller : d ∈ (c.move m).callers)
      (waits : d.Initializes ticket) (after : (c.move m).session.handshake = .awaitingResponse) :
      HandshakeStep c m
  | declines {m : Move} (fresh : c.Fresh m) (before : c.session.handshake = .notStarted)
      (after : (c.move m).session.handshake = .notStarted) : HandshakeStep c m
  | fails {d : Caller} {ticket : Nat} (caller : d ∈ c.callers) (waits : d.Initializes ticket)
      {f : Failure} (told : c.told? d = some (.error f))
      (after : (c.move (.turn (.caller d.number))).session.handshake = .notStarted) :
      HandshakeStep c (.turn (.caller d.number))
  | concludes {d : Caller} {ticket : Nat} (caller : d ∈ c.callers) (waits : d.Initializes ticket)
      {v : Json} (told : c.told? d = some (.ok v)) :
      HandshakeStep c (.turn (.caller d.number))

theorem session_turn {number : Nat} (hf : c.callers.find? (·.number = number) = some d) :
    (c.move (.turn (.caller number))).session = c.session.actAll (resuming c.session d) := by
  rw [session_move]
  simp only [actions, hf]

theorem handshake_kept (kept : ∀ a ∈ c.actions m, a.handshake? = none) :
    (c.move m).session.handshake = c.session.handshake := by
  rw [session_move]
  exact Session.handshake_actAll kept

theorem handshake_start (c : Client) (command : String) (args : List String) :
    (c.move (.input (.start command args))).session.handshake = .notStarted := by
  rw [session_move]
  exact Session.handshake_act c.session (.start command args)

theorem handshakeStep_plain {number : Nat} (hf : c.callers.find? (·.number = number) = some d)
    (hc : d.call.isHandshake = false) : c.HandshakeStep (.turn (.caller number)) := by
  have hp : (∀ a ∈ resuming c.session d, a.handshake? = none) ∨
      ∃ before, resuming c.session d = before ++ [.stop] := by
    rw [resuming]
    split
    case h_1 => exact c.session.beginning_plain hc
    case h_2 =>
      split
      case h_1 => exact .inl (by simp)
      case h_2 => exact c.session.finishing_plain hc _
  rcases hp with h | ⟨before, h⟩
  · refine .keeps fun a ha => h a ?_
    simpa only [actions, hf] using ha
  · have hs := session_turn hf
    rw [h, Session.actAll_append] at hs
    exact .stops (by rw [hs]; rfl) (by rw [hs]; rfl)

theorem resumed_turn {number : Nat} (hf : c.callers.find? (·.number = number) = some d) :
    Resumed { c with turns := c.turns.erase (.caller number) } d
      (c.move (.turn (.caller number))) := by
  have hm : c.move (.turn (.caller number)) =
      resume { c with turns := c.turns.erase (.caller number) } d := by
    simp only [move, turn, hf]
  exact hm ▸ resumed _ d

theorem handshakeStep_initialize {number : Nat} (h : c.Proper)
    (hf : c.callers.find? (·.number = number) = some d) (hc : d.call.isHandshake) :
    c.HandshakeStep (.turn (.caller number)) := by
  have hd := List.mem_of_find?_eq_some hf
  have hn : d.number = number := by simpa using List.find?_some hf
  have hs := session_turn hf
  have hr := resumed_turn hf
  subst hn
  obtain ⟨root, hroot⟩ := Call.exists_of_isHandshake hc
  obtain ⟨c', hm⟩ : ∃ c', c.move (.turn (.caller d.number)) = c' := ⟨_, rfl⟩
  rw [hm] at hr
  cases hr
  case waits ticket s hp hb =>
    have hfr : c.Fresh (.turn (.caller d.number)) := ⟨d, hd, rfl, hp⟩
    have hw : { d with phase := .waiting ticket } ∈ (c.move (.turn (.caller d.number))).callers := by
      rw [hm]
      exact List.mem_map.mpr ⟨d, hd, if_pos rfl⟩
    rw [resuming, hp, ← Session.begin_eq, hb] at hs
    obtain ⟨h₁, h₂⟩ := Session.begin_handshake_waiting h.numbered (hroot ▸ hb)
    exact .begins hfr h₁ hw ⟨hc, rfl⟩ (hs ▸ h₂)
  case settles hp hb =>
    have hfr : c.Fresh (.turn (.caller d.number)) := ⟨d, hd, rfl, hp⟩
    rw [resuming, hp, ← Session.begin_eq, hb] at hs
    rcases Session.begin_handshake_over (hroot ▸ hb) with hk | ⟨h₁, h₂⟩
    · refine .keeps fun a ha => ?_
      simp only [actions, hf, resuming, hp, hroot, hk] at ha
      cases ha
    · exact .declines hfr h₁ (hs ▸ h₂)
  case stays hp ho =>
    refine .keeps fun a ha => ?_
    simp only [actions, hf, resuming, hp, ho] at ha
    cases ha
  case ends ticket outcome _ _ hp ho hfin =>
    have hw : d.Initializes ticket := ⟨hc, hp⟩
    have ht : c.told? d = some outcome := (c.told?_of_waiting hp).trans ho
    cases outcome
    case error f =>
      simp only [resuming, hp, ho, hroot, Session.finishing] at hs
      exact .fails hd hw ht (by rw [hs]; rfl)
    case ok v => exact .concludes hd hw ht

theorem Proper.handshakeStep (h : c.Proper) (m : Move) : c.HandshakeStep m := by
  cases m
  case input i =>
    cases i
    case start => exact .starts
    all_goals exact .keeps (by simp [actions, Input.actions, Action.handshake?])
  case turn turn =>
    cases turn
    case router channel =>
      refine .keeps fun a ha => ?_
      simp only [actions, Session.routing] at ha
      split at ha
      · split at ha
        · cases ha
        · simp only [List.mem_cons, List.mem_map] at ha
          rcases ha with rfl | ⟨_, _, rfl⟩
          · rfl
          · rfl
      · cases ha
    case caller number =>
      cases hf : c.callers.find? (·.number = number)
      case none =>
        refine .keeps fun a ha => ?_
        simp only [actions, hf] at ha
        cases ha
      case some d =>
        cases hc : d.call.isHandshake
        case false => exact handshakeStep_plain hf hc
        case true  => exact handshakeStep_initialize h hf hc

def greetings (c : Client) (m : Move) : Nat :=
  c.session.greetings (c.actions m)

theorem handshake_concluded (h : c.Proper) (hd : d ∈ c.callers) (hw : d.Initializes ticket) {v : Json}
    (ht : c.told? d = some (.ok v)) :
    let m : Move := .turn (.caller d.number)
    (c.greetings m = 1 ∧ c.session.lifecycle.acceptsTraffic ∧
        (c.move m).session.handshake = .complete) ∨
      (c.greetings m = 0 ∧ (c.move m).session.handshake = .acknowledged) := by
  have hf := h.enrolled.find?_eq hd
  have ⟨root, hroot⟩ := Call.exists_of_isHandshake hw.call
  have ho : c.session.pending.outcome? ticket = some (.ok v) := c.told?_of_waiting hw.phase ▸ ht
  have ha : c.actions (.turn (.caller d.number)) = c.session.finishing (.handshake root) (.ok v) := by
    simp only [actions, hf, resuming, hw.phase, ho, hroot]
  simp only [greetings, session_move, ha]
  exact c.session.finishing_handshake root v

-- A caller stays what it is until it is dropped or goes on.
theorem mem_callers_unless (h : c.Enrolled) (hd : d ∈ c.callers) (m : Move) :
    d ∈ (c.move m).callers ∨ (∃ label, m = .input (.abandon label)) ∨
      (m = .turn (.caller d.number) ∧ (d.phase = .fresh ∨ ∃ outcome, c.told? d = some outcome)) := by
  cases m
  case input i =>
    have hi := c.performed i
    generalize c.move (.input i) = c' at hi ⊢
    cases hi
    case sends | calls => exact .inl (List.mem_append_left _ hd)
    case abandons      => exact .inr (.inl ⟨_, rfl⟩)
    case acts | stays  => exact .inl hd
  case turn turn =>
    have ht : Turned { c with turns := c.turns.erase turn } turn (c.move (.turn turn)) := turned _ turn
    generalize c.move (.turn turn) = c' at ht ⊢
    cases ht
    case routes | strange | gone => exact .inl hd
    case resumes number d₀ hf hr =>
      have hn : d₀.number = number := by simpa using List.find?_some hf
      by_cases he : d.number = d₀.number
      case pos =>
        cases List.inj_on_of_nodup_map h.numbers hd (List.mem_of_find?_eq_some hf) he
        cases hr
        case waits hf _ | settles hf _ => exact .inr (.inr ⟨by rw [hn], .inl hf⟩)
        case stays                     => exact .inl hd
        case ends hw ho _              =>
          exact .inr (.inr ⟨by rw [hn], .inr ⟨_, (c.told?_of_waiting hw).trans ho⟩⟩)
      case neg =>
        cases hr
        case waits          => exact .inl (List.mem_map.mpr ⟨d, hd, if_neg he⟩)
        case stays          => exact .inl hd
        case settles | ends => exact .inl (List.mem_filter.mpr ⟨hd, decide_eq_true he⟩)

theorem mem_callers_move (h : c.Enrolled) (hd : d ∈ c.callers) (hp : d.phase = .waiting ticket)
    (m : Move) : d ∈ (c.move m).callers ∨ (∃ label, m = .input (.abandon label)) ∨
      (m = .turn (.caller d.number) ∧ ∃ outcome, c.told? d = some outcome) := by
  refine (mem_callers_unless h hd m).imp_right fun hm => hm.imp_right fun ⟨hm, ht⟩ => ⟨hm, ?_⟩
  refine ht.resolve_left fun hf => ?_
  cases hp.symm.trans hf

inductive Joins (c : Client) (i : Input) (d : Caller) : Prop
  | old (caller : d ∈ c.callers)
  | sent {ticket : Nat} (call : d.call = .response) (phase : d.phase = .waiting ticket)
  | called {label : String} (input : i = .call label d.call) (phase : d.phase = .fresh)

theorem joins {i : Input} (hd : d ∈ (c.move (.input i)).callers) : c.Joins i d := by
  have hi := c.performed i
  generalize c.move (.input i) = c' at hi hd
  cases hi
  case sends =>
    rcases List.mem_append.mp hd with hd | hd
    · exact .old hd
    · cases List.mem_singleton.mp hd
      exact .sent rfl rfl
  case calls =>
    rcases List.mem_append.mp hd with hd | hd
    · exact .old hd
    · cases List.mem_singleton.mp hd
      exact .called rfl rfl
  case abandons     => exact .old (List.mem_of_mem_filter hd)
  case acts | stays => exact .old hd

theorem turn_ne {e : Caller} (hn : e.number ≠ d.number) :
    Turn.caller d.number ≠ .caller e.number :=
  fun ht => hn (Turn.caller.inj ht).symm

inductive Remains (c : Client) (t : Turn) (d : Caller) : Prop
  | other (caller : d ∈ c.callers) (turn : t ≠ .caller d.number)
  | still {ticket : Nat} (caller : d ∈ c.callers) (phase : d.phase = .waiting ticket)
      (told : c.session.pending.outcome? ticket = none)
  | begun {d₀ : Caller} {ticket : Nat} (caller : d₀ ∈ c.callers) (phase : d₀.phase = .fresh)
      (turn : t = .caller d₀.number)
      (begun : c.session.begin d₀.call = (.waiting ticket, (c.move (.turn t)).session))
      (eq : d = { d₀ with phase := .waiting ticket })

theorem Enrolled.remains {t : Turn} (h : c.Enrolled) (hd : d ∈ (c.move (.turn t)).callers) :
    c.Remains t d := by
  have ht : Turned { c with turns := c.turns.erase t } t (c.move (.turn t)) := Client.turned _ t
  generalize hm : c.move (.turn t) = c' at ht hd
  cases ht
  case routes | strange => exact .other hd nofun
  case gone hf =>
    refine .other hd fun hn => ?_
    cases hn
    cases (h.find?_eq hd).symm.trans hf
  case resumes number d₀ hf hr =>
    have hd₀ := List.mem_of_find?_eq_some hf
    have hn : d₀.number = number := by simpa using List.find?_some hf
    subst hn
    cases hr
    case waits hp hb =>
      have ⟨e, he, hee⟩ := List.mem_map.mp hd
      split at hee
      case isTrue hn =>
        cases List.inj_on_of_nodup_map h.numbers he hd₀ hn
        exact .begun hd₀ hp rfl (hm ▸ hb) hee.symm
      case isFalse hn => exact .other (hee ▸ he) (turn_ne (hee ▸ hn))
    case settles | ends =>
      have ⟨hd, hn⟩ := List.mem_filter.mp hd
      exact .other hd (turn_ne (of_decide_eq_true hn))
    case stays hw ho =>
      by_cases hn : d.number = d₀.number
      case pos =>
        cases List.inj_on_of_nodup_map h.numbers hd hd₀ hn
        exact .still hd hw ho
      case neg => exact .other hd (turn_ne hn)

theorem not_mem_callers_turn (h : c.Enrolled) (hd : d ∈ c.callers) {outcome : Except Failure Json}
    (ht : c.told? d = some outcome) : d ∉ (c.move (.turn (.caller d.number))).callers := by
  intro hd'
  cases h.remains hd'
  case other hn    => exact hn rfl
  case still hp ho => cases ho.symm.trans ((c.told?_of_waiting hp).symm.trans ht)
  case begun d₀ ticket hd₀ hp _ _ he =>
    cases List.inj_on_of_nodup_map h.numbers hd hd₀ (congrArg (·.number) he)
    rw [told?, hp] at ht
    cases ht

structure TakesUp (c : Client) (m : Move) (d : Caller) : Prop where
  turn   : m = .turn (.caller d.number)
  fresh  : c.Fresh m
  before : c.session.handshake = .notStarted
  after  : (c.move m).session.handshake = .awaitingResponse

-- Who waits for the answer to `initialize` after a move has waited before, or begins to wait in it.
theorem initializes_move (h : c.Proper) (hd : d ∈ (c.move m).callers) (hw : d.Initializes ticket) :
    d ∈ c.callers ∨ c.TakesUp m d := by
  cases m
  case input i =>
    cases joins hd
    case old hd      => exact .inl hd
    case sent hc _   => cases hc ▸ hw.call
    case called _ hp => cases hw.phase.symm.trans hp
  case turn t =>
    cases h.enrolled.remains hd
    case other hd _ | still hd _ _ => exact .inl hd
    case begun d₀ ticket₀ hd₀ hp ht hb he =>
      subst he ht
      have ⟨root, hroot⟩ := Call.exists_of_isHandshake hw.call
      have ⟨hs, hs'⟩ := Session.begin_handshake_waiting h.numbered (hroot ▸ hb)
      exact .inr ⟨rfl, ⟨d₀, hd₀, rfl, hp⟩, hs, hs'⟩

end Client
end LanguageClient
