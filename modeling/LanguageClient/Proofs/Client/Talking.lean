import LanguageClient.Proofs.Client.Arrivals
import LanguageClient.Proofs.Client.Teardown
import LanguageClient.Proofs.MockServer.Sayings
import LanguageClient.Proofs.Session.Talking

namespace LanguageClient

open Protocol

variable {d : Caller} {e : Event} {s : Saying} {as : List Action} {n : Nat}

def Caller.utters (issued : Nat) (d : Caller) : List Saying :=
  match d.phase, d.call with
  | .fresh, .completion path line character => [.asked issued path line character]
  | _, _ => []

def Call.IsCompletion (call : Call) : Prop :=
  ∃ path line character, call = .completion path line character

namespace Session

variable {s : Session}

theorem delivered_quietly {es : List Event} (h : ∀ e ∈ es, e.question? = none) :
    (s.actAll (es.map .deliver)).transport = s.transport ∧
      (s.actAll (es.map .deliver)).issued = s.issued := by
  have hd : s.actAll (es.map .deliver) = es.foldl handle s := List.foldl_map
  have hr : s.refusals es = [] := by
    rw [refusals, List.filterMap_eq_nil_iff.mpr h, List.map_nil, ite_self]
  obtain ⟨notices, hs⟩ := s.foldl_handle_eq es
  rw [hd, hs, handled, hr, List.append_nil]
  exact ⟨rfl, rfl⟩

end Session

namespace Client

variable {c : Client} {m : Move} {ms ms₁ ms₂ : List Move}

inductive Talks : Move → Prop
  | opens {path text language : String} : Talks (.input (.didOpen path text language))
  | changes {path text : String} {version : Int} : Talks (.input (.didChange path text version))
  | calls {label : String} {call : Call} (completion : call.IsCompletion) : Talks (.input (.call label call))
  | hears {e : Event} (calm : e.question? = none) : Talks (.input (.emit e))
  | turns {t : Turn} : Talks (.turn t)

structure Talking (c : Client) : Prop where
  proper  : c.Proper
  accepts : c.session.lifecycle.acceptsTraffic
  willing : c.session.transport.sendRefusal? = none
  listens : c.session.Listens
  calm    : ∀ e ∈ c.session.inbox, e.question? = none
  callers : ∀ d ∈ c.callers, d.call.IsCompletion

def utters (c : Client) : Move → List Saying
  | .input (.didOpen path text language) => [.opened path text language]
  | .input (.didChange path text version) => [.changed path text version]
  | .turn (.caller number) =>
    match c.callers.find? (·.number = number) with
    | some d => d.utters c.session.issued
    | none => []
  | _ => []

def said (c : Client) : List Move → List Saying
  | [] => []
  | m :: ms => c.utters m ++ (c.move m).said ms

inductive Speaks (c : Client) : Move → List Action → List Saying → Prop
  | opens {path text language : String} : Speaks c (.input (.didOpen path text language))
      [.sendNotification "textDocument/didOpen" (didOpenParams path text language)]
      [.opened path text language]
  | changes {path text : String} {version : Int} : Speaks c (.input (.didChange path text version))
      [.sendNotification "textDocument/didChange" (didChangeParams path text version)]
      [.changed path text version]
  | calls {label : String} {call : Call} : Speaks c (.input (.call label call)) [] []
  | hears {e : Event} (calm : e.question? = none) : Speaks c (.input (.emit e)) [.emit e] []
  | routes {r : Router} (router : c.session.wiring.router? = some r) :
      Speaks c (.turn (.router r.channel)) (.take :: r.inbox.map .deliver) []
  | asks {d : Caller} {path : String} {line character : Nat} (caller : d ∈ c.callers)
      (phase : d.phase = .fresh) (call : d.call = .completion path line character) :
      Speaks c (.turn (.caller d.number))
        [.send "textDocument/completion" (completionParams path line character)]
        [.asked c.session.issued path line character]
  | stays {t : Turn} : Speaks c (.turn t) [] []

theorem Talking.speaks (h : c.Talking) (hm : Talks m) : c.Speaks m (c.actions m) (c.utters m) := by
  cases hm
  case opens      => exact .opens
  case changes    => exact .changes
  case calls      => exact .calls
  case hears calm => exact .hears calm
  case turns t    =>
    cases t
    case router channel =>
      simp only [actions, utters]
      split
      case isTrue hc =>
        obtain ⟨r, hr, rfl⟩ := Option.map_eq_some_iff.mp hc
        rw [Session.routing, hr]
        exact .routes hr
      case isFalse => exact .stays
    case caller number =>
      simp only [actions, utters]
      cases hf : c.callers.find? (·.number = number)
      case none   => exact .stays
      case some d =>
        have hd := List.mem_of_find?_eq_some hf
        have hn : d.number = number := by simpa using List.find?_some hf
        obtain ⟨path, line, character, hc⟩ := h.callers d hd
        subst hn
        cases hp : d.phase
        case fresh =>
          obtain ⟨_, hs⟩ := Session.send_accepted h.accepts h.willing "textDocument/completion"
            (completionParams path line character)
          simp only [resuming, hp, hc, Session.beginning, Session.asking, hs, Caller.utters]
          exact .asks hd hp hc
        case waiting ticket =>
          simp only [resuming, hp, hc, Caller.utters]
          cases c.session.pending.outcome? ticket
          all_goals exact .stays

theorem Speaks.isTalk {ss : List Saying} (h : c.Speaks m as ss) : ∀ a ∈ as, a.isTalk := by
  cases h
  case routes => simp [Action.isTalk]
  all_goals simp [Action.isTalk]

theorem Speaks.sent {ss : List Saying} (h : c.Speaks m as ss) (ht : c.Talking) :
    (c.session.actAll as).transport.sent = c.session.transport.sent ++ ss.map (·.message.encode) := by
  cases h
  case opens path text language =>
    have ha : c.session.Admits "textDocument/didOpen" :=
      ⟨ht.accepts, ht.willing, fun h => absurd h (by decide)⟩
    have hs := Session.sendNotification_admitted ha (didOpenParams path text language)
    simp only [Session.actAll_cons, Session.actAll_nil, Session.act, hs]
    rfl
  case changes path text version =>
    have ha : c.session.Admits "textDocument/didChange" :=
      ⟨ht.accepts, ht.willing, fun h => absurd h (by decide)⟩
    have hs := Session.sendNotification_admitted ha (didChangeParams path text version)
    simp only [Session.actAll_cons, Session.actAll_nil, Session.act, hs]
    rfl
  case routes r hr =>
    have hi : c.session.inbox = r.inbox := by simp [Session.inbox, hr]
    have hq := (Session.delivered_quietly (s := c.session.take) (hi ▸ ht.calm)).left
    rw [Session.actAll_cons, Session.act, hq, List.map_nil, List.append_nil]
    rfl
  case asks d path line character _ _ _ =>
    obtain ⟨_, hs⟩ := Session.send_accepted ht.accepts ht.willing "textDocument/completion"
      (completionParams path line character)
    simp only [Session.actAll_cons, Session.actAll_nil, Session.act, hs]
    rfl
  all_goals simp [Session.act, Session.emit]

theorem Speaks.numbers {ss : List Saying} (h : c.Speaks m as ss) (ht : c.Talking) :
    ∃ k, ss.filterMap (·.number?) = List.range' c.session.issued k ∧
      (c.session.actAll as).issued = c.session.issued + k := by
  cases h
  case routes r hr =>
    have hi : c.session.inbox = r.inbox := by simp [Session.inbox, hr]
    exact ⟨0, rfl, (Session.delivered_quietly (s := c.session.take) (hi ▸ ht.calm)).right⟩
  case asks d path line character _ _ _ =>
    obtain ⟨_, hs⟩ := Session.send_accepted ht.accepts ht.willing "textDocument/completion"
      (completionParams path line character)
    refine ⟨1, rfl, ?_⟩
    simp only [Session.actAll_cons, Session.actAll_nil, Session.act, hs]
  all_goals exact ⟨0, rfl, by simp [Session.issued_act, Action.operations]⟩

theorem Speaks.of_emitted {ss : List Saying} (h : c.Speaks m as ss) (he : e ∈ as.flatMap (·.emitted)) :
    m = .input (.emit e) ∧ e.question? = none := by
  cases h
  case hears calm =>
    cases List.mem_singleton.mp he
    exact ⟨rfl, calm⟩
  case routes => simp [List.flatMap_map, Action.emitted] at he
  all_goals cases he

theorem of_mem_callers_turn {t : Turn} (hd : d ∈ (c.move (.turn t)).callers) :
    ∃ d₀ ∈ c.callers, d.number = d₀.number ∧ d.label = d₀.label ∧ d.call = d₀.call := by
  have ht := turned { c with turns := c.turns.erase t } t
  change Turned _ _ (c.move (.turn t)) at ht
  generalize c.move (.turn t) = c' at ht hd
  cases ht
  case resumes hf hr =>
    cases hr
    case waits =>
      obtain ⟨d₀, hd₀, rfl⟩ := List.mem_map.mp hd
      refine ⟨d₀, hd₀, ?_⟩
      split <;> simp
    case stays => exact ⟨d, hd, rfl, rfl, rfl⟩
    all_goals exact ⟨d, (List.mem_filter.mp hd).left, rfl, rfl, rfl⟩
  all_goals exact ⟨d, hd, rfl, rfl, rfl⟩

theorem Talking.callers_move (h : c.Talking) (hm : Talks m) :
    ∀ d ∈ (c.move m).callers, d.call.IsCompletion := by
  intro d hd
  cases hm
  case calls completion =>
    obtain hd | hd := List.mem_append.mp hd
    · exact h.callers d hd
    · cases List.mem_singleton.mp hd
      exact completion
  case turns =>
    obtain ⟨d₀, hd₀, -, -, hc⟩ := of_mem_callers_turn hd
    exact hc ▸ h.callers d₀ hd₀
  all_goals exact h.callers d hd

theorem Talking.move (h : c.Talking) (hm : Talks m) : (c.move m).Talking := by
  have hs := h.speaks hm
  have hg := Session.gate_actAll (s := c.session) hs.isTalk
  rw [← session_move] at hg
  have hq : ∀ a ∈ c.actions m, a.isQuiet := fun a ha => Session.isQuiet_of_isTalk (hs.isTalk a ha)
  obtain ⟨first, channel, hw⟩ := h.listens
  refine ⟨h.proper.move m, ?_, ?_, ?_, ?_, ?_⟩
  · exact congrArg (·.lifecycle.acceptsTraffic) hg |>.trans h.accepts
  · exact congrArg (·.sendRefusal?) hg |>.trans h.willing
  · rw [session_move]
    exact ⟨first, channel, (hw.actAll h.proper.orderly.open_ hq).left⟩
  · intro e he
    have hi := handled_inbox_move hw h.proper.orderly.open_ hq
    have he : e ∈ c.session.inbox ++ (c.actions m).flatMap (·.emitted) :=
      hi ▸ List.mem_append_right _ he
    obtain he | he := List.mem_append.mp he
    · exact h.calm e he
    · exact (hs.of_emitted he).right
  · exact h.callers_move hm

theorem Talking.after (h : c.Talking) (hm : ∀ m ∈ ms, Talks m) : (c.after ms).Talking := by
  induction ms generalizing c
  case nil          => exact h
  case cons m ms hi =>
    have ⟨hm, hms⟩ := List.forall_mem_cons.mp hm
    exact hi (h.move hm) hms

theorem said_append (c : Client) (ms₁ ms₂ : List Move) :
    c.said (ms₁ ++ ms₂) = c.said ms₁ ++ (c.after ms₁).said ms₂ := by
  induction ms₁ generalizing c
  case nil           => rfl
  case cons m ms₁ hi => rw [List.cons_append, said, hi, said, List.append_assoc, after_cons]

namespace Talking

theorem trace_isTalk (h : c.Talking) (hm : ∀ m ∈ ms, Talks m) : ∀ a ∈ c.trace ms, a.isTalk := by
  induction ms generalizing c
  case nil          => exact nofun
  case cons m ms hi =>
    have ⟨hm, hms⟩ := List.forall_mem_cons.mp hm
    exact List.forall_mem_append.mpr ⟨(h.speaks hm).isTalk, hi (h.move hm) hms⟩

theorem sent_after (h : c.Talking) (hm : ∀ m ∈ ms, Talks m) : (c.after ms).session.transport.sent =
    c.session.transport.sent ++ (c.said ms).map (·.message.encode) := by
  induction ms generalizing c
  case nil          => exact (List.append_nil _).symm
  case cons m ms hi =>
    have ⟨hm, hms⟩ := List.forall_mem_cons.mp hm
    have hs := (h.speaks hm).sent h
    rw [← session_move] at hs
    rw [after_cons, hi (h.move hm) hms, hs, said, List.map_append, List.append_assoc]

theorem numbers_after (h : c.Talking) (hm : ∀ m ∈ ms, Talks m) : ∃ k,
    (c.said ms).filterMap (·.number?) = List.range' c.session.issued k ∧
      (c.after ms).session.issued = c.session.issued + k := by
  induction ms generalizing c
  case nil          => exact ⟨0, rfl, rfl⟩
  case cons m ms hi =>
    have ⟨hm, hms⟩ := List.forall_mem_cons.mp hm
    obtain ⟨k, hk, hn⟩ := (h.speaks hm).numbers h
    rw [← session_move] at hn
    obtain ⟨k', hk', hn'⟩ := hi (h.move hm) hms
    refine ⟨k + k', ?_, ?_⟩
    · rw [said, List.filterMap_append, hk, hk', hn, List.range'_append_1]
    · rw [after_cons, hn', hn, Nat.add_assoc]

end Talking

end Client
end LanguageClient
