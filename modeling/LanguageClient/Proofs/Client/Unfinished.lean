import LanguageClient.Proofs.Client.Handshake

namespace LanguageClient

variable {d : Caller} {ticket : Nat}

theorem Session.finishing_writes (s : Session) (root : String) (r : Except Failure Json) :
    ∃ a ∈ s.finishing (.handshake root) r, a.handshake? ≠ none := by
  cases r
  case error => exact ⟨_, List.mem_singleton_self _, by simp [Action.handshake?]⟩
  case ok =>
    rw [finishing]
    split
    · exact ⟨_, List.mem_cons_self, by simp [Action.handshake?]⟩
    · exact ⟨_, List.mem_cons_self, by simp [Action.handshake?]⟩

namespace Client

variable {c : Client} {m : Move} {ms : List Move}

def Untouched (c : Client) (ms : List Move) : Prop :=
  ∀ a ∈ c.trace ms, a.handshake? = none

theorem Untouched.handshake_eq (h : c.Untouched ms) :
    (c.after ms).session.handshake = c.session.handshake := by
  rw [session_after]
  exact Session.handshake_actAll h

theorem Untouched.append (h : c.Untouched ms) (hm : ∀ a ∈ (c.after ms).actions m, a.handshake? = none) :
    c.Untouched (ms ++ [m]) := by
  rw [Untouched, trace_append]
  refine List.forall_mem_append.mpr ⟨h, ?_⟩
  rwa [trace, trace, List.append_nil]

-- A caller of `initialize` was dropped while it waited, and the handshake has not been written since.
inductive Forsaken (c : Client) (ms : List Move) : Prop
  | intro {ms₁ ms₂ : List Move} {label : String} {d : Caller} {ticket : Nat}
      (run : ms = ms₁ ++ .input (.abandon label) :: ms₂)
      (caller : d ∈ (c.after ms₁).callers) (waits : d.Initializes ticket)
      (dropped : d ∉ ((c.after ms₁).move (.input (.abandon label))).callers)
      (awaiting : (c.after ms₁).session.handshake = .awaitingResponse)
      (untouched : ((c.after ms₁).move (.input (.abandon label))).Untouched ms₂) :
      Forsaken c ms

-- A call to `initialize` was answered and could not send `initialized`, and the handshake has not been
-- written since.
inductive Unheard (c : Client) (ms : List Move) : Prop
  | intro {ms₁ ms₂ : List Move} {d : Caller} {ticket : Nat} {v : Json}
      (run : ms = ms₁ ++ .turn (.caller d.number) :: ms₂)
      (caller : d ∈ (c.after ms₁).callers) (waits : d.Initializes ticket)
      (answered : (c.after ms₁).told? d = some (.ok v))
      (refused : (c.after ms₁).greetings (.turn (.caller d.number)) = 0)
      (untouched : ((c.after ms₁).move (.turn (.caller d.number))).Untouched ms₂) :
      Unheard c ms

theorem Forsaken.append (h : c.Forsaken ms) (hm : ∀ a ∈ (c.after ms).actions m, a.handshake? = none) :
    c.Forsaken (ms ++ [m]) := by
  obtain ⟨run, caller, waits, dropped, awaiting, untouched⟩ := h
  rw [run, after_append, after_cons] at hm
  exact ⟨by rw [run, List.append_assoc]; rfl, caller, waits, dropped, awaiting, untouched.append hm⟩

theorem Unheard.append (h : c.Unheard ms) (hm : ∀ a ∈ (c.after ms).actions m, a.handshake? = none) :
    c.Unheard (ms ++ [m]) := by
  obtain ⟨run, caller, waits, answered, refused, untouched⟩ := h
  rw [run, after_append, after_cons] at hm
  exact ⟨by rw [run, List.append_assoc]; rfl, caller, waits, answered, refused, untouched.append hm⟩

-- While an answer is awaited some call to `initialize` waits for it, unless it was dropped. The
-- induction is on the moves: the last one that writes the handshake decides.
theorem forsaken_of_awaiting (h : (idle.after ms).session.handshake = .awaitingResponse) :
    (∃ d ∈ (idle.after ms).callers, ∃ ticket, d.Initializes ticket) ∨ idle.Forsaken ms := by
  induction ms using List.reverseRecOn
  case nil => cases h
  case append_singleton ms m hi =>
    rw [after_append, after_cons, after_nil] at h ⊢
    have hp := idle_proper.after ms
    cases hp.handshakeStep m
    case keeps kept =>
      have hs : (idle.after ms).session.handshake = .awaitingResponse := by
        rwa [handshake_kept kept] at h
      rcases hi hs with ⟨d, hd, ticket, hw⟩ | hf
      · rcases mem_callers_move hp.enrolled hd hw.phase m with hd' | ⟨label, hm⟩ | ⟨hm, outcome, ht⟩
        · exact .inl ⟨d, hd', ticket, hw⟩
        · subst hm
          by_cases hd' : d ∈ ((idle.after ms).move (.input (.abandon label))).callers
          case pos => exact .inl ⟨d, hd', ticket, hw⟩
          case neg => exact .inr ⟨rfl, hd, hw, hd', hs, nofun⟩
        -- It has been told something and goes on. But that would have written the handshake.
        · have ⟨root, hroot⟩ := Call.exists_of_isHandshake hw.call
          have ⟨a, ha, hn⟩ := (idle.after ms).session.finishing_writes root outcome
          have ho := (told?_of_waiting _ hw.phase).symm.trans ht
          subst hm
          refine absurd (kept a ?_) hn
          simpa only [actions, hp.enrolled.find?_eq hd, resuming, hw.phase, ho, hroot] using ha
      · exact .inr (hf.append kept)
    case starts => rw [handshake_start] at h; cases h
    case stops hs => rw [hs] at h; cases h
    case begins waits _ caller _ => exact .inl ⟨_, caller, _, waits⟩
    case declines hs => rw [hs] at h; cases h
    case fails hs => rw [hs] at h; cases h
    case concludes hd hw _ ht =>
      rcases handshake_concluded hp hd hw ht with ⟨_, _, hs⟩ | ⟨_, hs⟩
      · rw [hs] at h; cases h
      · rw [hs] at h; cases h

theorem unheard_of_acknowledged (hc : c.Proper) (hn : c.session.handshake ≠ .acknowledged)
    (h : (c.after ms).session.handshake = .acknowledged) : c.Unheard ms := by
  induction ms using List.reverseRecOn
  case nil => exact absurd h hn
  case append_singleton ms m hi =>
    rw [after_append, after_cons, after_nil] at h
    have hp := hc.after ms
    cases hp.handshakeStep m
    case keeps kept =>
      rw [handshake_kept kept] at h
      exact (hi h).append kept
    case starts => rw [handshake_start] at h; cases h
    case stops hs => rw [hs] at h; cases h
    case begins hs => rw [hs] at h; cases h
    case declines hs => rw [hs] at h; cases h
    case fails hs => rw [hs] at h; cases h
    case concludes hd hw _ ht =>
      rcases handshake_concluded hp hd hw ht with ⟨_, _, hs⟩ | ⟨hg, _⟩
      · rw [hs] at h; cases h
      · exact ⟨rfl, hd, hw, ht, hg, nofun⟩

theorem Forsaken.awaiting_after (h : c.Forsaken ms) :
    (c.after ms).session.handshake = .awaitingResponse := by
  obtain ⟨run, _, _, _, awaiting, untouched⟩ := h
  rw [run, after_append, after_cons, untouched.handshake_eq, session_move]
  exact awaiting

theorem Unheard.acknowledged_after (h : c.Unheard ms) (hc : c.Proper) :
    (c.after ms).session.handshake = .acknowledged := by
  obtain ⟨run, hd, hw, ht, hg, untouched⟩ := h
  rw [run, after_append, after_cons, untouched.handshake_eq]
  rcases handshake_concluded (hc.after _) hd hw ht with ⟨hg', _⟩ | ⟨_, hs⟩
  · cases hg.symm.trans hg'
  · exact hs

theorem handshake_settled_iff (ms : List Move)
    (hw : ∀ d ∈ (idle.after ms).callers, ∀ ticket, ¬ d.Initializes ticket) :
    ((idle.after ms).session.handshake = .notStarted ∨
        (idle.after ms).session.handshake = .complete) ↔
      ¬ idle.Forsaken ms ∧ ¬ idle.Unheard ms := by
  constructor
  case mp =>
    intro h
    constructor
    case left =>
      intro hf
      rw [hf.awaiting_after] at h
      simp at h
    case right =>
      intro hu
      rw [hu.acknowledged_after idle_proper] at h
      simp at h
  case mpr =>
    intro ⟨hf, hu⟩
    match hs : (idle.after ms).session.handshake with
    | .notStarted => exact .inl rfl
    | .complete => exact .inr rfl
    | .acknowledged => exact absurd (unheard_of_acknowledged idle_proper nofun hs) hu
    | .awaitingResponse =>
      rcases forsaken_of_awaiting hs with ⟨d, hd, ticket, hi⟩ | h
      · exact absurd hi (hw d hd ticket)
      · exact absurd h hf

theorem handshake_settled_of_cancel :
    let ms : List Move :=
      [.input (.start "server" []), .input (.call "hello" (.handshake "/w")), .turn (.caller 0),
        .input (.cancel 0), .turn (.caller 0)]
    (idle.after ms).callers = [] ∧ ¬ idle.Forsaken ms ∧ ¬ idle.Unheard ms :=
  ⟨rfl, (handshake_settled_iff _ fun _ hd => nomatch (hd : _ ∈ [])).mp (.inl rfl)⟩

-- A call to `initialize` that is dropped, and one that cannot send `initialized`, leave the
-- handshake wedged: no call to `initialize` is there, and the next one is refused.
theorem handshake_wedged :
    let greeting := Input.call "hello" (.handshake "/w")
    let dropped := idle.run [.start "server" [], greeting, .abandon "hello"]
    let refused := idle.run [.start "server" [], greeting, .refuseSends true,
      .emit ⟨.message, "\x7b\"id\":0,\"result\":null\x7d"⟩, .refuseSends false]
    (dropped.callers = [] ∧ dropped.turns = [] ∧
        dropped.session.handshake = .awaitingResponse) ∧
      (refused.callers = [] ∧ refused.turns = [] ∧ refused.session.handshake = .acknowledged) :=
  ⟨⟨rfl, rfl, rfl⟩, ⟨rfl, rfl, rfl⟩⟩

end Client
end LanguageClient
