import LanguageClient.Proofs.Client.Rest
import LanguageClient.Proofs.Session.Sending

namespace LanguageClient

namespace Session

variable {s : Session} {method : String} {params : Json}

theorem ask_hindered (hn : s.Numbered) {call : Call} {f : Failure} (h : s.hindrance? = some f)
    (hf : ∀ t : Session, t.finish call (.error f) = (.error f, t)) :
    ∃ t, s.ask call method params = (.over (.error f), t) ∧ s.Untraced t := by
  have ⟨t, ht, hu⟩ := send_hindered hn h method params
  exact ⟨t, by simp [ask, ht, hf], hu⟩

theorem ask_unhindered (hn : s.Numbered) {call : Call} (h : s.hindrance? = none) :
    ∃ t, s.ask call method params = (.waiting s.issued, t) ∧ s.Asking t method params := by
  have ⟨t, ht, hu⟩ := send_unhindered hn h method params
  exact ⟨t, by simp [ask, ht], hu⟩

theorem begin_hindered (hn : s.Numbered) {call : Call} {f : Failure}
    (hc : call.asks? = some (method, params)) (hs : call ≠ .shutdown)
    (hh : call.isHandshake → s.handshake = .notStarted) (h : s.hindrance? = some f) :
    ∃ t, s.begin call = (.over (.error f), t) ∧ s.Untraced t := by
  cases call
  case response => cases hc
  case shutdown => exact absurd rfl hs
  case request | completion =>
    simp only [Session.begin]
    exact ask_hindered hn h fun _ => rfl
  case handshake root =>
    have hh := hh rfl
    have hn : Numbered { s with handshake := .awaitingResponse } :=
      hn.act (.handshake .awaitingResponse)
    obtain ⟨t, ht, _, _, _, hx, hu⟩ :=
      send_hindered hn h "initialize" (Protocol.initializeParams root)
    refine ⟨{ t with handshake := .notStarted }, ?_, _, _, _, hx, by rw [hu, ← hh]⟩
    simp [Session.begin, hh, ask, ht, finish]

theorem begin_unhindered (hn : s.Numbered) {call : Call}
    (hc : call.asks? = some (method, params))
    (hh : call.isHandshake → s.handshake = .notStarted) (h : s.hindrance? = none) :
    ∃ t, s.begin call = (.waiting s.issued, t) ∧ s.Asking t method params := by
  cases call
  case response => cases hc
  case handshake root =>
    cases hc
    have hn : Numbered { s with handshake := .awaitingResponse } :=
      hn.act (.handshake .awaitingResponse)
    have ⟨t, ht, _, _, hu⟩ := send_unhindered hn h "initialize" (Protocol.initializeParams root)
    exact ⟨t, by simp [Session.begin, hh rfl, ask, ht], _, _, hu⟩
  all_goals
    cases hc
    simp only [Session.begin]
    exact ask_unhindered hn h

end Session

def Client.Move.isTurnOf : Client.Move → Caller → Bool
  | .turn (.caller number), d => d.number = number
  | _, _ => false

namespace Client

variable {c : Client} {m : Move} {d : Caller} {method : String} {params : Json} {f : Failure}
  {s : Session}

-- A move that tries to send a request. A call for the handshake tries only if none is under way; a
-- shutdown, which ends the session if it cannot ask for it, is left out.
inductive Attempt (c : Client) (method : String) (params : Json) : Move → Prop
  | send {label : String} : Attempt c method params (.input (.send label method params))
  | call {d : Caller} (caller : d ∈ c.callers) (phase : d.phase = .fresh)
      (asks : d.call.asks? = some (method, params)) (stays : d.call ≠ .shutdown)
      (first : d.call.isHandshake → c.session.handshake = .notStarted) :
      Attempt c method params (.turn (.caller d.number))

-- An attempt that fails: the one who tries is told why, and that is all.
structure Fails (c : Client) (m : Move) (f : Failure) : Prop where
  reply    : ∀ i, m = .input i → (c.perform i).1 = .error f
  finished : (c.move m).finished =
    c.finished ++ (c.callers.filter m.isTurnOf).map fun d => (d.label, .error f)
  callers  : (c.move m).callers = c.callers.filter fun d => !m.isTurnOf d
  turns    : (c.move m).turns ⊆ c.turns
  entries  : (c.move m).session.pending.entries = c.session.pending.entries
  timers   : (c.move m).session.pending.timers = c.session.pending.timers
  now      : (c.move m).session.pending.now = c.session.pending.now
  sent     : (c.move m).session.transport.sent = c.session.transport.sent
  untraced : c.session.Untraced (c.move m).session
  later    : ∀ as, (c.session.actAll as).pending.Agree c.session.issued
    ((c.move m).session.actAll as).pending
  told     : ∀ as, ∀ ticket < c.session.issued,
    ((c.move m).session.actAll as).pending.outcome? ticket =
      (c.session.actAll as).pending.outcome? ticket

-- An attempt that succeeds: one caller waits for one request more, and the others as before.
structure Succeeds (c : Client) (m : Move) (method : String) (params : Json) : Prop where
  reply     : ∀ i, m = .input i →
    (c.perform i).1 = .ok (handleJson ⟨c.session.issued, c.session.issued, method⟩)
  waits     : ∃ d ∈ (c.move m).callers, d.phase = .waiting c.session.issued
  finished  : (c.move m).finished = c.finished
  entries   : (c.move m).session.pending.entries = c.session.pending.entries ++
    [⟨c.session.issued, c.session.issued, method, c.session.issued, c.session.issued,
      c.session.pending.now + Session.requestTimeout⟩]
  timers    : (c.move m).session.pending.timers = c.session.pending.timers ++
    [⟨c.session.issued, c.session.issued, c.session.pending.now + Session.requestTimeout⟩]
  now       : (c.move m).session.pending.now = c.session.pending.now
  completed : (c.move m).session.pending.completed = c.session.pending.completed
  sent      : (c.move m).session.transport.sent =
    c.session.transport.sent ++ [Session.requestFrame c.session.issued method params]

namespace Fails

theorem of_untraced (h : c.Proper) (hu : c.session.Untraced (c.move m).session)
    (hr : ∀ i, m = .input i → (c.perform i).1 = .error f)
    (hf : (c.move m).finished =
      c.finished ++ (c.callers.filter m.isTurnOf).map fun d => (d.label, .error f))
    (hc : (c.move m).callers = c.callers.filter fun d => !m.isTurnOf d)
    (ht : (c.move m).turns ⊆ c.turns) : c.Fails m f := by
  have hn : (c.move m).session.Numbered := (h.move m).numbered
  have ha : c.session.Agree c.session.issued (c.move m).session := by
    obtain ⟨issued, completed, notices, hx, hu⟩ := hu
    have hi : c.session.issued ≤ issued := by
      have hi := c.session.issued_le_actAll (c.actions m)
      rwa [← session_move, hu, h.numbered.issued] at hi
    -- All that has been completed since has the ticket that nobody holds.
    have hnone : completed.filter (·.entry.ticket < c.session.issued) = [] :=
      List.filter_eq_nil_iff.mpr fun x hm => by simp [hx x hm]
    rw [hu] at hn ⊢
    refine ⟨⟨h.numbered, hn⟩, ⟨Nat.le_refl _, hi⟩, rfl, rfl, rfl, rfl, ?_⟩
    rw [List.filter_append, hnone, List.append_nil]
  have hl := fun as => (ha.actAll as).pending
  refine ⟨hr, hf, hc, ht, ?_, ?_, ?_, ?_, hu, hl, fun as _ ht => ((hl as).outcome?_eq ht).symm⟩
  all_goals
    obtain ⟨_, _, _, _, hu⟩ := hu
    rw [hu]

end Fails

theorem turns_withSession {c' : Client} (h : c.Proper) (hu : c.session.Untraced s) (hs : s.Numbered)
    (hc : c'.callers ⊆ c.callers) (he : c'.session = c.session) :
    (c'.withSession s).turns = c'.turns := by
  obtain ⟨issued, completed, notices, hx, hu⟩ := hu
  have hhushed : c.session.Hushed s := fun r hr => ⟨r, by rwa [hu] at hr, rfl, fun _ => id⟩
  have hext : c.session.pending.completed <+: s.pending.completed := by
    rw [hu]
    exact List.prefix_append _ _
  have hnone : callerTurns c'.callers c.session s = [] := by
    refine List.eq_nil_iff_forall_not_mem.mpr fun turn hturn => ?_
    obtain ⟨d, hd, ticket, _, hp, ho, ho'⟩ := of_mem_callerTurns hs.sound hext hturn
    have hlt : ticket < c.session.pending.issued := h.enrolled.given d (hc hd) ticket hp
    have ⟨outcome, ho'⟩ := Option.isSome_iff_exists.mp ho'
    have ⟨x, hm, hxt, _⟩ := Pending.exists_completed ho'
    rw [hu] at hm
    -- Either this was told before, or the ticket had not been given out.
    rcases List.mem_append.mp hm with hm | hm
    · have hm := h.numbered.sound.outcome?_of_completed hm
      rw [hxt, ho] at hm
      cases hm
    · rw [← hxt, hx x hm, h.numbered.issued] at hlt
      exact absurd hlt (Nat.lt_irrefl _)
  rw [withSession, he, routerTurn_hushed hhushed, hnone]
  rfl

theorem fails_send (h : c.Proper) (hf : c.session.hindrance? = some f) (label : String) :
    c.Fails (.input (.send label method params)) f := by
  have ⟨t, ht, hu⟩ := Session.send_hindered h.numbered hf method params
  have hp : c.perform (.send label method params) = (.error f, c.withSession t) := by
    simp [perform, ht]
  have hm : c.move (.input (.send label method params)) = c.withSession t := by
    rw [move, hp]
  have hn : t.Numbered := by
    have hn := (h.move (.input (.send label method params))).numbered
    rwa [hm] at hn
  refine .of_untraced h (by rwa [hm]) ?_ ?_ ?_ ?_
  · intro i hi
    cases hi
    rw [hp]
  · simp [hm, withSession, Move.isTurnOf]
  · simp [hm, withSession, Move.isTurnOf]
  · rw [hm, turns_withSession h hu hn (fun _ => id) rfl]
    exact fun _ => id

theorem fails_call (h : c.Proper) (hf : c.session.hindrance? = some f) (hd : d ∈ c.callers)
    (hp : d.phase = .fresh) (hc : d.call.asks? = some (method, params)) (hs : d.call ≠ .shutdown)
    (hh : d.call.isHandshake → c.session.handshake = .notStarted) :
    c.Fails (.turn (.caller d.number)) f := by
  obtain ⟨t, ht, hu⟩ := Session.begin_hindered h.numbered hc hs hh hf
  let rested : Client := { c with turns := c.turns.erase (.caller d.number) }
  have hm : c.move (.turn (.caller d.number)) = (rested.report d (.error f)).withSession t := by
    simp only [move, turn, h.enrolled.find?_eq hd, resume, hp, ht]
    rfl
  have hn : t.Numbered := by
    have hn := (h.move (.turn (.caller d.number))).numbered
    rwa [hm] at hn
  have hone : c.callers.filter (Move.turn (.caller d.number)).isTurnOf = [d] :=
    filter_key_eq h.enrolled.numbers hd
  refine .of_untraced h (by rwa [hm]) (by simp) ?_ ?_ ?_
  · simp [hm, hone, withSession, report]
    rfl
  · simp [hm, withSession, report, dropCaller, Move.isTurnOf]
    rfl
  · have ht : ((rested.report d (.error f)).withSession t).turns = rested.turns :=
      turns_withSession h hu hn (fun _ hd => List.mem_of_mem_filter hd) rfl
    rw [hm, ht]
    exact List.erase_subset

theorem succeeds_send (h : c.Proper) (hf : c.session.hindrance? = none) (label : String) :
    c.Succeeds (.input (.send label method params)) method params := by
  have ⟨t, ht, handshake, notices, hu⟩ := Session.send_unhindered h.numbered hf method params
  have hp : c.perform (.send label method params) =
      (.ok (handleJson ⟨c.session.issued, c.session.issued, method⟩),
        (c.withSession t).addCaller label .response (.waiting c.session.issued)) := by
    simp [perform, ht]
  have hm : c.move (.input (.send label method params)) =
      (c.withSession t).addCaller label .response (.waiting c.session.issued) := by
    rw [move, hp]
  constructor
  case reply =>
    intro i hi
    cases hi
    rw [hp]
  case waits => exact ⟨_, by rw [hm]; exact List.mem_concat_self, rfl⟩
  all_goals
    rw [hm]
    simp [addCaller, withSession, hu, Session.nextEntry]

theorem succeeds_call (h : c.Proper) (hf : c.session.hindrance? = none) (hd : d ∈ c.callers)
    (hp : d.phase = .fresh) (hc : d.call.asks? = some (method, params))
    (hh : d.call.isHandshake → c.session.handshake = .notStarted) :
    c.Succeeds (.turn (.caller d.number)) method params := by
  obtain ⟨t, ht, handshake, notices, hu⟩ := Session.begin_unhindered h.numbered hc hh hf
  let rested : Client := { c with turns := c.turns.erase (.caller d.number) }
  have hm : c.move (.turn (.caller d.number)) =
      (rested.await d c.session.issued).withSession t := by
    simp only [move, turn, h.enrolled.find?_eq hd, resume, hp, ht]
    rfl
  constructor
  case reply => simp
  case waits =>
    refine ⟨{ d with phase := .waiting c.session.issued }, ?_, rfl⟩
    rw [hm]
    exact List.mem_map.mpr ⟨d, hd, if_pos rfl⟩
  all_goals
    rw [hm]
    simp [await, withSession, hu]
    try rfl

-- In every state that a client can reach, an attempt to send a request fails exactly if the session
-- takes no traffic or its transport refuses frames.
theorem attempts_exact (ms : List Move) (ha : (idle.after ms).Attempt method params m) :
    (∀ f, (idle.after ms).session.hindrance? = some f → (idle.after ms).Fails m f) ∧
      ((idle.after ms).session.hindrance? = none → (idle.after ms).Succeeds m method params) := by
  have h := idle_proper.after ms
  cases ha
  case send => exact ⟨fun _ hf => fails_send h hf _, fun hf => succeeds_send h hf _⟩
  case call hd hp hc hs hh =>
    exact ⟨fun _ hf => fails_call h hf hd hp hc hs hh, fun hf => succeeds_call h hf hd hp hc hh⟩

theorem attempts_exact_of_refusal :
    (idle.after [.input (.start "ls" []), .input (.send "a" "x" .null),
        .input (.call "hello" (.handshake "/w")), .input (.refuseSends true)]).Attempt
      "initialize" (Protocol.initializeParams "/w") (.turn (.caller 1)) ∧
    (idle.after [.input (.start "ls" []), .input (.send "a" "x" .null),
        .input (.call "hello" (.handshake "/w")), .input (.refuseSends true)]).Fails
      (.turn (.caller 1)) (.transport (.send Loopback.refusal)) := by
  have ha : (idle.after [.input (.start "ls" []), .input (.send "a" "x" .null),
      .input (.call "hello" (.handshake "/w")), .input (.refuseSends true)]).Attempt
      "initialize" (Protocol.initializeParams "/w") (.turn (.caller 1)) :=
    .call (d := ⟨1, "hello", .handshake "/w", .fresh⟩) (List.mem_cons_of_mem _ List.mem_cons_self)
      rfl rfl nofun fun _ => rfl
  exact ⟨ha, (attempts_exact _ ha).left _ rfl⟩

end Client
end LanguageClient
