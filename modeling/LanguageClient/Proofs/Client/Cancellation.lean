import LanguageClient.Proofs.Client.Teardown
import LanguageClient.Proofs.Session.Cancellation

namespace LanguageClient.Client

variable {c : Client} {d : Caller} {n : Nat} {id : Int} {method : String} {ms : List Move}

def cancelFrame (id : Int) : String :=
  Session.notificationFrame "$/cancelRequest" (.object [("id", .int id)])

-- A cancellation that finds its request: what is replied, who is woken, and what comes after it. Nothing
-- that is done later tells the caller anything else, and what still comes for the id is void.
structure Cancels (c c' : Client) (n : Nat) (method : String) : Prop where
  accepted : c.session.transport.sendRefusal? = none →
    (c.perform (.cancel n)).1 = .ok (.bool true) ∧
      c'.session.transport.sent = c.session.transport.sent ++ [cancelFrame n]
  refused  : ∀ reason, c.session.transport.sendRefusal? = some reason →
    (c.perform (.cancel n)).1 = .error (.transport (.send reason)) ∧
      c'.session.transport.sent = c.session.transport.sent
  woken    : ∀ d ∈ c.callers, d.phase = .waiting n → .caller d.number ∈ c'.turns
  told     : ∀ ms, (c'.after ms).session.pending.outcome? n = some (.error (.cancelled n method))
  once     : ∀ ms, ∃ e : Pending.Entry, e.ticket = n ∧ e.id = n ∧ e.method = method ∧
    (c'.after ms).session.pending.completed.filter (·.entry.ticket = n) = [⟨e, .cancelled⟩]
  finishes : ∀ ms, ∀ d ∈ (c'.after ms).callers, d.phase = .waiting n →
    ((c'.after ms).move (.turn (.caller d.number))).finished =
      (c'.after ms).finished ++ [(d.label, .error (.cancelled n method))]
  answers  : ∀ ms (e : Event) answer, e.answer? = some ((n : Int), answer) →
    (c'.after ms).session.handle e = (c'.after ms).session.note (.unmatchedAnswer n)
  again    : ∀ ms, (c'.after ms).perform (.cancel n) = (.ok (.bool false), c'.after ms)

-- What holds of cancellations after a run: which of them find a request, what comes of those that do and
-- of those that do not, and where in the run the server was told of those that did.
structure Cancellations (ms : List Move) : Prop where
  claims : ∀ id, ((idle.after ms).session.pending.cancel id).1 = true ↔
    ∃ n method, id = (n : Nat) ∧ Session.idle.Unsettled (idle.trace ms) n method
  found  : ∀ n method, Session.idle.Unsettled (idle.trace ms) n method →
    (idle.after ms).Cancels ((idle.after ms).move (.input (.cancel n))) n method
  void   : ∀ id, ((idle.after ms).session.pending.cancel id).1 = false →
    (idle.after ms).perform (.cancel id) = (.ok (.bool false), idle.after ms)
  nodup  : ((Session.idle.cancellations (idle.trace ms)).map (·.2)).Nodup
  placed : ∀ k id, (k, id) ∈ Session.idle.cancellations (idle.trace ms) →
    (idle.after ms).session.transport.sent[k]? = some (cancelFrame id) ∧
      ∃ n method params before after j, id = (n : Nat) ∧ j < k ∧
        idle.trace ms = before ++ .send method params :: after ∧
        (Session.idle.actAll before).Sends n method params ∧
        (Session.idle.actAll before).transport.sent.length = j ∧
        (idle.after ms).session.transport.sent[j]? = some (Session.requestFrame n method params)

theorem withSession_self (c : Client) : c.withSession c.session = c := by
  have hd : callerTurns c.callers c.session c.session = [] := by
    simp [callerTurns, Pending.completedSince]
  have hr : routerTurn c.session c.session = [] := by
    rw [routerTurn]
    cases c.session.wiring.router? <;> simp
  rw [withSession, hd, hr]
  rfl

theorem perform_cancel_void (h : c.session.pending.contains id = false) :
    c.perform (.cancel id) = (.ok (.bool false), c) := by
  have hc : c.perform (.cancel id) = (.ok (.bool false), c.withSession c.session) := by
    simp [perform, Session.cancel_idle h, Except.map]
  rw [hc, withSession_self]

theorem cancels (h : c.Proper) {e : Pending.Entry} (he : e ∈ c.session.pending.entries) :
    c.Cancels (c.move (.input (.cancel e.ticket))) e.ticket e.method := by
  have hid : e.id = e.ticket := h.numbered.ids e (List.mem_append_right _ he)
  have hw : c.session.pending.contains e.ticket := Pending.contains_iff.mpr ⟨e, he, hid⟩
  have h' := h.move (.input (.cancel e.ticket))
  have hs : (c.move (.input (.cancel e.ticket))).session = (c.session.cancel e.ticket).2 := rfl
  have hx : ⟨e, .cancelled⟩ ∈ (c.move (.input (.cancel e.ticket))).session.pending.completed := by
    rw [hs, ← hid]
    exact Session.completed_cancel he
  generalize hc' : c.move (.input (.cancel e.ticket)) = c' at h' hs hx
  -- What the cancellation has completed stays completed, whatever is done afterwards.
  have htold (ms : List Move) : (c'.after ms).session.pending.outcome? e.ticket =
      some (.error (.cancelled e.ticket e.method)) := by
    have ht := h'.numbered.told hx (c'.trace ms)
    rw [Pending.Completion.outcome, hid] at ht
    rwa [session_after]
  have hnot (ms : List Move) : (c'.after ms).session.pending.contains e.ticket = false :=
    (h'.after ms).numbered.contains_told (htold ms)
  constructor
  case accepted =>
    intro hr
    obtain ⟨ho, hf⟩ := Session.cancel_accepted hw hr
    exact ⟨by simp [perform, ho, Except.map], by rw [hs, hf]; rfl⟩
  case refused =>
    intro reason hr
    obtain ⟨ho, hf⟩ := Session.cancel_refused hw hr
    exact ⟨by simp [perform, ho, Except.map], by rw [hs, hf]⟩
  case woken =>
    intro d hd hp
    have hd' : d ∈ (c.move (.input (.cancel e.ticket))).callers := hd
    have ht : c.told? d = none := by
      rw [told?_of_waiting _ hp]
      exact h.numbered.sound.outcome?_of_waiting he
    have ht' : ((c.move (.input (.cancel e.ticket))).told? d).isSome := by
      rw [told?_of_waiting _ hp, hc']
      exact Option.isSome_of_eq_some (htold [])
    have hw := woken_move hd hd' hp ht ht'
    rwa [hc'] at hw
  case told => exact htold
  case once =>
    intro ms
    refine ⟨e, rfl, hid, rfl, ?_⟩
    have hm : ⟨e, .cancelled⟩ ∈ (c'.after ms).session.pending.completed := by
      rw [session_after]
      exact (Session.completed_actAll _ _).subset hx
    exact filter_key_eq (h'.after ms).numbered.sound.completed_nodup hm
  case finishes =>
    intro ms d hd hp
    have ht : (c'.after ms).told? d = some (.error (.cancelled e.ticket e.method)) := by
      rw [told?_of_waiting _ hp, htold]
    rw [finished_turn (h'.after ms).enrolled hd ht, Session.finish_error]
  case answers => exact fun ms ev answer ha => Session.handle_unmatched ha (hnot ms)
  case again   => exact fun ms => perform_cancel_void (hnot ms)

theorem cancellation_exact (ms : List Move) : Cancellations ms := by
  have h := idle_proper.after ms
  have hs := session_after idle ms
  constructor
  case claims =>
    intro id
    rw [hs]
    exact Session.contains_iff
  case found =>
    intro n method hu
    have ⟨e, he, ht, hm⟩ := hu.exists_entry
    have he : e ∈ (idle.after ms).session.pending.entries := hs ▸ he
    exact ht ▸ hm ▸ cancels h he
  case void   => exact fun id hc => perform_cancel_void hc
  case nodup  => exact Session.cancellations_nodup Session.idle_numbered _
  case placed =>
    intro k id hm
    have ⟨hk, n, method, params, before, after, hid, ht, hsent, hj, hf⟩ :=
      Session.cancellations_placed hm
    rw [hs]
    exact ⟨hk, n, method, params, before, after, _, hid, hj, ht, hsent, rfl, hf⟩

end LanguageClient.Client
