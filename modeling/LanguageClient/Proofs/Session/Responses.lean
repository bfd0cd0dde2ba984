import LanguageClient.Proofs.Session.Invariants

namespace LanguageClient

def isAnswer : Except Failure Json → Bool
  | .ok _ | .error (.rejected ..) => true
  | .error _ => false

namespace Action

def millis : Action → Nat
  | advance millis => millis
  | _ => 0

-- Whether an action leaves the request with an id waiting, apart from the time that passes.
def spares (id : Int) : Action → Bool
  | start .. | stop => false
  | cancel id' => id ≠ id'
  | deliver e => e.answer?.map (·.1) ≠ some id
  | _ => true

end Action

theorem Event.answer?_eq_some {e : Event} {id : Int} {answer : Except Rpc.ErrorObject Json}
    (h : e.answer? = some (id, answer)) : ∃ r : Rpc.Response, e.stream = .message ∧
      Rpc.Message.decode e.text = .ok (.response r) ∧ r.id = some (.number id) ∧
      answer = r.outcome := by
  unfold answer? at h
  split at h
  case h_1 r hs hd =>
    split at h
    case h_1 hi =>
      cases h
      exact ⟨r, hs, hd, hi, rfl⟩
    case h_2 => cases h
  case h_2 => cases h

namespace Session

variable {s : Session} {a : Action} {as : List Action} {e : Pending.Entry}
  {outcome : Except Failure Json}

-- The ids of the requests that are issued in some actions, in their order.
def issuedIds (s : Session) (as : List Action) : List Int :=
  (s.history as).filterMap (·.registered?)

theorem issuedIds_idle (as : List Action) :
    idle.issuedIds as = (List.range (idle.actAll as).issued).map (Nat.cast : Nat → Int) := by
  have ⟨k, hk⟩ := idle.registered_history as
  rw [issued_actAll, hk, issuedIds, hk, List.length_map, List.length_range', List.range_eq_range']
  exact congrArg (fun n => (List.range' 0 n).map _) (Nat.zero_add k).symm

-- A request is sent: its caller gets a handle, and its frame is written.
structure Sends (s : Session) (id : Nat) (method : String) (params : Json) : Prop where
  handle : (s.send method params).1 = .ok ⟨id, id, method⟩
  frame  : (s.send method params).2.transport.sent =
    s.transport.sent ++ [requestFrame id method params]

-- A run answers the request with an id: the request is sent, and the first response with its id is
-- handled while it waits.
inductive Answered (s : Session) (as : List Action) (id : Nat) : Except Failure Json → Prop
  | intro {before between after : List Action} {method : String} {params : Json} {e : Event}
      {r : Rpc.Response}
      (run : as = before ++ .send method params :: (between ++ .deliver e :: after))
      (sent : (s.actAll before).Sends id method params)
      (spared : ∀ a ∈ between, a.spares id)
      (within : (between.map (·.millis)).sum < requestTimeout)
      (stream : e.stream = .message)
      (decoded : Rpc.Message.decode e.text = .ok (.response r))
      (number : r.id = some (.number id)) :
      Answered s as id (r.outcome.mapError (.rejected method))

theorem millis_operations (s : Session) (a : Action) :
    ((a.operations s).map (·.millis)).sum = a.millis := by
  cases a
  case start =>
    rw [Action.operations]
    split
    · rfl
    · rfl
  case send =>
    rw [Action.operations]
    split
    · split
      · rfl
      · rfl
    · rfl
  case deliver e =>
    rw [Action.operations]
    cases e.answer?
    · rfl
    · rfl
  all_goals rfl

theorem now_act (s : Session) (a : Action) :
    (s.act a).pending.now = s.pending.now + a.millis := by
  rw [pending_act, Pending.now_performAll, millis_operations]

theorem Orderly.start_entries (h : s.Orderly) (command : String) (args : List String) :
    (s.act (.start command args)).pending.entries = [] := by
  rw [pending_act, Action.operations]
  split
  case isTrue hi => exact (h.idle hi).right
  case isFalse   => exact s.pending.entries_discardAll

theorem spares_of_mem (ho : s.Orderly) (hn : s.Numbered) (he : e ∈ (s.act a).pending.entries) : a.spares e.id := by
  have hm (op : Pending.Operation) (hop : a.operations s = [op])
      (ha : op.admitted s.pending = []) : op.ends (s.pending.now + op.millis) e = false := by
    rw [pending_act, hop] at he
    rcases hn.sound.mem_entries_perform.mp he with ⟨_, hs⟩ | he
    · exact hs
    · rw [ha] at he
      cases he
  cases a
  case start command args =>
    rw [ho.start_entries] at he
    cases he
  case stop => cases hm .discardAll rfl rfl
  case cancel id =>
    simpa [Action.spares, Pending.Operation.ends, Pending.hasId] using hm (.cancel id) rfl rfl
  case deliver ev =>
    rw [Action.spares]
    cases h : ev.answer?
    case none => rfl
    case some x =>
      have hs : ¬ e.id = x.1 := by
        have hs := hm (.settle x.1 x.2) (by simp [Action.operations, h]) rfl
        simpa [Pending.Operation.ends, Pending.hasId] using hs
      exact decide_eq_true fun hi => hs (Option.some.inj hi).symm
  all_goals rfl

theorem deliver_of_ended {op : Pending.Operation} (hop : op ∈ a.operations s) {now timeout : Nat}
    (he : op.ends now e) (ha : isAnswer (Pending.Completion.outcome ⟨e, op.ending timeout⟩)) :
    ∃ ev, a = .deliver ev ∧ ∃ r : Rpc.Response, ev.stream = .message ∧
      Rpc.Message.decode ev.text = .ok (.response r) ∧ r.id = some (.number e.id) ∧
      op.ending timeout = .answered r.outcome := by
  cases op
  case settle id answer =>
    have hi : e.id = id := by simpa [Pending.Operation.ends, Pending.hasId] using he
    cases a
    case deliver ev =>
      simp only [Action.operations, Option.mem_toList, Option.map_eq_some_iff] at hop
      obtain ⟨x, hx, ho⟩ := hop
      cases ho
      obtain ⟨r, hs, hd, hr, ho⟩ := Event.answer?_eq_some hx
      exact ⟨ev, rfl, r, hs, hd, hi ▸ hr, ho ▸ rfl⟩
    all_goals simp [Action.operations] at hop
  all_goals cases ha

theorem Numbered.told (hn : s.Numbered) {x : Pending.Completion} (hx : x ∈ s.pending.completed)
    (as : List Action) : (s.actAll as).pending.outcome? x.entry.ticket = some x.outcome := by
  have hx : x ∈ (s.actAll as).pending.completed := by
    rw [pending_actAll]
    exact (s.pending.completed_extends _).subset hx
  exact (hn.actAll as).sound.outcome?_of_completed hx

theorem Numbered.outcome?_actAll (hn : s.Numbered) {ticket : Nat}
    (h : s.pending.outcome? ticket = some outcome) (as : List Action) :
    (s.actAll as).pending.outcome? ticket = some outcome := by
  have ⟨x, hx, ht, ho⟩ := Pending.exists_completed h
  subst ht ho
  exact hn.told hx as

-- The induction follows the actions after the request: the first one that ends its wait decides.
theorem answered_of_waiting (ho : s.Orderly) (hn : s.Numbered) (he : e ∈ s.pending.entries)
    (hs : (s.actAll as).pending.outcome? e.ticket = some outcome) (ha : isAnswer outcome) :
    ∃ between after ev, ∃ r : Rpc.Response, as = between ++ .deliver ev :: after ∧
      (∀ a ∈ between, a.spares e.ticket) ∧
      s.pending.now + (between.map (·.millis)).sum < e.deadline ∧
      ev.stream = .message ∧ Rpc.Message.decode ev.text = .ok (.response r) ∧
      r.id = some (.number e.ticket) ∧ outcome = r.outcome.mapError (.rejected e.method) := by
  have hi : e.id = e.ticket := hn.ids e (List.mem_append_right _ he)
  induction as generalizing s
  case nil =>
    rw [actAll_nil, hn.sound.outcome?_of_waiting he] at hs
    cases hs
  case cons a as hr =>
    -- The timeout is not zero, so that there is time left.
    have hd : s.pending.now < e.deadline := by
      rcases hn.sound.ahead e he with hd | ⟨ht, _⟩
      · exact hd
      · rw [hn.timeout] at ht
        cases ht
    have hp := s.pending_act a
    rcases hn.sound.ended_performAll he (a.operations s) with he' | ⟨op, hop, ⟨now, hw⟩, hx⟩
    · rw [← hp] at he'
      have ⟨between, after, ev, r, hb, hf, hm, h⟩ := hr (ho.act a) (hn.act a) he' hs
      refine ⟨a :: between, after, ev, r, by rw [hb]; rfl, ?_, ?_, h⟩
      · exact List.forall_mem_cons.mpr ⟨hi ▸ spares_of_mem ho hn he', hf⟩
      · rw [now_act] at hm
        rwa [List.map_cons, List.sum_cons, ← Nat.add_assoc]
    · rw [← hp] at hx
      cases ((hn.act a).told hx as).symm.trans hs
      have ⟨ev, hev, r, hst, hdc, hrid, hend⟩ := deliver_of_ended hop hw ha
      refine ⟨[], as, ev, r, by rw [hev]; rfl, nofun, hd, hst, hdc, hi ▸ hrid, ?_⟩
      rw [hend, Pending.Completion.outcome]
      cases r.outcome <;> rfl

theorem act_issued_cases (s : Session) (a : Action) :
    (s.act a).issued = s.issued ∨ ∃ method params, a = .send method params ∧
      s.lifecycle.acceptsTraffic ∧ (s.act a).issued = s.issued + 1 := by
  rw [issued_act]
  cases a
  case send method params =>
    rw [Action.operations]
    split
    case isTrue ha =>
      refine .inr ⟨method, params, rfl, ha, ?_⟩
      split
      · rfl
      · rfl
    case isFalse => exact .inl rfl
  case start =>
    rw [Action.operations]
    split
    · exact .inl rfl
    · exact .inl rfl
  case deliver e =>
    rw [Action.operations]
    cases e.answer?
    · exact .inl rfl
    · exact .inl rfl
  all_goals exact .inl rfl

theorem exists_send {id : Nat} (hl : s.issued ≤ id) (hu : id < (s.actAll as).issued) :
    ∃ before method params after, as = before ++ .send method params :: after ∧
      (s.actAll before).issued = id ∧ (s.actAll before).lifecycle.acceptsTraffic := by
  induction as generalizing s
  case nil => exact absurd hu (Nat.not_lt.mpr hl)
  case cons a as hi =>
    have hs := s.act_issued_cases a
    by_cases hl' : (s.act a).issued ≤ id
    · have ⟨before, method, params, after, h, ht⟩ := hi hl' hu
      exact ⟨a :: before, method, params, after, by rw [h]; rfl, ht⟩
    · rcases hs with hs | ⟨method, params, ha, ht, hs⟩
      · omega
      · exact ⟨[], method, params, as, by rw [ha]; rfl, by rw [actAll_nil]; omega, ht⟩

def nextEntry (s : Session) (method : String) : Pending.Entry :=
  ⟨s.issued, s.issued, method, s.issued, s.issued, s.pending.now + requestTimeout⟩

theorem deadline_nextEntry (s : Session) (method : String) :
    (s.nextEntry method).deadline = s.pending.now + requestTimeout :=
  rfl

theorem Numbered.admitted (hn : s.Numbered) (method : String) :
    (Pending.Operation.register s.issued method).admitted s.pending = [s.nextEntry method] := by
  rw [Pending.Operation.admitted, hn.issued, hn.timeout]
  rfl

theorem Numbered.mem_register (hn : s.Numbered) (method : String) :
    s.nextEntry method ∈ (s.pending.perform (.register s.issued method)).entries :=
  hn.sound.mem_entries_perform.mpr (.inr (hn.admitted method ▸ List.mem_singleton_self _))

theorem send_sends (hn : s.Numbered) (ha : s.lifecycle.acceptsTraffic)
    (hr : s.transport.sendRefusal? = none) (method : String) (params : Json) :
    s.Sends s.issued method params ∧
      s.nextEntry method ∈ (s.act (.send method params)).pending.entries := by
  have ⟨_, hs⟩ := send_accepted ha hr method params
  refine ⟨⟨by rw [hs, hn.issued], by rw [hs]⟩, ?_⟩
  have ho : (Action.send method params).operations s = [.register s.issued method] := by
    simp [Action.operations, ha, hr]
  rw [pending_act, ho]
  exact hn.mem_register method

theorem send_discards (hn : s.Numbered) (ha : s.lifecycle.acceptsTraffic)
    (hr : s.transport.sendRefusal? ≠ none) (method : String) (params : Json) :
    ⟨s.nextEntry method, .discarded⟩ ∈ (s.act (.send method params)).pending.completed := by
  have ho : (Action.send method params).operations s =
      [.register s.issued method, .forget s.issued] := by
    simp [Action.operations, ha, hr]
  rw [pending_act, ho, Pending.performAll_cons, Pending.performAll_cons, Pending.performAll_nil,
    (hn.sound.perform _).completed_perform]
  refine List.mem_append_right _ <| List.mem_map_of_mem <| List.mem_filter.mpr ⟨hn.mem_register method, ?_⟩
  exact decide_eq_true rfl

theorem answered_of_outcome (as : List Action) {id : Nat}
    (hs : (idle.actAll as).pending.outcome? id = some outcome) (ha : isAnswer outcome) :
    idle.Answered as id outcome := by
  have hn := idle_numbered.actAll as
  have hu : id < (idle.actAll as).issued := by
    rw [← hn.issued]
    refine Nat.not_le.mp fun hu => ?_
    rw [hn.sound.outcome?_of_unissued hu] at hs
    cases hs
  obtain ⟨before, method, params, rest, hb, rfl, hl⟩ := exists_send (Nat.zero_le id) hu
  have hn := idle_numbered.actAll before
  have ho := idle_orderly.actAll before
  rw [hb, actAll_append, actAll_cons] at hs
  by_cases hr : (idle.actAll before).transport.sendRefusal? = none
  case pos =>
    have ⟨sent, he⟩ := send_sends hn hl hr method params
    have ⟨between, after, ev, r, h, hf, hm, hst, hd, hi, ho⟩ :=
      answered_of_waiting (ho.act _) (hn.act _) he hs ha
    have hw : (between.map (·.millis)).sum < requestTimeout := by
      rw [now_act, deadline_nextEntry] at hm
      exact Nat.add_lt_add_iff_left.mp hm
    have ho : outcome = r.outcome.mapError (.rejected method) := ho
    exact ho ▸ .intro (hb.trans (by rw [h])) sent hf hw hst hd hi
  case neg =>
    -- A request whose frame was refused has been discarded, and that is no answer.
    have hx := (hn.act _).told (send_discards hn hl hr method params) rest
    cases hx.symm.trans hs
    cases ha

theorem handle_stale (before between : List Action) (command : String) (args : List String)
    {ev : Event} {id : Int} {answer : Except Rpc.ErrorObject Json}
    (he : ev.answer? = some (id, answer)) (hi : id < (idle.actAll before).issued) :
    let s := idle.actAll (before ++ .start command args :: between)
    (s.handle ev).pending = s.pending := by
  intro s
  let t := (idle.actAll before).act (.start command args)
  have hs : s = t.actAll between := actAll_append ..
  have hn : s.Numbered := idle_numbered.actAll _
  have hc : s.pending.contains id = false := by
    refine List.any_eq_false.mpr fun e hm => ?_
    have hm' := hm
    rw [hs, pending_actAll] at hm'
    -- Nothing waits through the start, and what has been sent since has a later id.
    rcases Pending.mem_entries_performAll hm' with hm' | hl
    · rw [(idle_orderly.actAll before).start_entries] at hm'
      cases hm'
    · have ht : t.pending.issued = (idle.actAll before).issued := by
        rw [((idle_numbered.actAll before).act _).issued]
        exact start_issued ..
      have hid := hn.ids e (List.mem_append_right _ hm)
      simp only [decide_eq_true_eq]
      omega
  have hp := pending_act s (.deliver ev)
  rw [Action.operations, he] at hp
  exact hp.trans (Pending.claim_eq_self hc _)

theorem start_inbox (s : Session) (command : String) (args : List String) :
    (s.start command args).2.inbox = [] := by
  have hi : s.staged.inbox = [] := by
    have ⟨_, hs⟩ := s.staged_eq
    rw [hs]
    split
    · rfl
    · rfl
  match h : s.transport.startRefusal? with
  | none =>
    have ⟨_, _, _, he⟩ := start_accepted h command args
    rw [he]
    exact hi
  | some _ =>
    have ⟨_, he⟩ := start_refused h command args
    rw [he]
    rfl

theorem inbox_act {ev : Event} (h : ev ∈ (s.act a).inbox) : ev ∈ s.inbox ∨ a = .emit ev := by
  cases a
  case start command args =>
    rw [act, start_inbox] at h
    cases h
  case cleanup | stop => cases h
  case emit =>
    have h := (act_quietly s rfl).inbox ev h
    exact h.imp id fun h => congrArg _ (List.mem_singleton.mp h).symm
  all_goals exact .inl <| ((act_quietly s rfl).inbox ev h).resolve_right List.not_mem_nil

theorem inbox_actAll {ev : Event} (h : ev ∈ (s.actAll as).inbox) :
    ev ∈ s.inbox ∨ .emit ev ∈ as := by
  induction as generalizing s
  case nil          => exact .inl h
  case cons a as hi =>
    rcases hi h with h | h
    · exact (inbox_act h).imp id fun h => List.mem_cons.mpr (.inl h.symm)
    · exact .inr (List.mem_cons_of_mem a h)

theorem sends_of_send {t : Session} {handle : Handle} {method : String} {params : Json}
    (hn : s.Numbered) (h : s.send method params = (.ok handle, t)) :
    s.Sends handle.ticket method params := by
  cases ha : s.lifecycle.acceptsTraffic
  case false =>
    rw [send_closed ha] at h
    cases h
  case true =>
    match hr : s.transport.sendRefusal? with
    | none =>
      have ⟨_, hs⟩ := send_accepted ha hr method params
      cases hs.symm.trans h
      exact hn.issued ▸ (send_sends hn ha hr method params).left
    | some _ =>
      have ⟨_, hs⟩ := send_refused ha hr method params
      cases hs.symm.trans h

theorem send_error {t : Session} {f : Failure} {method : String} {params : Json}
    (h : s.send method params = (.error f, t)) : isAnswer (.error f) = false := by
  cases ha : s.lifecycle.acceptsTraffic
  case false =>
    rw [send_closed ha] at h
    cases h
    rfl
  case true =>
    match hr : s.transport.sendRefusal? with
    | none =>
      have ⟨_, hs⟩ := send_accepted ha hr method params
      cases hs.symm.trans h
    | some _ =>
      have ⟨_, hs⟩ := send_refused ha hr method params
      cases hs.symm.trans h
      rfl

end Session
end LanguageClient
