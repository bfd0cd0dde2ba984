import Mathlib.Data.List.Infix
import LanguageClient.Proofs.Session.Handshake
import LanguageClient.Proofs.Session.Sending

namespace LanguageClient

namespace Pending

variable {p : Pending} {e : Entry} {id : Int}

theorem contains_iff : p.contains id ↔ ∃ e ∈ p.entries, e.id = id := by
  simp [contains]

end Pending

namespace Session

variable {s t : Session} {a : Action} {as : List Action} {e : Pending.Entry} {n : Nat}
  {id : Int} {method : String} {params : Json} {k : Nat}

-- A request with an id was sent in a run, and nothing has ended its wait since: no answer, no
-- cancellation, no end of its session, and less time has gone by than the timeout.
def Unsettled (s : Session) (as : List Action) (n : Nat) (method : String) : Prop :=
  ∃ before params after, as = before ++ .send method params :: after ∧
    (s.actAll before).Sends n method params ∧ (∀ a ∈ after, a.spares n) ∧
    (after.map (·.millis)).sum < requestTimeout

theorem Sends.asking (h : s.Sends n method params) (hn : s.Numbered) :
    n = s.issued ∧ s.Asking (s.act (.send method params)) method params := by
  have hh := h.handle
  match hr : s.hindrance? with
  | some f =>
    have ⟨t, ht, _⟩ := send_hindered hn hr method params
    rw [ht] at hh
    cases hh
  | none   =>
    have ⟨t, ht, ha⟩ := send_unhindered hn hr method params
    rw [ht] at hh
    cases hh
    exact ⟨rfl, by rw [act, ht]; exact ha⟩

theorem entries_act (hn : s.Numbered) (he : e ∈ (s.act a).pending.entries) :
    e ∈ s.pending.entries ∨ ∃ params, a = .send e.method params ∧
      s.Sends e.ticket e.method params ∧ e.deadline = s.pending.now + requestTimeout := by
  by_cases ha : ∃ method params, a = .send method params
  case pos =>
    obtain ⟨method, params, rfl⟩ := ha
    cases hr : s.hindrance?
    case some f =>
      obtain ⟨t, ht, _, _, _, _, hu⟩ := send_hindered hn hr method params
      rw [act, ht, hu] at he
      exact .inl he
    case none   =>
      obtain ⟨t, ht, _, _, hu⟩ := send_unhindered hn hr method params
      rw [act, ht, hu] at he
      rcases List.mem_append.mp he with he | he
      · exact .inl he
      · cases List.mem_singleton.mp he
        exact .inr ⟨params, rfl, sends_of_send hn ht, rfl⟩
  case neg =>
    -- No other action gives out a ticket, so that the entry has waited before.
    have he' := he
    rw [pending_act] at he
    refine (Pending.mem_entries_performAll he).imp id fun ht => ?_
    have hl := (hn.act a).sound.ticket_lt (List.mem_append_right _ he')
    have hi : (s.act a).issued = s.issued := by
      refine (s.act_issued_cases a).resolve_right ?_
      rintro ⟨method, params, h, _⟩
      exact ha ⟨method, params, h⟩
    rw [(hn.act a).issued, hi, ← hn.issued] at hl
    exact absurd ht (Nat.not_le.mpr hl)

theorem now_actAll (s : Session) (as : List Action) :
    (s.actAll as).pending.now = s.pending.now + (as.map (·.millis)).sum := by
  induction as generalizing s
  case nil          => rfl
  case cons a as hi => rw [actAll_cons, hi, now_act, List.map_cons, List.sum_cons, Nat.add_assoc]

theorem exists_sends (he : e ∈ (idle.actAll as).pending.entries) :
    ∃ before params after, as = before ++ .send e.method params :: after ∧
      (idle.actAll before).Sends e.ticket e.method params ∧ (∀ a ∈ after, a.spares e.ticket) ∧
      e.deadline = (idle.actAll before).pending.now + requestTimeout := by
  induction as using List.reverseRecOn
  case nil => cases he
  case append_singleton as a hi =>
    rw [actAll_append, actAll_cons, actAll_nil] at he
    have hn := idle_numbered.actAll as
    rcases entries_act hn he with hw | ⟨params, ha, hs, hd⟩
    · have ⟨before, params, after, h, hs, hf, hd⟩ := hi hw
      have hid := hn.ids e (List.mem_append_right _ hw)
      refine ⟨before, params, after ++ [a], by rw [h, List.append_assoc]; rfl, hs, ?_, hd⟩
      have ha : a.spares e.ticket := hid ▸ spares_of_mem (idle_orderly.actAll as) hn he
      exact List.forall_mem_append.mpr ⟨hf, List.forall_mem_singleton.mpr ha⟩
    · exact ⟨as, params, [], by rw [ha], hs, nofun, hd⟩

theorem mem_of_spares (hn : s.Numbered) (he : e ∈ s.pending.entries) (ha : a.spares e.id)
    (hd : s.pending.now + a.millis < e.deadline) : e ∈ (s.act a).pending.entries := by
  have hid : ¬ e.id = s.issued := by
    have hc := hn.contains_issued
    simp only [Pending.contains, List.any_eq_false, decide_eq_true_eq] at hc
    exact hc e he
  have hp {p : Pending} (ht : p.Timed) (op : Pending.Operation) (he : e ∈ p.entries)
      (hs : op.ends (p.now + op.millis) e = false) : e ∈ (p.perform op).entries :=
    ht.mem_entries_perform.mpr (.inl ⟨he, hs⟩)
  have ht := hn.sound.toTimed
  rw [pending_act]
  cases a
  case start | stop => cases ha
  case send method params =>
    have hr := hp ht (.register s.issued method) he (decide_eq_false hid)
    rw [Action.operations]
    split
    case isFalse => exact he
    case isTrue  =>
      split
      case isTrue  => exact hr
      case isFalse => exact hp (ht.perform _) (.forget s.issued) hr (decide_eq_false hid)
  case cancel id => exact hp ht (.cancel id) he (decide_eq_false (by simpa [Action.spares] using ha))
  case advance millis => exact hp ht (.advance millis) he (decide_eq_false (Nat.not_le.mpr hd))
  case deliver ev =>
    rw [Action.operations]
    rcases h : ev.answer? with _ | ⟨id, x⟩
    case none => exact he
    case some =>
      refine hp ht (.settle id x) he (decide_eq_false fun hi => ?_)
      simp [Action.spares, h, hi] at ha
  all_goals exact he

theorem mem_of_spared (hn : s.Numbered) (he : e ∈ s.pending.entries)
    (ha : ∀ a ∈ as, a.spares e.id) (hd : s.pending.now + (as.map (·.millis)).sum < e.deadline) :
    e ∈ (s.actAll as).pending.entries := by
  induction as generalizing s
  case nil          => exact he
  case cons a as hi =>
    have ⟨ha, has⟩ := List.forall_mem_cons.mp ha
    rw [List.map_cons, List.sum_cons, ← Nat.add_assoc] at hd
    refine hi (hn.act a) (mem_of_spares hn he ha (by omega)) has ?_
    rwa [now_act]

theorem Unsettled.exists_entry (h : idle.Unsettled as n method) :
    ∃ e ∈ (idle.actAll as).pending.entries, e.ticket = n ∧ e.method = method := by
  obtain ⟨before, params, after, rfl, hs, hf, hm⟩ := h
  have hn := idle_numbered.actAll before
  obtain ⟨rfl, handshake, notices, ha⟩ := hs.asking hn
  let s := idle.actAll before
  refine ⟨s.nextEntry method, ?_, rfl, rfl⟩
  rw [actAll_append, actAll_cons]
  refine mem_of_spared (hn.act _) ?_ hf ?_
  · rw [ha]
    exact List.mem_concat_self
  · rw [deadline_nextEntry, ha]
    exact Nat.add_lt_add_left hm _

theorem unsettled_of_entry (he : e ∈ (idle.actAll as).pending.entries) :
    idle.Unsettled as e.ticket e.method := by
  obtain ⟨before, params, after, rfl, hs, hf, hd⟩ := exists_sends he
  refine ⟨before, params, after, rfl, hs, hf, ?_⟩
  have hn := idle_numbered.actAll (before ++ .send e.method params :: after)
  rcases hn.sound.ahead e he with ha | ⟨ht, _⟩
  · rw [hd, actAll_append, actAll_cons, now_actAll, now_act] at ha
    exact Nat.add_lt_add_iff_left.mp ha
  · rw [hn.timeout] at ht
    cases ht

theorem contains_iff : (idle.actAll as).pending.contains id ↔
    ∃ n method, id = (n : Nat) ∧ idle.Unsettled as n method := by
  rw [Pending.contains_iff]
  have hids := (idle_numbered.actAll as).ids
  constructor
  case mp  =>
    rintro ⟨e, he, rfl⟩
    exact ⟨e.ticket, e.method, hids e (List.mem_append_right _ he), unsettled_of_entry he⟩
  case mpr =>
    rintro ⟨n, method, rfl, h⟩
    have ⟨e, he, ht, _⟩ := h.exists_entry
    exact ⟨e, he, ht ▸ hids e (List.mem_append_right _ he)⟩

theorem Numbered.contains_told (hn : s.Numbered) {outcome : Except Failure Json}
    (h : s.pending.outcome? n = some outcome) : s.pending.contains n = false := by
  refine Bool.eq_false_iff.mpr fun hc => ?_
  have ⟨e, he, hi⟩ := Pending.contains_iff.mp hc
  have ht : e.ticket = n := by
    have hid := hn.ids e (List.mem_append_right _ he)
    omega
  rw [← ht, hn.sound.outcome?_of_waiting he] at h
  cases h

theorem cancel_idle (h : s.pending.contains id = false) : s.cancel id = (.ok false, s) := by
  simp [cancel, Pending.cancel, Pending.claim, h]

theorem cancel_accepted (h : s.pending.contains id) (hr : s.transport.sendRefusal? = none) :
    (s.cancel id).1 = .ok true ∧ (s.cancel id).2.transport.sent =
      s.transport.sent ++ [notificationFrame "$/cancelRequest" (.object [("id", .int id)])] := by
  have hw (frame : String) := write_accepted (s := s.withPending (s.pending.cancel id).2) hr frame
  simp only [cancel, Pending.cancel, Pending.claim, h, if_true, notify] at hw ⊢
  rw [hw]
  exact ⟨rfl, rfl⟩

theorem cancel_refused {reason : String} (h : s.pending.contains id)
    (hr : s.transport.sendRefusal? = some reason) :
    (s.cancel id).1 = .error (.transport (.send reason)) ∧
      (s.cancel id).2.transport.sent = s.transport.sent := by
  have hw (frame : String) := write_refused (s := s.withPending (s.pending.cancel id).2) hr frame
  simp only [cancel, Pending.cancel, Pending.claim, h, if_true, notify] at hw ⊢
  rw [hw]
  exact ⟨rfl, rfl⟩

theorem notify_sent (s : Session) (method : String) (params : Json) :
    s.transport.sent <+: (s.notify method params).2.transport.sent := by
  rw [notify]
  rcases s.write_cases (Rpc.Message.notification (.new method params)).encode with h | ⟨_, h⟩
  case inl => rw [h]; exact List.prefix_append _ _
  case inr => rw [h]

theorem decline_sent (s : Session) (r : Rpc.Request) :
    s.transport.sent <+: (s.decline r).transport.sent := by
  simp only [decline]
  rcases write_cases (s.note (.declining r.method r.id)) _ with h | ⟨_, h⟩
  case inl => rw [h]; exact List.prefix_append _ _
  case inr => rw [h]; exact List.prefix_rfl

theorem handle_sent (s : Session) (ev : Event) :
    s.transport.sent <+: (s.handle ev).transport.sent := by
  rw [handle]
  split
  case h_1 => exact List.prefix_rfl
  case h_2 => exact List.prefix_rfl
  case h_3 =>
    split
    case h_1     => exact List.prefix_rfl
    case h_2 r _ =>
      have ⟨_, h⟩ := s.answered_eq r
      rw [h]
    case h_3     => exact List.prefix_rfl
    case h_4 r _ => exact s.decline_sent r

theorem send_sent (s : Session) (method : String) (params : Json) :
    s.transport.sent <+: (s.send method params).2.transport.sent := by
  cases ha : s.lifecycle.acceptsTraffic
  case false =>
    rw [send_closed ha]
  case true =>
    match hr : s.transport.sendRefusal? with
    | none   =>
      have ⟨_, h⟩ := send_accepted ha hr method params
      rw [h]
      exact List.prefix_append _ _
    | some _ =>
      have ⟨_, h⟩ := send_refused ha hr method params
      rw [h]

theorem cancel_sent (s : Session) (id : Int) :
    s.transport.sent <+: (s.cancel id).2.transport.sent := by
  simp only [cancel]
  split
  case isTrue  => exact (s.withPending (s.pending.cancel id).2).notify_sent _ _
  case isFalse => exact List.prefix_rfl

theorem sent_act (s : Session) (a : Action) : s.transport.sent <+: (s.act a).transport.sent := by
  cases a
  case start command args            => rw [act, start_sent]
  case send method params             => exact s.send_sent method params
  case notify method params           => exact s.notify_sent method params
  case cancel id                      => exact s.cancel_sent id
  case deliver ev                     => exact s.handle_sent ev
  case sendNotification method params =>
    rw [act, sendNotification]
    split
    case h_1 => exact List.prefix_rfl
    case h_2 =>
      split
      case isTrue  => exact List.prefix_rfl
      case isFalse => exact s.notify_sent method params
  case write frame =>
    rcases s.write_cases frame with h | ⟨_, h⟩
    case inl => rw [act, h]; exact List.prefix_append _ _
    case inr => rw [act, h]; exact List.prefix_rfl
  all_goals exact List.prefix_rfl

theorem sent_actAll (s : Session) (as : List Action) :
    s.transport.sent <+: (s.actAll as).transport.sent := by
  induction as generalizing s
  case nil          => exact List.prefix_rfl
  case cons a as hi => exact (s.sent_act a).trans (hi (s.act a))

theorem completed_cancel (he : e ∈ s.pending.entries) :
    ⟨e, .cancelled⟩ ∈ (s.act (.cancel e.id)).pending.completed := by
  have hm : e ∈ s.pending.entries.filter (Pending.hasId e.id) :=
    List.mem_filter.mpr ⟨he, decide_eq_true rfl⟩
  rw [pending_act]
  exact List.mem_append_right _ (List.mem_map_of_mem hm)

theorem handle_unmatched {ev : Event} {answer : Except Rpc.ErrorObject Json}
    (h : ev.answer? = some (id, answer)) (hc : s.pending.contains id = false) :
    s.handle ev = s.note (.unmatchedAnswer id) := by
  have ⟨r, hs, hd, hi, _⟩ := Event.answer?_eq_some h
  simp [handle, hs, hd, answered, hi, Pending.settle, Pending.claim, hc]

-- The cancellation that an action tells the server of, with its place among the frames.
def posted (s : Session) : Action → List (Nat × Int)
  | .cancel id =>
    match (s.cancel id).1 with
    | .ok true => [(s.transport.sent.length, id)]
    | _ => []
  | _ => []

def cancellations (s : Session) : List Action → List (Nat × Int)
  | []      => []
  | a :: as => s.posted a ++ (s.act a).cancellations as

theorem posted_cases (s : Session) (a : Action) : s.posted a = [] ∨
    ∃ id, a = .cancel id ∧ (s.cancel id).1 = .ok true ∧
      s.posted a = [(s.transport.sent.length, id)] := by
  cases a
  case cancel id =>
    rw [posted]
    split
    case h_1 h => exact .inr ⟨id, rfl, h, rfl⟩
    case h_2   => exact .inl rfl
  all_goals exact .inl rfl

theorem of_mem_cancellations (h : (k, id) ∈ s.cancellations as) :
    ∃ before after, as = before ++ .cancel id :: after ∧
      k = (s.actAll before).transport.sent.length ∧ ((s.actAll before).cancel id).1 = .ok true := by
  induction as generalizing s
  case nil          => cases h
  case cons a as hi =>
    rcases List.mem_append.mp h with h | h
    · rcases s.posted_cases a with hp | ⟨id', rfl, hc, hp⟩
      · rw [hp] at h
        cases h
      · rw [hp] at h
        cases List.mem_singleton.mp h
        exact ⟨[], as, rfl, rfl, hc⟩
    · have ⟨before, after, ha, h⟩ := hi h
      exact ⟨a :: before, after, by rw [ha]; rfl, h⟩

theorem cancel_ok (h : (s.cancel id).1 = .ok true) :
    s.pending.contains id ∧ s.transport.sendRefusal? = none := by
  match hc : s.pending.contains id with
  | false =>
    rw [cancel_idle hc] at h
    cases h
  | true  =>
    match hr : s.transport.sendRefusal? with
    | none   => exact ⟨rfl, rfl⟩
    | some _ =>
      rw [(cancel_refused hc hr).left] at h
      cases h

theorem not_mem_cancellations (hn : s.Numbered) {outcome : Except Failure Json}
    (h : s.pending.outcome? n = some outcome) (as : List Action) :
    (n : Int) ∉ (s.cancellations as).map (·.2) := by
  intro hm
  have ⟨⟨k, id⟩, hm, (hi : id = n)⟩ := List.mem_map.mp hm
  subst hi
  have ⟨before, _, _, _, hc⟩ := of_mem_cancellations hm
  have ht := (hn.actAll before).contains_told (hn.outcome?_actAll h before)
  rw [(cancel_ok hc).left] at ht
  cases ht

theorem cancellations_nodup (hn : s.Numbered) (as : List Action) :
    ((s.cancellations as).map (·.2)).Nodup := by
  induction as generalizing s
  case nil          => exact List.nodup_nil
  case cons a as hi =>
    rcases s.posted_cases a with hp | ⟨id, rfl, hc, hp⟩
    · rw [cancellations, hp]
      exact hi (hn.act a)
    · have ⟨e, he, hid⟩ := Pending.contains_iff.mp (cancel_ok hc).left
      have ht := hn.ids e (List.mem_append_right _ he)
      have htold := (hn.act (.cancel e.id)).told (completed_cancel he) []
      have hnot := not_mem_cancellations (hn.act (.cancel e.id)) htold as
      rw [← ht, hid] at hnot
      rw [cancellations, hp]
      exact List.nodup_cons.mpr ⟨hnot, hi (hn.act _)⟩

theorem getElem?_length_of_isPrefix {α : Type} {l l' : List α} {x : α} (h : l ++ [x] <+: l') :
    l'[l.length]? = some x := by
  obtain ⟨r, rfl⟩ := h
  simp

theorem cancellations_placed (h : (k, id) ∈ idle.cancellations as) :
    (idle.actAll as).transport.sent[k]? =
        some (notificationFrame "$/cancelRequest" (.object [("id", .int id)])) ∧
      ∃ n method params before after, id = (n : Nat) ∧ as = before ++ .send method params :: after ∧
        (idle.actAll before).Sends n method params ∧
        (idle.actAll before).transport.sent.length < k ∧
        (idle.actAll as).transport.sent[(idle.actAll before).transport.sent.length]? =
          some (requestFrame n method params) := by
  obtain ⟨before, after, rfl, rfl, hc⟩ := of_mem_cancellations h
  obtain ⟨hw, hr⟩ := cancel_ok hc
  have hlast : ((idle.actAll before).act (.cancel id)).transport.sent <+:
      (idle.actAll (before ++ .cancel id :: after)).transport.sent := by
    rw [actAll_append]
    exact sent_actAll _ after
  rw [act, (cancel_accepted hw hr).right] at hlast
  -- The request waits, so that its frame was sent before.
  obtain ⟨n, method, hid, b, params, rest, rfl, hs, _⟩ := contains_iff.mp hw
  have hfirst : ((idle.actAll b).act (.send method params)).transport.sent <+:
      (idle.actAll (b ++ .send method params :: rest)).transport.sent := by
    rw [actAll_append]
    exact sent_actAll _ rest
  rw [act, hs.frame] at hfirst
  refine ⟨getElem?_length_of_isPrefix hlast, n, method, params, b, rest ++ .cancel id :: after, hid, ?_, hs,
    ?_, getElem?_length_of_isPrefix (hfirst.trans ((List.prefix_append _ _).trans hlast))⟩
  · rw [List.append_assoc]
    rfl
  · have hl := hfirst.length_le
    rwa [List.length_append] at hl

end Session
end LanguageClient
