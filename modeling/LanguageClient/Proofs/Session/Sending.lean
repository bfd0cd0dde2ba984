import LanguageClient.Proofs.Session.Responses

namespace LanguageClient

namespace Pending

variable {n : Nat} {p q r : Pending} {op : Operation} {ops : List Operation}

-- Two tables with the same clock and the same requests below a ticket: those that wait, with their
-- methods and deadlines, and those that have ended, with what they were told.
structure Agree (n : Nat) (p q : Pending) : Prop where
  timeout   : p.timeout = q.timeout
  now       : p.now = q.now
  entries   : p.entries.filter (·.ticket < n) = q.entries.filter (·.ticket < n)
  completed : p.completed.filter (·.entry.ticket < n) = q.completed.filter (·.entry.ticket < n)

namespace Agree

theorem refl (n : Nat) (p : Pending) : p.Agree n p :=
  ⟨rfl, rfl, rfl, rfl⟩

theorem symm (h : p.Agree n q) : q.Agree n p :=
  ⟨h.timeout.symm, h.now.symm, h.entries.symm, h.completed.symm⟩

theorem trans (h₁ : p.Agree n q) (h₂ : q.Agree n r) : p.Agree n r where
  timeout   := h₁.timeout.trans h₂.timeout
  now       := h₁.now.trans h₂.now
  entries   := h₁.entries.trans h₂.entries
  completed := h₁.completed.trans h₂.completed

theorem outcome?_eq (h : p.Agree n q) {ticket : Nat} (ht : ticket < n) :
    p.outcome? ticket = q.outcome? ticket := by
  have hf (r : Pending) : (r.completed.find? fun x => x.entry.ticket = ticket) =
      (r.completed.filter (·.entry.ticket < n)).find? fun x => x.entry.ticket = ticket := by
    rw [List.find?_filter]
    congr 1
    funext x
    by_cases hx : x.entry.ticket = ticket <;> simp [hx, ht]
  rw [outcome?, outcome?, hf p, hf q, h.completed]

theorem perform (h : p.Agree n q) (hp : p.Timed) (hq : q.Timed) (ho : op.registered? = none) :
    (p.perform op).Agree n (q.perform op) := by
  have hf (f : Entry → Bool) :
      (p.entries.filter f).filter (·.ticket < n) = (q.entries.filter f).filter (·.ticket < n) := by
    rw [List.filter_comm, h.entries, List.filter_comm]
  constructor
  case timeout => simp [h.timeout]
  case now     => simp [h.now]
  case entries =>
    rw [hp.entries_perform, hq.entries_perform, admitted_eq_nil ho, admitted_eq_nil ho, List.append_nil,
      List.append_nil, h.now]
    exact hf _
  case completed =>
    have hx := hf (op.ends (q.now + op.millis))
    simp only [hp.completed_perform, hq.completed_perform, List.filter_append, h.completed, h.now, h.timeout, List.filter_map,
      Function.comp_def, hx]

theorem performAll (h : p.Agree n q) (hp : p.Timed) (hq : q.Timed)
    (ho : ∀ op ∈ ops, op.registered? = none) :
    (p.performAll ops).Agree n (q.performAll ops) := by
  induction ops generalizing p q
  case nil            => exact h
  case cons op ops hi =>
    have ⟨ho, hos⟩ := List.forall_mem_cons.mp ho
    exact hi (h.perform hp hq ho) (hp.perform op) (hq.perform op) hos

end Agree

theorem Timed.agree_perform (h : p.Timed) (hm : op.millis = 0) (ha : ∀ e ∈ op.admitted p, n ≤ e.ticket)
    (hs : ∀ e ∈ p.entries, e.ticket < n → op.ends (p.now + op.millis) e = false) :
    p.Agree n (p.perform op) := by
  constructor
  case timeout => simp
  case now     => simp [hm]
  case entries =>
    have ha : (op.admitted p).filter (·.ticket < n) = [] :=
      List.filter_eq_nil_iff.mpr fun e he => by simpa using ha e he
    rw [h.entries_perform, List.filter_append, ha, List.append_nil, List.filter_filter]
    refine List.filter_congr fun e he => ?_
    by_cases ht : e.ticket < n
    case pos => simp [ht, hs e he ht]
    case neg => simp [ht]
  case completed =>
    have hx : ((p.entries.filter (op.ends (p.now + op.millis))).map fun e =>
        (⟨e, op.ending p.timeout⟩ : Completion)).filter (·.entry.ticket < n) = [] := by
      refine List.filter_eq_nil_iff.mpr fun x hx => ?_
      have ⟨e, he, hx⟩ := List.mem_map.mp hx
      have ⟨he, hends⟩ := List.mem_filter.mp he
      subst hx
      simp only [decide_eq_true_eq]
      intro ht
      rw [hs e he ht] at hends
      cases hends
    rw [h.completed_perform, List.filter_append, hx, List.append_nil]

end Pending

structure Gate where
  lifecycle     : Lifecycle
  startRefusal? : Option String
  sendRefusal?  : Option String

def Action.gate (g : Gate) : Action → Gate
  | start .. =>
    { g with lifecycle := if g.startRefusal?.isNone then .ready else .stopped, startRefusal? := none }
  | stop => { g with lifecycle := .stopped }
  | refuseStart reason => { g with startRefusal? := some reason }
  | refuseSends sendRefusal? => { g with sendRefusal? }
  | _ => g

namespace Session

variable {n : Nat} {s t u : Session} {a : Action} {method : String} {params : Json}

def gate (s : Session) : Gate :=
  ⟨s.lifecycle, s.transport.startRefusal?, s.transport.sendRefusal?⟩

theorem staged_sendRefusal? (s : Session) :
    s.staged.transport.sendRefusal? = s.transport.sendRefusal? := by
  have ⟨notices, h⟩ := s.staged_eq
  rw [h]
  split <;> rfl

theorem gate_act (s : Session) (a : Action) : (s.act a).gate = a.gate s.gate := by
  cases hw : a.writes
  case true =>
    obtain ⟨_, _, _, _, h⟩ := s.act_writes hw
    rw [h]
    cases a
    case send | notify | sendNotification | cancel | write => rfl
    all_goals cases hw
  case false =>
    cases a
    case send | notify | sendNotification | cancel | write => cases hw
    case start command args =>
      have hr := s.staged_sendRefusal?
      cases hs : s.transport.startRefusal?
      case none =>
        obtain ⟨_, _, _, h⟩ := start_accepted hs command args
        simp [act, h, gate, Action.gate, hs, hr]
      case some =>
        obtain ⟨_, h⟩ := start_refused hs command args
        have hc : s.staged.cleanup.transport.sendRefusal? = s.staged.transport.sendRefusal? := rfl
        simp [act, h, gate, Action.gate, hs, hr, hc]
    case deliver e =>
      obtain ⟨_, _, _, _, h⟩ := s.handle_eq e
      rw [act, h]
      rfl
    all_goals rfl

-- Two sessions that do the same with all requests below a ticket, now and later.
structure Agree (n : Nat) (s t : Session) : Prop where
  numbered : s.Numbered ∧ t.Numbered
  issued   : n ≤ s.issued ∧ n ≤ t.issued
  gate     : s.gate = t.gate
  pending  : s.pending.Agree n t.pending

theorem agree_send (hn : s.Numbered) (hi : n ≤ s.issued) (method : String) (params : Json) :
    s.pending.Agree n (s.act (.send method params)).pending := by
  have hw (e : Pending.Entry) (he : e ∈ s.pending.entries) (ht : e.ticket < n) :
      Pending.hasId s.issued e = false := by
    have hid := hn.ids e (List.mem_append_right _ he)
    simp only [Pending.hasId, decide_eq_false_iff_not]
    omega
  have hr : s.pending.Agree n (s.pending.perform (.register s.issued method)) := by
    refine hn.sound.agree_perform rfl (fun e he => ?_) hw
    cases List.mem_singleton.mp he
    exact hn.issued ▸ hi
  rw [pending_act, Action.operations]
  split
  case isFalse => exact .refl n _
  case isTrue  =>
    split
    case isTrue  => exact hr
    -- A request that is forgotten at once has been the latest, and no earlier one has its id.
    case isFalse =>
      have hf : (s.pending.perform (.register s.issued method)).Agree n
          ((s.pending.perform (.register s.issued method)).perform (.forget s.issued)) := by
        refine (hn.sound.perform _).agree_perform rfl (fun _ he => by cases he) fun e he ht => ?_
        rcases hn.sound.mem_entries_perform.mp he with ⟨he, _⟩ | he
        · exact hw e he ht
        · cases List.mem_singleton.mp he
          have hi : n ≤ s.pending.issued := hn.issued ▸ hi
          exact absurd ht (Nat.not_lt.mpr hi)
      exact hr.trans hf

namespace Agree

theorem act (h : s.Agree n t) (a : Action) : (s.act a).Agree n (t.act a) := by
  have ⟨hs, ht⟩ := h.numbered
  have ⟨his, hit⟩ := h.issued
  constructor
  case numbered => exact ⟨hs.act a, ht.act a⟩
  case issued   => exact ⟨s.issued_act a ▸ Nat.le_add_right_of_le his,
    t.issued_act a ▸ Nat.le_add_right_of_le hit⟩
  case gate     => rw [gate_act, gate_act, h.gate]
  case pending  =>
    by_cases ha : ∃ method params, a = .send method params
    case pos =>
      -- the two sessions give the new request different ids, both beyond the ticket
      obtain ⟨method, params, rfl⟩ := ha
      exact (agree_send hs his method params).symm.trans
        (h.pending.trans (agree_send ht hit method params))
    case neg =>
      have hl : s.lifecycle = t.lifecycle := congrArg Gate.lifecycle h.gate
      have ho : a.operations s = a.operations t := by
        cases a
        case send => exact absurd ⟨_, _, rfl⟩ ha
        case start => rw [Action.operations, Action.operations, hl]
        all_goals rfl
      rw [pending_act, pending_act, ho]
      refine h.pending.performAll hs.sound.toTimed ht.sound.toTimed fun op hop => ?_
      cases a
      case send => exact absurd ⟨_, _, rfl⟩ ha
      case start =>
        rw [Action.operations] at hop
        split at hop
        · cases hop
        · cases List.mem_singleton.mp hop
          rfl
      case deliver e =>
        simp only [Action.operations, Option.mem_toList, Option.map_eq_some_iff] at hop
        obtain ⟨_, _, rfl⟩ := hop
        rfl
      case stop | cancel | advance =>
        cases List.mem_singleton.mp hop
        rfl
      all_goals cases hop

theorem actAll (h : s.Agree n t) (as : List Action) : (s.actAll as).Agree n (t.actAll as) := by
  induction as generalizing s t
  case nil          => exact h
  case cons a as hi => exact hi (h.act a)

end Agree

def hindrance? (s : Session) : Option Failure :=
  (s.refusal? "send").or (s.transport.sendRefusal?.map fun reason => .transport (.send reason))

-- A session that has at most used up an id. Whatever it has told since concerns the ticket of this id,
-- which nobody holds.
def Untraced (s t : Session) : Prop :=
  ∃ issued completed notices, (∀ x ∈ completed, x.entry.ticket = s.issued) ∧
    t = { s with
      issued, notices
      pending := { s.pending with
        issued    := issued
        completed := s.pending.completed ++ completed } }

def Asking (s t : Session) (method : String) (params : Json) : Prop :=
  ∃ handshake notices, t = { s with
    issued := s.issued + 1
    pending := { s.pending with
      issued  := s.issued + 1
      entries := s.pending.entries ++ [s.nextEntry method]
      timers  := s.pending.timers ++ [(s.nextEntry method).timer] }
    transport := { s.transport with
      sent := s.transport.sent ++ [requestFrame s.issued method params] }
    handshake, notices }

theorem Numbered.contains_issued (hn : s.Numbered) : s.pending.contains s.issued = false := by
  refine List.any_eq_false.mpr fun e he => ?_
  have he := List.mem_append_right (s.pending.completed.map (·.entry)) he
  have hid := hn.ids e he
  have ht := hn.sound.ticket_lt he
  have hi := hn.issued
  simp only [decide_eq_true_eq]
  omega

theorem Numbered.filter_issued (hn : s.Numbered) :
    s.pending.entries.filter (Pending.hasId s.issued) = [] ∧
      (s.pending.entries.filter fun e => !Pending.hasId s.issued e) = s.pending.entries := by
  have hw : ∀ e ∈ s.pending.entries, ¬Pending.hasId s.issued e := List.any_eq_false.mp hn.contains_issued
  exact ⟨List.filter_eq_nil_iff.mpr hw, List.filter_eq_self.mpr fun e he => by simp [hw e he]⟩

theorem Numbered.register_eq (hn : s.Numbered) (method : String) :
    s.pending.register s.issued method = { s.pending with
      issued  := s.issued + 1
      entries := s.pending.entries ++ [s.nextEntry method]
      timers  := s.pending.timers ++ [(s.nextEntry method).timer] } := by
  have hp : s.pending.register s.issued method = s.pending.perform (.register s.issued method) := rfl
  have ⟨hc, hk⟩ := hn.filter_issued
  rw [hp, hn.sound.perform_eq, hn.admitted, hn.sound.timers, ← hn.issued]
  simp only [Pending.Operation.ends, hn.issued, hk, hc, List.map_append, List.map_nil, List.append_nil]
  rfl

theorem Numbered.register_forget (hn : s.Numbered) (method : String) :
    ((s.pending.register s.issued method).forget s.issued).2 = { s.pending with
      issued    := s.issued + 1
      completed := s.pending.completed ++ [⟨s.nextEntry method, .discarded⟩] } := by
  have hf : ((s.pending.register s.issued method).forget s.issued).2 =
      (s.pending.perform (.register s.issued method)).complete (Pending.hasId s.issued) .discarded := rfl
  have hp : s.pending.register s.issued method = s.pending.perform (.register s.issued method) := rfl
  have hn' : Pending.hasId s.issued (s.nextEntry method) := decide_eq_true rfl
  have ⟨hc, hk⟩ := hn.filter_issued
  -- The timer that was started for the entry is stopped with it.
  rw [hf, (hn.sound.perform _).complete_eq, ← hp, hn.register_eq]
  simp [hk, hc, hn', hn.sound.timers]

theorem send_hindered (hn : s.Numbered) {f : Failure} (h : s.hindrance? = some f)
    (method : String) (params : Json) :
    ∃ t, s.send method params = (.error f, t) ∧ s.Untraced t := by
  cases ha : s.lifecycle.acceptsTraffic
  case false =>
    have hf : f = .invalidState "send" s.lifecycle.name := by
      simpa [hindrance?, refusal?, ha] using h.symm
    have hp : { s.pending with
        issued := s.issued, completed := s.pending.completed ++ [] } = s.pending := by
      rw [← hn.issued, List.append_nil]
    exact ⟨s, by rw [send_closed ha, hf], s.issued, [], s.notices, by simp, by rw [hp]⟩
  case true =>
    cases hr : s.transport.sendRefusal?
    case none        => simp [hindrance?, refusal?, ha, hr] at h
    case some reason =>
      have hf : f = .transport (.send reason) := by
        simpa [hindrance?, refusal?, ha, hr] using h.symm
      obtain ⟨notices, hs⟩ := send_refused ha hr method params
      rw [hn.register_forget] at hs
      exact ⟨_, by rw [hs, hf], _, _, notices, List.forall_mem_singleton.mpr rfl, rfl⟩

theorem send_unhindered (hn : s.Numbered) (h : s.hindrance? = none) (method : String)
    (params : Json) :
    ∃ t, s.send method params = (.ok ⟨s.issued, s.issued, method⟩, t) ∧
      s.Asking t method params := by
  cases ha : s.lifecycle.acceptsTraffic
  case false => simp [hindrance?, refusal?, ha] at h
  case true =>
    have hr : s.transport.sendRefusal? = none := by
      simpa [hindrance?, refusal?, ha] using h
    obtain ⟨notices, hs⟩ := send_accepted ha hr method params
    rw [hn.register_eq] at hs
    exact ⟨_, by rw [hs, hn.issued], s.handshake, notices, rfl⟩

end Session
end LanguageClient
