import Mathlib.Algebra.GroupWithZero.Nat
import Mathlib.Data.List.Nodup
import Mathlib.Data.List.Perm.Basic
import Mathlib.Data.List.Range
import LanguageClient.Session.Pending

namespace LanguageClient

theorem filter_key_eq {α κ : Type} [DecidableEq κ] {key : α → κ} {l : List α} {x : α}
    (h : (l.map key).Nodup) (hx : x ∈ l) : l.filter (key · = key x) = [x] := by
  have hn : (l.filter (key · = key x)).Nodup := h.of_map.filter _
  refine List.perm_singleton.mp ((List.perm_ext_iff_of_nodup hn (List.nodup_singleton x)).mpr ?_)
  intro y
  simp only [List.mem_filter, decide_eq_true_eq, List.mem_singleton]
  constructor
  case mp  => exact fun hy => List.inj_on_of_nodup_map h hy.left hx hy.right
  case mpr => exact fun hy => ⟨hy ▸ hx, congrArg key hy⟩

namespace Pending

inductive Operation
  | register (id : Int) (method : String)
  | settle (id : Int) (answer : Except Rpc.ErrorObject Json)
  | expire (id : Int)
  | cancel (id : Int)
  | forget (id : Int)
  | discardAll
  | advance (millis : Nat)

def perform (p : Pending) : Operation → Pending
  | .register id method => p.register id method
  | .settle id answer => (p.settle id answer).2
  | .expire id => (p.expire id).2
  | .cancel id => (p.cancel id).2
  | .forget id => (p.forget id).2
  | .discardAll => p.discardAll.2
  | .advance millis => p.advance millis

def performAll (p : Pending) (ops : List Operation) : Pending :=
  ops.foldl perform p

namespace Operation

def millis : Operation → Nat
  | advance millis => millis
  | _ => 0

def ends (now : Nat) : Operation → Entry → Bool
  | register id _ | settle id _ | expire id | cancel id | forget id => hasId id
  | discardAll => fun _ => true
  | advance _ => fun e => e.deadline ≤ now

def ending (timeout : Nat) : Operation → Ending
  | register .. => .replaced
  | settle _ answer => .answered answer
  | expire _ | advance _ => .expired (.ofMillis timeout)
  | cancel _ => .cancelled
  | forget _ | discardAll => .discarded

def admitted (p : Pending) : Operation → List Entry
  | register id method => [⟨p.issued, id, method, p.issued, id, p.now + p.timeout⟩]
  | _ => []

def registered? : Operation → Option Int
  | register id _ => some id
  | _ => none

theorem advance_spares_iff {now millis : Nat} {e : Entry} :
    (advance millis).ends now e = false ↔ now < e.deadline := by
  simp [ends]

theorem id_ne_of_spared {op : Operation} {id : Int} {now : Nat} {e : Entry} (hr : op.registered? = some id)
    (hs : op.ends now e = false) : e.id ≠ id := by
  cases op <;> simp [registered?] at hr
  subst hr
  simpa [ends, hasId] using hs

end Operation

variable {p q r : Pending} {op : Operation} {ops : List Operation} {e : Entry} {x : Completion}
  {ends : Entry → Bool} {ending : Ending}

-- What is left of a table when waits have ended in it, whatever has become of its timers.
structure Ends (p q : Pending) : Prop where
  timeout   : q.timeout = p.timeout
  now       : q.now = p.now
  issued    : q.issued = p.issued
  entries   : q.entries.Sublist p.entries
  completed : p.completed <+: q.completed

namespace Ends

theorem refl (p : Pending) : p.Ends p :=
  ⟨rfl, rfl, rfl, List.Sublist.refl _, List.prefix_rfl⟩

theorem trans (h₁ : p.Ends q) (h₂ : q.Ends r) : p.Ends r where
  timeout   := h₂.timeout.trans h₁.timeout
  now       := h₂.now.trans h₁.now
  issued    := h₂.issued.trans h₁.issued
  entries   := h₂.entries.trans h₁.entries
  completed := h₁.completed.trans h₂.completed

theorem complete (p : Pending) (ends : Entry → Bool) (ending : Ending) :
    p.Ends (p.complete ends ending) :=
  ⟨rfl, rfl, rfl, List.filter_sublist, List.prefix_append _ _⟩

theorem fire (p : Pending) (t : Timer) : p.Ends (p.fire t) := by
  rw [Pending.fire]
  split
  case isTrue  => exact ⟨rfl, rfl, rfl, List.filter_sublist, List.prefix_append _ _⟩
  case isFalse => exact .refl p

theorem foldl_fire (ts : List Timer) (p : Pending) : p.Ends (ts.foldl Pending.fire p) := by
  induction ts generalizing p
  case nil          => exact .refl p
  case cons t ts hi => exact (fire p t).trans (hi (p.fire t))

end Ends

theorem perform_ends (p : Pending) (op : Operation) :
    { p with
      now     := p.now + op.millis
      issued  := p.issued + (op.admitted p).length
      entries := p.entries ++ op.admitted p }.Ends (p.perform op) := by
  cases op
  case register =>
    exact ⟨rfl, rfl, rfl, List.filter_sublist.append_right _, List.prefix_append _ _⟩
  all_goals simp only [Operation.admitted, List.append_nil]
  case advance => exact .foldl_fire _ _
  all_goals exact .complete p _ _

@[simp] theorem timeout_perform : (p.perform op).timeout = p.timeout :=
  (p.perform_ends op).timeout

@[simp] theorem now_perform : (p.perform op).now = p.now + op.millis :=
  (p.perform_ends op).now

theorem issued_perform : (p.perform op).issued = p.issued + (op.admitted p).length :=
  (p.perform_ends op).issued

theorem of_mem_perform (he : e ∈ (p.perform op).entries) : e ∈ p.entries ∨ e ∈ op.admitted p :=
  List.mem_append.mp ((p.perform_ends op).entries.subset he)

theorem completed_prefix (p : Pending) (op : Operation) : p.completed <+: (p.perform op).completed :=
  (p.perform_ends op).completed

theorem entries_discardAll (p : Pending) : (p.perform .discardAll).entries = [] := by
  simp [perform, discardAll, complete]

theorem complete_eq_self (h : ∀ e ∈ p.entries, ends e = false) (ending : Ending) :
    p.complete ends ending = p := by
  have hk : (p.entries.filter fun e => !ends e) = p.entries :=
    List.filter_eq_self.mpr fun e he => by simp [h e he]
  have he : p.entries.filter ends = [] :=
    List.filter_eq_nil_iff.mpr fun e he => by simp [h e he]
  simp [complete, abort, hk, he]

theorem claim_eq_self {id : Int} (h : p.contains id = false) (ending : Ending) :
    (p.claim id ending).2 = p := by
  have hn : ∀ e ∈ p.entries, hasId id e = false := by
    simpa [contains, hasId] using h
  exact complete_eq_self hn ending

@[simp] theorem performAll_nil : p.performAll [] = p :=
  rfl

@[simp] theorem performAll_cons : p.performAll (op :: ops) = (p.perform op).performAll ops :=
  rfl

theorem performAll_append (ops₁ ops₂ : List Operation) :
    p.performAll (ops₁ ++ ops₂) = (p.performAll ops₁).performAll ops₂ :=
  List.foldl_append

@[simp] theorem timeout_performAll : (p.performAll ops).timeout = p.timeout := by
  induction ops generalizing p
  case nil          => rfl
  case cons _ _ hi  => simp [hi]

theorem completed_extends (p : Pending) (ops : List Operation) :
    p.completed <+: (p.performAll ops).completed := by
  induction ops generalizing p
  case nil            => exact List.prefix_rfl
  case cons op ops hi => exact (p.completed_prefix op).trans (hi (p.perform op))

theorem now_performAll : (p.performAll ops).now = p.now + (ops.map (·.millis)).sum := by
  induction ops generalizing p
  case nil            => rfl
  case cons op ops hi => rw [performAll_cons, hi, now_perform, List.map_cons, List.sum_cons,
      Nat.add_assoc]

theorem ids_admitted (p : Pending) (op : Operation) :
    (op.admitted p).map (·.id) = op.registered?.toList := by
  cases op <;> rfl

theorem tickets_admitted :
    List.range p.issued ++ (op.admitted p).map (·.ticket) =
      List.range (p.issued + (op.admitted p).length) := by
  cases op <;> simp [Operation.admitted, List.range_succ]

theorem issued_performAll :
    (p.performAll ops).issued = p.issued + (ops.filterMap (·.registered?)).length := by
  induction ops generalizing p
  case nil            => rfl
  case cons op ops hi =>
    have ha : (op.admitted p).length = op.registered?.toList.length := by
      rw [← ids_admitted p, List.length_map]
    rw [performAll_cons, hi, issued_perform, ha]
    cases hr : op.registered? <;> simp [hr]
    omega

theorem mem_entries_performAll (he : e ∈ (p.performAll ops).entries) :
    e ∈ p.entries ∨ p.issued ≤ e.ticket := by
  induction ops generalizing p
  case nil            => exact .inl he
  case cons op ops hi =>
    rcases hi he with he | ht
    · refine (of_mem_perform he).imp_right fun he => ?_
      cases op <;> simp [Operation.admitted] at he
      subst he
      exact Nat.le_refl _
    · rw [issued_perform] at ht
      exact .inr (Nat.le_of_add_right_le ht)

theorem admitted_eq_nil (h : op.registered? = none) : op.admitted p = [] := by
  have ha := ids_admitted p op
  rwa [h, Option.toList_none, List.map_eq_nil_iff] at ha

theorem entries_performAll_eq_nil (he : p.entries = [])
    (hr : ops.filterMap (·.registered?) = []) : (p.performAll ops).entries = [] := by
  induction ops generalizing p
  case nil            => exact he
  case cons op ops hi =>
    have ⟨ho, hr⟩ : op.registered? = none ∧ ops.filterMap (·.registered?) = [] := by
      cases ho : op.registered? <;> simp_all
    refine hi (List.eq_nil_iff_forall_not_mem.mpr fun e hw => ?_) hr
    have hw := of_mem_perform hw
    simp [he, admitted_eq_nil ho] at hw

def holders (p : Pending) : List Entry :=
  p.completed.map (·.entry) ++ p.entries

-- Tickets are given out in order and never twice, each entry has a timer of its own for its own id, and the
-- timers that run are those of the entries that wait.
structure Timed (p : Pending) : Prop where
  tickets : (p.holders.map (·.ticket)).Perm (List.range p.issued)
  timers  : p.timers = p.entries.map (·.timer)
  own     : ∀ e ∈ p.holders, e.timer.task = e.ticket ∧ e.timer.id = e.id
  ids     : (p.entries.map (·.id)).Nodup

namespace Timed

theorem tickets_nodup (h : p.Timed) : (p.holders.map (·.ticket)).Nodup :=
  h.tickets.nodup_iff.mpr List.nodup_range

theorem ticket_lt (h : p.Timed) (he : e ∈ p.holders) : e.ticket < p.issued :=
  List.mem_range.mp <| h.tickets.mem_iff.mp <| List.mem_map_of_mem he

theorem timer_inj (h : p.Timed) {e' : Entry} (he : e ∈ p.holders) (he' : e' ∈ p.holders)
    (ht : e.timer = e'.timer) : e = e' := by
  refine List.inj_on_of_nodup_map h.tickets_nodup he he' ?_
  rw [← (h.own e he).left, ht, (h.own e' he').left]

theorem timers_abort (h : p.Timed) (ends : Entry → Bool) :
    p.timers.filter (· ∉ (p.entries.filter ends).map (·.timer)) =
      (p.entries.filter fun e => !ends e).map (·.timer) := by
  rw [h.timers, List.filter_map]
  -- No entry that goes on waiting shares its timer with one that does not.
  refine congrArg _ (List.filter_congr fun e he => ?_)
  have hm : e.timer ∈ (p.entries.filter ends).map (·.timer) ↔ ends e := by
    constructor
    case mp  =>
      intro hm
      have ⟨e', he', ht⟩ := List.mem_map.mp hm
      have ⟨he', hs⟩ := List.mem_filter.mp he'
      exact h.timer_inj (List.mem_append_right _ he') (List.mem_append_right _ he) ht ▸ hs
    case mpr => exact fun hs => List.mem_map_of_mem (List.mem_filter.mpr ⟨he, hs⟩)
  simp only [Function.comp_apply, hm, Bool.decide_eq_true, decide_not]

theorem complete_eq (h : p.Timed) (ends : Entry → Bool) (ending : Ending) :
    p.complete ends ending = { p with
      entries   := p.entries.filter fun e => !ends e
      timers    := (p.entries.filter fun e => !ends e).map (·.timer)
      completed := p.completed ++ (p.entries.filter ends).map fun e => ⟨e, ending⟩ } := by
  rw [← h.timers_abort ends]
  rfl

theorem holders_complete (p : Pending) (ends : Entry → Bool) (ending : Ending) :
    (p.complete ends ending).holders.Perm p.holders := by
  have hs := (List.filter_append_perm ends p.entries).append_left (p.completed.map (·.entry))
  simpa [holders, Pending.complete, abort, Function.comp_def] using hs

theorem complete (h : p.Timed) (ends : Entry → Bool) (ending : Ending) :
    (p.complete ends ending).Timed where
  tickets := ((holders_complete p ends ending).map _).trans h.tickets
  timers  := by rw [h.complete_eq]
  own     := fun e he => h.own e ((holders_complete p ends ending).mem_iff.mp he)
  ids     := h.ids.sublist (List.filter_sublist.map _)

-- A timer that goes off expires the request that it was started for, and no other one.
theorem fire_eq (h : p.Timed) (he : e ∈ p.entries) :
    p.fire e.timer = p.complete (hasId e.id) (.expired (.ofMillis p.timeout)) := by
  have ht : e.timer ∈ p.timers := by
    rw [h.timers]
    exact List.mem_map_of_mem he
  have hw : p.entries.filter (hasId e.id) = [e] := filter_key_eq h.ids he
  rw [Pending.fire, if_pos ht, (h.own e (List.mem_append_right _ he)).right]
  simp [expire, claim, Pending.complete, abort, hw, List.filter_filter]

theorem fire (h : p.Timed) (he : e ∈ p.entries) : (p.fire e.timer).Timed :=
  h.fire_eq he ▸ h.complete _ _

theorem fire_append (h : p.Timed) (he : p.entries = before ++ e :: after) :
    p.fire e.timer = { p with
      entries   := before ++ after
      timers    := (before ++ after).map (·.timer)
      completed := p.completed ++ [⟨e, .expired (.ofMillis p.timeout)⟩] } := by
  have hm : e ∈ p.entries := he ▸ List.mem_append_right _ List.mem_cons_self
  have hw : p.entries.filter (hasId e.id) = [e] := filter_key_eq h.ids hm
  have hn : ∀ x ∈ before ++ after, hasId e.id x = false := by
    have hn := h.ids
    rw [he, List.map_append, List.map_cons, List.nodup_middle, ← List.map_append] at hn
    intro x hx
    refine decide_eq_false fun hid => (List.nodup_cons.mp hn).left ?_
    exact hid ▸ List.mem_map_of_mem hx
  have hs : (p.entries.filter fun x => !hasId e.id x) = before ++ after := by
    rw [he, List.filter_append, List.filter_cons_of_neg (by simp [hasId]), ← List.filter_append]
    exact List.filter_eq_self.mpr fun x hx => by simp [hn x hx]
  rw [h.fire_eq hm, h.complete_eq, hs, hw]
  rfl

-- The induction goes over the entries that have not been looked at; the ones before them are not due.
theorem foldl_fire (h : p.Timed) {due : Entry → Bool} (he : p.entries = before ++ after)
    (hb : ∀ e ∈ before, due e = false) :
    ((after.filter due).map (·.timer)).foldl Pending.fire p =
      p.complete due (.expired (.ofMillis p.timeout)) := by
  induction after generalizing p before
  case nil =>
    rw [List.append_nil] at he
    exact (complete_eq_self (he ▸ hb) _).symm
  case cons e after hi =>
    cases hd : due e
    case false =>
      rw [List.filter_cons_of_neg (by simp [hd])]
      refine hi h (he.trans (List.append_cons before e after)) ?_
      exact List.forall_mem_append.mpr ⟨hb, List.forall_mem_singleton.mpr hd⟩
    case true =>
      have hm : e ∈ p.entries := he ▸ List.mem_append_right _ List.mem_cons_self
      have hf := h.fire_append he
      have hq := hi (h.fire hm) (by rw [hf]) hb
      have hbefore : before.filter due = [] :=
        List.filter_eq_nil_iff.mpr fun x hx => by simp [hb x hx]
      rw [List.filter_cons_of_pos hd, List.map_cons, List.foldl_cons, hq, (h.fire hm).complete_eq,
        h.complete_eq, hf]
      simp [he, hd, hbefore]

theorem advance_eq (h : p.Timed) (millis : Nat) :
    p.advance millis = { p with now := p.now + millis }.complete (fun e => e.deadline ≤ p.now + millis)
      (.expired (.ofMillis p.timeout)) := by
  have hf : p.timers.filter (·.deadline ≤ p.now + millis) =
      (p.entries.filter fun e => e.deadline ≤ p.now + millis).map (·.timer) := by
    rw [h.timers, List.filter_map]
    rfl
  have ht : { p with now := p.now + millis }.Timed := ⟨h.tickets, h.timers, h.own, h.ids⟩
  rw [advance, hf]
  exact ht.foldl_fire (List.nil_append _).symm nofun

theorem timers_register (h : p.Timed) (id : Int) (method : String) :
    (p.register id method).timers = (p.register id method).entries.map (·.timer) := by
  -- The task is new, so that its timer is not among those that are stopped for its id.
  have hn : (⟨p.issued, id, p.now + p.timeout⟩ : Timer) ∉ (p.entries.filter (hasId id)).map (·.timer) := by
    intro hm
    have ⟨e, he, ht⟩ := List.mem_map.mp hm
    have he := List.mem_append_right (p.completed.map (·.entry)) (List.mem_filter.mp he).left
    have hlt := h.ticket_lt he
    rw [← (h.own e he).left, ht] at hlt
    exact absurd hlt (Nat.lt_irrefl _)
  simp only [register, Pending.complete, abort, List.filter_append, h.timers_abort, List.map_append]
  refine congrArg _ (List.filter_eq_self.mpr fun t ht => ?_)
  cases List.mem_singleton.mp ht
  exact decide_eq_true hn

theorem perform_eq (h : p.Timed) (op : Operation) :
    p.perform op =
      { timeout   := p.timeout
        now       := p.now + op.millis
        issued    := p.issued + (op.admitted p).length
        entries   := (p.entries.filter fun e => !op.ends (p.now + op.millis) e) ++ op.admitted p
        timers    :=
          ((p.entries.filter fun e => !op.ends (p.now + op.millis) e) ++ op.admitted p).map (·.timer)
        completed := p.completed ++
          (p.entries.filter (op.ends (p.now + op.millis))).map fun e => ⟨e, op.ending p.timeout⟩ } := by
  cases op
  case register id method =>
    calc p.register id method
      _ = { p.register id method with timers := (p.register id method).timers } := rfl
      _ = _                                                                      := by
        rw [h.timers_register]
        rfl
  case advance millis =>
    have ht : { p with now := p.now + millis }.Timed := ⟨h.tickets, h.timers, h.own, h.ids⟩
    rw [Pending.perform, h.advance_eq, ht.complete_eq]
    simp only [Operation.admitted, List.append_nil]
    rfl
  all_goals
    simp only [Operation.admitted, List.append_nil]
    exact h.complete_eq _ _

theorem entries_perform (h : p.Timed) :
    (p.perform op).entries =
      (p.entries.filter fun e => !op.ends (p.now + op.millis) e) ++ op.admitted p := by
  rw [h.perform_eq]

theorem completed_perform (h : p.Timed) :
    (p.perform op).completed = p.completed ++
      (p.entries.filter (op.ends (p.now + op.millis))).map fun e => ⟨e, op.ending p.timeout⟩ := by
  rw [h.perform_eq]

theorem mem_entries_perform (h : p.Timed) :
    e ∈ (p.perform op).entries ↔
      (e ∈ p.entries ∧ op.ends (p.now + op.millis) e = false) ∨ e ∈ op.admitted p := by
  simp [h.entries_perform]

theorem holders_perform (h : p.Timed) (op : Operation) :
    (p.perform op).holders.Perm (p.holders ++ op.admitted p) := by
  have hs := List.filter_append_perm (op.ends (p.now + op.millis)) p.entries
  have hs := (hs.append_right (op.admitted p)).append_left (p.completed.map (·.entry))
  simpa [holders, h.completed_perform, h.entries_perform, Function.comp_def] using hs

theorem mem_holders_perform (h : p.Timed) :
    e ∈ (p.perform op).holders ↔ e ∈ p.holders ∨ e ∈ op.admitted p := by
  rw [(h.holders_perform op).mem_iff, List.mem_append]

theorem perform (h : p.Timed) (op : Operation) : (p.perform op).Timed where
  tickets := by
    have hp := (h.holders_perform op).map (·.ticket)
    rw [List.map_append] at hp
    rw [issued_perform, ← tickets_admitted]
    exact hp.trans (h.tickets.append_right _)
  timers := by rw [h.perform_eq]
  own := by
    intro e he
    rcases h.mem_holders_perform.mp he with he | he
    · exact h.own e he
    · cases op <;> simp [Operation.admitted] at he
      subst he
      exact ⟨rfl, rfl⟩
  ids := by
    rw [h.entries_perform, List.map_append, ids_admitted]
    refine List.nodup_append.mpr ⟨h.ids.sublist (List.filter_sublist.map _), ?_, ?_⟩
    · cases op.registered? <;> simp
    · intro id hid id' hid'
      -- An entry with the id that is registered is replaced.
      have ⟨e, he, hi⟩ := List.mem_map.mp hid
      have hs : op.ends (p.now + op.millis) e = false := by simpa using (List.mem_filter.mp he).right
      have hne := Operation.id_ne_of_spared (Option.mem_toList.mp hid') hs
      exact hi ▸ hne

theorem performAll (h : p.Timed) (ops : List Operation) : (p.performAll ops).Timed := by
  induction ops generalizing p
  case nil            => exact h
  case cons op ops hi => exact hi (h.perform op)

theorem ended_performAll (h : p.Timed) (he : e ∈ p.entries) (ops : List Operation) :
    e ∈ (p.performAll ops).entries ∨ ∃ op ∈ ops, (∃ now, op.ends now e) ∧
      ⟨e, op.ending p.timeout⟩ ∈ (p.performAll ops).completed := by
  induction ops generalizing p
  case nil            => exact .inl he
  case cons op ops hi =>
    cases hs : op.ends (p.now + op.millis) e
    case true =>
      refine .inr ⟨op, List.mem_cons_self, ⟨_, hs⟩, ?_⟩
      refine ((p.perform op).completed_extends ops).subset ?_
      rw [h.completed_perform]
      exact List.mem_append_right _ <| List.mem_map_of_mem <| List.mem_filter.mpr ⟨he, hs⟩
    case false =>
      rcases hi (h.perform op) (h.mem_entries_perform.mpr (.inl ⟨he, hs⟩)) with he | ⟨op', ho', hs', hx⟩
      · exact .inl he
      · exact .inr ⟨op', List.mem_cons_of_mem _ ho', hs', by rwa [timeout_perform] at hx⟩

theorem id_eq_ticket (ht : p.Timed) {k : Nat} (h : ∀ e ∈ p.holders, e.id = e.ticket)
    (hr : ops.filterMap (·.registered?) = (List.range' p.issued k).map (Nat.cast (R := Int))) :
    ∀ e ∈ (p.performAll ops).holders, e.id = e.ticket := by
  induction ops generalizing p k
  case nil            => exact h
  case cons op ops hi =>
    cases ho : op.registered?
    case none =>
      have ha := admitted_eq_nil (p := p) ho
      refine hi (k := k) (ht.perform op) (fun e he => ?_) ?_
      · rcases ht.mem_holders_perform.mp he with he | he
        · exact h e he
        · simp [ha] at he
      · rw [issued_perform, ha]
        simpa [ho] using hr
    case some id =>
      cases k
      case zero => simp [ho] at hr
      case succ k =>
        simp only [List.filterMap_cons, ho, List.range'_succ, List.map_cons, List.cons.injEq] at hr
        cases op <;> simp [Operation.registered?] at ho
        subst ho
        refine hi (k := k) (ht.perform _) (fun e he => ?_) hr.right
        rcases ht.mem_holders_perform.mp he with he | he
        · exact h e he
        · simp only [Operation.admitted, List.mem_singleton] at he
          subst he
          exact hr.left

end Timed

-- The deadline of an entry is not reached. Only without any timeout is it there from the start, and
-- the next look at the clock ends the wait.
def Ahead (p : Pending) (e : Entry) : Prop :=
  p.now < e.deadline ∨ p.timeout = 0 ∧ p.now = e.deadline

structure Sound (p : Pending) : Prop extends Timed p where
  ahead  : ∀ e ∈ p.entries, p.Ahead e
  within : ∀ e ∈ p.entries, e.deadline ≤ p.now + p.timeout

theorem admitted_ahead (he : e ∈ op.admitted p) :
    (p.perform op).Ahead e ∧ e.deadline ≤ (p.perform op).now + (p.perform op).timeout := by
  cases op <;> simp [Operation.admitted] at he
  subst he
  simp only [Ahead, now_perform, timeout_perform, Operation.millis, Entry.deadline]
  omega

namespace Sound

theorem empty (timeout : Nat) : (Pending.empty timeout).Sound where
  tickets := .refl _
  timers  := rfl
  own     := nofun
  ids     := List.nodup_nil
  ahead   := nofun
  within  := nofun

theorem ahead_of_spared (h : p.Sound) (he : e ∈ p.entries)
    (hs : op.ends (p.now + op.millis) e = false) : (p.perform op).Ahead e := by
  have ha := h.ahead e he
  rw [Ahead, now_perform, timeout_perform]
  cases op
  case advance => exact .inl <| Operation.advance_spares_iff.mp hs
  all_goals exact ha

theorem perform (h : p.Sound) (op : Operation) : (p.perform op).Sound where
  toTimed := h.toTimed.perform op
  ahead := by
    intro e he
    cases h.mem_entries_perform.mp he
    case inl he => exact h.ahead_of_spared he.left he.right
    case inr he => exact (admitted_ahead he).left
  within := by
    intro e he
    cases h.mem_entries_perform.mp he
    case inl he =>
      have hw := h.within e he.left
      rw [now_perform, timeout_perform]
      omega
    case inr he => exact (admitted_ahead he).right

theorem performAll (h : p.Sound) (ops : List Operation) : (p.performAll ops).Sound := by
  induction ops generalizing p
  case nil            => exact h
  case cons op ops hi => exact hi (h.perform op)

theorem completed_nodup (h : p.Sound) : (p.completed.map (·.entry.ticket)).Nodup := by
  have hn := h.tickets_nodup
  rw [holders, List.map_append, List.map_map] at hn
  exact hn.of_append_left

theorem outcome?_of_completed (h : p.Sound) (hx : x ∈ p.completed) :
    p.outcome? x.entry.ticket = some x.outcome := by
  have hn := h.completed_nodup
  have hf : (p.completed.find? fun c => c.entry.ticket = x.entry.ticket).isSome :=
    List.find?_isSome.mpr ⟨x, hx, by simp⟩
  have ⟨y, hy⟩ := Option.isSome_iff_exists.mp hf
  have ht : y.entry.ticket = x.entry.ticket := by simpa using List.find?_some hy
  have hxy : y = x := List.inj_on_of_nodup_map hn (List.mem_of_find?_eq_some hy) hx ht
  rw [outcome?, hy, hxy]
  rfl

theorem outcome?_of_waiting (h : p.Sound) (he : e ∈ p.entries) : p.outcome? e.ticket = none := by
  have hn := h.tickets_nodup
  rw [holders, List.map_append, List.map_map] at hn
  have hd := (List.nodup_append.mp hn).right.right
  have hf : (p.completed.find? fun c => c.entry.ticket = e.ticket) = none := by
    refine List.find?_eq_none.mpr fun y hy => ?_
    simpa using hd _ (List.mem_map_of_mem hy) _ (List.mem_map_of_mem he)
  rw [outcome?, hf]
  rfl

theorem outcome?_of_unissued (h : p.Sound) {ticket : Nat} (ht : p.issued ≤ ticket) :
    p.outcome? ticket = none := by
  have hf : (p.completed.find? fun c => c.entry.ticket = ticket) = none := by
    refine List.find?_eq_none.mpr fun x hx => ?_
    have hl := h.ticket_lt (List.mem_append_left _ (List.mem_map_of_mem hx))
    simp only [decide_eq_true_eq]
    omega
  rw [outcome?, hf]
  rfl

-- Once the timeout has gone by, nothing waits that waited before.
theorem entries_expired (h : p.Sound) {millis : Nat} (hm : p.timeout ≤ millis) :
    (p.perform (.advance millis)).entries = [] := by
  refine List.eq_nil_iff_forall_not_mem.mpr fun e he => ?_
  rcases h.mem_entries_perform.mp he with ⟨he, hs⟩ | he
  · have hw := h.within e he
    have hs := Operation.advance_spares_iff.mp hs
    simp only [Operation.millis] at hs
    omega
  · cases he

theorem outcome?_isSome (h : p.Sound) (he : p.entries = []) {ticket : Nat}
    (ht : ticket < p.issued) : ∃ outcome, p.outcome? ticket = some outcome := by
  have ht := h.tickets.mem_iff.mpr (List.mem_range.mpr ht)
  rw [holders, he, List.append_nil, List.map_map] at ht
  have ⟨x, hx, ht⟩ := List.mem_map.mp ht
  exact ⟨x.outcome, ht ▸ h.outcome?_of_completed hx⟩

theorem exists_entry (h : p.Sound) {ticket : Nat} (ht : ticket < p.issued)
    (ho : p.outcome? ticket = none) : ∃ e ∈ p.entries, e.ticket = ticket := by
  have ht := h.tickets.mem_iff.mpr (List.mem_range.mpr ht)
  have ⟨e, he, ht⟩ := List.mem_map.mp ht
  subst ht
  rcases List.mem_append.mp he with he | he
  · have ⟨x, hx, hxe⟩ := List.mem_map.mp he
    rw [← hxe, h.outcome?_of_completed hx] at ho
    cases ho
  · exact ⟨e, he, rfl⟩

end Sound

theorem exists_completed {ticket : Nat} {outcome : Except Failure Json}
    (h : p.outcome? ticket = some outcome) :
    ∃ x ∈ p.completed, x.entry.ticket = ticket ∧ x.outcome = outcome := by
  have ⟨x, hx, ho⟩ := Option.map_eq_some_iff.mp h
  exact ⟨x, List.mem_of_find?_eq_some hx, by simpa using List.find?_some hx, ho⟩

def Ending.isDue : Ending → Bool
  | .answered _ | .expired _ | .cancelled => true
  | .discarded | .replaced => false

-- An entry still waits, or its wait has ended by an answer, a cancellation or its timeout.
def Honours (p : Pending) (e : Entry) : Prop :=
  e ∈ p.entries ∨ ∃ x ∈ p.completed, x.entry = e ∧ x.ending.isDue

theorem Honours.mem_holders (h : p.Honours e) : e ∈ p.holders := by
  rcases h with he | ⟨x, hx, rfl, _⟩
  · exact List.mem_append_right _ he
  · exact List.mem_append_left _ (List.mem_map_of_mem hx)

theorem Honours.performAll (h : p.Honours e) (ht : p.Timed)
    (ho : ∀ op ∈ ops, ∀ now, op.ends now e → (op.ending p.timeout).isDue) :
    (p.performAll ops).Honours e := by
  rcases h with he | ⟨x, hx, h⟩
  · rcases ht.ended_performAll he ops with he | ⟨op, hop, ⟨now, hs⟩, hx⟩
    · exact .inl he
    · exact .inr ⟨_, hx, rfl, ho op hop now hs⟩
  · exact .inr ⟨x, (p.completed_extends ops).subset hx, h⟩

end Pending
end LanguageClient
