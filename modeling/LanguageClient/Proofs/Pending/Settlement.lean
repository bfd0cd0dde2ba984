import LanguageClient.Proofs.Pending.Operations

namespace LanguageClient.Pending

-- A wait as the one who waits knows it: what was asked, and how long ago.
structure Wait where
  id     : Int
  method : String
  age    : Nat

namespace Wait

def told? (timeout : Nat) (w : Wait) : Operation → Option (Except Failure Json)
  | .settle id answer =>
    if w.id = id then some (answer.mapError (.rejected w.method)) else none
  | .expire id =>
    if w.id = id then some (.error (.timeout w.id w.method (.ofMillis timeout))) else none
  | .advance millis =>
    if timeout ≤ w.age + millis then some (.error (.timeout w.id w.method (.ofMillis timeout)))
    else none
  | .cancel id =>
    if w.id = id then some (.error (.cancelled w.id w.method)) else none
  | .forget id | .register id _ =>
    if w.id = id then some (.error (.discarded w.id w.method)) else none
  | .discardAll => some (.error (.discarded w.id w.method))

def after (w : Wait) (op : Operation) : Wait :=
  { w with age := w.age + op.millis }

-- What the first operation that concerns a wait tells.
def first? (timeout : Nat) (w : Wait) : List Operation → Option (Except Failure Json)
  | []        => none
  | op :: ops => (w.told? timeout op).or ((w.after op).first? timeout ops)

end Wait

structure Fate where
  id       : Int
  method   : String
  start    : Nat
  outcome? : Option (Except Failure Json)

def Fate.waits (f : Fate) : Bool :=
  f.outcome?.isNone

def fates (timeout now : Nat) : List Operation → List Fate
  | [] => []
  | .register id method :: ops =>
    ⟨id, method, now, Wait.first? timeout ⟨id, method, 0⟩ ops⟩ :: fates timeout now ops
  | op :: ops => fates timeout (now + op.millis) ops

def wait (p : Pending) (e : Entry) : Wait :=
  ⟨e.id, e.method, p.now + p.timeout - e.deadline⟩

variable {p : Pending} {op : Operation} {ops : List Operation} {e : Entry}

theorem told?_wait (h : e.deadline ≤ p.now + p.timeout) :
    (p.wait e).told? p.timeout op =
      if op.ends (p.now + op.millis) e then some (Completion.outcome ⟨e, op.ending p.timeout⟩)
      else none := by
  cases op
  case advance millis =>
    have ha : p.timeout ≤ p.now + p.timeout - e.deadline + millis ↔ e.deadline ≤ p.now + millis := by
      omega
    by_cases hd : e.deadline ≤ p.now + millis <;>
      simp [Wait.told?, wait, ha, hd, Operation.ends, Operation.millis, Operation.ending,
        Completion.outcome]
  case discardAll => rfl
  case settle id answer =>
    cases answer <;> by_cases hi : e.id = id <;>
      simp [Wait.told?, wait, hi, Operation.ends, hasId, Operation.ending, Completion.outcome,
        Except.mapError]
  case register id _ | expire id | cancel id | forget id =>
    by_cases hi : e.id = id <;>
      simp [Wait.told?, wait, hi, Operation.ends, hasId, Operation.ending, Completion.outcome]

theorem wait_perform (h : e.deadline ≤ p.now + p.timeout) :
    (p.perform op).wait e = (p.wait e).after op := by
  simp only [wait, Wait.after, now_perform, timeout_perform, Wait.mk.injEq, true_and]
  omega

namespace Sound

-- The induction follows the operations: the first one that ends the entry completes its ticket, and
-- what is completed stays so.
theorem outcome?_of_entry (h : p.Sound) (he : e ∈ p.entries) (ops : List Operation) :
    (p.performAll ops).outcome? e.ticket = (p.wait e).first? p.timeout ops := by
  induction ops generalizing p
  case nil            => exact h.outcome?_of_waiting he
  case cons op ops hi =>
    have hd := h.within e he
    rw [performAll_cons, Wait.first?, told?_wait hd]
    cases hs : op.ends (p.now + op.millis) e
    case true =>
      have hx : ⟨e, op.ending p.timeout⟩ ∈ (p.perform op).completed := by
        rw [h.completed_perform]
        exact List.mem_append_right _ <| List.mem_map_of_mem <| List.mem_filter.mpr ⟨he, hs⟩
      have hx := (completed_extends (p.perform op) ops).subset hx
      simpa using ((h.perform op).performAll ops).outcome?_of_completed hx
    case false =>
      have he : e ∈ (p.perform op).entries := by
        rw [h.entries_perform]
        exact List.mem_append_left _ <| List.mem_filter.mpr ⟨he, by simp [hs]⟩
      have hw := hi (h.perform op) he
      rw [wait_perform hd, timeout_perform] at hw
      simpa using hw

theorem outcome?_of_fate (h : p.Sound) (ops : List Operation) (k : Nat) :
    (p.performAll ops).outcome? (p.issued + k) =
      (fates p.timeout p.now ops)[k]?.bind (·.outcome?) := by
  induction ops generalizing p k
  case nil            => exact h.outcome?_of_unissued (Nat.le_add_right ..)
  case cons op ops hi =>
    have hi := hi (h.perform op)
    simp only [issued_perform, now_perform, timeout_perform] at hi
    cases op
    case register id method =>
      cases k
      case zero =>
        have he : ⟨p.issued, id, method, p.issued, id, p.now + p.timeout⟩ ∈
            (p.perform (.register id method)).entries := by
          simp [h.entries_perform, Operation.admitted]
        have ho := (h.perform (.register id method)).outcome?_of_entry he ops
        simpa [wait, Entry.deadline, Operation.millis, fates] using ho
      case succ k =>
        have hk := hi k
        rw [Operation.admitted, List.length_singleton, Nat.add_right_comm] at hk
        exact hk
    all_goals exact hi k

theorem ids_performAll (h : p.Sound) (ops : List Operation) :
    (p.performAll ops).entries.map (·.id) =
      (p.entries.filter fun e => ((p.wait e).first? p.timeout ops).isNone).map (·.id) ++
        ((fates p.timeout p.now ops).filter Fate.waits).map (·.id) := by
  induction ops generalizing p
  case nil            => simp [Wait.first?, fates]
  case cons op ops hi =>
    -- Those of the old entries that the first operation spares and that the others do not concern.
    have ho : (p.entries.filter fun e => !op.ends (p.now + op.millis) e).filter
          (fun e => (((p.perform op).wait e).first? p.timeout ops).isNone) =
        p.entries.filter fun e => ((p.wait e).first? p.timeout (op :: ops)).isNone := by
      rw [List.filter_filter]
      refine List.filter_congr fun e he => ?_
      have hd := h.within e he
      rw [Wait.first?, told?_wait hd, wait_perform hd]
      cases op.ends (p.now + op.millis) e <;> simp
    have hi := hi (h.perform op)
    rw [now_perform, timeout_perform, h.entries_perform, List.filter_append, ho] at hi
    rw [performAll_cons, hi, List.map_append, List.append_assoc]
    congr 1
    cases op
    case register id method =>
      have hw : (p.perform (.register id method)).wait
          ⟨p.issued, id, method, p.issued, id, p.now + p.timeout⟩ = ⟨id, method, 0⟩ := by
        simp [wait, Entry.deadline, Operation.millis]
      cases hf : (Wait.first? p.timeout ⟨id, method, 0⟩ ops).isNone <;>
        simp [Operation.admitted, Operation.millis, fates, Fate.waits, hw, hf]
    all_goals rfl

end Sound

theorem fate_of_entry (he : e ∈ (p.performAll ops).entries) :
    e ∈ p.entries ∨ ∃ k f, (fates p.timeout p.now ops)[k]? = some f ∧
      e = ⟨p.issued + k, f.id, f.method, p.issued + k, f.id, f.start + p.timeout⟩ := by
  induction ops generalizing p
  case nil            => exact .inl he
  case cons op ops hi =>
    have hi := hi he
    simp only [issued_perform, now_perform, timeout_perform] at hi
    rcases hi with he | ⟨k, f, hf, hk⟩
    · refine (of_mem_perform he).imp_right fun ha => ?_
      cases op <;> simp [Operation.admitted] at ha
      case register id method => exact ⟨0, _, rfl, ha⟩
    · cases op
      case register id method =>
        refine .inr ⟨k + 1, f, hf, ?_⟩
        rw [hk, Operation.admitted, List.length_singleton, Nat.add_assoc, Nat.add_comm 1]
      all_goals exact .inr ⟨k, f, hf, hk⟩

-- A table accounts for registrations: each ticket is told once and what is due to it, an operation on
-- an id answers whether a registration of it waits, and no entry waits beyond its own deadline. The timers
-- that run are those of the entries, and each of them can only expire its own.
structure Accounts (p : Pending) (fs : List Fate) : Prop where
  once     : (p.completed.map (·.entry.ticket)).Nodup
  outcome  : ∀ ticket, p.outcome? ticket = fs[ticket]?.bind (·.outcome?)
  handles  : ∀ ticket < p.issued, p.outcome? ticket = none ↔ ∃ e ∈ p.entries, e.ticket = ticket
  settle   : ∀ id answer, (p.settle id answer).1 = fs.any fun f => f.waits && f.id = id
  expire   : ∀ id, (p.expire id).1 = fs.any fun f => f.waits && f.id = id
  cancel   : ∀ id, (p.cancel id).1 = fs.any fun f => f.waits && f.id = id
  forget   : ∀ id, (p.forget id).1 = fs.any fun f => f.waits && f.id = id
  discards : p.discardAll.1 = fs.countP Fate.waits
  size     : p.size = fs.countP Fate.waits
  entry    : ∀ e ∈ p.entries, ∃ f, fs[e.ticket]? = some f ∧ f.waits ∧
    e.id = f.id ∧ e.method = f.method ∧ e.deadline = f.start + p.timeout
  ahead    : ∀ e ∈ p.entries, p.Ahead e
  spares   : ∀ millis, ∀ e ∈ p.entries,
    e ∈ (p.advance millis).entries ↔ p.now + millis < e.deadline
  timers   : p.timers = p.entries.map (·.timer)
  own      : ∀ e ∈ p.entries, e.timer = ⟨e.ticket, e.id, e.deadline⟩
  fires    : ∀ e ∈ p.entries, (p.fire e.timer).entries = p.entries.filter (· ≠ e) ∧
    (p.fire e.timer).completed = p.completed ++ [⟨e, .expired (.ofMillis p.timeout)⟩]
  stale    : ∀ x ∈ p.completed, x.entry.timer ∉ p.timers ∧ p.fire x.entry.timer = p

theorem contains_performAll (timeout : Nat) (id : Int) :
    ((empty timeout).performAll ops).contains id =
      (fates timeout 0 ops).any fun f => f.waits && f.id = id := by
  have hi := (Sound.empty timeout).ids_performAll ops
  have ha : ((empty timeout).performAll ops).contains id =
      (((empty timeout).performAll ops).entries.map (·.id)).any (· = id) := by
    simp [contains, Function.comp_def]
  rw [ha, hi]
  simp [empty, Function.comp_def, List.any_filter]

theorem size_performAll (timeout : Nat) :
    ((empty timeout).performAll ops).size = (fates timeout 0 ops).countP Fate.waits := by
  have hi := congrArg List.length <| (Sound.empty timeout).ids_performAll ops
  simpa [size, empty, List.countP_eq_length_filter] using hi

namespace Timed

theorem mem_advance (h : p.Timed) (millis : Nat) :
    e ∈ (p.advance millis).entries ↔ e ∈ p.entries ∧ p.now + millis < e.deadline := by
  have hm : e ∈ (p.perform (.advance millis)).entries ↔ _ := h.mem_entries_perform
  rw [Operation.advance_spares_iff] at hm
  simp only [Operation.admitted, List.not_mem_nil, or_false] at hm
  exact hm

theorem timer_eq (h : p.Timed) (he : e ∈ p.entries) : e.timer = ⟨e.ticket, e.id, e.deadline⟩ := by
  have ⟨ht, hi⟩ := h.own e (List.mem_append_right _ he)
  rw [← ht, ← hi]
  rfl

theorem fires (h : p.Timed) (he : e ∈ p.entries) :
    (p.fire e.timer).entries = p.entries.filter (· ≠ e) ∧
      (p.fire e.timer).completed = p.completed ++ [⟨e, .expired (.ofMillis p.timeout)⟩] := by
  have hw : p.entries.filter (hasId e.id) = [e] := filter_key_eq h.ids he
  rw [h.fire_eq he, h.complete_eq, hw]
  refine ⟨List.filter_congr fun x hx => ?_, rfl⟩
  have hid : x.id = e.id ↔ x = e := ⟨List.inj_on_of_nodup_map h.ids hx he, congrArg _⟩
  simp [hasId, hid]

theorem stopped (h : p.Timed) {x : Completion} (hx : x ∈ p.completed) : x.entry.timer ∉ p.timers := by
  rw [h.timers]
  intro hm
  have ⟨e, he, ht⟩ := List.mem_map.mp hm
  have hxe : x.entry ∈ p.completed.map (·.entry) := List.mem_map_of_mem hx
  have hn := h.tickets_nodup
  rw [holders, List.map_append] at hn
  have hd := (List.nodup_append.mp hn).right.right _ (List.mem_map_of_mem hxe) _ (List.mem_map_of_mem he)
  exact hd <| congrArg _ <| (h.timer_inj (List.mem_append_right _ he) (List.mem_append_left _ hxe) ht).symm

end Timed

theorem Sound.handles (h : p.Sound) {ticket : Nat} (ht : ticket < p.issued) :
    p.outcome? ticket = none ↔ ∃ e ∈ p.entries, e.ticket = ticket := by
  refine ⟨h.exists_entry ht, ?_⟩
  rintro ⟨e, he, rfl⟩
  exact h.outcome?_of_waiting he

theorem performAll_accounts (timeout : Nat) (ops : List Operation) :
    ((empty timeout).performAll ops).Accounts (fates timeout 0 ops) := by
  have hs := Sound.empty timeout
  have h := hs.performAll ops
  have ho (ticket : Nat) : ((empty timeout).performAll ops).outcome? ticket =
      (fates timeout 0 ops)[ticket]?.bind (·.outcome?) := by
    simpa [empty] using hs.outcome?_of_fate ops ticket
  exact
    { once     := h.completed_nodup
      outcome  := ho
      handles  := fun _ => h.handles
      settle   := fun id _ => contains_performAll timeout id
      expire   := contains_performAll timeout
      cancel   := contains_performAll timeout
      forget   := contains_performAll timeout
      discards := size_performAll timeout
      size     := size_performAll timeout
      entry    := by
        intro e he
        rcases fate_of_entry he with he' | ⟨k, f, hf, hk⟩
        · cases he'
        · have hn := ho e.ticket
          rw [h.outcome?_of_waiting he] at hn
          simp only [empty, Nat.zero_add] at hf hk
          subst hk
          exact ⟨f, hf, by simpa [hf, Fate.waits] using hn.symm, rfl, rfl, by simp [empty, Entry.deadline]⟩
      ahead    := h.ahead
      spares   := fun millis e he => by simp [h.mem_advance, he]
      timers   := h.timers
      own      := fun _ => h.timer_eq
      fires    := fun _ => h.fires
      stale    := fun x hx => ⟨h.stopped hx, if_neg (h.stopped hx)⟩ }

end LanguageClient.Pending
