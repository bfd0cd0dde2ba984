import LanguageClient.Proofs.Pending.Operations
import LanguageClient.Transport.Listeners
import Mathlib.Data.List.Induction
import Mathlib.Data.List.TakeWhile
import Mathlib.Data.Set.Card

namespace LanguageClient.Listeners

-- What is done to listeners, handles and channels. A handle is named by the number of its listener.
inductive Operation (κ : Type)
  | add (stream : Stream) (channel : κ)
  | unsubscribe (number : Nat)
  | drop (number : Nat)
  | emit (event : Event)
  | close (channel : κ)
  deriving DecidableEq

variable {κ : Type} {l m : Listener κ} {op : Operation κ} {ops before after : List (Operation κ)}
  {stream : Stream} {channel : κ} {number n : Nat} {e : Event}

namespace Operation

def isAdd : Operation κ → Bool
  | .add _ _ => true
  | _        => false

def removes (number : Nat) : Operation κ → Bool
  | .unsubscribe n | .drop n => n = number
  | _                        => false

-- The operations behind which a listener hears nothing more.
def mutes [DecidableEq κ] (l : Listener κ) : Operation κ → Bool
  | .close channel => channel = l.channel
  | op             => op.removes l.number

def event? : Operation κ → Option Event
  | .emit e => some e
  | _       => none

def emitted? (stream : Stream) (op : Operation κ) : Option Event :=
  op.event?.filter (·.stream = stream)

end Operation

def added (ops : List (Operation κ)) : Nat :=
  ops.countP (·.isAdd)

structure History (ops : List (Operation κ)) (l : Listener κ) (before after : List (Operation κ)) : Prop where
  split  : ops = before ++ .add l.stream l.channel :: after
  number : added before = l.number

-- A listener was added, and since then neither was its handle used to remove it nor was there an event on
-- its stream while its channel was closed.
def Attached (ops : List (Operation κ)) (l : Listener κ) : Prop :=
  ∃ before after, History ops l before after ∧ (∀ op ∈ after, ¬op.removes l.number) ∧
    ∀ e as bs, after = as ++ .emit e :: bs → e.stream = l.stream → .close l.channel ∉ before ++ as

def emissions (ops : List (Operation κ)) : List (List (Operation κ) × Event) :=
  (List.range ops.length).filterMap fun i => (ops[i]?.bind (·.event?)).map (ops.take i, ·)

noncomputable def audience (ops : List (Operation κ)) (stream : Stream) (channel : κ) : Nat :=
  {n | Attached ops ⟨n, stream, channel⟩ ∧ .close channel ∉ ops}.ncard

section Histories

theorem Attached.history (h : Attached ops l) : ∃ before after, History ops l before after := by
  obtain ⟨before, after, hh, _⟩ := h
  exact ⟨before, after, hh⟩

theorem added_lt (s : Stream) (k : κ) (after : List (Operation κ)) :
    added before < added (before ++ .add s k :: after) := by
  rw [added, added, List.countP_append, List.countP_cons]
  simp [Operation.isAdd]

theorem History.lt (h : History ops l before after) : l.number < added ops := by
  rw [← h.number, h.split]
  exact added_lt _ _ _

theorem History.concat (h : History ops l before after) (op : Operation κ) :
    History (ops ++ [op]) l before (after ++ [op]) where
  split  := by rw [h.split, List.append_assoc, List.cons_append]
  number := h.number

theorem History.unique {before' after' : List (Operation κ)} (h : History ops l before after)
    (h' : History ops m before' after') (hn : l.number = m.number) :
    l = m ∧ before = before' ∧ after = after' := by
  have hc : added before = added before' := by rw [h.number, h'.number, hn]
  obtain ⟨as, ha, hb⟩ | ⟨as, ha, hb⟩ := List.append_eq_append_iff.mp (h.split.symm.trans h'.split)
  all_goals
    cases as
    case nil =>
      cases l
      cases m
      simp_all
    case cons op as =>
      obtain ⟨rfl, _⟩ := List.cons.inj hb
      rw [ha] at hc
      have hl : ∀ (bs : List (Operation κ)) s k as, added bs < added (bs ++ .add s k :: as) := fun _ => added_lt
      grind

theorem attached_concat : Attached (ops ++ [op]) l ↔
    (Attached ops l ∧ ¬op.removes l.number ∧
      ∀ e, op = .emit e → e.stream = l.stream → .close l.channel ∉ ops) ∨
    (op = .add l.stream l.channel ∧ l.number = added ops) := by
  constructor
  case mp =>
    rintro ⟨before, after, ⟨hs, hn⟩, hr, hc⟩
    -- The last operation adds the listener, or it comes later.
    obtain rfl | ⟨after, op', rfl⟩ := List.eq_nil_or_concat' after
    case inl =>
      obtain ⟨rfl, ho⟩ := List.append_inj' hs rfl
      exact .inr ⟨List.singleton_inj.mp ho, hn.symm⟩
    case inr =>
      rw [← List.cons_append, ← List.append_assoc] at hs
      obtain ⟨rfl, ho⟩ := List.append_inj' hs rfl
      cases List.singleton_inj.mp ho
      have ⟨hr, ho⟩ := List.forall_mem_append.mp hr
      refine .inl ⟨⟨before, after, ⟨rfl, hn⟩, hr, fun e as bs he => ?_⟩, ho op (by simp), fun e he hs => ?_⟩
      · exact hc e as (bs ++ [op]) (by rw [he, List.append_assoc, List.cons_append])
      · simpa using hc e after [] (by rw [he]) hs
  case mpr =>
    rintro (⟨⟨before, after, hh, hr, hc⟩, ho, he⟩ | ⟨rfl, hn⟩)
    case inl =>
      refine ⟨before, after ++ [op], hh.concat op, ?_, fun e as bs hs hse => ?_⟩
      · exact List.forall_mem_append.mpr ⟨hr, List.forall_mem_singleton.mpr ho⟩
      · obtain rfl | ⟨bs, op', rfl⟩ := List.eq_nil_or_concat' bs
        case inl =>
          have ⟨ha, ho⟩ := List.append_inj' hs rfl
          have hn := he e (List.singleton_inj.mp ho) hse
          rw [hh.split, ha] at hn
          simpa using hn
        case inr =>
          rw [← List.cons_append, ← List.append_assoc] at hs
          exact hc e as bs (List.append_inj' hs rfl).left hse
    case inr => exact ⟨ops, [], ⟨rfl, hn.symm⟩, nofun, fun e as bs hs => by simp at hs⟩

theorem mutes_iff [DecidableEq κ] : op.mutes l ↔ op = .close l.channel ∨ op.removes l.number := by
  cases op
  all_goals simp [Operation.mutes, Operation.removes]

theorem History.unmuted_iff [DecidableEq κ] (h : History ops l before after) :
    Attached ops l ∧ .close l.channel ∉ ops ↔ .close l.channel ∉ before ∧ ∀ op ∈ after, ¬op.mutes l := by
  have hm : .close l.channel ∉ ops ↔ .close l.channel ∉ before ∧ .close l.channel ∉ after := by
    simp [h.split]
  simp only [mutes_iff, not_or]
  constructor
  case mp =>
    rintro ⟨⟨before', after', hh, hr, _⟩, hc⟩
    obtain ⟨-, rfl, rfl⟩ := h.unique hh rfl
    have ⟨hb, ha⟩ := hm.mp hc
    exact ⟨hb, fun op ho => ⟨fun he => ha (he ▸ ho), hr op ho⟩⟩
  case mpr =>
    intro ⟨hb, ha⟩
    have hn : .close l.channel ∉ after := fun hn => (ha _ hn).left rfl
    refine ⟨⟨before, after, h, fun op ho => (ha op ho).right, fun e as bs hs _ hm => ?_⟩, hm.mpr ⟨hb, hn⟩⟩
    obtain hm | hm := List.mem_append.mp hm
    · exact hb hm
    · exact hn (hs ▸ List.mem_append_left _ hm)

-- What is left of the operations without those that remove a listener by its handle.
def without (number : Nat) (ops : List (Operation κ)) : List (Operation κ) :=
  ops.filter fun op => !op.removes number

theorem without_concat : without number (ops ++ [op]) =
    without number ops ++ if op.removes number then [] else [op] := by
  rw [without, List.filter_append]
  cases h : op.removes number
  all_goals simp [without, h]

theorem emissions_concat : emissions (ops ++ [op]) = emissions ops ++ (op.event?.map (ops, ·)).toList := by
  have hl : List.range (ops ++ [op]).length = List.range ops.length ++ [ops.length] := by
    rw [List.length_append, List.length_singleton, List.range_succ]
  rw [emissions, hl, List.filterMap_append]
  congr 1
  · refine List.filterMap_congr fun i hi => ?_
    have hi : i < ops.length := List.mem_range.mp hi
    rw [List.getElem?_append_left hi, List.take_append_of_le_length hi.le]
  · cases h : op.event?
    all_goals simp [h]

end Histories

variable [DecidableEq κ] {ls : Listeners κ}

def apply (ls : Listeners κ) : Operation κ → Listeners κ
  | .add stream channel => ls.add stream channel
  | .unsubscribe number => ls.remove number
  | .drop number        => ls.remove number
  | .emit e             => ls.prune e.stream
  | .close channel      => ls.close channel

def run (ops : List (Operation κ)) : Listeners κ :=
  ops.foldl apply empty

theorem run_concat : run (ops ++ [op]) = (run ops).apply op := by
  simp [run]

theorem issued_run : (run ops).issued = added ops := by
  induction ops using List.reverseRecOn
  case nil => rfl
  case append_singleton ops op hi =>
    rw [run_concat, added, List.countP_append, ← added, ← hi]
    cases op
    all_goals rfl

theorem mem_closed_run : channel ∈ (run ops).closed ↔ .close channel ∈ ops := by
  induction ops using List.reverseRecOn
  case nil => simp [run, empty]
  case append_singleton ops op hi =>
    rw [run_concat, List.mem_append, ← hi, List.mem_singleton]
    cases op
    case close => simp [apply, close, or_comm]
    all_goals simp [apply, add, remove, prune]

theorem mem_attached_apply : l ∈ (ls.apply op).attached ↔
    (l ∈ ls.attached ∧ ¬op.removes l.number ∧
      ∀ e, op = .emit e → e.stream = l.stream → l.channel ∉ ls.closed) ∨
    (op = .add l.stream l.channel ∧ l.number = ls.issued) := by
  obtain ⟨n, s, k⟩ := l
  cases op
  case add =>
    simp only [apply, add, Operation.removes]
    grind
  case emit e =>
    simp only [apply, prune, isOpen, Operation.removes]
    grind
  case close => simp [apply, close, Operation.removes]
  all_goals
    simp only [apply, remove, Operation.removes]
    grind

theorem mem_attached_iff : l ∈ (run ops).attached ↔ Attached ops l := by
  induction ops using List.reverseRecOn
  case nil =>
    refine iff_of_false List.not_mem_nil ?_
    rintro ⟨before, after, ⟨hs, _⟩, _⟩
    simp at hs
  case append_singleton ops op hi =>
    rw [run_concat, mem_attached_apply, attached_concat, hi, issued_run, mem_closed_run]

theorem nodup_numbers : ((run ops).attached.map (·.number)).Nodup := by
  induction ops using List.reverseRecOn
  case nil => exact List.nodup_nil
  case append_singleton ops op hi =>
    rw [run_concat]
    cases op
    case add s k =>
      rw [apply, add, List.map_append, List.nodup_append]
      refine ⟨hi, List.nodup_singleton _, ?_⟩
      rintro n hn n' hn' rfl
      obtain ⟨l, hl, rfl⟩ := List.mem_map.mp hn
      obtain ⟨before, after, hh⟩ := (mem_attached_iff.mp hl).history
      have he : l.number = added ops := by simpa [issued_run] using hn'
      exact absurd he hh.lt.ne
    case close => exact hi
    all_goals exact hi.sublist (List.filter_sublist.map _)

theorem isActive_iff : (run ops).isActive number ↔ ∃ s k, Attached ops ⟨number, s, k⟩ := by
  simp only [isActive, List.any_eq_true, mem_attached_iff, decide_eq_true_eq]
  constructor
  case mp =>
    rintro ⟨⟨n, s, k⟩, h, rfl⟩
    exact ⟨s, k, h⟩
  case mpr => exact fun ⟨s, k, h⟩ => ⟨_, h, rfl⟩

theorem countP_attached (p : Listener κ → Bool) :
    (run ops).attached.countP p = {n | ∃ s k, Attached ops ⟨n, s, k⟩ ∧ p ⟨n, s, k⟩}.ncard := by
  have hd : (((run ops).attached.filter p).map (·.number)).Nodup :=
    nodup_numbers.sublist (List.filter_sublist.map _)
  have hs : {n | ∃ s k, Attached ops ⟨n, s, k⟩ ∧ p ⟨n, s, k⟩} =
      (((run ops).attached.filter p).map (·.number)).toFinset := by
    ext n
    simp only [Set.mem_ofPred_eq, List.coe_toFinset, List.mem_map, List.mem_filter, mem_attached_iff]
    constructor
    case mp  => exact fun ⟨s, k, h⟩ => ⟨_, h, rfl⟩
    case mpr =>
      rintro ⟨⟨n, s, k⟩, h, rfl⟩
      exact ⟨s, k, h⟩
  rw [hs, Set.ncard_coe_finset, List.toFinset_card_of_nodup hd, List.length_map, List.countP_eq_length_filter]

def reached (ls : Listeners κ) (stream : Stream) : List (Listener κ) :=
  ls.attached.filter fun l => l.stream = stream && ls.isOpen l

def passed (ls : Listeners κ) : Operation κ → List (Listener κ × Event)
  | .emit e => (ls.reached e.stream).map (·, e)
  | _       => []

def hearings (ls : Listeners κ) : List (Operation κ) → List (Listener κ × Event)
  | []        => []
  | op :: ops => ls.passed op ++ hearings (ls.apply op) ops

def heard (number : Nat) (ops : List (Operation κ)) : List Event :=
  ((hearings empty ops).filter (·.1.number = number)).map (·.2)

theorem hearings_append (ops' : List (Operation κ)) :
    hearings ls (ops ++ ops') = hearings ls ops ++ hearings (ops.foldl apply ls) ops' := by
  induction ops generalizing ls
  case nil            => rfl
  case cons op ops hi => simp [hearings, hi]

theorem hearings_concat : hearings empty (ops ++ [op]) = hearings empty ops ++ (run ops).passed op := by
  rw [hearings_append, hearings, hearings, List.append_nil]
  rfl

theorem heard_concat : heard number (ops ++ [op]) =
    heard number ops ++ (((run ops).passed op).filter (·.1.number = number)).map (·.2) := by
  simp [heard, hearings_concat]

theorem mem_reached : l ∈ (run ops).reached stream ↔
    Attached ops l ∧ l.stream = stream ∧ .close l.channel ∉ ops := by
  simp [reached, mem_attached_iff, isOpen, mem_closed_run]

theorem history_of_hearing {d : Listener κ × Event} (h : d ∈ hearings empty ops) :
    ∃ before after, History ops d.1 before after := by
  induction ops using List.reverseRecOn
  case nil => cases h
  case append_singleton ops op hi =>
    have hh : ∃ before after, History ops d.1 before after := by
      rw [hearings_concat, List.mem_append] at h
      obtain h | h := h
      case inl => exact hi h
      case inr =>
        cases op
        case emit e =>
          obtain ⟨l, hl, rfl⟩ := List.mem_map.mp h
          exact (mem_reached.mp hl).left.history
        all_goals cases h
    obtain ⟨before, after, hh⟩ := hh
    exact ⟨before, _, hh.concat op⟩

theorem heard_of_le (h : added ops ≤ number) : heard number ops = [] := by
  rw [heard, List.map_eq_nil_iff, List.filter_eq_nil_iff]
  intro d hd
  obtain ⟨before, after, hh⟩ := history_of_hearing hd
  have := hh.lt
  simp
  omega

theorem History.reached_eq (h : History ops l before after) :
    ((run ops).reached stream).filter (·.number = l.number) =
      if l.stream = stream ∧ .close l.channel ∉ before ∧ ∀ op ∈ after, ¬op.mutes l then [l] else [] := by
  split
  case isTrue hl =>
    have ⟨ha, hc⟩ := h.unmuted_iff.mpr hl.right
    have hm : l ∈ (run ops).reached stream := mem_reached.mpr ⟨ha, hl.left, hc⟩
    exact filter_key_eq (nodup_numbers.sublist (List.filter_sublist.map _)) hm
  case isFalse hl =>
    rw [List.filter_eq_nil_iff]
    intro m hm hn
    obtain ⟨ha, hs, hc⟩ := mem_reached.mp hm
    obtain ⟨_, _, hh⟩ := ha.history
    obtain ⟨rfl, _⟩ := hh.unique h (by simpa using hn)
    exact hl ⟨hs, h.unmuted_iff.mp ⟨ha, hc⟩⟩

theorem History.hears (h : History ops l before after) (op : Operation κ) :
    (((run ops).passed op).filter (·.1.number = l.number)).map (·.2) =
      if .close l.channel ∉ before ∧ ∀ op ∈ after, ¬op.mutes l then (op.emitted? l.stream).toList else [] := by
  cases op
  case emit e =>
    have hf : ((run ops).passed (.emit e)).filter (·.1.number = l.number) =
        (((run ops).reached e.stream).filter (·.number = l.number)).map (·, e) := by
      rw [passed, List.filter_map]
      rfl
    rw [hf, h.reached_eq, Operation.emitted?, Operation.event?]
    grind
  all_goals simp [passed, Operation.emitted?, Operation.event?]

theorem emitted?_of_mutes {op : Operation κ} (h : op.mutes l) : op.emitted? stream = none := by
  cases op
  case emit => cases h
  all_goals rfl

theorem History.heard_eq (h : History ops l before after) : heard l.number ops =
    if .close l.channel ∈ before then []
    else (after.takeWhile fun op => !op.mutes l).filterMap (·.emitted? l.stream) := by
  obtain ⟨rfl, hn⟩ := h
  induction after using List.reverseRecOn
  case nil =>
    have hz : heard l.number before = [] := heard_of_le hn.le
    rw [heard_concat, hz]
    simp [passed]
  case append_singleton after op hi =>
    have hh : History (before ++ .add l.stream l.channel :: after) l before after := ⟨rfl, hn⟩
    have hs : before ++ .add l.stream l.channel :: (after ++ [op]) =
        (before ++ .add l.stream l.channel :: after) ++ [op] := by simp
    rw [hs, heard_concat, hi, hh.hears]
    by_cases hb : .close l.channel ∈ before
    case pos => simp [hb]
    case neg =>
      simp only [hb, if_false, not_false_eq_true, true_and]
      have ht : (after.takeWhile fun op => !op.mutes l) = after ↔ ∀ op ∈ after, ¬op.mutes l := by
        simp [List.takeWhile_eq_self_iff]
      split
      case isTrue ha =>
        rw [ht.mpr ha, List.takeWhile_append_of_pos (by simpa using ha), List.filterMap_append]
        congr 1
        by_cases ho : op.mutes l
        case pos => simp [ho, emitted?_of_mutes ho]
        case neg => cases hv : op.emitted? l.stream <;> simp [ho, hv]
      case isFalse ha =>
        -- It has been muted before, so that the new operation is not among those that are taken.
        have hl : ¬(after.takeWhile fun op => !op.mutes l).length = after.length := fun hl =>
          ha (ht.mp ((List.takeWhile_prefix _).eq_of_length hl))
        rw [List.takeWhile_append, if_neg hl, List.append_nil]

def deliveries (ls : Listeners κ) : List (Operation κ) → List (κ × Event)
  | []        => []
  | op :: ops =>
    (op.event?.toList.flatMap fun e => (ls.receivers e.stream).map (·, e)) ++ deliveries (ls.apply op) ops

def received (channel : κ) (ops : List (Operation κ)) : List Event :=
  ((deliveries empty ops).filter (·.1 = channel)).map (·.2)

theorem deliveries_eq : deliveries ls ops = (hearings ls ops).map fun d => (d.1.channel, d.2) := by
  induction ops generalizing ls
  case nil => rfl
  case cons op ops hi =>
    rw [deliveries, hearings, hi, List.map_append]
    congr 1
    cases op
    case emit e => simp [Operation.event?, passed, receivers, reached]
    all_goals rfl

theorem received_eq : received channel ops =
    ((hearings empty ops).filter (·.1.channel = channel)).map (·.2) := by
  rw [received, deliveries_eq, List.filter_map, List.map_map]
  rfl

theorem received_emit : received channel (ops ++ [.emit e]) =
    received channel ops ++ List.replicate (audience ops e.stream channel) e := by
  have ha : ((run ops).reached e.stream).countP (·.channel = channel) = audience ops e.stream channel := by
    rw [reached, List.countP_filter, countP_attached, audience]
    congr 1
    ext n
    simp [isOpen, mem_closed_run]
  rw [received_eq, received_eq, hearings_concat, List.filter_append, List.map_append]
  congr 1
  refine List.eq_replicate_iff.mpr ⟨?_, ?_⟩
  · rw [List.length_map, ← List.countP_eq_length_filter, passed, List.countP_map, ← ha]
    rfl
  · intro e' he
    simp only [passed, List.mem_map, List.mem_filter] at he
    obtain ⟨_, ⟨⟨_, _, rfl⟩, _⟩, rfl⟩ := he
    rfl

theorem received_shares : received channel ops =
    (emissions ops).flatMap fun m => List.replicate (audience m.1 m.2.stream channel) m.2 := by
  induction ops using List.reverseRecOn
  case nil => rfl
  case append_singleton ops op hi =>
    rw [emissions_concat, List.flatMap_append, ← hi]
    cases op
    case emit e => simp [received_emit, Operation.event?]
    all_goals simp [received_eq, hearings_concat, passed, Operation.event?]

theorem History.sublist (h : History ops l before after) :
    (heard l.number ops).Sublist (received l.channel ops) := by
  have hf : (hearings empty ops).filter (·.1.number = l.number) =
      ((hearings empty ops).filter (·.1.channel = l.channel)).filter (·.1.number = l.number) := by
    rw [List.filter_filter]
    refine List.filter_congr fun d hd => ?_
    obtain ⟨_, _, hh⟩ := history_of_hearing hd
    have hc : d.1.number = l.number → d.1.channel = l.channel := fun hn => congrArg _ (hh.unique h hn).left
    grind
  rw [received_eq, heard, hf]
  exact List.filter_sublist.map _

theorem History.received_eq (h : History ops l before after)
    (ha : ∀ m before after, History ops m before after → m.channel = l.channel → m = l) :
    received l.channel ops = heard l.number ops := by
  rw [Listeners.received_eq, heard]
  congr 1
  refine List.filter_congr fun d hd => ?_
  obtain ⟨_, _, hh⟩ := history_of_hearing hd
  rw [decide_eq_decide]
  constructor
  case mp  => exact fun hc => congrArg _ (ha _ _ _ hh hc)
  case mpr => exact fun hn => congrArg _ (hh.unique h hn).left

omit [DecidableEq κ] in
theorem isActive_remove (hn : n ≠ number) : (ls.remove number).isActive n = ls.isActive n := by
  simp only [isActive, remove, List.any_filter]
  congr 1
  funext l
  grind

theorem remove_apply (op : Operation κ) :
    (ls.apply op).remove number = ((ls.remove number).apply op).remove number := by
  have hf (p : Listener κ → Bool) : (ls.attached.filter p).filter (·.number ≠ number) =
      ((ls.attached.filter (·.number ≠ number)).filter p).filter (·.number ≠ number) := by
    simp only [List.filter_filter]
    refine List.filter_congr fun l _ => ?_
    grind
  cases op
  case add s k => simp [apply, add, remove]
  case close k => simp [apply, close, remove]
  all_goals exact congrArg (Listeners.mk ls.issued · ls.closed) (hf _)

theorem remove_apply_of_removes (h : op.removes number) : (ls.apply op).remove number = ls.remove number := by
  cases op
  case unsubscribe n =>
    cases decide_eq_true_eq.mp h
    simp [apply, remove]
  case drop n =>
    cases decide_eq_true_eq.mp h
    simp [apply, remove]
  all_goals cases h

theorem remove_run : (run (without number ops)).remove number = (run ops).remove number := by
  induction ops using List.reverseRecOn
  case nil => rfl
  case append_singleton ops op hi =>
    rw [without_concat, run_concat]
    split
    case isTrue hr  => rw [List.append_nil, remove_apply_of_removes hr, hi]
    case isFalse    => rw [run_concat, remove_apply, hi, ← remove_apply]

theorem passed_remove (hn : n ≠ number) (op : Operation κ) :
    ((ls.remove number).passed op).filter (·.1.number = n) = (ls.passed op).filter (·.1.number = n) := by
  cases op
  case emit e =>
    have hr : ((ls.remove number).reached e.stream).filter (·.number = n) =
        (ls.reached e.stream).filter (·.number = n) := by
      simp only [reached, remove, isOpen, List.filter_filter]
      refine List.filter_congr fun l _ => ?_
      grind
    rw [passed, passed, List.filter_map, List.filter_map]
    exact congrArg _ hr
  all_goals rfl

theorem heard_without (hn : n ≠ number) : heard n (without number ops) = heard n ops := by
  induction ops using List.reverseRecOn
  case nil => rfl
  case append_singleton ops op hi =>
    rw [without_concat, heard_concat, ← passed_remove hn, ← remove_run, passed_remove hn, ← hi]
    split
    case isTrue hr =>
      have hp : (run (without number ops)).passed op = [] := by
        cases op
        case emit => cases hr
        all_goals rfl
      simp [hp]
    case isFalse => rw [heard_concat]

theorem Attached.isActive_emit (h : Attached ops l) (hs : e.stream = l.stream) (hc : .close l.channel ∈ ops) :
    (run (ops ++ [.emit e])).isActive l.number = false := by
  have ⟨_, _, hh⟩ := h.history
  refine Bool.eq_false_iff.mpr fun hn => ?_
  obtain ⟨s, k, hn⟩ := isActive_iff.mp hn
  obtain ⟨hm, _, hp⟩ | ⟨ho, _⟩ := attached_concat.mp hn
  · have ⟨_, _, hh'⟩ := hm.history
    rw [← (hh.unique hh' rfl).left] at hp
    exact hp e rfl hs hc
  · cases ho

theorem isActive_without (hn : n ≠ number) : (run (without number ops)).isActive n = (run ops).isActive n := by
  rw [← isActive_remove hn, remove_run, isActive_remove hn]

theorem count_run : (run ops).count stream = {n | ∃ k, Attached ops ⟨n, stream, k⟩}.ncard := by
  rw [count, countP_attached]
  simp

-- What a run makes of each listener, of each channel and of each handle.
structure Exact (ops : List (Operation κ)) : Prop where
  hears {l : Listener κ} {before after : List (Operation κ)} (h : History ops l before after) :
    heard l.number ops = if .close l.channel ∈ before then []
      else (after.takeWhile fun op => !op.mutes l).filterMap (·.emitted? l.stream)
  passes {l : Listener κ} {before after : List (Operation κ)} (h : History ops l before after) :
    (heard l.number ops).Sublist (received l.channel ops)
  alone {l : Listener κ} {before after : List (Operation κ)} (h : History ops l before after)
    (ha : ∀ m before after, History ops m before after → m.channel = l.channel → m = l) :
    received l.channel ops = heard l.number ops
  shares {channel : κ} : received channel ops =
    (emissions ops).flatMap fun m => List.replicate (audience m.1 m.2.stream channel) m.2
  apart {m n : Nat} (h : m ≠ n) :
    heard m (without n ops) = heard m ops ∧ (run (without n ops)).isActive m = (run ops).isActive m
  prunes {l : Listener κ} {e : Event} (h : Attached ops l) (hs : e.stream = l.stream)
    (hc : .close l.channel ∈ ops) : (run (ops ++ [.emit e])).isActive l.number = false
  active {n : Nat} : (run ops).isActive n ↔ ∃ s k, Attached ops ⟨n, s, k⟩
  counts {s : Stream} : (run ops).count s = {n | ∃ k, Attached ops ⟨n, s, k⟩}.ncard

theorem run_exact (ops : List (Operation κ)) : Exact ops where
  hears   := History.heard_eq
  passes  := History.sublist
  alone   := History.received_eq
  shares  := received_shares
  apart h := ⟨heard_without h, isActive_without h⟩
  prunes  := Attached.isActive_emit
  active  := isActive_iff
  counts  := count_run

end LanguageClient.Listeners
