import LanguageClient.Proofs.Session.Handling
import LanguageClient.Proofs.Session.Invariants

namespace LanguageClient

namespace Pending

variable {p q : Pending} {ticket : Nat}

abbrev Answer : Type := Int × Except Rpc.ErrorObject Json

def Operation.ofAnswer (a : Answer) : Operation :=
  .settle a.1 a.2

def settled (p : Pending) (a : Answer) : List Completion :=
  (p.entries.filter (hasId a.1)).map fun e => ⟨e, .answered a.2⟩

theorem performAll_settle {as : List Answer} (h : (as.map (·.1)).Nodup) :
    p.performAll (as.map .ofAnswer) = { p with
      entries   := p.entries.filter fun e => e.id ∉ as.map (·.1)
      timers    := p.timers.filter (· ∉ (p.entries.filter (·.id ∈ as.map (·.1))).map (·.timer))
      completed := p.completed ++ as.flatMap p.settled } := by
  induction as generalizing p
  case nil          => simp
  case cons a as hi =>
    have ⟨ha, has⟩ := List.nodup_cons.mp h
    -- The first answer leaves the entries of the others, since none of them has its id.
    have hs : ∀ b ∈ as, (p.settle a.1 a.2).2.settled b = p.settled b := by
      intro b hb
      have hn : b.1 ≠ a.1 := ne_of_mem_of_not_mem (List.mem_map_of_mem hb) ha
      refine congrArg (List.map _) ?_
      simp only [settle, claim, complete, List.filter_filter]
      refine List.filter_congr fun e _ => ?_
      by_cases he : e.id = b.1
      · simp [hasId, he, hn]
      · simp [hasId, he]
    rw [List.map_cons, performAll_cons, hi has, List.map_cons, List.flatMap_cons]
    rw [show p.perform (.ofAnswer a) = (p.settle a.1 a.2).2 from rfl, List.flatMap_congr hs]
    have he : (p.entries.filter fun e => !hasId a.1 e).filter (fun e => e.id ∉ as.map (·.1)) =
        p.entries.filter fun e => e.id ∉ a.1 :: as.map (·.1) := by
      rw [List.filter_filter]
      refine List.filter_congr fun e _ => ?_
      by_cases hid : e.id = a.1
      · simp [hasId, hid]
      · simp [hasId, hid]
    have ht : (p.timers.filter (· ∉ (p.entries.filter (hasId a.1)).map (·.timer))).filter (· ∉
          ((p.entries.filter fun e => !hasId a.1 e).filter (·.id ∈ as.map (·.1))).map (·.timer)) =
        p.timers.filter (· ∉ (p.entries.filter (·.id ∈ a.1 :: as.map (·.1))).map (·.timer)) := by
      rw [List.filter_filter]
      refine List.filter_congr fun t _ => ?_
      rw [← Bool.decide_and, decide_eq_decide, ← not_or, not_iff_not]
      simp only [List.mem_map, List.mem_filter, hasId, List.mem_cons, decide_eq_true_eq, Bool.not_eq_true',
        decide_eq_false_iff_not, ← exists_or]
      refine exists_congr fun e => ?_
      by_cases hid : e.id = a.1 <;> simp [hid]
    exact (Pending.mk.injEq ..).mpr ⟨rfl, rfl, rfl, he, ht, List.append_assoc ..⟩

-- The order of answers does not matter, but to the order in which the waits have ended.
theorem performAll_settle_perm {as as' : List Answer} (hp : as.Perm as') (h : (as.map (·.1)).Nodup) :
    ∃ completed, completed.Perm (p.performAll (as.map .ofAnswer)).completed ∧
      p.performAll (as'.map .ofAnswer) = { p.performAll (as.map .ofAnswer) with completed } := by
  have hm : (as.map (·.1)).Perm (as'.map (·.1)) := hp.map _
  rw [performAll_settle h, performAll_settle (hm.nodup h)]
  refine ⟨_, (hp.symm.flatMap_right p.settled).append_left p.completed, ?_⟩
  simp only [hm.mem_iff]

theorem Sound.outcome?_perm (h : p.Sound) (h' : q.Sound) (hp : p.completed.Perm q.completed) (ticket : Nat) :
    p.outcome? ticket = q.outcome? ticket := by
  refine Option.ext fun outcome => ⟨fun ho => ?_, fun ho => ?_⟩
  · obtain ⟨x, hx, rfl, rfl⟩ := exists_completed ho
    exact h'.outcome?_of_completed (hp.mem_iff.mp hx)
  · obtain ⟨x, hx, rfl, rfl⟩ := exists_completed ho
    exact h.outcome?_of_completed (hp.mem_iff.mpr hx)

end Pending

def Event.isResponse (e : Event) : Bool :=
  match e.stream, Rpc.Message.decode e.text with
  | .message, .ok (.response _) => true
  | _, _ => false

-- Events among which the responses have been moved.
structure Reordered (es es' : List Event) : Prop where
  perm   : es.Perm es'
  others : es.filter (!·.isResponse) = es'.filter (!·.isResponse)

variable {es es' : List Event}

theorem Event.isResponse_cases (e : Event) :
    e.isResponse = false ∨ e.news? = none ∧ e.question? = none := by
  rw [isResponse, news?, question?]
  split
  case h_1 he hd => exact .inr (by simp [he, hd])
  case h_2       => exact .inl rfl

namespace Reordered

theorem filterMap_others (h : Reordered es es') {α : Type} {f : Event → Option α}
    (hf : ∀ e, e.isResponse → f e = none) : es.filterMap f = es'.filterMap f := by
  have ho (es : List Event) : (es.filter (!·.isResponse)).filterMap f = es.filterMap f := by
    rw [List.filterMap_filter]
    refine List.filterMap_congr fun e _ => ?_
    cases hr : e.isResponse
    case false => rfl
    case true  => simp [hf e hr]
  rw [← ho, h.others, ho]

theorem news (h : Reordered es es') : es.filterMap (·.news?) = es'.filterMap (·.news?) :=
  h.filterMap_others fun e hr => (e.isResponse_cases.resolve_left (by simp [hr])).left

theorem questions (h : Reordered es es') : es.filterMap (·.question?) = es'.filterMap (·.question?) :=
  h.filterMap_others fun e hr => (e.isResponse_cases.resolve_left (by simp [hr])).right

end Reordered

namespace Session

theorem settling_eq (es : List Event) : settling es = (es.filterMap (·.answer?)).map .ofAnswer :=
  rfl

theorem handled_reordered (s : Session) (h : Reordered es es')
    (hn : ((es.filterMap (·.answer?)).map (·.1)).Nodup) (ns ns' : List Notice) :
    ∃ completed, completed.Perm (s.handled es ns).pending.completed ∧
      s.handled es' ns' =
        { s.handled es ns with
          pending := { (s.handled es ns).pending with completed }
          notices := ns' } := by
  obtain ⟨completed, hc, hp⟩ := s.pending.performAll_settle_perm (h.perm.filterMap _) hn
  refine ⟨completed, hc, ?_⟩
  simp only [handled, settling_eq, refusals, hp, h.news, h.questions]

end Session
end LanguageClient
