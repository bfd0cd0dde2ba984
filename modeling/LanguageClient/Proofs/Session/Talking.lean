import LanguageClient.Proofs.Client.Diagnostics
import LanguageClient.Proofs.Client.Listening
import LanguageClient.Proofs.Session.Cancellation

namespace LanguageClient

namespace Action

def isTalk : Action → Bool
  | send .. | sendNotification .. | take | deliver _ | emit _ => true
  | _ => false

end Action

def published? (uri : String) (ps : List Protocol.Publish) : Option (List Protocol.Diagnostic) :=
  (ps.filter (·.uri = uri)).getLast?.map (·.diagnostics)

theorem published?_append {uri : String} {ps : List Protocol.Publish} {publish : Protocol.Publish} :
    published? uri (ps ++ [publish]) =
      if uri = publish.uri then some publish.diagnostics else published? uri ps := by
  simp only [published?, List.filter_append]
  split
  case isTrue h  => simp [h]
  case isFalse h => simp [Ne.symm h]

namespace Session

variable {s : Session} {a : Action} {as : List Action} {e : Pending.Entry} {uri : String} {v : Json}

theorem isQuiet_of_isTalk (h : a.isTalk) : a.isQuiet := by
  cases a
  all_goals first | rfl | cases h

theorem gate_actAll (ht : ∀ a ∈ as, a.isTalk) : (s.actAll as).gate = s.gate := by
  induction as generalizing s
  case nil => rfl
  case cons a as hi =>
    have ⟨ha, has⟩ := List.forall_mem_cons.mp ht
    rw [actAll_cons, hi has, gate_act]
    cases a
    case send | sendNotification | take | deliver | emit => rfl
    all_goals cases ha

theorem Numbered.now_lt (h : s.Numbered) (he : e ∈ s.pending.entries) : s.pending.now < e.deadline := by
  refine (h.sound.ahead e he).resolve_right fun ht => ?_
  cases h.timeout.symm.trans ht.left

theorem outcome?_deliver (hn : s.Numbered) (he : e ∈ s.pending.entries) {ev : Event}
    (ha : ev.answer? = some (e.id, .ok v)) :
    (s.act (.deliver ev)).pending.outcome? e.ticket = some (.ok v) := by
  have hx : ⟨e, .answered (.ok v)⟩ ∈ (s.act (.deliver ev)).pending.completed := by
    rw [pending_act, Action.operations, ha]
    simp [hn.sound.completed_perform, Pending.Operation.ends, Pending.Operation.ending, Pending.hasId, he]
  exact (hn.act (.deliver ev)).sound.outcome?_of_completed hx

theorem exists_answer_of_not_spares {id : Int} (ha : a.isTalk) (hs : ¬a.spares id) :
    ∃ ev o, a = .deliver ev ∧ ev.answer? = some (id, o) := by
  cases a
  case deliver ev =>
    rcases hx : ev.answer? with _ | ⟨id', o⟩
    case none => simp [Action.spares, hx] at hs
    case some =>
      have hid : id' = id := by simpa [Action.spares, hx] using hs
      exact ⟨ev, o, rfl, hid ▸ hx⟩
  case send | sendNotification | take | emit => simp [Action.spares] at hs
  all_goals cases ha

theorem handled_of_spares {id : Int} {ev : Event} {o : Except Rpc.ErrorObject Json} (hs : a.spares id)
    (ho : ev.answer? = some (id, o)) (hev : ev ∈ (a :: as).filterMap (·.handled?)) :
    ev ∈ as.filterMap (·.handled?) := by
  obtain ⟨b, hb, hh⟩ := List.mem_filterMap.mp hev
  obtain rfl | hb := List.mem_cons.mp hb
  · cases b
    case deliver =>
      cases hh
      simp [Action.spares, ho] at hs
    all_goals cases hh
  · exact List.mem_filterMap.mpr ⟨b, hb, hh⟩

theorem outcome?_of_delivered (hn : s.Numbered) (he : e ∈ s.pending.entries) (ht : ∀ a ∈ as, a.isTalk)
    (hd : ∃ ev ∈ as.filterMap (·.handled?), ∃ o, ev.answer? = some (e.id, o))
    (hv : ∀ ev ∈ as.filterMap (·.handled?), ∀ o, ev.answer? = some (e.id, o) → o = .ok v) :
    (s.actAll as).pending.outcome? e.ticket = some (.ok v) := by
  induction as generalizing s
  case nil =>
    obtain ⟨ev, hev, _⟩ := hd
    cases hev
  case cons a as hi =>
    have ⟨ha, has⟩ := List.forall_mem_cons.mp ht
    by_cases hs : a.spares e.id
    case pos =>
      have hm : a.millis = 0 := by
        cases a
        case advance => cases ha
        all_goals rfl
      -- No time goes by, so that the request waits on.
      have he' := mem_of_spares hn he hs (by rw [hm]; exact hn.now_lt he)
      obtain ⟨ev, hev, o, ho⟩ := hd
      refine hi (hn.act a) he' has ⟨ev, handled_of_spares hs ho hev, o, ho⟩ fun ev hev => hv ev ?_
      exact ((List.sublist_cons_self a as).filterMap _).subset hev
    case neg =>
      obtain ⟨ev, o, rfl, hx⟩ := exists_answer_of_not_spares ha hs
      have ho := hv ev (List.mem_filterMap.mpr ⟨.deliver ev, List.mem_cons_self, rfl⟩) o hx
      subst ho
      exact (hn.act _).outcome?_actAll (outcome?_deliver hn he hx) as

theorem publish?_eq (a : Action) : a.publish? = a.handled?.bind (·.publish?) := by
  cases a <;> rfl

theorem diagnostics_actAll (ht : ∀ a ∈ as, a.isTalk) : (s.actAll as).bulletin.diagnostics uri =
    (published? uri ((as.filterMap (·.handled?)).filterMap (·.publish?))).getD (s.bulletin.diagnostics uri) := by
  induction as using List.reverseRecOn
  case nil => rfl
  case append_singleton as a hi =>
    have ⟨has, hta⟩ := List.forall_mem_append.mp ht
    have ha := List.forall_mem_singleton.mp hta
    have hs : a.isStart = false := by
      cases a
      case start => cases ha
      all_goals rfl
    rw [actAll_append, actAll_cons, actAll_nil, List.filterMap_append, List.filterMap_append]
    -- The last action counts if it brings a publication.
    cases hp : a.publish?
    case none =>
      have hn : ([a].filterMap (·.handled?)).filterMap (·.publish?) = [] := by
        rw [publish?_eq] at hp
        cases hh : a.handled? <;> simp_all
      rw [hn, List.append_nil, ← hi has]
      exact Bulletin.diagnostics_congr (latest_act hs hp) uri
    case some publish =>
      cases a
      case deliver ev =>
        replace hp : ev.publish? = some publish := hp
        have he : ([Action.deliver ev].filterMap (·.handled?)).filterMap (·.publish?) = [publish] := by
          simp [Action.handled?, hp]
        have hd : ((s.actAll as).act (.deliver ev)).bulletin.diagnostics uri = _ :=
          (collects _ ev).puts publish hp uri
        rw [hd, hi has, he, published?_append]
        split <;> rfl
      all_goals cases hp

end Session
end LanguageClient
