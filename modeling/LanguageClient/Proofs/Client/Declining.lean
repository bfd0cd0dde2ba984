import LanguageClient.Proofs.Client.Arrivals
import LanguageClient.Proofs.Session.Handling

namespace LanguageClient

variable {e : Event} {es : List Event} {r : Rpc.Request}

namespace Event

theorem decode_of_question? (h : e.question? = some r) : Rpc.Message.decode e.text = .ok (.request r) := by
  rw [question?] at h
  split at h
  case h_1 hd => exact hd.trans (by cases h; rfl)
  case h_2    => cases h

theorem question?_cases (e : Event) : e.question? = none ∨ e.answer? = none ∧ e.news? = none := by
  rw [question?, answer?, news?]
  split
  case h_1 he hd => exact .inr (by simp [he, hd])
  case h_2       => exact .inl rfl

theorem filterMap_question? : (es.filter (·.question?.isNone)).filterMap (·.question?) = [] := by
  simp [List.filterMap_filter]

theorem filterMap_answer? :
    (es.filter (·.question?.isNone)).filterMap (·.answer?) = es.filterMap (·.answer?) := by
  rw [List.filterMap_filter]
  refine List.filterMap_congr fun e _ => ?_
  obtain h | ⟨h, -⟩ := e.question?_cases
  all_goals simp [h]

theorem filterMap_news? :
    (es.filter (·.question?.isNone)).filterMap (·.news?) = es.filterMap (·.news?) := by
  rw [List.filterMap_filter]
  refine List.filterMap_congr fun e _ => ?_
  obtain h | ⟨-, h⟩ := e.question?_cases
  all_goals simp [h]

end Event

namespace Session

variable {s : Session}

-- A session to which the questions in its inbox have not come.
def unasked (s : Session) : Session :=
  { s with
    wiring := { s.wiring with
      router? := s.wiring.router?.map fun r => { r with inbox := r.inbox.filter (·.question?.isNone) } } }

def wrote (s : Session) (frames : List String) (notices : List Notice) : Session :=
  { s with transport := { s.transport with sent := s.transport.sent ++ frames }, notices }

theorem inbox_unasked (s : Session) : s.unasked.inbox = s.inbox.filter (·.question?.isNone) := by
  rw [inbox, inbox, unasked]
  cases s.wiring.router? <;> rfl

theorem take_unasked (s : Session) : s.unasked.take = s.take := by
  simp [take, unasked, Function.comp_def]

theorem refusals_eq_nil (s : Session) : s.refusals (es.filter (·.question?.isNone)) = [] := by
  simp [refusals, Event.filterMap_question?]

theorem handle_question (s : Session) (h : e.question? = some r) : ∃ notices, s.handle e =
    s.wrote (if s.transport.sendRefusal? = none then [r.refusalFrame] else []) notices := by
  have ⟨ha, hn⟩ := e.question?_cases.resolve_left (by simp [h])
  obtain ⟨ns, hs⟩ := s.handle_eq_handled e
  exact ⟨ns, by simp [hs, handled, wrote, refusals, settling, h, ha, hn]⟩

theorem handled_unasked (s : Session) (es : List Event) (ns ns' : List Notice) :
    s.handled es ns = (s.handled (es.filter (·.question?.isNone)) ns').wrote (s.refusals es) ns := by
  simp only [handled, wrote, settling, Event.filterMap_answer?, Event.filterMap_news?, s.refusals_eq_nil,
    List.append_nil]

theorem route_unasked (s : Session) :
    ∃ notices, s.route = s.unasked.route.wrote (s.refusals s.inbox) notices := by
  obtain ⟨ns, h⟩ := s.take.foldl_handle_eq s.inbox
  obtain ⟨ns', h'⟩ := s.unasked.take.foldl_handle_eq s.unasked.inbox
  rw [s.take_unasked, s.inbox_unasked] at h'
  refine ⟨ns, ?_⟩
  rw [s.route_eq_foldl, s.unasked.route_eq_foldl, s.take_unasked, s.inbox_unasked, h, h']
  exact s.take.handled_unasked s.inbox ns ns'

theorem route_unasked_sent (s : Session) : s.unasked.route.transport.sent = s.transport.sent := by
  obtain ⟨ns, h⟩ := s.unasked.take.foldl_handle_eq s.unasked.inbox
  rw [s.unasked.route_eq_foldl, h, s.inbox_unasked]
  simp only [handled, refusals_eq_nil, List.append_nil]
  rfl

end Session

namespace Client

variable {c : Client}

def unasked (c : Client) : Client :=
  { c with session := c.session.unasked }

def wrote (c : Client) (frames : List String) (notices : List Notice) : Client :=
  { c with session := c.session.wrote frames notices }

-- What becomes of the questions that come to a client: each is declined with an error that has its id, and
-- does nothing else; the client takes them in the order in which they have come while it listens.
structure Declining (c : Client) : Prop where
  reply   : ∀ (e : Event) q, e.question? = some q → ∃ message,
    Rpc.Message.decode q.refusalFrame =
      .ok (.response ⟨Rpc.version, some q.id, none, some ⟨-32601, message, none⟩⟩)
  message : ∀ (s : Session) (e : Event) q, e.question? = some q → ∃ notices,
    s.handle e = s.wrote (if s.transport.sendRefusal? = none then [q.refusalFrame] else []) notices
  arrival : c.session.Listens → ∀ ms, (∀ a ∈ c.trace ms, a.isQuiet) →
    c.handled ms ++ (c.after ms).session.inbox = c.session.inbox ++ c.arrived ms
  router  : ∀ r, c.session.wiring.router? = some r →
    let t : Move := .turn (.router r.channel)
    c.handled [t] = r.inbox ∧
    (c.unasked.move t).session.transport.sent = c.session.transport.sent ∧
    ∃ notices, c.move t = (c.unasked.move t).wrote
      (if c.session.transport.sendRefusal? = none then
        (r.inbox.filterMap (·.question?)).map (·.refusalFrame)
      else []) notices

theorem withSession_wrote (c : Client) (s : Session) (frames : List String) (notices : List Notice) :
    c.withSession (s.wrote frames notices) = (c.withSession s).wrote frames notices :=
  rfl

theorem routerTurn_unasked {s t : Session} (h : t.inbox = []) : routerTurn s.unasked t = routerTurn s t := by
  simp only [routerTurn, Session.unasked]
  cases s.wiring.router?
  all_goals
    cases ht : t.wiring.router?
    case none   => rfl
    case some r => simp_all [Session.inbox]

theorem move_unasked {r : Router} (hr : c.session.wiring.router? = some r) :
    ∃ notices, c.move (.turn (.router r.channel)) =
      (c.unasked.move (.turn (.router r.channel))).wrote (c.session.refusals r.inbox) notices := by
  have hi : c.session.inbox = r.inbox := by simp [Session.inbox, hr]
  have hc : c.session.wiring.router?.map (·.channel) = some r.channel := by simp [hr]
  have hc' : c.unasked.session.wiring.router?.map (·.channel) = some r.channel := by
    simp [unasked, Session.unasked, hr]
  obtain ⟨ns, h⟩ := c.session.route_unasked
  rw [hi] at h
  refine ⟨ns, ?_⟩
  have hn : c.session.unasked.route.inbox = [] := c.session.unasked.route_inbox
  rw [move_router hc, move_router hc', h, withSession_wrote]
  refine congrArg (wrote · (c.session.refusals r.inbox) ns) ?_
  simp only [withSession, unasked, routerTurn_unasked hn]
  rfl

theorem questions_declined (ms : List Move) : (idle.after ms).Declining where
  reply e q h := by
    have hd := Rpc.Request.fits_of_decode (Event.decode_of_question? h)
    exact ⟨_, Rpc.Request.decode_refusalFrame hd⟩
  message s e q h := s.handle_question h
  arrival := by
    rintro ⟨first, channel, hw⟩ ms' hq
    exact handled_inbox hw (idle_proper.after ms).orderly.open_ hq
  router := by
    intro r hr t
    have hi : (idle.after ms).session.inbox = r.inbox := by simp [Session.inbox, hr]
    refine ⟨?_, ?_, move_unasked hr⟩
    · simpa [handled, trace, hr, hi] using (idle.after ms).handled_turn (.router r.channel)
    · have hc : (idle.after ms).unasked.session.wiring.router?.map (·.channel) = some r.channel := by
        simp [unasked, Session.unasked, hr]
      rw [move_router hc]
      exact (idle.after ms).session.route_unasked_sent

end Client
end LanguageClient
