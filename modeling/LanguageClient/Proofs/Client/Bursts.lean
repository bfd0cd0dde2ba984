import LanguageClient.Proofs.Client.Rest

namespace LanguageClient

variable {s : Session}

theorem Session.route_inbox (s : Session) : s.route.inbox = [] := by
  have hf (es : List Event) (s : Session) : (es.foldl handle s).inbox = s.inbox := by
    induction es generalizing s
    case nil          => rfl
    case cons e es hi =>
      have ⟨_, _, _, _, h⟩ := s.handle_eq e
      rw [List.foldl_cons, hi, h]
      rfl
  rw [route]
  split
  case h_1 h => rw [inbox, h]; rfl
  case h_2   => exact hf ..

namespace Client

variable {c c' : Client} {i : Input} {is : List Input} {t : Turn} {m : Move} {ms : List Move}

theorem Due.inputs (hd : c.Due) (is : List Input) : (c.after (is.map .input)).Due := by
  induction is generalizing c
  case nil          => exact hd
  case cons i is hi => exact hi (hd.input i)

theorem Resting.burst_resting (hr : c.Resting) (h : c.Proper) (is : List Input) :
    (c.burst is).2.Resting := by
  rw [burst_snd]
  exact (hr.due.inputs is).rest (h.after _)

theorem Proper.burst (h : c.Proper) (is : List Input) : (c.burst is).2.Proper := by
  rw [burst_eq_after]
  exact h.after _

theorem idle_resting : idle.Resting :=
  ⟨rfl, nofun⟩

theorem bursts_resting (hr : c.Resting) (h : c.Proper) (iss : List (List Input)) :
    (c.bursts iss).Resting := by
  induction iss generalizing c
  case nil            => exact hr
  case cons is iss hi => exact hi (hr.burst_resting h is) (h.burst is)

def RouterDue (c : Client) : Prop :=
  ∀ r, c.session.wiring.router? = some r → r.inbox ≠ [] → .router r.channel ∈ c.turns

namespace RouterDue

theorem withSession (h : c.RouterDue) (s : Session) : (c.withSession s).RouterDue := by
  intro r' hr' hi'
  have ⟨extra, he, _, _, hall⟩ :=
    foldl_addTurn (callerTurns c.callers c.session s ++ routerTurn c.session s) c.turns
  have hturns : (c.withSession s).turns = c.turns ++ extra := he
  have hs : s.wiring.router? = some r' := hr'
  have hnew (hm : .router r'.channel ∈ routerTurn c.session s) :
      .router r'.channel ∈ (c.withSession s).turns :=
    hturns ▸ hall _ (List.mem_append_right _ hm)
  match hr : c.session.wiring.router? with
  | none => exact hnew (by simp [routerTurn, hr, hs])
  | some r =>
    -- The router was due already, or it is due from now on.
    by_cases hc : r.channel = r'.channel ∧ r.inbox ≠ []
    case pos =>
      rw [hturns]
      exact List.mem_append_left _ (hc.left ▸ h r hr hc.right)
    case neg =>
      refine hnew ?_
      have hn : r.channel ≠ r'.channel ∨ r.inbox = [] := by
        by_cases he : r.channel = r'.channel
        · exact .inr (not_not.mp fun hn => hc ⟨he, hn⟩)
        · exact .inl he
      simp [routerTurn, hr, hs, hn, hi']

theorem input (h : c.RouterDue) (i : Input) : (c.move (.input i)).RouterDue := by
  have hi := c.performed i
  generalize c.move (.input i) = c' at hi ⊢
  cases hi
  case sends =>
    intro r hr hi
    exact List.mem_append_left _ (h.withSession _ r hr hi)
  case calls          => exact fun r hr hi => List.mem_append_left _ (h r hr hi)
  case acts           => exact h.withSession _
  case abandons | stays => exact h

theorem turn (h : c.RouterDue) (t : Turn) : (c.move (.turn t)).RouterDue := by
  have ht := turned { c with turns := c.turns.erase t } t
  -- Nobody else takes the turn of the router away.
  have hother (c' : Client) (hs : c'.session = c.session) (hturns : c'.turns = c.turns.erase t)
      (hn : ∀ r, c.session.wiring.router? = some r → .router r.channel ≠ t) : c'.RouterDue := by
    intro r hr hi
    rw [hs] at hr
    rw [hturns]
    exact (List.mem_erase_of_ne (hn r hr)).mpr (h r hr hi)
  rw [move]
  generalize Client.turn { c with turns := c.turns.erase t } t = c' at ht
  cases ht
  case routes =>
    intro r hr hi
    have he : c.session.route.inbox = r.inbox := by
      rw [Session.inbox, show c.session.route.wiring.router? = some r from hr]
      rfl
    exact absurd (he.symm.trans c.session.route_inbox) hi
  case resumes hr =>
    cases hr
    case waits | settles | ends =>
      refine RouterDue.withSession ?_ _
      exact hother _ rfl rfl fun _ _ hn => by cases hn
    case stays => exact hother _ rfl rfl fun _ _ hn => by cases hn
  case strange hc =>
    refine hother _ rfl rfl fun r hr hn => hc ?_
    rw [hr]
    exact congrArg some (Turn.router.inj hn)
  case gone => exact hother _ rfl rfl fun _ _ hn => by cases hn

theorem after (h : c.RouterDue) (ms : List Move) : (c.after ms).RouterDue := by
  induction ms generalizing c
  case nil => exact h
  case cons m ms hi =>
    cases m
    case input i => exact hi (h.input i)
    case turn t  => exact hi (h.turn t)

end RouterDue

theorem idle_routerDue : idle.RouterDue :=
  nofun

theorem Resting.inbox (hr : c.Resting) (h : c.RouterDue) : c.session.inbox = [] := by
  rw [Session.inbox]
  cases hs : c.session.wiring.router?
  case none => rfl
  case some r =>
    refine not_not.mp fun hn => ?_
    have hm := h r hs hn
    rw [hr.turns] at hm
    cases hm

end Client
end LanguageClient
