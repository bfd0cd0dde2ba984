import LanguageClient.Proofs.Client.Gist

namespace LanguageClient

variable {s t : Session} {k : Bool}

-- The actions that neither set up a router nor bring events to it nor take them.
def Action.isCalm : Action → Bool
  | start .. | emit _ | take => false
  | _ => true

theorem Action.isCalm_of_ofCall {a : Action} {call : Call} (h : a.ofCall call) : a.isCalm := by
  cases a
  case start | emit | take => cases call <;> cases h
  all_goals rfl

namespace Session

variable {a : Action} {as : List Action}

-- They leave the router as it is, or they remove it.
theorem calm_act (ha : a.isCalm) :
    (s.act a).wiring = s.wiring ∨ (s.act a).wiring.router? = none := by
  cases hw : a.writes
  case true =>
    obtain ⟨_, _, _, _, h⟩ := s.act_writes hw
    exact .inl (by rw [h])
  case false =>
    cases a
    case start | emit | take                               => cases ha
    case send | notify | sendNotification | cancel | write => cases hw
    case cleanup | stop                                    => exact .inr rfl
    case deliver e                                         =>
      obtain ⟨_, _, _, _, h⟩ := s.handle_eq e
      rw [act, h]
      exact .inl rfl
    all_goals exact .inl rfl

theorem calm_actAll (has : ∀ a ∈ as, a.isCalm) :
    (s.actAll as).wiring = s.wiring ∨ (s.actAll as).wiring.router? = none := by
  induction as generalizing s
  case nil          => exact .inl rfl
  case cons a as hi =>
    have ⟨ha, has⟩ := List.forall_mem_cons.mp has
    obtain h | h := calm_act (s := s) ha
    · exact h ▸ hi has
    · obtain h' | h' := hi (s := s.act a) has
      · exact .inr (congrArg (·.router?) h' |>.trans h)
      · exact .inr h'

theorem inbox_of_wiring (h : s.wiring = t.wiring) : s.inbox = t.inbox := by
  rw [inbox, h, inbox]

theorem inbox_of_router? (h : s.wiring.router? = none) : s.inbox = [] := by
  rw [inbox, h]
  rfl

def arrivals (s : Session) (e : Event) : Nat :=
  (s.wiring.router?.map (·.channel)).elim 0 (s.transport.listeners.receivers e.stream).count

theorem inbox_emit (s : Session) (e : Event) :
    (s.emit e).inbox = s.inbox ++ List.replicate (s.arrivals e) e := by
  simp only [inbox, emit, arrivals]
  cases s.wiring.router? <;> rfl

theorem arrivals_of_gist (h : s.gist k = t.gist k) (e : Event) : s.arrivals e = t.arrivals e := by
  have hc := congrArg (·.wiring.router?.map (·.channel)) h
  have ht : s.transport = t.transport := congrArg (·.transport) h
  simp only [gist, Wiring.gist, Option.map_map, Function.comp_def] at hc
  rw [arrivals, hc, ht, arrivals]

end Session

namespace Client

variable {c c' : Client} {m : Move}

def Move.isCalm : Move → Bool
  | .input (.start ..) | .input (.emit _) | .turn (.router _) => false
  | _ => true

theorem actions_calm (hm : m.isCalm) : ∀ a ∈ c.actions m, a.isCalm := by
  cases m
  case input i =>
    cases i
    case start | emit => cases hm
    all_goals simp [actions, Input.actions, Action.isCalm]
  case turn t =>
    cases t
    case router => cases hm
    case caller =>
      rw [actions]
      split
      case h_1     => exact List.forall_mem_nil _
      case h_2 d _ => exact fun a ha => Action.isCalm_of_ofCall (resuming_ofCall _ d a ha)

theorem move_gist_of_calm (h : c.gist k = c'.gist k) (hm : m.isCalm) :
    (c.move m).gist k = (c'.move m).gist k := by
  cases m
  case input i => exact (perform_gist h i).right
  case turn t  =>
    cases t
    case router        => cases hm
    case caller number => exact move_caller_gist h number

-- What happens in two runs: a move in both of them, or an event that comes in the first one only.
inductive Part
  | both (m : Move)
  | extra (e : Event)

namespace Part

def move : Part → Move
  | both m  => m
  | extra e => .input (.emit e)

def isExtra : Part → Bool
  | both _  => false
  | extra _ => true

def move? : Part → Option Move
  | both m  => some m
  | extra _ => none

end Part

-- The events in the inbox have marks that say which of them are extra. The inbox grows at its end, or it
-- is emptied, and so do the marks.
def refit (marks : List Bool) (n : Nat) (extra : Bool) : List Bool :=
  (marks ++ List.replicate n extra).take n

def marksAfter (c : Client) (marks : List Bool) (p : Part) : List Bool :=
  refit marks (c.move p.move).session.inbox.length p.isExtra

def Spares (c : Client) (marks : List Bool) : List Part → Prop
  | []      => True
  | p :: ps =>
    (∀ r, c.session.wiring.router? = some r → p = .both (.turn (.router r.channel)) →
        c.session.take.Harmless (c.session.inbox.zip marks)) ∧
      (c.move p.move).Spares (c.marksAfter marks p) ps

-- The inbox of the first client has the extra events, with marks, and the others are the inbox of
-- the second one.
structure Follows (c c' : Client) (marks : List Bool) : Prop where
  gist   : c.gist false = c'.gist false
  length : marks.length = c.session.inbox.length
  inbox  : c'.session.inbox = Session.unmarked (c.session.inbox.zip marks)

variable {marks : List Bool} {c₁ c₁' : Client} {x : Bool}

theorem refit_self {n : Nat} (h : marks.length = n) : refit marks n x = marks := by
  simp [refit, ← h]

theorem refit_zero : refit marks 0 x = [] :=
  rfl

theorem refit_add {n m : Nat} (h : marks.length = n) :
    refit marks (n + m) x = marks ++ List.replicate m x := by
  subst h
  have ht : marks.take (marks.length + m) = marks := List.take_of_length_le (Nat.le_add_right _ _)
  simp [refit, List.take_append, List.take_replicate, ht]

theorem Follows.stays (h : c.Follows c' marks) (hg : c₁.gist false = c₁'.gist false)
    (hi : c₁.session.inbox = c.session.inbox) (hi' : c₁'.session.inbox = c'.session.inbox) :
    c₁.Follows c₁' (refit marks c₁.session.inbox.length x) := by
  rw [hi, refit_self h.length]
  exact ⟨hg, hi ▸ h.length, by rw [hi, hi', h.inbox]⟩

theorem follows_empty (hg : c₁.gist false = c₁'.gist false) (hi : c₁.session.inbox = [])
    (hi' : c₁'.session.inbox = []) : c₁.Follows c₁' (refit marks c₁.session.inbox.length x) := by
  rw [hi, List.length_nil, refit_zero]
  exact ⟨hg, by rw [hi]; rfl, by rw [hi, hi']; rfl⟩

theorem Follows.calm (h : c.Follows c' marks) (hm : m.isCalm) :
    (c.move m).Follows (c'.move m) (c.marksAfter marks (.both m)) := by
  have hg := move_gist_of_calm h.gist hm
  have hr : (c.move m).session.wiring.router?.map (·.channel) =
      (c'.move m).session.wiring.router?.map (·.channel) :=
    Session.channel_of_gist (k := false) (congrArg (·.session) hg)
  have hw := Session.calm_actAll (s := c.session) (actions_calm (c := c) hm)
  have hw' := Session.calm_actAll (s := c'.session) (actions_calm (c := c') hm)
  rw [← session_move] at hw hw'
  -- If the router is removed in one run, it is removed in the other.
  by_cases hn : (c.move m).session.wiring.router? = none
  case pos =>
    have hn' : (c'.move m).session.wiring.router? = none := by simpa [hn] using hr.symm
    exact follows_empty hg (Session.inbox_of_router? hn) (Session.inbox_of_router? hn')
  case neg =>
    have hn' : (c'.move m).session.wiring.router? ≠ none := fun hn' => hn (by simpa [hn'] using hr)
    exact h.stays hg (Session.inbox_of_wiring (hw.resolve_right hn))
      (Session.inbox_of_wiring (hw'.resolve_right hn'))

theorem Follows.start (h : c.Follows c' marks) (command : String) (args : List String) :
    let m : Move := .input (.start command args)
    (c.move m).Follows (c'.move m) (c.marksAfter marks (.both m)) :=
  follows_empty (perform_gist h.gist _).right (Session.start_inbox ..) (Session.start_inbox ..)

theorem Follows.emit (h : c.Follows c' marks) (e : Event) :
    let m : Move := .input (.emit e)
    (c.move m).Follows (c'.move m) (c.marksAfter marks (.both m)) := by
  intro m
  have hi : (c.move m).session.inbox = _ := c.session.inbox_emit e
  have hi' : (c'.move m).session.inbox = _ := c'.session.inbox_emit e
  have ha : c'.session.arrivals e = c.session.arrivals e :=
    Session.arrivals_of_gist (k := false) (congrArg (·.session) h.gist.symm) e
  rw [marksAfter, Part.move, hi, List.length_append, List.length_replicate, refit_add h.length]
  refine ⟨(perform_gist h.gist _).right, by simp [hi, h.length], ?_⟩
  rw [hi, hi', h.inbox, ha, List.zip_append h.length.symm]
  simp [Session.unmarked, Part.isExtra, List.zip_replicate']

theorem Follows.extra (h : c.Follows c' marks) (hc : c.session.transport.listeners.closed = [])
    (e : Event) : (c.move (.input (.emit e))).Follows c' (c.marksAfter marks (.extra e)) := by
  have hi : (c.move (.input (.emit e))).session.inbox = _ := c.session.inbox_emit e
  rw [marksAfter, Part.move, hi, List.length_append, List.length_replicate, refit_add h.length]
  refine ⟨(move_emit_gist hc e).trans h.gist, by simp [hi, h.length], ?_⟩
  rw [hi, h.inbox, List.zip_append h.length.symm]
  simp [Session.unmarked, Part.isExtra, List.zip_replicate']

theorem Follows.router (h : c.Follows c' marks) (channel : Nat)
    (hs : ∀ r, c.session.wiring.router? = some r → r.channel = channel →
      c.session.take.Harmless (c.session.inbox.zip marks)) :
    let m : Move := .turn (.router channel)
    (c.move m).Follows (c'.move m) (c.marksAfter marks (.both m)) := by
  intro m
  have hg := turns_gist h.gist (·.erase (.router channel))
  have hsg : c.session.gist false = c'.session.gist false := congrArg (·.session) h.gist
  have hc := Session.channel_of_gist hsg
  rw [marksAfter, Part.move]
  by_cases hr : c.session.wiring.router?.map (·.channel) = some channel
  case neg =>
    -- A router that is not there any more has a turn in both runs, and nothing comes of it.
    have hm := move_router_strange hr
    have hm' := move_router_strange (hc ▸ hr)
    refine h.stays ?_ ?_ ?_
    · rw [hm, hm']
      exact hg
    · rw [hm]
    · rw [hm']
  case pos =>
    have hi := inbox_router hr
    have hi' := inbox_router (hc ▸ hr)
    refine follows_empty ?_ hi hi'
    rw [move_router hr, move_router (hc ▸ hr)]
    refine withSession_gist hg ?_
    obtain ⟨r, hr, hn⟩ := Option.map_eq_some_iff.mp hr
    have hf := (hs r hr hn).foldl_handle (k := false) (Session.take_gist hsg)
    have he : (c.session.inbox.zip marks).map (·.1) = c.session.inbox :=
      List.map_fst_zip (Nat.le_of_eq h.length.symm)
    rwa [he, ← h.inbox, ← Session.route_eq_foldl, ← Session.route_eq_foldl] at hf

def full (ps : List Part) : List Move :=
  ps.map (·.move)

def common (ps : List Part) : List Move :=
  ps.filterMap (·.move?)

theorem Follows.after {ps : List Part} (h : c.Follows c' marks) (hc : c.Proper) (hs : c.Spares marks ps) :
    (c.after (full ps)).gist false = (c'.after (common ps)).gist false := by
  induction ps generalizing c c' marks
  case nil          => exact h.gist
  case cons p ps hi =>
    obtain ⟨hp, hs⟩ := hs
    have hc' := hc.move p.move
    cases p
    case extra e => exact hi (h.extra hc.orderly.open_ e) hc' hs
    case both m  =>
      cases hm : m.isCalm
      case true  => exact hi (h.calm hm) hc' hs
      case false =>
        cases m
        case input i =>
          cases i
          case start command args => exact hi (h.start command args) hc' hs
          case emit e             => exact hi (h.emit e) hc' hs
          all_goals cases hm
        case turn t =>
          cases t
          case router channel =>
            exact hi (h.router channel fun r hr hn => hp r hr (by rw [hn])) hc' hs
          case caller => cases hm

theorem bare_events_gist (h : c.session.Bare) (hc : c.session.transport.listeners.closed = [])
    (es : List Event) : (c.after ((es.map .emit).map .input)).gist true = c.gist true := by
  induction es
  case nil          => rfl
  case cons e es hi =>
    have hr : c.session.wiring.router? = none := Option.map_eq_none_iff.mp h.router
    have he : (c.session.emit e).gist true = c.session.gist true := by
      simp [Session.emit, Session.gist, Wiring.gist, Session.prune_eq_self hc, hr]
    exact (after_gist (withSession_same he) _).trans hi

theorem events_gist (hc : c.session.transport.listeners.closed = []) (es : List Event) :
    (c.after ((es.map .emit).map .input)).gist false = c.gist false := by
  induction es generalizing c
  case nil          => rfl
  case cons e es hi =>
    have q := c.session.act_quietly (a := .emit e) rfl
    have hc' : (c.move (.input (.emit e))).session.transport.listeners.closed = [] :=
      (congrArg _ <| q.listeners hc).trans hc
    exact (hi hc').trans (move_emit_gist hc e)

theorem go_of_nil (ht : c.turns = []) (n : Nat) : c.go n = c := by
  cases n
  case zero => rfl
  case succ => simp only [go, ht]

section Events

variable {first channel : Nat} {es : List Event}

theorem Hearing.erase_turns (h : c.Hearing first channel es) : c.turns.erase (.router channel) = [] := by
  rw [h.turns]
  split <;> simp

theorem Hearing.burst_gist (h : c.Hearing first channel []) (es : List Event) :
    (c.burst (es.map .emit)).2.gist true =
      (((c.after ((es.map .emit).map .input)).move (.turn (.router channel))).go
        c.callers.length).gist true := by
  have hs := h.events es
  have hd : (c.after ((es.map .emit).map .input)).callers = c.callers :=
    congrArg (·.callers) (events_gist h.open_ es)
  rw [burst_snd, rest, hd]
  cases es
  case nil =>
    have ht : c.turns = [] := h.turns
    have hr : (c.move (.turn (.router channel))).gist true = c.gist true := by
      rw [move_router h.wired.router, Session.route_eq_foldl, Session.take_of_empty h.inbox, h.inbox]
      exact (withSession_same rfl).trans (by rw [h.erase_turns, ← ht])
    rw [List.map_nil, List.map_nil, after_nil, go_of_nil ht, go_gist hr, go_of_nil ht]
  case cons e es =>
    have ht := hs.turns
    rw [if_neg (List.cons_ne_nil _ _)] at ht
    rw [ht, List.length_singleton, Nat.add_comm, go_cons ht]

theorem Hearing.route_gist (h : c.Hearing first channel []) (es : List Event) :
    (c.after ((es.map .emit).map .input)).session.route.gist true =
      (es.foldl Session.handle c.session).gist true := by
  have hs := h.events es
  have he : (c.after ((es.map .emit).map .input)).session.gist false = c.session.gist false :=
    congrArg (·.session) (events_gist h.open_ es)
  rw [Session.route_eq_foldl, hs.inbox]
  refine Session.foldl_handle_gist ?_ es
  rw [Session.take_gist he, Session.take_of_empty h.inbox]

theorem routerTurn_route (c : Client) : routerTurn c.session c.session.route = [] := by
  refine routerTurn_hushed ?_
  rw [Session.route_eq]
  refine Session.actAll_hushed ?_
  rw [Session.routing]
  split
  case h_1 => exact List.forall_mem_nil _
  case h_2 => simp [Action.stirs]

theorem Hearing.router_gist {es' : List Event} (h : c.Hearing first channel [])
    (h' : c'.Hearing first channel []) (hg : c.gist true = c'.gist true)
    (he : (es.foldl Session.handle c.session).gist true =
      (es'.foldl Session.handle c'.session).gist true) :
    ((c.after ((es.map .emit).map .input)).move (.turn (.router channel))).gist true =
      ((c'.after ((es'.map .emit).map .input)).move (.turn (.router channel))).gist true := by
  have hs := h.events es
  have hs' := h'.events es'
  have hf := gist_false_of_gist_true hg
  have hf' := (events_gist h.open_ es).trans (hf.trans (events_gist h'.open_ es').symm)
  rw [move_router hs.wired.router, move_router hs'.wired.router]
  refine withSession_alike (turns_gist hf' (·.erase (.router channel)))
    (hs.erase_turns.trans hs'.erase_turns.symm) ?_ (routerTurn_route _) (routerTurn_route _)
  rw [h.route_gist, h'.route_gist, he]

end Events

-- What comes to a client at rest in two runs: an input, or events some of which are extra.
inductive Bout
  | single (i : Input)
  | events (es : List (Event × Bool))

namespace Bout

def full : Bout → List Input
  | single i  => [i]
  | events es => (es.map (·.1)).map .emit

def common : Bout → List Input
  | single i  => [i]
  | events es => (Session.unmarked es).map .emit

def Spared (s : Session) : Bout → Prop
  | single _  => True
  | events es => s.wiring.router?.isSome → s.Harmless es

end Bout

def SparesAll (c : Client) : List Bout → Prop
  | []      => True
  | b :: bs => b.Spared c.session ∧ (c.burst b.full).2.SparesAll bs

structure Settled (c : Client) : Prop where
  resting : c.Resting
  proper  : c.Proper
  due     : c.RouterDue

theorem idle_settled : idle.Settled :=
  ⟨idle_resting, idle_proper, idle_routerDue⟩

theorem Settled.burst (h : c.Settled) (is : List Input) : (c.burst is).2.Settled where
  resting := h.resting.burst_resting h.proper is
  proper  := h.proper.burst is
  due     := burst_eq_after c is ▸ h.due.after _

theorem Settled.hearing {first channel : Nat} (h : c.Settled) (hw : c.session.Wired first channel) :
    c.Hearing first channel [] :=
  ⟨hw, h.proper.orderly.open_, h.resting.inbox h.due, h.resting.turns⟩

theorem Settled.bout (h : c.Settled) (h' : c'.Settled) (hg : c.gist true = c'.gist true) {b : Bout}
    (hb : b.Spared c.session) : (c.burst b.full).2.gist true = (c'.burst b.common).2.gist true := by
  have hs : c.session.gist true = c'.session.gist true := congrArg (·.session) hg
  cases b
  case single i  => exact burst_gist hg [i]
  case events es =>
    have hd : c.callers = c'.callers := congrArg (·.callers) hg
    obtain hw | ⟨first, channel, hw⟩ := h.proper.orderly.wiring
    case inl =>
      have hw' : c'.session.Bare :=
        ⟨(congrArg (·.wiring.listeners) hs).symm.trans hw.owned,
          (congrArg (·.transport.listeners.attached) hs).symm.trans hw.attached,
          (Session.channel_of_gist hs).symm.trans hw.router⟩
      have he := bare_events_gist hw h.proper.orderly.open_ (es.map (·.1))
      have he' := bare_events_gist hw' h'.proper.orderly.open_ (Session.unmarked es)
      rw [burst_snd, burst_snd]
      -- Nobody hears the events, neither in the first run nor in the second one.
      exact rest_gist (he.trans (hg.trans he'.symm))
    case inr =>
      have hh := h.hearing hw
      have hh' := h'.hearing (hw.of_gist hs)
      have hr : c.session.wiring.router?.isSome := by
        rw [← Option.isSome_map, hw.router]
        rfl
      have hn := (hb hr).foldl_handle hs
      rw [Bout.full, Bout.common, hh.burst_gist, hh'.burst_gist, hd]
      exact go_gist (hh.router_gist hh' hg hn) _

theorem Settled.bouts (h : c.Settled) (h' : c'.Settled) (hg : c.gist true = c'.gist true)
    {bs : List Bout} (hb : c.SparesAll bs) :
    (c.bursts (bs.map (·.full))).gist true = (c'.bursts (bs.map (·.common))).gist true := by
  induction bs generalizing c c'
  case nil          => exact hg
  case cons b bs hi =>
    obtain ⟨hb, hbs⟩ := hb
    exact hi (h.burst _) (h'.burst _) (h.bout h' hg hb) hbs

structure Alike (k : Bool) (c c' : Client) : Prop where
  gist    : c.gist k = c'.gist k
  replies : ∀ i, (c.perform i).1 = (c'.perform i).1

-- What useless events come to: a notice, and nothing else. They can be left out of every run in which the
-- others have their turns in the same order. The order is the same in a run that comes to rest after each
-- input and after events that come together.
structure Ignored : Prop where
  noted   : ∀ (s : Session) (e : Event), s.Useless e → ∃ ns, s.handle e = s.noteAll ns
  omitted : ∀ ps, idle.Spares [] ps → Alike false (idle.after (full ps)) (idle.after (common ps))
  rested  : ∀ bs, idle.SparesAll bs →
    Alike true (idle.bursts (bs.map (·.full))) (idle.bursts (bs.map (·.common)))

example : idle.SparesAll [.single (.start "server" []), .single (.send "work" "ask" .null),
    .events [(⟨.log, "busy"⟩, true), (⟨.message, "\x7b\"id\":0,\"result\":1\x7d"⟩, false),
      (⟨.message, "noise"⟩, true)]] :=
  ⟨trivial, trivial, fun _ => ⟨fun _ => .line nofun, nofun, fun _ => .undecodable rfl rfl, trivial⟩, trivial⟩

end Client
end LanguageClient
