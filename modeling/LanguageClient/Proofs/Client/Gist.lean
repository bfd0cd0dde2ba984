import LanguageClient.Proofs.Client.Listening
import LanguageClient.Proofs.Session.Useless

namespace LanguageClient

variable {s t : Session} {k : Bool}

namespace Session

theorem gist_false_of_gist_true (h : s.gist true = t.gist true) : s.gist false = t.gist false := by
  have hf (s : Session) : s.gist false = (s.gist true).gist false := by
    simp [gist, Wiring.gist]
  rw [hf, h, ← hf]

theorem router?_of_gist (h : s.gist true = t.gist true) : s.wiring.router? = t.wiring.router? := by
  have hw : (s.gist true).wiring.router? = (t.gist true).wiring.router? := congrArg (·.wiring.router?) h
  simpa [gist, Wiring.gist] using hw

theorem channel_of_gist (h : s.gist k = t.gist k) :
    s.wiring.router?.map (·.channel) = t.wiring.router?.map (·.channel) := by
  have hw := congrArg (·.wiring.router?.map (·.channel)) h
  simpa [gist, Wiring.gist, Function.comp_def] using hw

theorem emit_gist_false (hc : s.transport.listeners.closed = []) (e : Event) :
    (s.emit e).gist false = s.gist false := by
  simp [emit, gist, Wiring.gist, prune_eq_self hc, Function.comp_def]

theorem take_gist (h : s.gist false = t.gist false) : s.take.gist k = t.take.gist k := by
  have ht (s : Session) : s.take.gist k = s.gist false := by
    simp [take, gist, Wiring.gist, Function.comp_def]
  rw [ht, h, ht]

theorem take_of_empty (h : s.inbox = []) : s.take = s := by
  obtain ⟨_, _, _, _, _, _, ⟨_, router?, _⟩, _, _⟩ := s
  cases router?
  case none   => rfl
  case some r =>
    obtain ⟨channel, inbox⟩ := r
    cases h
    rfl

theorem Wired.of_gist {first channel : Nat} (hw : s.Wired first channel) (h : s.gist k = t.gist k) :
    t.Wired first channel where
  owned    := (congrArg (·.wiring.listeners) h).symm.trans hw.owned
  attached := (congrArg (·.transport.listeners.attached) h).symm.trans hw.attached
  router   := (channel_of_gist h).symm.trans hw.router

theorem route_eq_foldl (s : Session) : s.route = s.inbox.foldl handle s.take := by
  obtain ⟨_, _, _, _, _, _, ⟨_, router?, _⟩, _, _⟩ := s
  cases router? <;> rfl

end Session

namespace Client

variable {c c' : Client}

-- A client without what its session has noted and, unless they count, the events that wait and the turns
-- that are due.
def gist (k : Bool) (c : Client) : Client :=
  { c with session := c.session.gist k, turns := if k then c.turns else [] }

theorem gist_false_of_gist_true (h : c.gist true = c'.gist true) : c.gist false = c'.gist false := by
  have hs := Session.gist_false_of_gist_true (congrArg (·.session) h)
  have hc : ({ c.gist true with session := c.session.gist false, turns := [] } : Client) =
      { c'.gist true with session := c'.session.gist false, turns := [] } := by
    rw [h, hs]
  exact hc

theorem withSession_gist (h : c.gist k = c'.gist k) (hs : s.gist k = t.gist k) :
    (c.withSession s).gist k = (c'.withSession t).gist k := by
  cases k
  case false =>
    -- The turns do not count, and nothing else depends on the old session.
    have hc : ({ c.gist false with session := s.gist false } : Client) =
        { c'.gist false with session := t.gist false } := by
      rw [h, hs]
    exact hc
  case true  =>
    have hcs : c.session.gist true = c'.session.gist true := congrArg (·.session) h
    have hd : c.callers = c'.callers := congrArg (·.callers) h
    have ht : c.turns = c'.turns := congrArg (·.turns) h
    have hp : c.session.pending = c'.session.pending := congrArg (·.session.pending) h
    have hp' : s.pending = t.pending := congrArg (·.pending) hs
    have hturns : (c.withSession s).turns = (c'.withSession t).turns := by
      simp only [withSession, callerTurns, routerTurn, hd, ht, hp, hp', Session.router?_of_gist hcs,
        Session.router?_of_gist hs]
    have hc : ({ c.gist true with session := s.gist true, turns := (c.withSession s).turns } : Client) =
        { c'.gist true with session := t.gist true, turns := (c'.withSession t).turns } := by
      rw [h, hs, hturns]
    exact hc

theorem addCaller_gist (h : c.gist k = c'.gist k) (label : String) (call : Call) (phase : Phase) :
    (c.addCaller label call phase).gist k = (c'.addCaller label call phase).gist k := by
  have ha (c : Client) : ((c.gist k).addCaller label call phase).gist k =
      (c.addCaller label call phase).gist k := by
    cases k <;> simp [gist, addCaller]
  rw [← ha, h, ha]

theorem dropCaller_gist (h : c.gist k = c'.gist k) (number : Nat) :
    (c.dropCaller number).gist k = (c'.dropCaller number).gist k := by
  have hd (c : Client) : ((c.gist k).dropCaller number).gist k = (c.dropCaller number).gist k := by
    cases k <;> simp [gist, dropCaller]
  rw [← hd, h, hd]

theorem abandon_gist (h : c.gist k = c'.gist k) (label : String) :
    (c.abandon label).1 = (c'.abandon label).1 ∧
      (c.abandon label).2.gist k = (c'.abandon label).2.gist k := by
  have hh : c.handles = c'.handles := congrArg (·.handles) h
  simp only [abandon, hh]
  split
  case h_1 => exact ⟨rfl, h⟩
  case h_2 number _ =>
    exact ⟨rfl, congrArg (fun x : Client => { x with handles := c'.handles.filter (·.1 ≠ label) })
      (dropCaller_gist h number)⟩

theorem report_gist (h : c.gist k = c'.gist k) (d : Caller) (result : Except Failure Json) :
    (c.report d result).gist k = (c'.report d result).gist k :=
  congrArg (fun c : Client => { c with finished := c.finished ++ [(d.label, result)] })
    (dropCaller_gist h d.number)

theorem await_gist (h : c.gist k = c'.gist k) (d : Caller) (ticket : Nat) :
    (c.await d ticket).gist k = (c'.await d ticket).gist k :=
  congrArg (await · d ticket) h

theorem perform_gist (h : c.gist k = c'.gist k) (i : Input) :
    (c.perform i).1 = (c'.perform i).1 ∧ (c.perform i).2.gist k = (c'.perform i).2.gist k := by
  have hs : c.session.gist k = c'.session.gist k := congrArg (·.session) h
  cases i
  case start command args =>
    obtain ⟨h₁, h₂⟩ := (Session.start_natural k command args).alike hs
    exact ⟨congrArg (Except.map Json.str) h₁, withSession_gist h h₂⟩
  case cleanup =>
    exact ⟨rfl, withSession_gist h (congrArg Session.cleanup hs)⟩
  case send label method params =>
    have hn := (Session.send_natural k method params).alike hs
    simp only [perform]
    generalize c.session.send method params = x at hn ⊢
    generalize c'.session.send method params = y at hn ⊢
    obtain ⟨r, s⟩ := x
    obtain ⟨r', t⟩ := y
    obtain ⟨rfl, ht⟩ := hn
    cases r
    case error => exact ⟨rfl, withSession_gist h ht⟩
    case ok    => exact ⟨rfl, addCaller_gist (withSession_gist h ht) _ _ _⟩
  case call label call => exact ⟨rfl, addCaller_gist h label call .fresh⟩
  case abandon label =>
    obtain ⟨h₁, h₂⟩ := abandon_gist h label
    exact ⟨congrArg (fun known => Except.ok (Json.bool known)) h₁, h₂⟩
  case notify method params =>
    obtain ⟨h₁, h₂⟩ := (Session.sendNotification_natural k method params).alike hs
    exact ⟨congrArg replyUnit h₁, withSession_gist h h₂⟩
  case didOpen path text language =>
    obtain ⟨h₁, h₂⟩ := (Session.sendNotification_natural k "textDocument/didOpen"
      (Protocol.didOpenParams path text language)).alike hs
    exact ⟨congrArg replyUnit h₁, withSession_gist h h₂⟩
  case didChange path text version =>
    obtain ⟨h₁, h₂⟩ := (Session.sendNotification_natural k "textDocument/didChange"
      (Protocol.didChangeParams path text version)).alike hs
    exact ⟨congrArg replyUnit h₁, withSession_gist h h₂⟩
  case cancel id =>
    obtain ⟨h₁, h₂⟩ := (Session.cancel_natural k id).alike hs
    exact ⟨congrArg (Except.map Json.bool) h₁, withSession_gist h h₂⟩
  case diagnostics uri =>
    have hb : c.session.bulletin = c'.session.bulletin := congrArg (·.bulletin) hs
    simp only [perform, hb]
    exact ⟨trivial, h⟩
  case subscribe name reactions =>
    exact ⟨rfl, withSession_gist h <| congrArg (fun s : Session =>
      { s with bulletin := s.bulletin.subscribe name reactions }) hs⟩
  case unsubscribe name =>
    have hb : c.session.bulletin = c'.session.bulletin := congrArg (·.bulletin) hs
    refine ⟨by simp only [perform, hb], withSession_gist h ?_⟩
    exact congrArg (fun s : Session => { s with bulletin := s.bulletin.unsubscribe name }) hs
  case emit e =>
    refine ⟨rfl, withSession_gist h ?_⟩
    rw [← Session.emit_gist, hs, Session.emit_gist]
  case refuseStart reason =>
    exact ⟨rfl, withSession_gist h <| congrArg (fun s : Session =>
      { s with transport := { s.transport with startRefusal? := some reason } }) hs⟩
  case refuseSends on =>
    exact ⟨rfl, withSession_gist h <| congrArg (fun s : Session => { s with
      transport := { s.transport with sendRefusal? := if on then some Loopback.refusal else none } }) hs⟩
  case write frame =>
    have ht : c.session.transport = c'.session.transport := congrArg (·.transport) hs
    cases hr : c'.session.transport.sendRefusal?
    case none =>
      simp only [perform, Session.write_accepted (ht ▸ hr), Session.write_accepted hr]
      exact ⟨trivial, withSession_gist h <| congrArg (fun s : Session =>
        { s with transport := { s.transport with sent := s.transport.sent ++ [frame] } }) hs⟩
    case some =>
      simp only [perform, Session.write_refused (ht ▸ hr), Session.write_refused hr]
      exact ⟨trivial, h⟩
  case sentValues =>
    have ht : c.session.transport.sent = c'.session.transport.sent := congrArg (·.transport.sent) hs
    simp only [perform, Client.sentValues, ht]
    exact ⟨trivial, h⟩
  case advance millis =>
    have hp : c.session.pending = c'.session.pending := congrArg (·.pending) hs
    refine ⟨rfl, withSession_gist h ?_⟩
    rw [Session.advance, ← Session.withPending_gist, hs, hp, Session.withPending_gist, Session.advance]

theorem resume_gist (h : c.gist k = c'.gist k) (d : Caller) :
    (c.resume d).gist k = (c'.resume d).gist k := by
  have hs : c.session.gist k = c'.session.gist k := congrArg (·.session) h
  have hp : c.session.pending = c'.session.pending := congrArg (·.pending) hs
  simp only [resume, hp]
  split
  case h_1 =>
    have hn := (Session.begin_natural k d.call).alike hs
    generalize c.session.begin d.call = x at hn ⊢
    generalize c'.session.begin d.call = y at hn ⊢
    obtain ⟨r, s⟩ := x
    obtain ⟨r', t⟩ := y
    obtain ⟨rfl, ht⟩ := hn
    obtain ticket | result := r
    · exact withSession_gist (await_gist h d ticket) ht
    · exact withSession_gist (report_gist h d result) ht
  case h_2 =>
    split
    case h_1 => exact h
    case h_2 outcome _ =>
      have hn := (Session.finish_natural k d.call outcome).alike hs
      generalize c.session.finish d.call outcome = x at hn ⊢
      generalize c'.session.finish d.call outcome = y at hn ⊢
      obtain ⟨result, s⟩ := x
      obtain ⟨result', t⟩ := y
      obtain ⟨rfl, ht⟩ := hn
      exact withSession_gist (report_gist h d result) ht

theorem turns_gist (h : c.gist k = c'.gist k) (f : List Turn → List Turn) :
    gist k { c with turns := f c.turns } = gist k { c' with turns := f c'.turns } := by
  cases k
  case false => exact h
  case true  => exact congrArg (fun c : Client => { c with turns := f c.turns }) h

theorem move_caller_gist (h : c.gist k = c'.gist k) (number : Nat) :
    (c.move (.turn (.caller number))).gist k = (c'.move (.turn (.caller number))).gist k := by
  have hd : c.callers = c'.callers := congrArg (·.callers) h
  have ht := turns_gist h (·.erase (.caller number))
  cases hf : c'.callers.find? (·.number = number)
  case none   =>
    simp only [move, turn, show c.callers.find? (·.number = number) = none from hd ▸ hf, hf]
    exact ht
  case some d =>
    simp only [move, turn, show c.callers.find? (·.number = number) = some d from hd ▸ hf, hf]
    exact resume_gist ht d

theorem move_emit_gist (hc : c.session.transport.listeners.closed = []) (e : Event) :
    (c.move (.input (.emit e))).gist false = c.gist false := by
  have hg : ({ c.gist false with session := (c.session.emit e).gist false } : Client) = c.gist false := by
    rw [Session.emit_gist_false hc]
    rfl
  exact hg

theorem move_router {channel : Nat} (hr : c.session.wiring.router?.map (·.channel) = some channel) :
    c.move (.turn (.router channel)) =
      { c with turns := c.turns.erase (.router channel) }.withSession c.session.route := by
  obtain ⟨r, hr', rfl⟩ := Option.map_eq_some_iff.mp hr
  simp [move, turn, hr']

theorem move_router_strange {channel : Nat}
    (hr : c.session.wiring.router?.map (·.channel) ≠ some channel) :
    c.move (.turn (.router channel)) = { c with turns := c.turns.erase (.router channel) } := by
  simp only [move, turn]
  split
  case h_1 r h =>
    simp only [h, Option.map_some, ne_eq, Option.some.injEq] at hr
    exact if_neg hr
  case h_2 => rfl

theorem move_gist (h : c.gist true = c'.gist true) (m : Move) :
    (c.move m).gist true = (c'.move m).gist true := by
  cases m
  case input i => exact (perform_gist h i).right
  case turn t  =>
    cases t
    case caller number  => exact move_caller_gist h number
    case router channel =>
      have hs : c.session.gist true = c'.session.gist true := congrArg (·.session) h
      have ht := turns_gist h (·.erase (.router channel))
      have hw := Session.router?_of_gist hs
      by_cases hr : c.session.wiring.router?.map (·.channel) = some channel
      case neg =>
        rw [move_router_strange hr, move_router_strange (hw ▸ hr)]
        exact ht
      case pos =>
        rw [move_router hr, move_router (hw ▸ hr)]
        refine withSession_gist ht ?_
        have hg : c.session.take.gist true = c'.session.take.gist true :=
          Session.take_gist (Session.gist_false_of_gist_true hs)
        rw [Session.route_eq_foldl, Session.route_eq_foldl, Session.inbox, hw, ← Session.inbox]
        exact Session.foldl_handle_gist hg _

theorem after_gist (h : c.gist true = c'.gist true) (ms : List Move) :
    (c.after ms).gist true = (c'.after ms).gist true := by
  induction ms generalizing c c'
  case nil          => exact h
  case cons m ms hi => exact hi (move_gist h m)

theorem go_gist (h : c.gist true = c'.gist true) (n : Nat) : (c.go n).gist true = (c'.go n).gist true := by
  induction n generalizing c c'
  case zero      => exact h
  case succ n hi =>
    have ht : c.turns = c'.turns := congrArg (·.turns) h
    cases hc : c'.turns
    case nil => simpa [go, ht, hc] using h
    case cons next later =>
      rw [go_cons (ht.trans hc), go_cons hc]
      exact hi (move_gist h _)

theorem rest_gist (h : c.gist true = c'.gist true) : c.rest.gist true = c'.rest.gist true := by
  have hd : c.callers = c'.callers := congrArg (·.callers) h
  have ht : c.turns = c'.turns := congrArg (·.turns) h
  rw [rest, rest, hd, ht]
  exact go_gist h _

theorem burst_gist (h : c.gist true = c'.gist true) (is : List Input) :
    (c.burst is).2.gist true = (c'.burst is).2.gist true := by
  rw [burst_snd, burst_snd]
  exact rest_gist (after_gist h _)

theorem withSession_same (h : s.gist true = c.session.gist true) :
    (c.withSession s).gist true = c.gist true := by
  have hp : s.pending = c.session.pending := congrArg (·.pending) h
  have hd : callerTurns c.callers c.session s = [] := by
    simp [callerTurns, Pending.completedSince, hp]
  have hr : routerTurn c.session s = [] := by
    rw [routerTurn, Session.router?_of_gist h]
    cases c.session.wiring.router? <;> simp
  have hw : (c.withSession s).gist true = { c.gist true with
      session := s.gist true
      turns   := (callerTurns c.callers c.session s ++ routerTurn c.session s).foldl addTurn c.turns } :=
    rfl
  rw [hw, hd, hr, h]
  rfl

theorem withSession_alike (h : c.gist false = c'.gist false) (ht : c.turns = c'.turns)
    (hs : s.gist true = t.gist true) (hr : routerTurn c.session s = [])
    (hr' : routerTurn c'.session t = []) :
    (c.withSession s).gist true = (c'.withSession t).gist true := by
  have hd : c.callers = c'.callers := congrArg (·.callers) h
  have hp : c.session.pending = c'.session.pending := congrArg (·.session.pending) h
  have hp' : s.pending = t.pending := congrArg (·.pending) hs
  have hturns : (c.withSession s).turns = (c'.withSession t).turns := by
    simp only [withSession, callerTurns, hd, ht, hp, hp', hr, hr']
  have hc : ({ c.gist false with session := s.gist true, turns := (c.withSession s).turns } : Client) =
      { c'.gist false with session := t.gist true, turns := (c'.withSession t).turns } := by
    rw [h, hs, hturns]
  exact hc

end Client
end LanguageClient
