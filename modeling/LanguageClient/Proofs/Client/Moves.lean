import LanguageClient.Client
import LanguageClient.Proofs.Session.Invariants

namespace LanguageClient

-- A turn may be taken at any time, so that nothing that is shown of all sequences of moves rests on the
-- order in which turns become due.
inductive Client.Move
  | input (i : Input)
  | turn (t : Turn)

def Input.actions : Input → List Action
  | start command args => [.start command args]
  | cleanup => [.cleanup]
  | send _ method params => [.send method params]
  | notify method params => [.sendNotification method params]
  | didOpen path text language =>
    [.sendNotification "textDocument/didOpen" (Protocol.didOpenParams path text language)]
  | didChange path text version =>
    [.sendNotification "textDocument/didChange" (Protocol.didChangeParams path text version)]
  | cancel id => [.cancel id]
  | subscribe name reactions => [.subscribe name reactions]
  | unsubscribe name => [.unsubscribe name]
  | emit e => [.emit e]
  | refuseStart reason => [.refuseStart reason]
  | refuseSends on => [.refuseSends (if on then some Loopback.refusal else none)]
  | write frame => [.write frame]
  | advance millis => [.advance millis]
  | call .. | abandon _ | diagnostics _ | sentValues => []

-- What a call does to its session. Only a shutdown ends it.
def Action.ofCall : Call → Action → Bool
  | _, send .. | _, notify .. | _, sendNotification .. | _, handshake _ | _, note _ => true
  | .shutdown, stop => true
  | _, _ => false

def Action.ofTurn : Action → Bool
  | take | deliver _ => true
  | a => a.ofCall .shutdown

theorem Action.ofTurn_of_ofCall {a : Action} {call : Call} (h : a.ofCall call) : a.ofTurn := by
  cases a
  all_goals first | rfl | cases call <;> cases h

namespace Session

def finishing (s : Session) : Call → Except Failure Json → List Action
  | .handshake _, .error _ => [.handshake .notStarted]
  | .handshake _, .ok _ =>
    match { s with handshake := .acknowledged }.sendNotification "initialized" (.object []) with
    | (.error _, _) => [.handshake .acknowledged, .sendNotification "initialized" (.object [])]
    | (.ok _, _) =>
      [.handshake .acknowledged, .sendNotification "initialized" (.object []),
        .handshake .complete, .note .handshakeComplete]
  | .shutdown, .error _ => [.stop]
  | .shutdown, .ok _ => [.notify "exit" .null, .stop]
  | _, _ => []

def asking (s : Session) (call : Call) (method : String) (params : Json) : List Action :=
  match s.send method params with
  | (.ok _, _) => [.send method params]
  | (.error e, s) => .send method params :: s.finishing call (.error e)

def beginning (s : Session) : Call → List Action
  | .response => []
  | .request method params want => s.asking (.request method params want) method params
  | .completion path line character =>
    s.asking (.completion path line character) "textDocument/completion"
      (Protocol.completionParams path line character)
  | .shutdown => s.asking .shutdown "shutdown" .null
  | .handshake root =>
    if s.handshake ≠ .notStarted then []
    else
      .handshake .awaitingResponse :: { s with handshake := .awaitingResponse }.asking
        (.handshake root) "initialize" (Protocol.initializeParams root)

def routing (s : Session) : List Action :=
  match s.wiring.router? with
  | none => []
  | some r => .take :: r.inbox.map .deliver

theorem finishing_ofCall (s : Session) (call : Call) (r : Except Failure Json) :
    ∀ a ∈ s.finishing call r, a.ofCall call := by
  cases call
  case handshake root =>
    cases r
    case error => simp [finishing, Action.ofCall]
    case ok v  =>
      rw [finishing]
      split
      all_goals simp [Action.ofCall]
  case shutdown => cases r <;> simp [finishing, Action.ofCall]
  all_goals nofun

theorem asking_ofCall (s : Session) (call : Call) (method : String) (params : Json) :
    ∀ a ∈ s.asking call method params, a.ofCall call := by
  rw [asking]
  split
  case h_1 => simp [Action.ofCall]
  case h_2 => exact List.forall_mem_cons.mpr ⟨rfl, finishing_ofCall _ _ _⟩

theorem beginning_ofCall (s : Session) (call : Call) : ∀ a ∈ s.beginning call, a.ofCall call := by
  cases call
  case response => nofun
  case handshake root =>
    simp only [beginning]
    split
    case isTrue  => nofun
    case isFalse => exact List.forall_mem_cons.mpr ⟨rfl, asking_ofCall _ _ _ _⟩
  all_goals
    rw [beginning]
    exact s.asking_ofCall _ _ _

theorem finish_eq (s : Session) (call : Call) (r : Except Failure Json) :
    (s.finish call r).2 = s.actAll (s.finishing call r) := by
  cases call
  case handshake root =>
    cases r
    case error => rfl
    case ok v =>
      simp only [finish, acknowledge, finishing]
      cases h : { s with handshake := .acknowledged }.sendNotification "initialized" (.object [])
      case mk r s' =>
        cases r
        all_goals simp only [actAll_cons, actAll_nil, act, h]
  case shutdown =>
    cases r
    case error => rfl
    case ok    => rfl
  all_goals rfl

theorem ask_eq (s : Session) (call : Call) (method : String) (params : Json) :
    (s.ask call method params).2 = s.actAll (s.asking call method params) := by
  simp only [ask, asking]
  cases h : s.send method params
  case mk r s' =>
    cases r
    case error => simp only [actAll_cons, act, h, finish_eq]
    case ok    => simp only [actAll_cons, actAll_nil, act, h]

theorem begin_eq (s : Session) (call : Call) :
    (s.begin call).2 = s.actAll (s.beginning call) := by
  cases call
  case response   => rfl
  case request    => exact s.ask_eq ..
  case completion => exact s.ask_eq ..
  case shutdown   => exact s.ask_eq ..
  case handshake root =>
    simp only [Session.begin, beginning]
    split
    case isTrue  => rfl
    case isFalse => exact ask_eq ..

theorem route_eq (s : Session) : s.route = s.actAll s.routing := by
  simp only [route, routing]
  cases h : s.wiring.router?
  case none   => rfl
  case some r => simp [act, take, h, actAll, List.foldl_map]

end Session

namespace Client

variable {c : Client} {m : Move} {ms : List Move}

def move (c : Client) : Move → Client
  | .input i => (c.perform i).2
  | .turn t => { c with turns := c.turns.erase t }.turn t

def after (c : Client) (ms : List Move) : Client :=
  ms.foldl move c

def resuming (s : Session) (d : Caller) : List Action :=
  match d.phase with
  | .fresh => s.beginning d.call
  | .waiting ticket =>
    match s.pending.outcome? ticket with
    | none => []
    | some outcome => s.finishing d.call outcome

theorem resuming_ofCall (s : Session) (d : Caller) : ∀ a ∈ resuming s d, a.ofCall d.call := by
  rw [resuming]
  split
  case h_1 => exact s.beginning_ofCall d.call
  case h_2 =>
    split
    case h_1 => nofun
    case h_2 => exact s.finishing_ofCall d.call _

def actions (c : Client) : Move → List Action
  | .input i => i.actions
  | .turn (.router channel) =>
    if c.session.wiring.router?.map (·.channel) = some channel then c.session.routing else []
  | .turn (.caller number) =>
    match c.callers.find? (·.number = number) with
    | none => []
    | some d => resuming c.session d

theorem turn_actions (c : Client) (t : Turn) : ∀ a ∈ c.actions (.turn t), a.ofTurn := by
  cases t
  case router =>
    rw [actions]
    split
    · rw [Session.routing]
      split
      · nofun
      · simp [Action.ofTurn]
    · nofun
  case caller =>
    rw [actions]
    split
    case h_1     => nofun
    case h_2 d _ => exact fun a ha => Action.ofTurn_of_ofCall (resuming_ofCall _ d a ha)

def trace (c : Client) : List Move → List Action
  | []      => []
  | m :: ms => c.actions m ++ (c.move m).trace ms

@[simp] theorem after_nil : c.after [] = c :=
  rfl

@[simp] theorem after_cons : c.after (m :: ms) = (c.move m).after ms :=
  rfl

theorem after_append (c : Client) (ms₁ ms₂ : List Move) :
    c.after (ms₁ ++ ms₂) = (c.after ms₁).after ms₂ :=
  List.foldl_append

-- All that the turn of a caller can come to.
inductive Resumed (c : Client) (d : Caller) : Client → Prop
  | waits {ticket : Nat} {s : Session} (phase : d.phase = .fresh)
      (begun : c.session.begin d.call = (.waiting ticket, s)) :
      Resumed c d ((c.await d ticket).withSession s)
  | settles {result : Except Failure Json} {s : Session} (phase : d.phase = .fresh)
      (begun : c.session.begin d.call = (.over result, s)) :
      Resumed c d ((c.report d result).withSession s)
  | stays {ticket : Nat} (phase : d.phase = .waiting ticket)
      (told : c.session.pending.outcome? ticket = none) :
      Resumed c d c
  | ends {ticket : Nat} {outcome result : Except Failure Json} {s : Session}
      (phase : d.phase = .waiting ticket)
      (told : c.session.pending.outcome? ticket = some outcome)
      (finished : c.session.finish d.call outcome = (result, s)) :
      Resumed c d ((c.report d result).withSession s)

theorem resumed (c : Client) (d : Caller) : c.Resumed d (c.resume d) := by
  unfold resume
  split
  case h_1 hp =>
    split
    case h_1 hb => exact .waits hp hb
    case h_2 hb => exact .settles hp hb
  case h_2 hp =>
    split
    case h_1 ho => exact .stays hp ho
    case h_2 ho => exact .ends hp ho rfl

-- All that a turn can come to. The turn of one who is no longer there changes nothing.
inductive Turned (c : Client) : Turn → Client → Prop
  | routes {r : Router} (router : c.session.wiring.router? = some r) :
      Turned c (.router r.channel) (c.withSession c.session.route)
  | resumes {number : Nat} {d : Caller} {c' : Client}
      (caller : c.callers.find? (·.number = number) = some d) (resumed : c.Resumed d c') :
      Turned c (.caller number) c'
  | strange {channel : Nat} (router : c.session.wiring.router?.map (·.channel) ≠ some channel) :
      Turned c (.router channel) c
  | gone {number : Nat} (caller : c.callers.find? (·.number = number) = none) :
      Turned c (.caller number) c

theorem turned (c : Client) (t : Turn) : c.Turned t (c.turn t) := by
  cases t
  case router channel =>
    simp only [turn]
    split
    case h_1 r h =>
      split
      case isTrue hr  => exact hr ▸ .routes h
      case isFalse hr => exact .strange (by simp [h, hr])
    case h_2 h => exact .strange (by simp [h])
  case caller number =>
    simp only [turn]
    split
    case h_1 d h => exact .resumes h (c.resumed d)
    case h_2 h   => exact .gone h

theorem Resumed.session_eq {d : Caller} {c' : Client} (h : c.Resumed d c') :
    c'.session = c.session.actAll (resuming c.session d) := by
  cases h
  case waits hp hb      => rw [resuming, hp, ← Session.begin_eq, hb]; rfl
  case settles hp hb    => rw [resuming, hp, ← Session.begin_eq, hb]; rfl
  case stays hp ho      => simp only [resuming, hp, ho]; rfl
  case ends hp ho hf    => simp only [resuming, hp, ho, ← Session.finish_eq, hf]; rfl

theorem Turned.session_eq {t : Turn} {c' : Client} (h : c.Turned t c') :
    c'.session = c.session.actAll (c.actions (.turn t)) := by
  cases h
  case routes r h    => simpa [actions, h, withSession] using c.session.route_eq
  case resumes hd hr => simpa only [actions, hd] using hr.session_eq
  case strange h     => rw [actions, if_neg h]; rfl
  case gone h        => simp only [actions, h]; rfl

inductive Performed (c : Client) : Input → Client → Prop
  | sends {label method : String} {params : Json} {handle : Handle} {s : Session}
      (sent : c.session.send method params = (.ok handle, s)) :
      Performed c (.send label method params)
        ((c.withSession s).addCaller label .response (.waiting handle.ticket))
  | calls {label : String} {call : Call} :
      Performed c (.call label call) (c.addCaller label call .fresh)
  | abandons {label : String} {number : Nat} {handles : List (String × Nat)} :
      Performed c (.abandon label) { c.dropCaller number with handles }
  | acts {i : Input} : Performed c i (c.withSession (c.session.actAll i.actions))
  | stays {i : Input} (session : c.session.actAll i.actions = c.session) : Performed c i c

theorem performed (c : Client) (i : Input) : c.Performed i (c.move (.input i)) := by
  cases i
  case send label method params =>
    rw [move, perform]
    split
    case h_1 h => exact .sends h
    case h_2 s h =>
      have hs : s = c.session.actAll (Input.send label method params).actions := by
        simp [Input.actions, Session.act, h]
      exact hs ▸ .acts
  case write frame =>
    rw [move, perform]
    split
    case h_1 s h =>
      have hs : s = c.session.actAll (Input.write frame).actions := by
        simp [Input.actions, Session.act, h, Except.toOption]
      exact hs ▸ .acts
    case h_2 h => exact .stays (by simp [Input.actions, Session.act, h, Except.toOption])
  case abandon label =>
    rw [move, perform]
    simp only [abandon]
    split
    case h_1 => exact .stays rfl
    case h_2 => exact .abandons
  case call       => exact .calls
  case diagnostics => exact .stays rfl
  case sentValues => exact .stays rfl
  all_goals exact .acts

theorem Performed.session_eq {i : Input} {c' : Client} (h : c.Performed i c') :
    c'.session = c.session.actAll i.actions := by
  cases h
  case sends h => simp [Input.actions, Session.act, h, withSession, addCaller]
  case stays h => exact h.symm
  all_goals rfl

theorem actions_turns (c : Client) (turns : List Turn) (m : Move) :
    actions { c with turns } m = c.actions m := by
  cases m
  case input => rfl
  case turn t =>
    cases t
    case router => rfl
    case caller => rfl

theorem session_move (c : Client) (m : Move) :
    (c.move m).session = c.session.actAll (c.actions m) := by
  cases m
  case input i => exact (c.performed i).session_eq
  case turn t =>
    have h := (turned { c with turns := c.turns.erase t } t).session_eq
    rwa [actions_turns] at h

theorem session_after (c : Client) (ms : List Move) :
    (c.after ms).session = c.session.actAll (c.trace ms) := by
  induction ms generalizing c
  case nil          => rfl
  case cons m ms hi => rw [after_cons, hi, session_move, trace, Session.actAll_append]

theorem trace_append (c : Client) (ms₁ ms₂ : List Move) :
    c.trace (ms₁ ++ ms₂) = c.trace ms₁ ++ (c.after ms₁).trace ms₂ := by
  induction ms₁ generalizing c
  case nil          => rfl
  case cons m ms hi => rw [List.cons_append, trace, hi, trace, after_cons, List.append_assoc]

theorem turn_of_cons {next : Turn} {later : List Turn} (ht : c.turns = next :: later) :
    c.move (.turn next) = Client.turn { c with turns := later } next := by
  rw [move, ht, List.erase_cons_head]

def turnsTaken (c : Client) : Nat → List Turn
  | 0 => []
  | n + 1 =>
    match c.turns with
    | [] => []
    | t :: rest => t :: ({ c with turns := rest }.turn t).turnsTaken n

def schedule (c : Client) (is : List Input) : List Move :=
  let asked := c.after (is.map .input)
  is.map .input ++ (asked.turnsTaken (asked.turns.length + asked.callers.length)).map .turn

def bursts (c : Client) (iss : List (List Input)) : Client :=
  iss.foldl (fun c is => (c.burst is).2) c

theorem go_eq_after (c : Client) (n : Nat) : c.go n = c.after ((c.turnsTaken n).map .turn) := by
  induction n generalizing c
  case zero => rfl
  case succ n hi =>
    match ht : c.turns with
    | []        => simp only [go, turnsTaken, ht, List.map_nil, after_nil]
    | t :: rest => simp only [go, turnsTaken, ht, List.map_cons, after_cons, hi, turn_of_cons ht]

theorem inputs_eq (c : Client) (is : List Input) (replies : List (Except Failure Json)) :
    (is.foldl (fun (replies, c) i => let (r, c) := perform c i; (replies ++ [r], c))
      (replies, c)).2 = c.after (is.map .input) := by
  induction is generalizing c replies
  case nil          => rfl
  case cons i is hi => exact hi (c.perform i).2 _

theorem burst_snd (c : Client) (is : List Input) :
    (c.burst is).2 = (c.after (is.map .input)).rest := by
  rw [burst]
  exact congrArg Client.rest (inputs_eq c is [])

theorem burst_eq_after (c : Client) (is : List Input) : (c.burst is).2 = c.after (c.schedule is) := by
  rw [burst_snd, rest, go_eq_after, schedule, after_append]

theorem bursts_eq_after (c : Client) (iss : List (List Input)) : ∃ ms, c.bursts iss = c.after ms := by
  induction iss generalizing c
  case nil => exact ⟨[], rfl⟩
  case cons is iss hi =>
    have ⟨ms, hm⟩ := hi (c.burst is).2
    refine ⟨c.schedule is ++ ms, ?_⟩
    rw [after_append, ← burst_eq_after, ← hm]
    rfl

end Client
end LanguageClient
