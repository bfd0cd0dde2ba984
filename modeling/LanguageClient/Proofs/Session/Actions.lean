import LanguageClient.Proofs.Pending.Operations
import LanguageClient.Session.Call

namespace LanguageClient

inductive Action
  | start (command : String) (args : List String)
  | cleanup
  | stop
  | send (method : String) (params : Json)
  | notify (method : String) (params : Json)
  | sendNotification (method : String) (params : Json)
  | cancel (id : Int)
  | take
  | deliver (e : Event)
  | emit (e : Event)
  | advance (millis : Nat)
  | handshake (h : Handshake)
  | note (n : Notice)
  | subscribe (name : String) (reactions : List Reaction)
  | unsubscribe (name : String)
  | refuseStart (reason : String)
  | refuseSends (reason? : Option String)
  | write (frame : String)

def Event.answer? (e : Event) : Option (Int × Except Rpc.ErrorObject Json) :=
  match e.stream, Rpc.Message.decode e.text with
  | .message, .ok (.response r) =>
    match r.id with
    | some (.number id) => some (id, r.outcome)
    | _ => none
  | _, _ => none

namespace Session

def take (s : Session) : Session :=
  { s with wiring := { s.wiring with router? := s.wiring.router?.map fun r => { r with inbox := [] } } }

def act (s : Session) : Action → Session
  | .start command args => (s.start command args).2
  | .cleanup => s.cleanup
  | .stop => s.stopped
  | .send method params => (s.send method params).2
  | .notify method params => (s.notify method params).2
  | .sendNotification method params => (s.sendNotification method params).2
  | .cancel id => (s.cancel id).2
  | .take => s.take
  | .deliver e => s.handle e
  | .emit e => s.emit e
  | .advance millis => s.advance millis
  | .handshake h => { s with handshake := h }
  | .note n => s.note n
  | .subscribe name reactions => { s with bulletin := s.bulletin.subscribe name reactions }
  | .unsubscribe name => { s with bulletin := s.bulletin.unsubscribe name }
  | .refuseStart reason => { s with transport := { s.transport with startRefusal? := some reason } }
  | .refuseSends reason? => { s with transport := { s.transport with sendRefusal? := reason? } }
  | .write frame => (s.write frame).toOption.getD s

def actAll (s : Session) (as : List Action) : Session :=
  as.foldl act s

end Session

def Action.operations (s : Session) : Action → List Pending.Operation
  | start .. => if s.lifecycle = .idle then [] else [.discardAll]
  | stop => [.discardAll]
  | send method _ =>
    if s.lifecycle.acceptsTraffic then
      .register s.issued method :: if s.transport.sendRefusal? = none then [] else [.forget s.issued]
    else []
  | cancel id => [.cancel id]
  | deliver e => (e.answer?.map fun (id, answer) => .settle id answer).toList
  | advance millis => [.advance millis]
  | _ => []

-- The actions that write to the server and leave everything but frames, requests and notices alone.
def Action.writes : Action → Bool
  | send .. | notify .. | sendNotification .. | cancel _ | write _ => true
  | _ => false

namespace Session

variable {s : Session} {a : Action} {as : List Action}

@[simp] theorem actAll_nil : s.actAll [] = s :=
  rfl

@[simp] theorem actAll_cons : s.actAll (a :: as) = (s.act a).actAll as :=
  rfl

theorem actAll_append (as₁ as₂ : List Action) :
    s.actAll (as₁ ++ as₂) = (s.actAll as₁).actAll as₂ :=
  List.foldl_append

theorem write_accepted (h : s.transport.sendRefusal? = none) (frame : String) :
    s.write frame =
      .ok { s with transport := { s.transport with sent := s.transport.sent ++ [frame] } } := by
  simp [write, Loopback.send, h, Except.map]

theorem write_refused {reason : String} (h : s.transport.sendRefusal? = some reason)
    (frame : String) : s.write frame = .error (.send reason) := by
  simp [write, Loopback.send, h, Except.map]

theorem write_cases (s : Session) (frame : String) :
    s.write frame =
        .ok { s with transport := { s.transport with sent := s.transport.sent ++ [frame] } } ∨
      ∃ fault, s.write frame = .error fault := by
  match h : s.transport.sendRefusal? with
  | none   => exact .inl (write_accepted h frame)
  | some _ => exact .inr ⟨_, write_refused h frame⟩

def requestFrame (id : Nat) (method : String) (params : Json) : String :=
  (Rpc.Message.request (.new id method params)).encode

theorem send_closed (h : s.lifecycle.acceptsTraffic = false) (method : String) (params : Json) :
    s.send method params = (.error (.invalidState "send" s.lifecycle.name), s) := by
  simp [send, refusal?, h]

theorem send_accepted (ha : s.lifecycle.acceptsTraffic) (h : s.transport.sendRefusal? = none)
    (method : String) (params : Json) : ∃ notices, s.send method params =
      (.ok ⟨s.pending.issued, s.issued, method⟩,
        { s with
          issued    := s.issued + 1
          pending   := s.pending.register s.issued method
          transport := { s.transport with
            sent := s.transport.sent ++ [requestFrame s.issued method params] }
          notices }) := by
  simp only [send, refusal?, ha, if_true]
  rw [write_accepted (by exact h)]
  exact ⟨_, rfl⟩

theorem send_refused {reason : String} (ha : s.lifecycle.acceptsTraffic)
    (h : s.transport.sendRefusal? = some reason) (method : String) (params : Json) :
    ∃ notices, s.send method params =
      (.error (.transport (.send reason)),
        { s with
          issued  := s.issued + 1
          pending := ((s.pending.register s.issued method).forget s.issued).2
          notices }) := by
  simp only [send, refusal?, ha, if_true]
  rw [write_refused (by exact h)]
  exact ⟨_, rfl⟩

theorem send_eq (s : Session) (method : String) (params : Json) : ∃ issued pending sent notices,
    (s.send method params).2 =
      { s with issued, pending, transport := { s.transport with sent }, notices } := by
  cases ha : s.lifecycle.acceptsTraffic
  case false =>
    rw [send_closed ha]
    exact ⟨_, _, _, _, rfl⟩
  case true =>
    cases hr : s.transport.sendRefusal?
    case none =>
      obtain ⟨_, h⟩ := send_accepted ha hr method params
      rw [h]
      exact ⟨_, _, _, _, rfl⟩
    case some =>
      obtain ⟨_, h⟩ := send_refused ha hr method params
      rw [h]
      exact ⟨_, _, _, _, rfl⟩

theorem notify_eq (s : Session) (method : String) (params : Json) : ∃ sent,
    (s.notify method params).2 = { s with transport := { s.transport with sent } } := by
  unfold notify
  rcases s.write_cases (Rpc.Message.notification (.new method params)).encode with h | ⟨fault, h⟩
  all_goals
    rw [h]
    exact ⟨_, rfl⟩

theorem sendNotification_eq (s : Session) (method : String) (params : Json) : ∃ sent,
    (s.sendNotification method params).2 = { s with transport := { s.transport with sent } } := by
  unfold sendNotification
  split
  · exact ⟨_, rfl⟩
  · split
    · exact ⟨_, rfl⟩
    · exact s.notify_eq method params

theorem cancel_eq (s : Session) (id : Int) : ∃ sent notices, (s.cancel id).2 =
    { s with
      pending   := (s.pending.cancel id).2
      transport := { s.transport with sent }
      notices } := by
  simp only [cancel]
  split
  case isTrue =>
    have ⟨sent, h⟩ := notify_eq (s.withPending (s.pending.cancel id).2) "$/cancelRequest"
      (.object [("id", .int id)])
    exact ⟨_, _, h⟩
  case isFalse h =>
    rw [Pending.cancel, Pending.claim_eq_self (by simpa [Pending.cancel, Pending.claim] using h)]
    exact ⟨_, _, rfl⟩

theorem answered_eq (s : Session) (r : Rpc.Response) : ∃ notices, s.answered r =
    { s with
      pending := match r.id with
        | some (.number id) => (s.pending.settle id r.outcome).2
        | _ => s.pending
      notices } := by
  unfold answered
  split
  case h_1 id hi =>
    simp only [hi]
    split
    case isTrue => exact ⟨_, rfl⟩
    case isFalse h =>
      rw [Pending.settle,
        Pending.claim_eq_self (by simpa [Pending.settle, Pending.claim] using h)]
      exact ⟨_, rfl⟩
  case h_2 hi => simp only [hi]; exact ⟨_, rfl⟩
  case h_3 hi => simp only [hi]; exact ⟨_, rfl⟩

theorem decline_eq (s : Session) (r : Rpc.Request) : ∃ sent notices, s.decline r =
    { s with transport := { s.transport with sent }, notices } := by
  simp only [decline]
  rcases write_cases (s.note (.declining r.method r.id)) _ with h | ⟨fault, h⟩
  all_goals
    rw [h]
    exact ⟨_, _, rfl⟩

theorem handle_eq (s : Session) (e : Event) : ∃ bulletin heard sent notices, s.handle e =
    { s with
      pending   := s.pending.performAll ((Action.deliver e).operations s)
      bulletin
      heard
      transport := { s.transport with sent }
      notices } := by
  unfold handle
  split
  case h_1 hs => simp only [Action.operations, Event.answer?, hs]; exact ⟨_, _, _, _, rfl⟩
  case h_2 hs => simp only [Action.operations, Event.answer?, hs]; exact ⟨_, _, _, _, rfl⟩
  case h_3 hs =>
    split
    case h_1 hd => simp only [Action.operations, Event.answer?, hs, hd]; exact ⟨_, _, _, _, rfl⟩
    case h_2 r hd =>
      have ⟨notices, h⟩ := s.answered_eq r
      simp only [Action.operations, Event.answer?, hs, hd]
      rw [h]
      cases hi : r.id
      case none => exact ⟨_, _, _, _, rfl⟩
      case some id => cases id <;> exact ⟨_, _, _, _, rfl⟩
    case h_3 n hd => simp only [Action.operations, Event.answer?, hs, hd]; exact ⟨_, _, _, _, rfl⟩
    case h_4 r hd =>
      have ⟨sent, notices, h⟩ := s.decline_eq r
      simp only [Action.operations, Event.answer?, hs, hd]
      exact ⟨_, _, _, _, h⟩

theorem act_writes (s : Session) (h : a.writes) : ∃ issued pending sent notices,
    s.act a = { s with issued, pending, transport := { s.transport with sent }, notices } := by
  cases a
  case send method params             => exact s.send_eq method params
  case notify method params           =>
    obtain ⟨sent, h⟩ := s.notify_eq method params
    exact ⟨_, _, sent, _, h⟩
  case sendNotification method params =>
    obtain ⟨sent, h⟩ := s.sendNotification_eq method params
    exact ⟨_, _, sent, _, h⟩
  case cancel id                      =>
    obtain ⟨sent, notices, h⟩ := s.cancel_eq id
    exact ⟨_, _, sent, notices, h⟩
  case write frame                    =>
    rcases s.write_cases frame with h | ⟨_, h⟩
    all_goals
      rw [act, h]
      exact ⟨_, _, _, _, rfl⟩
  all_goals cases h

theorem tearDown_eq (s : Session) : ∃ notices, s.tearDown =
    { s.cleanup with
      lifecycle := .restarting
      pending   := s.pending.discardAll.2
      transport := s.cleanup.transport.stop
      bulletin  := s.bulletin.clear
      notices } := by
  rw [tearDown]
  simp only [discardAll, gt_iff_lt]
  split
  · exact ⟨_, rfl⟩
  · exact ⟨_, rfl⟩

-- A session on the point of starting a server.
def staged (s : Session) : Session :=
  let s := if s.lifecycle = .idle then s else s.tearDown
  ({ s with handshake := .notStarted }.enter .starting).attach

theorem staged_eq (s : Session) : ∃ notices, s.staged =
    if s.lifecycle = .idle then
      { s with handshake := .notStarted, lifecycle := .starting, notices }.attach
    else
      { s.cleanup with
        handshake := .notStarted
        lifecycle := .starting
        pending   := s.pending.discardAll.2
        transport := s.cleanup.transport.stop
        bulletin  := s.bulletin.clear
        notices }.attach := by
  unfold staged
  split
  · exact ⟨_, rfl⟩
  · have ⟨notices, h⟩ := s.tearDown_eq
    rw [h]
    exact ⟨_, rfl⟩

theorem staged_startRefusal? (s : Session) :
    s.staged.transport.startRefusal? = s.transport.startRefusal? := by
  have ⟨notices, h⟩ := s.staged_eq
  rw [h]
  split <;> rfl

theorem start_accepted (h : s.transport.startRefusal? = none) (command : String)
    (args : List String) : ∃ process started notices, s.start command args =
      (.ok process,
        { s.staged with
          lifecycle := .ready
          transport := { s.staged.transport with started, startRefusal? := none }
          notices }) := by
  have hr := s.staged_startRefusal?.trans h
  simp only [staged] at hr
  simp only [start, Loopback.start, hr]
  exact ⟨_, _, _, rfl⟩

theorem start_refused {reason : String} (h : s.transport.startRefusal? = some reason)
    (command : String) (args : List String) : ∃ notices, s.start command args =
      (.error (.transport (.start command reason)),
        { s.staged.cleanup with
          lifecycle := .stopped
          transport := { s.staged.cleanup.transport with startRefusal? := none }
          notices }) := by
  have hr := s.staged_startRefusal?.trans h
  simp only [staged] at hr
  simp only [start, Loopback.start, hr]
  exact ⟨_, rfl⟩

theorem staged_pending (s : Session) :
    s.staged.pending = if s.lifecycle = .idle then s.pending else s.pending.discardAll.2 := by
  have ⟨notices, h⟩ := s.staged_eq
  rw [h]
  split <;> rfl

theorem staged_issued (s : Session) : s.staged.issued = s.issued := by
  have ⟨notices, h⟩ := s.staged_eq
  rw [h]
  split <;> rfl

theorem start_eq (s : Session) (command : String) (args : List String) :
    ∃ lifecycle listeners started wiring notices, (s.start command args).2 =
      { s.staged with
        lifecycle, wiring, notices
        transport := { s.staged.transport with listeners, started, startRefusal? := none } } := by
  cases h : s.transport.startRefusal?
  case none =>
    obtain ⟨_, _, _, h⟩ := start_accepted h command args
    rw [h]
    exact ⟨_, _, _, _, _, rfl⟩
  case some =>
    obtain ⟨_, h⟩ := start_refused h command args
    rw [h]
    exact ⟨_, _, _, _, _, rfl⟩

theorem start_pending (s : Session) (command : String) (args : List String) :
    (s.start command args).2.pending = s.staged.pending := by
  obtain ⟨_, _, _, _, _, h⟩ := s.start_eq command args
  rw [h]

theorem start_issued (s : Session) (command : String) (args : List String) :
    (s.start command args).2.issued = s.issued := by
  obtain ⟨_, _, _, _, _, h⟩ := s.start_eq command args
  rw [h, ← s.staged_issued]

theorem start_sent (s : Session) (command : String) (args : List String) :
    (s.start command args).2.transport.sent = s.transport.sent := by
  obtain ⟨_, _, _, _, _, h⟩ := s.start_eq command args
  obtain ⟨_, hs⟩ := s.staged_eq
  rw [h, hs]
  split <;> rfl

end Session

def Action.emitted : Action → List Event
  | emit e => [e]
  | _ => []

def Session.inbox (s : Session) : List Event :=
  s.wiring.router?.elim [] (·.inbox)

def Action.isQuiet : Action → Bool
  | start .. | cleanup | stop => false
  | _ => true

namespace Session

variable {s t : Session} {a : Action}

-- What stays of a session, and what becomes of its requests, while it neither begins nor ends.
structure Quietly (s t : Session) (ops : List Pending.Operation) (emitted : List Event) : Prop where
  lifecycle : t.lifecycle = s.lifecycle
  owned     : t.wiring.listeners = s.wiring.listeners
  channel   : t.wiring.router?.map (·.channel) = s.wiring.router?.map (·.channel)
  listeners : s.transport.listeners.closed = [] → t.transport.listeners = s.transport.listeners
  pending   : t.pending = s.pending.performAll ops
  issued    : t.issued = s.issued + (ops.filterMap (·.registered?)).length
  inbox     : ∀ e ∈ t.inbox, e ∈ s.inbox ∨ e ∈ emitted

theorem prune_eq_self {κ : Type} [DecidableEq κ] {ls : Listeners κ} (h : ls.closed = [])
    (stream : Stream) : ls.prune stream = ls := by
  cases ls
  cases h
  simp [Listeners.prune, Listeners.isOpen]

theorem act_quietly (s : Session) (h : a.isQuiet) :
    s.Quietly (s.act a) (a.operations s) a.emitted := by
  cases a
  case start | cleanup | stop => cases h
  case send method params =>
    simp only [act, Action.operations]
    cases ha : s.lifecycle.acceptsTraffic
    case false =>
      rw [send_closed ha]
      exact ⟨rfl, rfl, rfl, fun _ => rfl, rfl, rfl, fun _ => .inl⟩
    case true =>
      match h : s.transport.sendRefusal? with
      | none   =>
        have ⟨_, hs⟩ := send_accepted ha h method params
        rw [hs]
        exact ⟨rfl, rfl, rfl, fun _ => rfl, rfl, rfl, fun _ => .inl⟩
      | some _ =>
        have ⟨_, hs⟩ := send_refused ha h method params
        rw [hs]
        exact ⟨rfl, rfl, rfl, fun _ => rfl, rfl, rfl, fun _ => .inl⟩
  case notify method params =>
    have ⟨_, h⟩ := s.notify_eq method params
    rw [act, h]
    exact ⟨rfl, rfl, rfl, fun _ => rfl, rfl, rfl, fun _ => .inl⟩
  case sendNotification method params =>
    have ⟨_, h⟩ := s.sendNotification_eq method params
    rw [act, h]
    exact ⟨rfl, rfl, rfl, fun _ => rfl, rfl, rfl, fun _ => .inl⟩
  case cancel id =>
    have ⟨_, _, h⟩ := s.cancel_eq id
    rw [act, h]
    exact ⟨rfl, rfl, rfl, fun _ => rfl, rfl, rfl, fun _ => .inl⟩
  case take =>
    refine ⟨rfl, rfl, by simp [act, take, Function.comp_def], fun _ => rfl, rfl, rfl, fun e he => ?_⟩
    simp only [act, take, inbox] at he
    cases hr : s.wiring.router? <;> simp [hr] at he
  case deliver e =>
    have ⟨_, _, _, _, h⟩ := s.handle_eq e
    rw [act, h]
    refine ⟨rfl, rfl, rfl, fun _ => rfl, rfl, ?_, fun _ => .inl⟩
    rw [Action.operations]
    cases e.answer? <;> rfl
  case emit e =>
    refine ⟨rfl, rfl, by simp [act, emit, Function.comp_def], (prune_eq_self · e.stream), rfl, rfl,
      fun e' he => ?_⟩
    simp only [act, emit, inbox] at he ⊢
    cases hr : s.wiring.router? <;> simp only [hr, Option.map_none, Option.map_some] at he
    case none   => cases he
    case some r =>
      refine (List.mem_append.mp he).imp id fun he => ?_
      rw [(List.mem_replicate.mp he).right]
      exact List.mem_singleton_self e
  case write frame =>
    rcases s.write_cases frame with h | ⟨_, h⟩
    all_goals
      rw [act, h]
      exact ⟨rfl, rfl, rfl, fun _ => rfl, rfl, rfl, fun _ => .inl⟩
  all_goals exact ⟨rfl, rfl, rfl, fun _ => rfl, rfl, rfl, fun _ => .inl⟩

theorem pending_act (s : Session) (a : Action) :
    (s.act a).pending = s.pending.performAll (a.operations s) := by
  cases a
  case start command args =>
    rw [act, start_pending, staged_pending, Action.operations]
    split <;> rfl
  case cleanup => rfl
  case stop => rfl
  all_goals exact (act_quietly s rfl).pending

theorem issued_act (s : Session) (a : Action) :
    (s.act a).issued = s.issued + ((a.operations s).filterMap (·.registered?)).length := by
  cases a
  case start command args =>
    rw [act, start_issued, Action.operations]
    split <;> rfl
  case cleanup => rfl
  case stop => rfl
  all_goals exact (act_quietly s rfl).issued

-- What some actions do to the table of requests.
def history (s : Session) : List Action → List Pending.Operation
  | []      => []
  | a :: as => a.operations s ++ (s.act a).history as

theorem pending_actAll (s : Session) (as : List Action) :
    (s.actAll as).pending = s.pending.performAll (s.history as) := by
  induction as generalizing s
  case nil          => rfl
  case cons a as hi => rw [actAll_cons, hi, pending_act, history, Pending.performAll_append]

theorem issued_actAll (s : Session) (as : List Action) :
    (s.actAll as).issued = s.issued + ((s.history as).filterMap (·.registered?)).length := by
  induction as generalizing s
  case nil          => rfl
  case cons a as hi =>
    rw [actAll_cons, hi, issued_act, history, List.filterMap_append, List.length_append,
      Nat.add_assoc]

theorem registered_operations (s : Session) (a : Action) :
    ∃ k, (a.operations s).filterMap (·.registered?) =
      (List.range' s.issued k).map (Nat.cast (R := Int)) := by
  cases a
  case start =>
    rw [Action.operations]
    split
    · exact ⟨0, rfl⟩
    · exact ⟨0, rfl⟩
  case send =>
    rw [Action.operations]
    split
    · split
      · exact ⟨1, rfl⟩
      · exact ⟨1, rfl⟩
    · exact ⟨0, rfl⟩
  case deliver e =>
    rw [Action.operations]
    cases e.answer?
    · exact ⟨0, rfl⟩
    · exact ⟨0, rfl⟩
  all_goals exact ⟨0, rfl⟩

theorem registered_history (s : Session) (as : List Action) :
    ∃ k, (s.history as).filterMap (·.registered?) =
      (List.range' s.issued k).map (Nat.cast : Nat → Int) := by
  induction as generalizing s
  case nil => exact ⟨0, rfl⟩
  case cons a as hi =>
    have ⟨k, hk⟩ := s.registered_operations a
    have ⟨k', hk'⟩ := hi (s.act a)
    have ha := s.issued_act a
    rw [hk, List.length_map, List.length_range'] at ha
    refine ⟨k + k', ?_⟩
    rw [history, List.filterMap_append, hk, hk', ha, ← List.map_append, List.range'_append_1]

theorem registered_operations_closed (h : s.lifecycle.acceptsTraffic = false) (a : Action) :
    (a.operations s).filterMap (·.registered?) = [] := by
  cases a
  case start =>
    rw [Action.operations]
    split
    · rfl
    · rfl
  case send =>
    rw [Action.operations, h]
    rfl
  case deliver e =>
    rw [Action.operations]
    cases e.answer?
    · rfl
    · rfl
  all_goals rfl

end Session
end LanguageClient
