import LanguageClient.Proofs.Session.Invariants

namespace LanguageClient
open Protocol

variable {s t : Session} {e : Event} {k : Bool} {α β : Type}

namespace Session

-- An event that is useless to a session as it is now: a line that is no message, a text that is none, an
-- answer to nothing that waits, and a notification that publishes nothing that can be read.
inductive Useless (s : Session) (e : Event) : Prop
  | line (stream : e.stream ≠ .message)
  | undecodable {fault : Rpc.DecodeError} (stream : e.stream = .message)
      (decoded : Rpc.Message.decode e.text = .error fault)
  | unmatched {r : Rpc.Response} (stream : e.stream = .message)
      (decoded : Rpc.Message.decode e.text = .ok (.response r))
      (unknown : ∀ id, r.id = some (.number id) → s.pending.contains id = false)
  | foreign {n : Rpc.Notification} (stream : e.stream = .message)
      (decoded : Rpc.Message.decode e.text = .ok (.notification n))
      (method : n.method ≠ Publish.method)
  | unreadable {n : Rpc.Notification} {m : Mismatch} (stream : e.stream = .message)
      (decoded : Rpc.Message.decode e.text = .ok (.notification n))
      (unread : Publish.read n.params = .error m)

theorem handle_useless (h : s.Useless e) : ∃ ns, s.handle e = s.noteAll ns := by
  cases h
  case line hs =>
    cases hst : e.stream
    case message => exact absurd hst hs
    case log     => exact ⟨[.output e.text], by simp [handle, hst, note, noteAll]⟩
    case error   => exact ⟨[.complaint e.text], by simp [handle, hst, note, noteAll]⟩
  case undecodable fault hs hd =>
    exact ⟨[.undecodable fault], by simp [handle, hs, hd, note, noteAll]⟩
  case unmatched r hs hd hu =>
    simp only [handle, hs, hd, answered]
    split
    case h_1 id hi =>
      refine ⟨[.unmatchedAnswer id], ?_⟩
      simp [Pending.settle, Pending.claim, hu id hi, note, noteAll]
    case h_2 id hi => exact ⟨[.foreignAnswer (some id)], rfl⟩
    case h_3 hi    => exact ⟨[.foreignAnswer none], rfl⟩
  case foreign n hs hd hm =>
    refine ⟨(s.bulletin.receive n).notices, ?_⟩
    simp [handle, hs, hd, notified, Bulletin.receive, hm]
  case unreadable n m hs hd hr =>
    refine ⟨(s.bulletin.receive n).notices, ?_⟩
    by_cases hm : n.method = Publish.method
    · simp [handle, hs, hd, notified, Bulletin.receive, hm, hr]
    · simp [handle, hs, hd, notified, Bulletin.receive, hm]

end Session

-- A wiring without the events that wait, unless they count.
def Wiring.gist (k : Bool) (w : Wiring) : Wiring :=
  { w with router? := w.router?.map fun r => { r with inbox := if k then r.inbox else [] } }

@[simp] theorem Wiring.gist_gist (k : Bool) (w : Wiring) : (w.gist k).gist k = w.gist k := by
  cases k <;> simp [gist, Function.comp_def]

namespace Session

-- A session without what it has noted and the events that wait, unless these count.
def gist (k : Bool) (s : Session) : Session :=
  { s with notices := [], wiring := s.wiring.gist k }

@[simp] theorem gist_gist (k : Bool) (s : Session) : (s.gist k).gist k = s.gist k := by
  simp [gist]

def Natural (k : Bool) (f : Session → α × Session) : Prop :=
  ∀ s, (f (s.gist k)).1 = (f s).1 ∧ (f (s.gist k)).2.gist k = (f s).2.gist k

theorem Natural.alike {f : Session → α × Session} (hf : Natural k f) (h : s.gist k = t.gist k) :
    (f s).1 = (f t).1 ∧ (f s).2.gist k = (f t).2.gist k := by
  have ⟨h₁, h₂⟩ := hf s
  have ⟨h₃, h₄⟩ := hf t
  rw [h] at h₁ h₂
  exact ⟨h₁.symm.trans h₃, h₂.symm.trans h₄⟩

theorem Natural.after {f : Session → α × Session} {h : Session → Session}
    (hh : ∀ s, (h (s.gist k)).gist k = (h s).gist k) (hf : Natural k f) : Natural k fun s => f (h s) :=
  fun s => hf.alike (hh s)

theorem Natural.map {f : Session → α × Session} (hf : Natural k f) (g : α → β) :
    Natural k fun s => (g (f s).1, (f s).2) :=
  fun s => ⟨congrArg g (hf s).1, (hf s).2⟩

theorem natural_pure (k : Bool) (a : α) : Natural k fun s => (a, s) :=
  fun s => ⟨rfl, s.gist_gist k⟩

theorem send_natural (k : Bool) (method : String) (params : Json) :
    Natural k (send · method params) := by
  intro s
  cases ha : s.lifecycle.acceptsTraffic
  case false =>
    simp only [send_closed ha, send_closed (s := s.gist k) ha]
    exact ⟨rfl, s.gist_gist k⟩
  case true =>
    cases hr : s.transport.sendRefusal?
    case none =>
      obtain ⟨_, h⟩ := send_accepted ha hr method params
      obtain ⟨_, h'⟩ := send_accepted (s := s.gist k) ha hr method params
      simp only [h, h']
      simp [gist]
    case some =>
      obtain ⟨_, h⟩ := send_refused ha hr method params
      obtain ⟨_, h'⟩ := send_refused (s := s.gist k) ha hr method params
      simp only [h, h']
      simp [gist]

theorem notify_natural (k : Bool) (method : String) (params : Json) :
    Natural k (notify · method params) := by
  intro s
  cases hr : s.transport.sendRefusal?
  case none =>
    simp only [notify, write_accepted hr, write_accepted (s := s.gist k) hr]
    simp [gist]
  case some =>
    simp only [notify, write_refused hr, write_refused (s := s.gist k) hr]
    simp

theorem sendNotification_natural (k : Bool) (method : String) (params : Json) :
    Natural k (sendNotification · method params) := by
  intro s
  have hn := notify_natural k method params s
  have hr : (s.gist k).refusal? "send_notification" = s.refusal? "send_notification" := rfl
  have hh : (s.gist k).handshake = s.handshake := rfl
  simp only [sendNotification, hr, hh]
  split
  case h_1 => simp
  case h_2 =>
    split
    case isTrue  => simp
    case isFalse => exact hn

theorem withPending_gist (k : Bool) (p : Pending) (s : Session) :
    ((s.gist k).withPending p).gist k = (s.withPending p).gist k := by
  simp [withPending, noteAll, gist]

theorem acknowledge_natural (k : Bool) (v : Json) : Natural k (acknowledge · v) := by
  intro s
  let ready : Session := { s with handshake := .acknowledged }
  have ha : ({ s.gist k with handshake := .acknowledged } : Session) = ready.gist k := rfl
  have hn := (sendNotification_natural k "initialized" (.object [])).alike (ready.gist_gist k)
  simp only [acknowledge, ha]
  generalize (ready.gist k).sendNotification "initialized" (.object []) = x at hn ⊢
  generalize ready.sendNotification "initialized" (.object []) = y at hn ⊢
  obtain ⟨r, s⟩ := x
  obtain ⟨r', t⟩ := y
  obtain ⟨rfl, ht⟩ := hn
  cases r
  case error => exact ⟨rfl, ht⟩
  case ok    => exact ⟨rfl, congrArg (fun s : Session => { s with handshake := .complete }) ht⟩

theorem goodbye_natural (k : Bool) (r : Except Failure Json) : Natural k (goodbye · r) := by
  cases r
  case error e => exact natural_pure k _
  case ok      => exact (notify_natural k "exit" .null).map _

theorem finish_natural (k : Bool) (call : Call) (r : Except Failure Json) :
    Natural k (finish · call r) := by
  cases call
  case handshake root =>
    cases r
    case error e => exact fun s => by simp [finish, gist]
    case ok v    => exact acknowledge_natural k v
  case shutdown =>
    intro s
    obtain ⟨h₁, h₂⟩ := (goodbye_natural k r).alike (s.gist_gist k)
    exact ⟨h₁, congrArg (·.stopped.gist k) h₂⟩
  all_goals exact natural_pure k _

theorem ask_natural (k : Bool) (call : Call) (method : String) (params : Json) :
    Natural k (ask · call method params) := by
  intro s
  have hn := (send_natural k method params).alike (s.gist_gist k)
  simp only [ask]
  generalize (s.gist k).send method params = x at hn ⊢
  generalize s.send method params = y at hn ⊢
  obtain ⟨r, s⟩ := x
  obtain ⟨r', t⟩ := y
  obtain ⟨rfl, ht⟩ := hn
  cases r
  case ok handle => exact ⟨rfl, ht⟩
  case error e   =>
    obtain ⟨h₁, h₂⟩ := (finish_natural k call (.error e)).alike ht
    exact ⟨congrArg Call.Progress.over h₁, h₂⟩

theorem begin_natural (k : Bool) (call : Call) : Natural k (begin · call) := by
  cases call
  case response => exact natural_pure k _
  case handshake root =>
    intro s
    have hh : (s.gist k).handshake = s.handshake := rfl
    simp only [Session.begin, hh]
    split
    case isTrue  => simp
    case isFalse => exact ask_natural k _ _ _ { s with handshake := .awaitingResponse }
  all_goals exact ask_natural k _ _ _

theorem cancel_natural (k : Bool) (id : Int) : Natural k (cancel · id) := by
  intro s
  have hp : (s.gist k).pending = s.pending := rfl
  simp only [cancel, hp]
  split
  case isTrue  =>
    have hn := (notify_natural k "$/cancelRequest" (.object [("id", .int id)])).map
      fun r => r.map fun _ => true
    exact hn.after (h := (·.withPending (s.pending.cancel id).2)) (withPending_gist k _) s
  case isFalse => exact natural_pure k _ s

theorem staged_gist (k : Bool) (s : Session) : (s.gist k).staged.gist k = s.staged.gist k := by
  have ⟨_, h⟩ := s.staged_eq
  have ⟨_, h'⟩ := (s.gist k).staged_eq
  rw [h, h']
  have hl : (s.gist k).lifecycle = s.lifecycle := rfl
  rw [hl]
  split <;> rfl

theorem start_of_ok {command process : String} {args : List String} {transport : Loopback}
    (h : s.staged.transport.start command args = (.ok process, transport)) : s.start command args =
      (.ok process, ({ s.staged with transport }.note (.started process)).enter .ready) := by
  simp only [staged] at h
  simp only [start, h]
  rfl

theorem start_of_error {command : String} {args : List String} {fault : TransportFault}
    {transport : Loopback} (h : s.staged.transport.start command args = (.error fault, transport)) :
    s.start command args = (.error (.transport fault),
      ({ s.staged with transport }.note (.notStarted command fault)).cleanup.enter .stopped) := by
  simp only [staged] at h
  simp only [start, h]
  rfl

theorem start_natural (k : Bool) (command : String) (args : List String) :
    Natural k (start · command args) := by
  intro s
  have hs := staged_gist k s
  have ht : (s.gist k).staged.transport = s.staged.transport := congrArg (·.transport) hs
  cases h : s.staged.transport.start command args
  case mk r transport =>
    have h' := (congrArg (·.start command args) ht).trans h
    cases r
    case ok process =>
      simp only [start_of_ok h, start_of_ok h']
      exact ⟨trivial, congrArg (fun s : Session => { s with transport, lifecycle := .ready }) hs⟩
    case error fault =>
      simp only [start_of_error h, start_of_error h']
      exact ⟨trivial, congrArg (fun s : Session =>
        { { s with transport }.cleanup with lifecycle := .stopped }) hs⟩

theorem answered_gist (k : Bool) (s : Session) (r : Rpc.Response) :
    ((s.gist k).answered r).gist k = (s.answered r).gist k := by
  have hp : (s.gist k).pending = s.pending := rfl
  simp only [answered, hp]
  split
  case h_1 =>
    split
    case isTrue  => exact withPending_gist k _ s
    case isFalse => simp [note, gist]
  case h_2 => simp [note, gist]
  case h_3 => simp [note, gist]

theorem decline_gist (k : Bool) (s : Session) (r : Rpc.Request) :
    ((s.gist k).decline r).gist k = (s.decline r).gist k := by
  let declining := Notice.declining r.method r.id
  cases hr : s.transport.sendRefusal?
  case none =>
    simp only [decline, write_accepted (s := s.note declining) hr,
      write_accepted (s := (s.gist k).note declining) hr, declining]
    simp [note, gist]
  case some =>
    simp only [decline, write_refused (s := s.note declining) hr,
      write_refused (s := (s.gist k).note declining) hr, declining]
    simp [note, gist]

theorem handle_gist (k : Bool) (s : Session) (e : Event) :
    ((s.gist k).handle e).gist k = (s.handle e).gist k := by
  simp only [handle]
  split
  case h_1 => simp [note, gist]
  case h_2 => simp [note, gist]
  case h_3 =>
    split
    case h_1     => simp [note, gist]
    case h_2 r _ => exact answered_gist k s r
    case h_3 n _ => simp [notified, noteAll, gist]
    case h_4 r _ => exact decline_gist k s r

theorem emit_gist (k : Bool) (s : Session) (e : Event) :
    ((s.gist k).emit e).gist k = (s.emit e).gist k := by
  cases k <;> simp [emit, gist, Wiring.gist, Function.comp_def]

theorem foldl_handle_gist (h : s.gist k = t.gist k) (es : List Event) :
    (es.foldl handle s).gist k = (es.foldl handle t).gist k := by
  induction es generalizing s t
  case nil          => exact h
  case cons e es hi =>
    refine hi ?_
    rw [← handle_gist, h, handle_gist]

def unmarked (es : List (Event × Bool)) : List Event :=
  (es.filter (!·.2)).map (·.1)

-- Of the events that a session handles, those that are marked are useless when their turn comes.
def Harmless (s : Session) : List (Event × Bool) → Prop
  | []                => True
  | (e, marked) :: es => (marked → s.Useless e) ∧ (s.handle e).Harmless es

theorem Harmless.foldl_handle {es : List (Event × Bool)} (h : s.Harmless es)
    (hst : s.gist k = t.gist k) :
    ((es.map (·.1)).foldl handle s).gist k = ((unmarked es).foldl handle t).gist k := by
  induction es generalizing s t
  case nil          => exact hst
  case cons x es hi =>
    obtain ⟨e, marked⟩ := x
    obtain ⟨hu, h⟩ := h
    cases marked
    case false =>
      refine hi h ?_
      rw [← handle_gist, hst, handle_gist]
    case true =>
      obtain ⟨ns, hn⟩ := handle_useless (hu rfl)
      refine hi h ?_
      rw [hn]
      exact hst

end Session
end LanguageClient
