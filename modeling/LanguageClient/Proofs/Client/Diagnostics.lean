import LanguageClient.Proofs.Client.Greetings
import LanguageClient.Proofs.Client.Restart
import LanguageClient.Proofs.Session.Publications
import Mathlib.Data.List.DropRight

namespace LanguageClient
open Protocol

def Rpc.Notification.publish? (n : Rpc.Notification) : Option Publish :=
  if n.method = Publish.method then (Publish.read n.params).toOption else none

def Event.publish? (e : Event) : Option Publish :=
  match e.stream, Rpc.Message.decode e.text with
  | .message, .ok (.notification n) => n.publish?
  | _, _ => none

def Action.publish? : Action → Option Publish
  | deliver e => e.publish?
  | _ => none

def publications (as : List Action) : List Publish :=
  (as.rtakeWhile (!·.isStart)).filterMap (·.publish?)

def lastFor (uri : String) (ps : List Publish) : List Diagnostic :=
  ((ps.filter (·.uri = uri)).getLast?.map (·.diagnostics)).getD []

variable {s : Session} {a : Action} {as : List Action} {e : Event} {uri : String}
variable {publish : Publish} {ps : List Publish}

theorem publications_start (ha : a.isStart) : publications (as ++ [a]) = [] := by
  simp [publications, ha]

theorem publications_append (ha : a.isStart = false) :
    publications (as ++ [a]) = publications as ++ a.publish?.toList := by
  simp only [publications, List.rtakeWhile_concat, ha, Bool.not_false, if_true, List.filterMap_append]
  cases h : a.publish? <;> simp [h]

theorem lastFor_append :
    lastFor uri (ps ++ [publish]) =
      if uri = publish.uri then publish.diagnostics else lastFor uri ps := by
  simp only [lastFor, List.filter_append]
  split
  case isTrue h  => simp [h]
  case isFalse h => simp [Ne.symm h]

namespace Bulletin

variable {b m : Bulletin}

theorem diagnostics_put (b : Bulletin) (publish : Publish) (uri : String) :
    (b.put publish).diagnostics uri =
      if uri = publish.uri then publish.diagnostics else b.diagnostics uri := by
  have hf : (b.latest.filter (·.1 ≠ publish.uri)).find? (·.1 = uri) =
      if uri = publish.uri then none else b.latest.find? (·.1 = uri) := by
    rw [List.find?_filter]
    split
    case isTrue h  => simp [h]
    case isFalse h =>
      congr 1
      ext x
      by_cases hx : x.1 = uri
      · simp [hx, h]
      · simp [hx]
  by_cases h : uri = publish.uri
  · simp [diagnostics, put, h]
  · simp only [diagnostics, put, List.find?_cons, hf, h, Ne.symm h, if_false, decide_false]

-- The bulletin when a subscriber is called and has done some of what it does.
def Amid (b : Bulletin) (publish : Publish) (m : Bulletin) : Prop :=
  ∃ before s after rs, b.subscribers = before ++ s :: after ∧ rs <+: s.reactions ∧
    m = (((b.put publish).tell publish before).1.react rs).1

theorem Amid.latest (h : b.Amid publish m) : m.latest = (b.put publish).latest := by
  have ⟨_, _, _, _, _, _, hm⟩ := h
  exact hm ▸ (keeps_tell.trans keeps_react).latest

theorem publish_latest : (b.publish publish).1.latest = (b.put publish).latest :=
  keeps_tell.latest

theorem diagnostics_congr (h : m.latest = b.latest) (uri : String) :
    m.diagnostics uri = b.diagnostics uri := by
  rw [diagnostics, h, diagnostics]

theorem receive_bulletin (b : Bulletin) (n : Rpc.Notification) :
    (b.receive n).bulletin = n.publish?.elim b fun publish => (b.publish publish).1 := by
  by_cases hm : n.method = Publish.method
  · simp only [receive, Rpc.Notification.publish?, hm, if_true]
    cases Publish.read n.params <;> rfl
  · simp [receive, Rpc.Notification.publish?, hm]

end Bulletin

namespace Session

theorem handle_bulletin (s : Session) (e : Event) : (s.handle e).bulletin =
    e.publish?.elim s.bulletin fun publish => (s.bulletin.publish publish).1 := by
  rw [handle, Event.publish?]
  split
  case h_1 hs => simp [hs, note]
  case h_2 hs => simp [hs, note]
  case h_3 hs =>
    split
    case h_1 hd   => simp [hs, hd, note]
    case h_2 r hd =>
      have ⟨_, h⟩ := s.answered_eq r
      simp [hs, hd, h]
    case h_3 n hd => simpa [hs, hd, notified, noteAll] using s.bulletin.receive_bulletin n
    case h_4 r hd =>
      have ⟨_, _, h⟩ := s.decline_eq r
      simp [hs, hd, h]

-- What an event does to the diagnostics. While the subscribers are called they are what they are
-- afterwards.
structure Collects (s : Session) (e : Event) : Prop where
  inert  : e.publish? = none → (s.handle e).bulletin = s.bulletin
  puts   : ∀ publish, e.publish? = some publish → ∀ uri, (s.handle e).bulletin.diagnostics uri =
    if uri = publish.uri then publish.diagnostics else s.bulletin.diagnostics uri
  prompt : ∀ publish m, e.publish? = some publish → s.bulletin.Amid publish m →
    ∀ uri, m.diagnostics uri = (s.handle e).bulletin.diagnostics uri

theorem collects (s : Session) (e : Event) : s.Collects e := by
  have hb := s.handle_bulletin e
  constructor
  case inert =>
    intro h
    simpa [h] using hb
  case puts =>
    intro publish h uri
    simp only [h, Option.elim_some] at hb
    rw [hb, Bulletin.diagnostics_congr Bulletin.publish_latest, Bulletin.diagnostics_put]
  case prompt =>
    intro publish m h hm uri
    simp only [h, Option.elim_some] at hb
    rw [hb]
    exact Bulletin.diagnostics_congr (hm.latest.trans Bulletin.publish_latest.symm) uri

theorem start_latest (s : Session) (command : String) (args : List String) :
    (s.start command args).2.bulletin.latest =
      if s.lifecycle = .idle then s.bulletin.latest else [] := by
  obtain ⟨_, _, _, _, _, h⟩ := s.start_eq command args
  obtain ⟨_, hs⟩ := s.staged_eq
  rw [h, hs]
  split <;> rfl

theorem latest_act (ha : a.isStart = false) (hp : a.publish? = none) :
    (s.act a).bulletin.latest = s.bulletin.latest := by
  cases hw : a.writes
  case true =>
    obtain ⟨_, _, _, _, h⟩ := s.act_writes hw
    rw [h]
  case false =>
    cases a
    case start                                             => cases ha
    case send | notify | sendNotification | cancel | write => cases hw
    case deliver e        => exact congrArg _ ((s.collects e).inert hp)
    case unsubscribe name => exact Bulletin.keeps_unsubscribe.latest
    all_goals rfl

structure Current (s : Session) (ps : List Publish) : Prop where
  diagnostics : ∀ uri, s.bulletin.diagnostics uri = lastFor uri ps
  idle        : s.lifecycle = .idle → s.bulletin.latest = []

theorem current_of_nil (h : s.bulletin.latest = []) : s.Current [] :=
  ⟨fun _ => by simp [Bulletin.diagnostics, h, lastFor], fun _ => h⟩

theorem Current.start (h : s.Current ps) (ha : a.isStart) : (s.act a).Current [] := by
  cases a
  case start command args =>
    have hl := s.start_latest command args
    split at hl
    case isTrue hi => exact current_of_nil (hl.trans (h.idle hi))
    case isFalse   => exact current_of_nil hl
  all_goals cases ha

theorem lifecycle_act (ha : a.isStart = false) (hi : (s.act a).lifecycle = .idle) :
    s.lifecycle = .idle := by
  cases a
  case start   => cases ha
  case cleanup => exact hi
  case stop    => cases hi
  all_goals rwa [(act_quietly s rfl).lifecycle] at hi

theorem Current.act (h : s.Current ps) (ha : a.isStart = false)
    (hd : ∀ e, a = .deliver e → s.lifecycle ≠ .idle) : (s.act a).Current (ps ++ a.publish?.toList) := by
  match hp : a.publish? with
  | none =>
    have hl : (s.act a).bulletin.latest = s.bulletin.latest := latest_act ha hp
    refine ⟨fun uri => ?_, fun hi => hl.trans (h.idle (lifecycle_act ha hi))⟩
    simpa [Bulletin.diagnostics_congr hl] using h.diagnostics uri
  | some publish =>
    cases a
    case deliver e =>
      refine ⟨fun uri => ?_, fun hi => absurd (lifecycle_act ha hi) (hd e rfl)⟩
      simpa [lastFor_append, h.diagnostics uri, Session.act] using (s.collects e).puts publish hp uri
    all_goals cases hp

def Roused (as : List Action) : Prop :=
  ∀ before e after, as = before ++ .deliver e :: after → (idle.actAll before).lifecycle ≠ .idle

theorem Roused.current (h : Roused as) : (idle.actAll as).Current (publications as) := by
  induction as using List.reverseRecOn
  case nil => exact current_of_nil (s := idle) rfl
  case append_singleton as a hi =>
    have hi := hi fun before e after he => h before e (after ++ [a]) (by simp [he])
    rw [actAll_append]
    cases ha : a.isStart
    case true  => exact publications_start ha ▸ hi.start ha
    case false =>
      rw [publications_append ha]
      exact hi.act ha fun e he => h as e [] (by rw [he])

theorem lifecycle_actAll (h : ∀ a ∈ as, a.isQuiet) : (s.actAll as).lifecycle = s.lifecycle := by
  induction as generalizing s
  case nil          => rfl
  case cons a as hi =>
    have ⟨ha, has⟩ := List.forall_mem_cons.mp h
    exact (hi has).trans (act_quietly s ha).lifecycle

end Session

namespace Client

variable {c : Client} {m : Move} {ms : List Move}

theorem deliver_mem_actions (h : .deliver e ∈ c.actions m) :
    c.session.wiring.router?.isSome ∧ c.actions m = c.session.routing := by
  cases m
  case input i => cases i <;> simp [actions, Input.actions] at h
  case turn t  =>
    cases t
    case router =>
      simp only [actions] at h ⊢
      split at h
      case isTrue hr =>
        obtain ⟨r, hr', _⟩ := Option.map_eq_some_iff.mp hr
        simp [hr', ← hr]
      case isFalse   => cases h
    case caller =>
      simp only [actions] at h
      split at h
      case h_1     => cases h
      case h_2 d _ => cases resuming_ofCall _ d _ h

theorem lifecycle_of_deliver {before after : List Action} (ho : c.session.Orderly)
    (h : c.actions m = before ++ .deliver e :: after) :
    (c.session.actAll before).lifecycle ≠ .idle := by
  have hm : .deliver e ∈ c.actions m := by
    rw [h]
    exact List.mem_append_cons_self
  have ⟨hr, ha⟩ := deliver_mem_actions hm
  have hq : ∀ a ∈ before, a.isQuiet := fun a hb =>
    Session.routing_quiet a (ha ▸ h ▸ List.mem_append_left _ hb)
  rw [Session.lifecycle_actAll hq]
  intro hi
  have hn := (ho.idle hi).left.router
  rw [Option.map_eq_none_iff] at hn
  simp [hn] at hr

theorem roused_trace (ms : List Move) : Session.Roused (idle.trace ms) := by
  induction ms using List.reverseRecOn
  case nil => simp [trace, Session.Roused]
  case append_singleton ms m hi =>
    have ho := (idle_proper.after ms).orderly
    have hs : Session.idle.actAll (idle.trace ms) = (idle.after ms).session :=
      (session_after idle ms).symm
    intro before e after h
    simp only [trace_append, trace, List.append_nil] at h
    -- The event is delivered by the last move, or by one before it.
    obtain ⟨mine, rfl, hm⟩ | ⟨rest, ht, hm⟩ := List.append_eq_append_iff.mp h
    case inl =>
      rw [Session.actAll_append, hs]
      exact lifecycle_of_deliver ho hm
    case inr =>
      cases rest
      case nil =>
        have hm : (idle.after ms).actions m = [] ++ .deliver e :: after := hm.symm
        rw [List.append_nil] at ht
        rw [← ht, hs]
        exact lifecycle_of_deliver ho hm
      case cons =>
        cases (List.cons.inj hm).left
        exact hi before e _ ht

-- What is known of documents in a run, at each state on the way: the diagnostics of the last
-- publication since the latest start.
structure Informed (ms : List Move) : Prop where
  latest   : ∀ before after, idle.trace ms = before ++ after → ∀ uri,
    (Session.idle.actAll before).bulletin.diagnostics uri = lastFor uri (publications before)
  collects : ∀ before after, idle.trace ms = before ++ after → ∀ e,
    (Session.idle.actAll before).Collects e
  reply    : ∀ uri, ((idle.after ms).perform (.diagnostics uri)).1 =
    .ok (.arr ((lastFor uri (publications (idle.trace ms))).map Diagnostic.toJson))

theorem diagnostics_latest (ms : List Move) : Informed ms := by
  have hr := roused_trace ms
  have hl : ∀ before after, idle.trace ms = before ++ after → ∀ uri,
      (Session.idle.actAll before).bulletin.diagnostics uri = lastFor uri (publications before) := by
    intro before after h
    have hb : Session.Roused before := fun as e rest hs =>
      hr as e (rest ++ after) (by simp [h, hs])
    exact hb.current.diagnostics
  constructor
  case latest   => exact hl
  case collects => exact fun before _ _ e => (Session.idle.actAll before).collects e
  case reply    =>
    intro uri
    have hs : (idle.after ms).session = Session.idle.actAll (idle.trace ms) := session_after idle ms
    simp only [perform, hs, hl _ [] (List.append_nil _).symm uri]

end Client
end LanguageClient
