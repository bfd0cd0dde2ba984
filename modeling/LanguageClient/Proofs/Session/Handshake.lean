import LanguageClient.Proofs.Session.Responses

namespace LanguageClient

def Action.handshake? : Action → Option Handshake
  | start .. | stop => some .notStarted
  | handshake h => some h
  | _ => none

namespace Session

variable {s : Session} {a : Action} {as : List Action} {method : String} {params : Json}

theorem staged_handshake (s : Session) : s.staged.handshake = .notStarted := by
  have ⟨_, h⟩ := s.staged_eq
  rw [h]
  split
  · rfl
  · rfl

theorem handshake_act (s : Session) (a : Action) :
    (s.act a).handshake = a.handshake?.getD s.handshake := by
  cases hw : a.writes
  case true =>
    obtain ⟨_, _, _, _, h⟩ := s.act_writes hw
    rw [h]
    cases a
    case send | notify | sendNotification | cancel | write => rfl
    all_goals cases hw
  case false =>
    cases a
    case send | notify | sendNotification | cancel | write => cases hw
    case start command args =>
      obtain ⟨_, _, _, _, _, h⟩ := s.start_eq command args
      rw [act, h]
      exact s.staged_handshake
    case deliver e =>
      obtain ⟨_, _, _, _, h⟩ := s.handle_eq e
      rw [act, h]
      rfl
    all_goals rfl

theorem handshake_actAll (h : ∀ a ∈ as, a.handshake? = none) :
    (s.actAll as).handshake = s.handshake := by
  induction as generalizing s
  case nil => rfl
  case cons a as hi =>
    have ⟨ha, has⟩ := List.forall_mem_cons.mp h
    rw [actAll_cons, hi has, handshake_act, ha]
    rfl

def notificationFrame (method : String) (params : Json) : String :=
  (Rpc.Message.notification (.new method params)).encode

-- Whether `sendNotification` writes a notification now.
def Admits (s : Session) (method : String) : Prop :=
  s.lifecycle.acceptsTraffic ∧ s.transport.sendRefusal? = none ∧
    (method = "initialized" → s.handshake = .acknowledged)

theorem sendNotification_admitted (h : s.Admits method) (params : Json) :
    s.sendNotification method params =
      (.ok (), { s with transport := { s.transport with
        sent := s.transport.sent ++ [notificationFrame method params] } }) := by
  have ⟨ha, hr, hm⟩ := h
  have hm : (method = "initialized" && s.handshake ≠ .acknowledged) = false := by
    simpa using hm
  simp only [sendNotification, refusal?, ha, if_true, hm, Bool.false_eq_true, if_false, notify]
  rw [write_accepted hr]
  rfl

theorem sendNotification_barred (h : ¬ s.Admits method) (params : Json) :
    ∃ f, s.sendNotification method params = (.error f, s) := by
  rw [sendNotification]
  cases ha : s.lifecycle.acceptsTraffic
  case false => exact ⟨.invalidState "send_notification" s.lifecycle.name, by simp [refusal?, ha]⟩
  case true =>
    simp only [refusal?, ha, if_true]
    split
    case isTrue => exact ⟨_, rfl⟩
    case isFalse hm =>
      cases hr : s.transport.sendRefusal?
      case none => exact absurd ⟨ha, hr, by simpa using hm⟩ h
      case some =>
        rw [notify, write_refused hr]
        exact ⟨_, rfl⟩

def greets (s : Session) : Action → Bool
  | .sendNotification method params =>
    method = "initialized" &&
      (s.act (.sendNotification method params)).transport.sent =
        s.transport.sent ++ [notificationFrame method params]
  | _ => false

theorem greets_sendNotification : s.greets (.sendNotification "initialized" params) ↔
    s.lifecycle.acceptsTraffic ∧ s.transport.sendRefusal? = none ∧ s.handshake = .acknowledged := by
  have hs : s.Admits "initialized" ↔
      s.lifecycle.acceptsTraffic ∧ s.transport.sendRefusal? = none ∧
        s.handshake = .acknowledged := by
    simp [Admits]
  rw [← hs]
  by_cases h : s.Admits "initialized"
  case pos => simp [greets, act, sendNotification_admitted h, h]
  case neg =>
    obtain ⟨_, he⟩ := sendNotification_barred h params
    simp [greets, act, he, h]

theorem greets_iff : s.greets a ↔ ∃ params, a = .sendNotification "initialized" params ∧
    s.lifecycle.acceptsTraffic ∧ s.transport.sendRefusal? = none ∧ s.handshake = .acknowledged := by
  constructor
  case mp =>
    intro h
    cases a
    case sendNotification method params =>
      have hm : method = "initialized" := by
        have h := h
        rw [greets, Bool.and_eq_true] at h
        exact of_decide_eq_true h.left
      subst hm
      exact ⟨params, rfl, greets_sendNotification.mp h⟩
    all_goals cases h
  case mpr =>
    intro ⟨params, ha, h⟩
    rw [ha]
    exact greets_sendNotification.mpr h

def greetings (s : Session) : List Action → Nat
  | []      => 0
  | a :: as => (s.greets a).toNat + (s.act a).greetings as

end Session

def Action.mayGreet : Action → Bool
  | sendNotification method _ => method = "initialized"
  | _ => false

namespace Session

variable {s : Session} {a : Action} {as : List Action}

theorem greets_eq_false (h : a.mayGreet = false) : s.greets a = false := by
  cases a
  case sendNotification method params =>
    rw [greets]
    rw [Action.mayGreet] at h
    rw [h, Bool.false_and]
  all_goals rfl

theorem greetings_eq_zero (h : ∀ a ∈ as, a.mayGreet = false) : s.greetings as = 0 := by
  induction as generalizing s
  case nil => rfl
  case cons a as hi =>
    have ⟨ha, has⟩ := List.forall_mem_cons.mp h
    rw [greetings, greets_eq_false ha, hi has]
    rfl

end Session
end LanguageClient
