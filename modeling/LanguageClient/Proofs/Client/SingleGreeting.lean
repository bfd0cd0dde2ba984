import LanguageClient.Proofs.Client.Greetings

namespace LanguageClient.Client

variable {c : Client} {m : Move} {ms : List Move} {d : Caller} {ticket i n : Nat}

def Move.isInput : Move → Bool
  | .input _ => true
  | .turn _ => false

def called (c : Client) (m : Move) : Nat :=
  if m.isInput then 0 else c.greetings m

def posted (c : Client) (m : Move) : Nat :=
  if m.isInput then c.greetings m else 0

theorem greetings_eq (c : Client) (m : Move) : c.greetings m = c.called m + c.posted m := by
  rw [called, posted]
  split
  · rw [Nat.zero_add]
  · rw [Nat.add_zero]

def total (f : Client → Move → Nat) (c : Client) : List Move → Nat
  | []      => 0
  | m :: ms => f c m + total f (c.move m) ms

theorem total_greetings (c : Client) (ms : List Move) :
    total greetings c ms = total called c ms + total posted c ms := by
  induction ms generalizing c
  case nil          => rfl
  case cons m ms hi =>
    rw [total, hi, greetings_eq, total, total]
    omega

def Vacant (c : Client) : Prop :=
  ∀ d ∈ c.callers, ∀ ticket, ¬ d.Initializes ticket

def Single (c : Client) : Prop :=
  ∀ d ∈ c.callers, ∀ d' ∈ c.callers, ∀ ticket ticket', d.Initializes ticket →
    d'.Initializes ticket' → d = d'

def Opens (c : Client) (m : Move) : Prop :=
  c.session.handshake = .notStarted ∧ (c.move m).session.handshake = .awaitingResponse

theorem initializes_old (h : c.Proper) (hn : ¬ c.Opens m) (hd : d ∈ (c.move m).callers)
    (hw : d.Initializes ticket) : d ∈ c.callers := by
  rcases initializes_move h hd hw with hd | ht
  · exact hd
  · exact absurd ⟨ht.before, ht.after⟩ hn

theorem Vacant.move (hv : c.Vacant) (h : c.Proper) (hn : ¬ c.Opens m) : (c.move m).Vacant :=
  fun d hd ticket hw => hv d (initializes_old h hn hd hw) ticket hw

theorem Single.move (hs : c.Single) (h : c.Proper) (hn : ¬ c.Opens m) : (c.move m).Single :=
  fun d hd d' hd' ticket ticket' hw hw' =>
    hs d (initializes_old h hn hd hw) d' (initializes_old h hn hd' hw') ticket ticket' hw hw'

theorem Spent.move (hs : c.Spent) (h : c.Proper) (hn : ¬ c.Opens m) : (c.move m).Spent := by
  intro d hd ticket hw
  have ⟨f, hf⟩ := hs d (initializes_old h hn hd hw) ticket hw
  exact ⟨f, told?_move h hf m⟩

theorem Vacant.spent (hv : c.Vacant) : c.Spent :=
  fun d hd ticket hw => absurd hw (hv d hd ticket)

theorem Single.vacant_turn (hs : c.Single) (h : c.Proper) (hd : d ∈ c.callers)
    (hw : d.Initializes ticket) {outcome : Except Failure Json} (ht : c.told? d = some outcome)
    (hn : ¬ c.Opens (.turn (.caller d.number))) : (c.move (.turn (.caller d.number))).Vacant := by
  intro d' hd' ticket' hw'
  cases hs d hd d' (initializes_old h hn hd' hw') ticket ticket' hw hw'
  exact not_mem_callers_turn h.enrolled hd ht hd'

theorem Spent.single (hs : c.Spent) (h : c.Proper) (ha : c.Attended) : (c.move m).Single := by
  have hnew {d : Caller} {ticket : Nat} (hd : d ∈ (c.move m).callers) (hw : d.Initializes ticket) :
      m = .turn (.caller d.number) := by
    rcases initializes_move h hd hw with hd | ht
    · have ⟨_, hf⟩ := hs d hd ticket hw
      cases (ha d hd hw.call).symm.trans hf
    · exact ht.turn
  intro d hd d' hd' ticket ticket' hw hw'
  have hn : d.number = d'.number := by
    have hn := (hnew hd hw).symm.trans (hnew hd' hw')
    simpa using hn
  exact List.inj_on_of_nodup_map (h.move m).enrolled.numbers hd hd' hn

-- How far a session has come since its start, when `initialize` has put an `initialized` on the
-- transport `i` times and `sendNotification` has done so `n` times.
inductive Stage (c : Client) : Nat → Nat → Prop
  | before (handshake : c.session.handshake = .notStarted) (spent : c.Spent) : Stage c 0 0
  | during (handshake : c.session.handshake = .awaitingResponse) (single : c.Single) : Stage c 0 0
  | owed {n : Nat} (handshake : c.session.handshake = .acknowledged) (vacant : c.Vacant) : Stage c 0 n
  | done (handshake : c.session.handshake = .complete) (vacant : c.Vacant) : Stage c 1 0
  | ended {i n : Nat} (closed : c.session.lifecycle.acceptsTraffic = false)
      (bound : i = 0 ∨ (i = 1 ∧ n = 0)) : Stage c i n

theorem Vacant.keeps (hv : c.Vacant) (h : c.Proper)
    (hn : c.session.handshake ≠ .notStarted) (hm : m.isStart = false) :
    (c.move m).session.handshake = c.session.handshake ∨
      (c.move m).session.lifecycle = .stopped := by
  cases h.handshakeStep m
  case keeps kept           => exact .inl (handshake_kept kept)
  case starts               => cases hm
  case stops hl _           => exact .inr hl
  case begins hh _ _ _ _    => exact absurd hh hn
  case declines hh _ _      => exact absurd hh hn
  case fails hd hw _ _ _    => exact absurd hw (hv _ hd _)
  case concludes hd hw _ _  => exact absurd hw (hv _ hd _)

namespace Stage

theorem bound (h : c.Stage i n) : i = 0 ∨ (i = 1 ∧ n = 0) := by
  cases h
  case before | during | owed => exact .inl rfl
  case done                   => exact .inr ⟨rfl, rfl⟩
  case ended h                => exact h

theorem stopped (h : c.Stage i n) (hl : (c.move m).session.lifecycle = .stopped) :
    (c.move m).Stage i n :=
  .ended (by rw [hl]; rfl) h.bound

theorem greets (hs : c.Stage i n) (h : c.Proper) (hg : c.Greets m) :
    (m.isInput ∧ (c.move m).Stage i (n + 1)) ∨ (m.isInput = false ∧ (c.move m).Stage (i + 1) n) := by
  cases hg
  case notifies params ha hh =>
    have hk := c.handshake_kept (m := .input (.notify "initialized" params))
      (List.forall_mem_singleton.mpr rfl)
    cases hs
    case owed hn hv =>
      exact .inl ⟨rfl, .owed (hk.trans hn) (hv.move h fun ho => by cases hn.symm.trans ho.left)⟩
    case ended hc _ => cases hc.symm.trans ha
    case before hn _ | during hn _ | done hn _ => cases hh.symm.trans hn
  case concludes d ticket v ha hd hw ht hh =>
    have ho : ¬ c.Opens (.turn (.caller d.number)) := fun ho => by cases hh.symm.trans ho.right
    cases hs
    case before _ hsp =>
      have ⟨_, hf⟩ := hsp d hd ticket hw
      cases ht.symm.trans hf
    case during _ hsg              => exact .inr ⟨rfl, .done hh (hsg.vacant_turn h hd hw ht ho)⟩
    case owed _ hv | done _ hv     => exact absurd hw (hv d hd ticket)
    case ended hc _                => cases hc.symm.trans ha

theorem silent_before (hn : c.session.handshake = .notStarted) (hs : c.Spent) (h : c.Proper)
    (hm : m.isStart = false) (ha : c.Fresh m → c.Attended) : (c.move m).Stage 0 0 := by
  have hb : c.Stage 0 0 := .before hn hs
  cases h.handshakeStep m
  case keeps kept =>
    have hk := (handshake_kept kept).trans hn
    exact .before hk (hs.move h fun ho => by cases hk.symm.trans ho.right)
  case starts         => cases hm
  case stops hl _     => exact hb.stopped hl
  case begins hf _ hk => exact .during hk (hs.single h (ha hf))
  case declines hk | fails hk => exact .before hk (hs.move h fun ho => by cases hk.symm.trans ho.right)
  case concludes hd hw _ ht =>
    have ⟨_, hf⟩ := hs _ hd _ hw
    cases ht.symm.trans hf

theorem silent_during (hn : c.session.handshake = .awaitingResponse) (hs : c.Single) (h : c.Proper)
    (hm : m.isStart = false) (hg : c.greetings m = 0) : (c.move m).Stage 0 0 := by
  have hb : c.Stage 0 0 := .during hn hs
  have ho : ¬ c.Opens m := fun ho => by cases hn.symm.trans ho.left
  cases h.handshakeStep m
  case keeps kept             => exact .during ((handshake_kept kept).trans hn) (hs.move h ho)
  case starts                 => cases hm
  case stops hl _             => exact hb.stopped hl
  case begins hh _ _ _ _      => cases hn.symm.trans hh
  case declines hh _ _        => cases hn.symm.trans hh
  case fails hd hw _ ht hk    => exact .before hk (hs.vacant_turn h hd hw ht ho).spent
  case concludes hd hw _ ht   =>
    rcases handshake_concluded h hd hw ht with ⟨hg', _⟩ | ⟨_, hk⟩
    · cases hg.symm.trans hg'
    · exact .owed hk (hs.vacant_turn h hd hw ht ho)

theorem silent (hs : c.Stage i n) (h : c.Proper) (hm : m.isStart = false)
    (ha : c.Fresh m → c.Attended) (hg : c.greetings m = 0) : (c.move m).Stage i n := by
  have hb := hs
  cases hs
  case before hn hs => exact silent_before hn hs h hm ha
  case during hn hs => exact silent_during hn hs h hm hg
  case owed hn hv =>
    have ho : ¬ c.Opens m := fun ho => by cases hn.symm.trans ho.left
    rcases hv.keeps h (by rw [hn]; nofun) hm with hk | hl
    · exact .owed (hk.trans hn) (hv.move h ho)
    · exact hb.stopped hl
  case done hn hv =>
    have ho : ¬ c.Opens m := fun ho => by cases hn.symm.trans ho.left
    rcases hv.keeps h (by rw [hn]; nofun) hm with hk | hl
    · exact .done (hk.trans hn) (hv.move h ho)
    · exact hb.stopped hl
  case ended hc _ =>
    refine .ended (Bool.eq_false_iff.mpr fun ha => ?_) hb.bound
    cases hc.symm.trans (accepts_move hm ha)

theorem move (hs : c.Stage i n) (h : c.Proper) (hm : m.isStart = false)
    (ha : c.Fresh m → c.Attended) : (c.move m).Stage (i + c.called m) (n + c.posted m) := by
  rw [called, posted]
  rcases h.greetings m with hg | ⟨hg, hgr⟩
  · rw [hg, ite_self]
    exact hs.silent h hm ha hg
  · rw [hg]
    rcases hs.greets h hgr with ⟨hi, hs⟩ | ⟨hi, hs⟩
    · rw [if_pos hi, if_pos hi]
      exact hs
    · rw [hi]
      exact hs

theorem after (hs : c.Stage i n) (h : c.Proper) (hp : c.Punctual ms) (hm : ∀ m ∈ ms, m.isStart = false) :
    (c.after ms).Stage (i + total called c ms) (n + total posted c ms) := by
  induction ms generalizing c i n
  case nil => exact hs
  case cons m ms hi =>
    have ⟨hm, hms⟩ := List.forall_mem_cons.mp hm
    have hs := hi (hs.move h hm fun hf => hp.left (.inr hf)) (h.move m) hp.right hms
    rw [Nat.add_assoc, Nat.add_assoc] at hs
    exact hs

end Stage

-- Since a start `initialized` is put on the transport at most once, exactly if `sendNotification` does
-- so at most once.
theorem greetings_le_one_iff (ms₁ ms₂ : List Move) (command : String) (args : List String)
    (hp : idle.Punctual (ms₁ ++ .input (.start command args) :: ms₂))
    (hm : ∀ m ∈ ms₂, m.isStart = false) :
    let c := (idle.after ms₁).move (.input (.start command args))
    total greetings c ms₂ ≤ 1 ↔ total posted c ms₂ ≤ 1 := by
  intro c
  have h := idle_proper.after ms₁
  have hc : c.Proper := h.move (.input (.start command args))
  have ⟨hs, hp⟩ := (punctual_append.mp hp).right
  have hs : c.Stage 0 0 :=
    .before (handshake_start _ command args) ((hs (.inl rfl)).spent_start h command args)
  have hb := (hs.after hc hp hm).bound
  rw [total_greetings]
  omega

theorem greetings_le_one_of_answer :
    let ms : List Move :=
      [.input (.call "hello" (.handshake "/w")), .turn (.caller 0),
        .input (.emit ⟨.message, "\x7b\"id\":0,\"result\":null\x7d"⟩), .turn (.router 0),
        .turn (.caller 0)]
    let c := idle.move (.input (.start "server" []))
    idle.Punctual (.input (.start "server" []) :: ms) ∧ (∀ m ∈ ms, m.isStart = false) ∧
      (c.after ms).session.handshake = .complete ∧ total greetings c ms ≤ 1 := by
  intro ms c
  have hp : idle.Punctual (.input (.start "server" []) :: ms) := by
    refine ⟨fun _ => by decide, fun _ => by decide, fun _ => by decide, fun _ => by decide,
      fun _ => by decide, fun h => ?_, trivial⟩
    rcases h with h | ⟨d, hd, hm, hf⟩
    · cases h
    · cases List.mem_singleton.mp (hd : d ∈ [⟨0, "hello", .handshake "/w", .waiting 0⟩])
      cases hf
  have hm : ∀ m ∈ ms, m.isStart = false := by simp [ms, Move.isStart]
  exact ⟨hp, hm, rfl, (greetings_le_one_iff [] ms "server" [] hp hm).mpr (Nat.zero_le 1)⟩

-- If the call to `initialize` cannot send `initialized`, anybody can send it any number of times.
theorem greeting_repeated :
    let c := idle.run [.start "server" [], .call "hello" (.handshake "/w"), .refuseSends true,
      .emit ⟨.message, "\x7b\"id\":0,\"result\":null\x7d"⟩, .refuseSends false,
      .notify "initialized" (.object []), .notify "initialized" (.object [])]
    c.session.transport.sent =
      [Session.requestFrame 0 "initialize" (Protocol.initializeParams "/w"),
        Session.notificationFrame "initialized" (.object []),
        Session.notificationFrame "initialized" (.object [])] ∧
      c.session.handshake = .acknowledged :=
  ⟨rfl, rfl⟩

end LanguageClient.Client
