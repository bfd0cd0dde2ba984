import LanguageClient.Proofs.Session.Publications

namespace LanguageClient
open Protocol

-- How the call of a subscriber ends that does some things: the first failure or crash decides.
def Reaction.verdict : List Reaction → Verdict
  | []                   => .done
  | .fail reason :: _    => .failed reason
  | .crash reason :: _   => .crashed reason
  | .unsubscribe _ :: rs => verdict rs
  | .subscribe .. :: rs  => verdict rs

namespace Bulletin

inductive Change
  | joins (s : Subscriber)
  | leaves (number : Nat)

-- A subscriber that is called, and what it changes meanwhile.
structure Visit where
  subscriber : Subscriber
  changes    : List Change

def Visit.delivery (v : Visit) (publish : Publish) : Delivery :=
  ⟨v.subscriber.number, v.subscriber.name, publish, Reaction.verdict v.subscriber.reactions⟩

def newcomers (cs : List Change) : List Subscriber :=
  cs.filterMap fun | .joins s => some s | .leaves _ => none

def leavers (cs : List Change) : List Nat :=
  cs.filterMap fun | .joins _ => none | .leaves number => some number

def make (b : Bulletin) : Change → Bulletin
  | .joins s       => { b with
      subscribers := b.subscribers ++ [s]
      issued      := b.issued + 1
      handles     := (s.name, s.number) :: b.handles }
  | .leaves number => b.remove number

def makeAll (b : Bulletin) (cs : List Change) : Bulletin :=
  cs.foldl make b

-- What some reactions change. A name stands for the latest subscription under it.
def changes (b : Bulletin) : List Reaction → List Change
  | []                              => []
  | .fail _ :: _ | .crash _ :: _    => []
  | .unsubscribe name :: rest       =>
    ((b.handle? name).map .leaves).toList ++ (b.unsubscribe name).changes rest
  | .subscribe name reactions :: rest =>
    .joins ⟨b.issued, name, reactions⟩ :: (b.subscribe name reactions).changes rest

def visits (b : Bulletin) : List Subscriber → List Visit
  | []        => []
  | s :: rest =>
    if b.isSubscribed s.number then
      ⟨s, b.changes s.reactions⟩ :: (b.makeAll (b.changes s.reactions)).visits rest
    else b.visits rest

variable {b : Bulletin} {c : Change} {cs cs' : List Change} {rs : List Reaction} {s : Subscriber}
variable {ss : List Subscriber} {number issued : Nat} {publish : Publish} {v : Visit} {vs : List Visit}

@[simp] theorem newcomers_nil : newcomers [] = [] :=
  rfl

@[simp] theorem newcomers_joins : newcomers (.joins s :: cs) = s :: newcomers cs :=
  rfl

@[simp] theorem newcomers_leaves : newcomers (.leaves number :: cs) = newcomers cs :=
  rfl

@[simp] theorem newcomers_append : newcomers (cs ++ cs') = newcomers cs ++ newcomers cs' :=
  List.filterMap_append

@[simp] theorem leavers_nil : leavers [] = [] :=
  rfl

@[simp] theorem leavers_joins : leavers (.joins s :: cs) = leavers cs :=
  rfl

@[simp] theorem leavers_leaves : leavers (.leaves number :: cs) = number :: leavers cs :=
  rfl

@[simp] theorem leavers_append : leavers (cs ++ cs') = leavers cs ++ leavers cs' :=
  List.filterMap_append

@[simp] theorem makeAll_nil : b.makeAll [] = b :=
  rfl

@[simp] theorem makeAll_cons : b.makeAll (c :: cs) = (b.make c).makeAll cs :=
  rfl

@[simp] theorem makeAll_append : b.makeAll (cs ++ cs') = (b.makeAll cs).makeAll cs' :=
  List.foldl_append

theorem makeAll_unsubscribe (b : Bulletin) (name : String) :
    b.makeAll ((b.handle? name).map .leaves).toList = b.unsubscribe name := by
  rw [unsubscribe]
  cases b.handle? name <;> rfl

-- What a subscriber does are its changes, and how its call ends does not depend on them.
theorem react_eq (b : Bulletin) (rs : List Reaction) :
    b.react rs = (b.makeAll (b.changes rs), Reaction.verdict rs) := by
  fun_induction react b rs
  case case1 => rfl
  case case2 => rfl
  case case3 => rfl
  case case4 name _ hi => simp [hi, changes, makeAll_unsubscribe, Reaction.verdict]
  case case5 hi        => exact hi

theorem tell_eq (b : Bulletin) (publish : Publish) (ss : List Subscriber) :
    b.tell publish ss =
      (b.makeAll ((b.visits ss).flatMap (·.changes)), (b.visits ss).map (·.delivery publish)) := by
  induction ss generalizing b
  case nil          => rfl
  case cons s ss hi =>
    rw [tell, visits]
    split
    case isTrue  => simp [react_eq, hi, Visit.delivery]
    case isFalse => exact hi b

def Timely (issued : Nat) : List Change → Prop
  | []                   => True
  | .joins s :: cs       => s.number = issued ∧ Timely (issued + 1) cs
  | .leaves number :: cs => number < issued ∧ Timely issued cs

theorem timely_append :
    Timely issued (cs ++ cs') ↔ Timely issued cs ∧ Timely (issued + (newcomers cs).length) cs' := by
  induction cs generalizing issued
  case nil          => simp [Timely]
  case cons c cs hi =>
    cases c <;> simp [Timely, hi, and_assoc]
    case joins => simp [Nat.add_assoc, Nat.add_comm 1]

theorem le_of_mem_newcomers (h : Timely issued cs) (hs : s ∈ newcomers cs) : issued ≤ s.number := by
  induction cs generalizing issued
  case nil          => cases hs
  case cons c cs hi =>
    cases c
    case leaves => exact hi h.right hs
    case joins  =>
      obtain rfl | hs := List.mem_cons.mp hs
      · exact Nat.le_of_eq h.left.symm
      · exact Nat.le_of_succ_le (hi h.right hs)

structure Counted (b : Bulletin) : Prop where
  ascending : (b.subscribers.map (·.number)).Pairwise (· < ·)
  below     : ∀ s ∈ b.subscribers, s.number < b.issued
  given     : ∀ h ∈ b.handles, h.2 < b.issued

theorem empty_counted : empty.Counted :=
  ⟨.nil, nofun, nofun⟩

theorem Counted.handle?_lt (h : b.Counted) {name : String} (hn : b.handle? name = some number) :
    number < b.issued := by
  have ⟨x, hx, hn⟩ := Option.map_eq_some_iff.mp hn
  exact hn ▸ h.given x (List.mem_of_find?_eq_some hx)

theorem Counted.remove (h : b.Counted) (number : Nat) : (b.remove number).Counted where
  ascending := h.ascending.sublist (List.filter_sublist.map _)
  below     := fun s hs => h.below s (List.mem_of_mem_filter hs)
  given     := h.given

theorem Counted.join (h : b.Counted) (hs : s.number = b.issued) : (b.make (.joins s)).Counted where
  ascending := by
    simp only [make, List.map_append, List.pairwise_append]
    refine ⟨h.ascending, List.pairwise_singleton _ _, ?_⟩
    simpa [hs] using h.below
  below := by
    simp only [make, List.forall_mem_append]
    exact ⟨fun r hr => Nat.lt_succ_of_lt (h.below r hr), by simp [hs]⟩
  given := by
    simp only [make, List.forall_mem_cons]
    exact ⟨by simp [hs], fun x hx => Nat.lt_succ_of_lt (h.given x hx)⟩

theorem Counted.makeAll (h : b.Counted) (ht : Timely b.issued cs) : (b.makeAll cs).Counted := by
  induction cs generalizing b
  case nil          => exact h
  case cons c cs hi =>
    cases c
    case joins  => exact hi (h.join ht.left) ht.right
    case leaves => exact hi (h.remove _) ht.right

theorem issued_makeAll : (b.makeAll cs).issued = b.issued + (newcomers cs).length := by
  induction cs generalizing b
  case nil          => rfl
  case cons c cs hi =>
    cases c <;> simp [hi, make, Bulletin.remove]
    case joins => omega

theorem subscribers_makeAll (ht : Timely issued cs) :
    (b.makeAll cs).subscribers =
      (b.subscribers ++ newcomers cs).filter (·.number ∉ leavers cs) := by
  induction cs generalizing b issued
  case nil          => simp
  case cons c cs hi =>
    cases c
    case joins s =>
      rw [makeAll_cons, hi ht.right, newcomers_joins, leavers_joins, List.append_cons]
      rfl
    case leaves number =>
      -- Who joins later has a later number than the one who leaves.
      have hn : ∀ s ∈ newcomers cs, s.number ≠ number := fun s hs =>
        Nat.ne_of_gt (Nat.lt_of_lt_of_le ht.left (le_of_mem_newcomers ht.right hs))
      rw [makeAll_cons, hi ht.right, List.filter_append, List.filter_append]
      congr 1
      · simp only [make, Bulletin.remove, List.filter_filter, leavers_leaves]
        apply List.filter_congr
        intro s _
        simp [Bool.and_comm]
      · simp only [newcomers_leaves, leavers_leaves]
        apply List.filter_congr
        intro s hs
        simp [hn s hs]

theorem isSubscribed_makeAll (ht : Timely b.issued cs) (hn : number < b.issued) :
    (b.makeAll cs).isSubscribed number ↔ b.isSubscribed number ∧ number ∉ leavers cs := by
  have hf : ∀ s ∈ newcomers cs, s.number ≠ number := fun s hs =>
    Nat.ne_of_gt (Nat.lt_of_lt_of_le hn (le_of_mem_newcomers ht hs))
  simp only [isSubscribed, subscribers_makeAll ht, List.any_eq_true, List.mem_filter, List.mem_append,
    decide_eq_true_eq]
  constructor
  case mp =>
    rintro ⟨s, ⟨hs | hs, hl⟩, rfl⟩
    · exact ⟨⟨s, hs, rfl⟩, hl⟩
    · exact absurd rfl (hf s hs)
  case mpr =>
    rintro ⟨⟨s, hs, rfl⟩, hl⟩
    exact ⟨s, ⟨.inl hs, hl⟩, rfl⟩

theorem timely_changes (h : b.Counted) (rs : List Reaction) : Timely b.issued (b.changes rs) := by
  fun_induction changes b rs
  case case1 => trivial
  case case2 => trivial
  case case3 => trivial
  case case4 b name rest hi =>
    rw [← makeAll_unsubscribe] at hi ⊢
    have hl : Timely b.issued ((b.handle? name).map .leaves).toList := by
      cases hn : b.handle? name
      case none   => trivial
      case some _ => exact ⟨h.handle?_lt hn, trivial⟩
    have hi := hi (h.makeAll hl)
    rw [issued_makeAll] at hi
    exact timely_append.mpr ⟨hl, hi⟩
  case case5 hi => exact ⟨rfl, hi (h.join rfl)⟩

theorem timely_visits (h : b.Counted) (ss : List Subscriber) :
    Timely b.issued ((b.visits ss).flatMap (·.changes)) := by
  induction ss generalizing b
  case nil          => trivial
  case cons s ss hi =>
    rw [visits]
    split
    case isFalse => exact hi h
    case isTrue  =>
      have ht := timely_changes h s.reactions
      have hi := hi (h.makeAll ht)
      rw [issued_makeAll] at hi
      simp [timely_append, ht, hi]

theorem visits_sublist (b : Bulletin) (ss : List Subscriber) :
    ((b.visits ss).map (·.subscriber)).Sublist ss := by
  induction ss generalizing b
  case nil          => exact .slnil
  case cons s ss hi =>
    rw [visits]
    split
    case isTrue  => exact (hi _).cons_cons s
    case isFalse => exact (hi b).cons s

theorem visit_changes {before after : List Visit} (h : b.visits ss = before ++ v :: after) :
    v.changes = (b.makeAll (before.flatMap (·.changes))).changes v.subscriber.reactions := by
  induction ss generalizing b before
  case nil          => simp [visits] at h
  case cons s ss hi =>
    rw [visits] at h
    split at h
    case isFalse => exact hi h
    case isTrue  =>
      cases before
      case nil =>
        cases (List.cons.inj h).left
        rfl
      case cons w before =>
        cases (List.cons.inj h).left
        simpa using hi (List.cons.inj h).right

-- The induction is on those whose turn is still to come: who is there now is called unless one who is
-- called before removes it.
theorem mem_visits (h : b.Counted) (ha : (ss.map (·.number)).Pairwise (· < ·))
    (hb : ∀ s ∈ ss, s.number < b.issued) (hs : s ∈ ss) :
    s ∈ (b.visits ss).map (·.subscriber) ↔ b.isSubscribed s.number ∧
      ∀ v ∈ b.visits ss, v.subscriber.number < s.number → s.number ∉ leavers v.changes := by
  induction ss generalizing b
  case nil          => cases hs
  case cons r ss hi =>
    simp only [List.map_cons, List.pairwise_cons, List.forall_mem_map] at ha
    have hsub (b : Bulletin) {v : Visit} (hv : v ∈ b.visits ss) : v.subscriber ∈ ss :=
      (b.visits_sublist ss).subset (List.mem_map_of_mem hv)
    have ⟨hbr, hbs⟩ := List.forall_mem_cons.mp hb
    rw [visits]
    obtain rfl | hs := List.mem_cons.mp hs
    · -- All others come after the first.
      have hn : ∀ (b : Bulletin), ∀ v ∈ b.visits ss, ¬ v.subscriber.number < s.number :=
        fun b v hv hl => Nat.lt_asymm hl (ha.left _ (hsub b hv))
      have hm : s ∉ (b.visits ss).map (·.subscriber) := by
        intro hm
        exact Nat.lt_irrefl _ (ha.left _ ((b.visits_sublist ss).subset hm))
      split
      case isTrue hr  => simpa [hr] using fun v hv hl => absurd hl (hn _ v hv)
      case isFalse hr => simpa [hr] using hm
    · have hlt := ha.left s hs
      have hne : s ≠ r := by
        rintro rfl
        exact Nat.lt_irrefl _ hlt
      split
      case isFalse => exact hi h ha.right hbs hs
      case isTrue  =>
        have ht := timely_changes h r.reactions
        have hb' : ∀ s ∈ ss, s.number < (b.makeAll (b.changes r.reactions)).issued := by
          intro s hs
          rw [issued_makeAll]
          exact Nat.lt_add_right _ (hbs s hs)
        have hi := hi (h.makeAll ht) ha.right hb' hs
        rw [isSubscribed_makeAll ht (hbs s hs)] at hi
        simp only [List.map_cons, List.mem_cons, hne, false_or, hi, forall_eq_or_imp, hlt, true_implies,
          and_assoc]

-- How a publication is told. Those who are called were subscribers before, each of them is called once
-- and in the order of subscription, and just those are left out who are removed by one who is called
-- before them. Each acts on the subscriptions as they are at its turn.
structure Visits (b : Bulletin) (publish : Publish) (vs : List Visit) : Prop where
  deliveries : (b.publish publish).2 = vs.map (·.delivery publish)
  snapshot   : (vs.map (·.subscriber)).Sublist b.subscribers
  once       : (vs.map (·.subscriber.number)).Pairwise (· < ·)
  called     : ∀ s ∈ b.subscribers, s ∈ vs.map (·.subscriber) ↔
    ∀ v ∈ vs, v.subscriber.number < s.number → s.number ∉ leavers v.changes
  acts       : ∀ before v after, vs = before ++ v :: after →
    v.changes = ((b.put publish).makeAll (before.flatMap (·.changes))).changes v.subscriber.reactions
  unheard    : ∀ s ∈ newcomers (vs.flatMap (·.changes)), ∀ v ∈ vs, v.subscriber.number < s.number
  remaining  : (b.publish publish).1.subscribers =
    b.subscribers.filter (·.number ∉ leavers (vs.flatMap (·.changes))) ++
      (newcomers (vs.flatMap (·.changes))).filter (·.number ∉ leavers (vs.flatMap (·.changes)))

theorem Counted.put (h : b.Counted) (publish : Publish) : (b.put publish).Counted :=
  ⟨h.ascending, h.below, h.given⟩

theorem Counted.visits (h : b.Counted) (publish : Publish) :
    b.Visits publish ((b.put publish).visits b.subscribers) := by
  have ht := timely_visits (h.put publish) b.subscribers
  have hsub := (b.put publish).visits_sublist b.subscribers
  have hb {v : Visit} (hv : v ∈ (b.put publish).visits b.subscribers) :
      v.subscriber.number < b.issued :=
    h.below _ (hsub.subset (List.mem_map_of_mem hv))
  have heq := tell_eq (b.put publish) publish b.subscribers
  constructor
  case deliveries => exact congrArg Prod.snd heq
  case snapshot   => exact hsub
  case once       =>
    have ho := h.ascending.sublist (hsub.map (·.number))
    rwa [List.map_map] at ho
  case called =>
    intro s hs
    have hm := mem_visits (h.put publish) h.ascending h.below hs
    have hp : (b.put publish).isSubscribed s.number :=
      List.any_eq_true.mpr ⟨s, hs, decide_eq_true rfl⟩
    simpa only [hp, true_and] using hm
  case acts       => exact fun _ _ _ => visit_changes
  case unheard    =>
    exact fun s hs v hv => Nat.lt_of_lt_of_le (hb hv) (le_of_mem_newcomers ht hs)
  case remaining  =>
    have hr : (b.publish publish).1.subscribers = _ :=
      (congrArg (·.1.subscribers) heq).trans (subscribers_makeAll ht)
    rw [hr, List.filter_append]
    rfl

-- What can be done with a bulletin. Who subscribes is free in what it does when it is called: it may keep
-- its handle or another one under any name, and what it does may be something else each time.
inductive Operation
  | subscribe (name : String) (reactions : List Reaction)
  | unsubscribe (name : String)
  | keep (name : String) (number : Nat)
  | revise (number : Nat) (reactions : List Reaction)
  | receive (n : Rpc.Notification)
  | clear

def perform (b : Bulletin) : Operation → Bulletin
  | .subscribe name reactions => b.subscribe name reactions
  | .unsubscribe name => b.unsubscribe name
  | .keep name number =>
    if number < b.issued then { b with handles := (name, number) :: b.handles } else b
  | .revise number reactions => { b with
      subscribers := b.subscribers.map fun s => if s.number = number then { s with reactions } else s }
  | .receive n => (b.receive n).bulletin
  | .clear => b.clear

def performAll (b : Bulletin) (ops : List Operation) : Bulletin :=
  ops.foldl perform b

theorem receive_cases (b : Bulletin) (n : Rpc.Notification) :
    (b.receive n).bulletin = b ∨ ∃ publish, (b.receive n).bulletin = (b.publish publish).1 := by
  rw [receive]
  split
  case isFalse => exact .inl rfl
  case isTrue  =>
    split
    case h_1           => exact .inl rfl
    case h_2 publish _ => exact .inr ⟨publish, rfl⟩

theorem revise_numbers (b : Bulletin) (number : Nat) (reactions : List Reaction) :
    (b.perform (.revise number reactions)).subscribers.map (·.number) =
      b.subscribers.map (·.number) := by
  simp only [perform, List.map_map]
  apply List.map_congr_left
  intro s _
  simp only [Function.comp_apply]
  split <;> rfl

theorem Counted.perform (h : b.Counted) (op : Operation) : (b.perform op).Counted := by
  cases op
  case subscribe name reactions => exact h.join (s := ⟨b.issued, name, reactions⟩) rfl
  case unsubscribe name =>
    simp only [Bulletin.perform, unsubscribe]
    split
    case h_1 number _ => exact h.remove number
    case h_2          => exact h
  case keep name number =>
    simp only [Bulletin.perform]
    split
    case isTrue hn => exact ⟨h.ascending, h.below, List.forall_mem_cons.mpr ⟨hn, h.given⟩⟩
    case isFalse   => exact h
  case revise number reactions =>
    have hm := b.revise_numbers number reactions
    refine ⟨hm ▸ h.ascending, fun s hs => ?_, h.given⟩
    obtain ⟨r, hr, he⟩ := List.mem_map.mp (hm ▸ List.mem_map_of_mem hs)
    exact he ▸ h.below r hr
  case receive n =>
    rw [Bulletin.perform]
    obtain he | ⟨publish, he⟩ := b.receive_cases n
    · rw [he]
      exact h
    · rw [he, Bulletin.publish, tell_eq]
      exact (h.put publish).makeAll (timely_visits (h.put publish) b.subscribers)
  case clear => exact ⟨h.ascending, h.below, h.given⟩

theorem Counted.performAll (h : b.Counted) (ops : List Operation) : (b.performAll ops).Counted := by
  induction ops generalizing b
  case nil            => exact h
  case cons op ops hi => exact hi (h.perform op)

def Over (b : Bulletin) (number : Nat) : Prop :=
  number < b.issued ∧ ¬b.isSubscribed number

theorem Keeps.over {b' : Bulletin} (h : b.Keeps b') (ho : b.Over number) : b'.Over number :=
  ⟨Nat.lt_of_lt_of_le ho.left h.issued, h.free number ho.left ho.right⟩

theorem isSubscribed_iff : b.isSubscribed number ↔ number ∈ b.subscribers.map (·.number) := by
  simp [isSubscribed]

theorem Over.perform (h : b.Over number) (op : Operation) : (b.perform op).Over number := by
  cases op
  case subscribe   => exact keeps_subscribe.over h
  case unsubscribe => exact keeps_unsubscribe.over h
  case keep        =>
    simp only [Bulletin.perform]
    split
    · exact h
    · exact h
  case revise other reactions =>
    refine ⟨h.left, ?_⟩
    rw [isSubscribed_iff, revise_numbers, ← isSubscribed_iff]
    exact h.right
  case receive n =>
    rw [Bulletin.perform]
    obtain he | ⟨publish, he⟩ := b.receive_cases n
    · rw [he]
      exact h
    · rw [he]
      exact (keeps_tell (b := b.put publish)).over h
  case clear => exact h

theorem Over.performAll (h : b.Over number) (ops : List Operation) : (b.performAll ops).Over number := by
  induction ops generalizing b
  case nil            => exact h
  case cons op ops hi => exact hi (h.perform op)

theorem Over.remove_eq (h : b.Over number) : b.remove number = b := by
  have hf : b.subscribers.filter (·.number ≠ number) = b.subscribers := by
    apply List.filter_eq_self.mpr
    intro s hs
    have hn := h.right
    simp only [isSubscribed_iff, List.mem_map, not_exists, not_and] at hn
    simpa using hn s hs
  rw [remove, hf]

theorem remove_over (hn : number < b.issued) : (b.remove number).Over number := by
  refine ⟨hn, ?_⟩
  simp [isSubscribed_iff, remove]

theorem Counted.remove_eq (h : b.Counted) {before after : List Subscriber}
    (hs : b.subscribers = before ++ s :: after) :
    (b.remove s.number).subscribers = before ++ after := by
  have ha := h.ascending
  simp only [hs, List.map_append, List.map_cons, List.pairwise_append, List.pairwise_cons,
    List.forall_mem_map, List.forall_mem_cons] at ha
  obtain ⟨_, ⟨hafter, _⟩, hbefore⟩ := ha
  have h₁ : before.filter (·.number ≠ s.number) = before :=
    List.filter_eq_self.mpr fun r hr => by simpa using Nat.ne_of_lt (hbefore r hr).left
  have h₂ : after.filter (·.number ≠ s.number) = after :=
    List.filter_eq_self.mpr fun r hr => by simpa using Nat.ne_of_gt (hafter r hr)
  simp only [Bulletin.remove, hs, List.filter_append, List.filter_cons, h₁, h₂]
  simp

-- What subscribers can rely on. Removing one takes away it alone, and when this is done again, at any
-- time later, it changes nothing.
structure Reliable (b : Bulletin) : Prop where
  tells   : ∀ publish, ∃ vs, b.Visits publish vs
  removes : ∀ before s after, b.subscribers = before ++ s :: after →
    (b.remove s.number).subscribers = before ++ after
  settled : ∀ number < b.issued, ∀ ops,
    ((b.remove number).performAll ops).remove number = (b.remove number).performAll ops

theorem publish_visits (ops : List Operation) : (empty.performAll ops).Reliable := by
  have h := empty_counted.performAll ops
  constructor
  case tells   => exact fun publish => ⟨_, h.visits publish⟩
  case removes => exact fun _ _ _ hs => h.remove_eq hs
  case settled => exact fun _ hn later => ((remove_over hn).performAll later).remove_eq

end Bulletin
end LanguageClient
