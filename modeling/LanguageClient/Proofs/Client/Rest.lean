import LanguageClient.Proofs.Client.Punctual

namespace LanguageClient

variable {s t u : Session} {a : Action} {as : List Action} {d : Caller}

def Action.stirs : Action → Bool
  | start .. | emit _ => true
  | _ => false

namespace Session

def Hushed (s t : Session) : Prop :=
  ∀ r', t.wiring.router? = some r' → ∃ r, s.wiring.router? = some r ∧ r'.channel = r.channel ∧
    ∀ e ∈ r'.inbox, e ∈ r.inbox

theorem Hushed.trans (h₁ : s.Hushed t) (h₂ : t.Hushed u) : s.Hushed u := by
  intro r'' hr''
  have ⟨r', hr', hc', hi'⟩ := h₂ r'' hr''
  have ⟨r, hr, hc, hi⟩ := h₁ r' hr'
  exact ⟨r, hr, hc'.trans hc, fun e he => hi e (hi' e he)⟩

theorem Quietly.hushed {ops : List Pending.Operation} (q : s.Quietly t ops []) : s.Hushed t := by
  intro r' hr'
  have hc := q.channel
  rw [hr', Option.map_some] at hc
  have ⟨r, hr, hrc⟩ := Option.map_eq_some_iff.mp hc.symm
  refine ⟨r, hr, hrc.symm, fun e he => ?_⟩
  have hi : e ∈ s.inbox := by
    refine (q.inbox e ?_).resolve_right List.not_mem_nil
    rwa [Session.inbox, hr']
  rwa [Session.inbox, hr] at hi

theorem act_hushed (ha : a.stirs = false) : s.Hushed (s.act a) := by
  cases a
  case start | emit   => cases ha
  case cleanup | stop => nofun
  all_goals exact (s.act_quietly rfl).hushed

theorem actAll_hushed (ha : ∀ a ∈ as, a.stirs = false) : s.Hushed (s.actAll as) := by
  induction as generalizing s
  case nil          => exact fun r hr => ⟨r, hr, rfl, fun _ => id⟩
  case cons a as hi =>
    have ⟨ha, has⟩ := List.forall_mem_cons.mp ha
    exact (act_hushed ha).trans (hi has)

theorem completed_actAll (s : Session) (as : List Action) :
    s.pending.completed <+: (s.actAll as).pending.completed := by
  rw [pending_actAll]
  exact s.pending.completed_extends _

end Session

namespace Client

variable {c : Client} {m : Move} {ms : List Move} {turns ts : List Turn}

theorem routerTurn_hushed (h : s.Hushed t) : routerTurn s t = [] := by
  rw [routerTurn]
  split
  case h_1 r hs ht =>
    have ⟨r', hr, _⟩ := h r ht
    cases hs.symm.trans hr
  case h_2 r r' hs ht =>
    have ⟨r₀, hr, hc, hi⟩ := h r' ht
    cases hs.symm.trans hr
    refine if_neg fun hn => ?_
    simp only [Bool.or_eq_true, decide_eq_true_eq, Bool.and_eq_true] at hn
    rcases hn with hn | ⟨he, hn⟩
    · exact hn hc.symm
    · refine hn (List.eq_nil_iff_forall_not_mem.mpr fun e he' => ?_)
      have he' := hi e he'
      rw [he] at he'
      cases he'
  case h_3 => rfl

theorem turn_hushed (c : Client) (t : Turn) : c.session.Hushed (c.move (.turn t)).session := by
  rw [session_move]
  refine Session.actAll_hushed fun a ha => ?_
  have ht := c.turn_actions t a ha
  cases a
  case start | emit => cases ht
  all_goals rfl

theorem foldl_addTurn (ts turns : List Turn) : ∃ extra, ts.foldl addTurn turns = turns ++ extra ∧
    extra.Nodup ∧ (∀ t ∈ extra, t ∈ ts ∧ t ∉ turns) ∧ ∀ t ∈ ts, t ∈ turns ++ extra := by
  induction ts generalizing turns
  case nil          => exact ⟨[], (List.append_nil _).symm, List.nodup_nil, nofun, nofun⟩
  case cons t ts hi =>
    have ⟨extra, he, hn, hf, hall⟩ := hi (addTurn turns t)
    by_cases ht : t ∈ turns
    case pos =>
      rw [addTurn, if_pos ht] at he hf hall
      refine ⟨extra, by rw [List.foldl_cons, addTurn, if_pos ht, he], hn, fun u hu => ?_, ?_⟩
      · exact ⟨List.mem_cons_of_mem _ (hf u hu).left, (hf u hu).right⟩
      · exact List.forall_mem_cons.mpr ⟨List.mem_append_left _ ht, hall⟩
    case neg =>
      rw [addTurn, if_neg ht] at he hf hall
      refine ⟨t :: extra, ?_, ?_, ?_, ?_⟩
      · rw [List.foldl_cons, addTurn, if_neg ht, he, List.append_assoc]
        rfl
      · refine List.nodup_cons.mpr ⟨fun hm => ?_, hn⟩
        exact (hf t hm).right (List.mem_append_right _ (List.mem_singleton_self _))
      · refine List.forall_mem_cons.mpr ⟨⟨List.mem_cons_self, ht⟩, fun u hu => ?_⟩
        have ⟨hu, hnu⟩ := hf u hu
        exact ⟨List.mem_cons_of_mem _ hu, fun h => hnu (List.mem_append_left _ h)⟩
      · refine List.forall_mem_cons.mpr ⟨by simp, fun u hu => ?_⟩
        have hu := hall u hu
        rwa [List.append_assoc] at hu

def Ready (c : Client) (d : Caller) : Prop :=
  d.phase = .fresh ∨ (c.told? d).isSome

def Due (c : Client) : Prop :=
  ∀ d ∈ c.callers, c.Ready d → .caller d.number ∈ c.turns

def untold (c : Client) : List Caller :=
  c.callers.filter fun d => (c.told? d).isNone

-- What has yet to happen before a client is at rest.
def load (c : Client) : Nat :=
  c.turns.length + c.untold.length

theorem mem_callerTurns {ticket : Nat} (hx : s.pending.completed <+: t.pending.completed)
    (hd : d ∈ c.callers) (hp : d.phase = .waiting ticket) (ho : s.pending.outcome? ticket = none)
    (ho' : (t.pending.outcome? ticket).isSome) :
    .caller d.number ∈ callerTurns c.callers s t := by
  have ⟨_, ho'⟩ := Option.isSome_iff_exists.mp ho'
  have ⟨x, hm, hxt, _⟩ := Pending.exists_completed ho'
  have ⟨new, hnew⟩ := hx
  rw [← hnew] at hm
  have hm : x ∈ new := by
    refine (List.mem_append.mp hm).resolve_left fun hm => ?_
    have hf := List.find?_eq_none.mp (Option.map_eq_none_iff.mp ho) x hm
    simp [hxt] at hf
  rw [callerTurns, Pending.completedSince, ← hnew, List.drop_left]
  refine List.mem_flatMap.mpr ⟨x, hm, List.mem_map.mpr ⟨d, ?_, rfl⟩⟩
  exact List.mem_filter.mpr ⟨hd, by simp [hp, hxt]⟩

theorem of_mem_callerTurns {turn : Turn} (hs : t.pending.Sound)
    (hx : s.pending.completed <+: t.pending.completed) (h : turn ∈ callerTurns c.callers s t) :
    ∃ d ∈ c.callers, ∃ ticket, turn = .caller d.number ∧ d.phase = .waiting ticket ∧
      s.pending.outcome? ticket = none ∧ (t.pending.outcome? ticket).isSome := by
  have ⟨new, hnew⟩ := hx
  rw [callerTurns, Pending.completedSince, ← hnew, List.drop_left] at h
  have ⟨x, hm, h⟩ := List.mem_flatMap.mp h
  have ⟨d, hd, ht⟩ := List.mem_map.mp h
  have ⟨hd, hp⟩ := List.mem_filter.mp hd
  have hm' : x ∈ t.pending.completed := hnew ▸ List.mem_append_right _ hm
  refine ⟨d, hd, x.entry.ticket, ht.symm, of_decide_eq_true hp, ?_, ?_⟩
  · refine Option.map_eq_none_iff.mpr (List.find?_eq_none.mpr fun y hy => ?_)
    have hn := hs.completed_nodup
    rw [← hnew, List.map_append] at hn
    have hd := (List.nodup_append.mp hn).right.right
    simpa using hd _ (List.mem_map_of_mem hy) _ (List.mem_map_of_mem hm)
  · rw [hs.outcome?_of_completed hm']
    rfl

theorem Due.withSession (h : c.Due) (hx : c.session.pending.completed <+: s.pending.completed) :
    (c.withSession s).Due := by
  intro d hd hr
  have ⟨extra, he, _, _, hall⟩ :=
    foldl_addTurn (callerTurns c.callers c.session s ++ routerTurn c.session s) c.turns
  have hturns : (c.withSession s).turns = c.turns ++ extra := he
  by_cases hr' : c.Ready d
  case pos =>
    rw [hturns]
    exact List.mem_append_left _ (h d hd hr')
  case neg =>
    have ⟨hf, ht⟩ := not_or.mp hr'
    have hr := hr.resolve_left hf
    match hp : d.phase with
    | .fresh => exact absurd hp hf
    | .waiting ticket =>
      rw [told?_of_waiting _ hp] at ht hr
      rw [hturns]
      refine hall _ (List.mem_append_left _ (mem_callerTurns hx hd hp ?_ hr))
      simpa using ht

theorem untold_withSession (hs : s.pending.Sound)
    (hx : c.session.pending.completed <+: s.pending.completed) :
    (c.withSession s).untold ⊆ c.untold := by
  intro d hd
  obtain ⟨hd, hn⟩ := List.mem_filter.mp hd
  refine List.mem_filter.mpr ⟨hd, Option.isNone_iff_eq_none.mpr ?_⟩
  have hn := Option.isNone_iff_eq_none.mp hn
  cases hp : d.phase
  case fresh => rw [told?, hp]
  case waiting ticket =>
    rw [told?_of_waiting _ hp] at hn ⊢
    refine Option.eq_none_iff_forall_ne_some.mpr fun outcome ho => ?_
    obtain ⟨x, hm, ht, _⟩ := Pending.exists_completed ho
    have ho' := hs.outcome?_of_completed (hx.subset hm)
    rw [ht] at ho'
    cases hn.symm.trans ho'

-- Who gets a turn has been untold until then, so that no load is added.
theorem load_withSession (hc : (c.callers.map (·.number)).Nodup) (hs : s.pending.Sound)
    (hx : c.session.pending.completed <+: s.pending.completed) (hh : c.session.Hushed s) :
    (c.withSession s).load ≤ c.load := by
  obtain ⟨extra, he, hnd, hnew, _⟩ := foldl_addTurn (callerTurns c.callers c.session s) c.turns
  have hturns : (c.withSession s).turns = c.turns ++ extra := by
    rw [withSession, routerTurn_hushed hh, List.append_nil]
    exact he
  let turn (d : Caller) : Turn := .caller d.number
  have hinj {d d' : Caller} (hd : d ∈ c.callers) (hd' : d' ∈ c.callers) (h : turn d = turn d') :
      d = d' :=
    List.inj_on_of_nodup_map hc hd hd' (Turn.caller.inj h)
  have hextra {t : Turn} (ht : t ∈ extra) :
      ∃ d ∈ c.untold, t = turn d ∧ d ∉ (c.withSession s).untold := by
    obtain ⟨d, hd, ticket, htd, hp, ho, ho'⟩ := of_mem_callerTurns hs hx (hnew t ht).left
    refine ⟨d, List.mem_filter.mpr ⟨hd, ?_⟩, htd, fun hu => ?_⟩
    · rw [told?_of_waiting _ hp, ho]
      rfl
    · have hu := (List.mem_filter.mp hu).right
      rw [told?_of_waiting _ hp, Option.isNone_iff_eq_none] at hu
      cases (Option.isSome_iff_ne_none.mp ho') hu
  have hsub := untold_withSession hs hx
  -- Who gets a turn and who stays untold are different callers, and all of them were untold before.
  have hmem : extra ++ (c.withSession s).untold.map turn ⊆ c.untold.map turn := by
    refine List.append_subset.mpr ⟨fun t ht => ?_, List.map_subset _ hsub⟩
    obtain ⟨d, hd, htd, _⟩ := hextra ht
    exact htd ▸ List.mem_map_of_mem hd
  have hnodup : (extra ++ (c.withSession s).untold.map turn).Nodup := by
    refine List.nodup_append.mpr ⟨hnd, ?_, fun t ht t' ht' => ?_⟩
    · refine List.Nodup.map_on (fun d hd d' hd' h => ?_) (hc.of_map.filter _)
      exact hinj (List.mem_of_mem_filter hd) (List.mem_of_mem_filter hd') h
    · obtain ⟨d, hd, htd, hn⟩ := hextra ht
      obtain ⟨d', hd', htd'⟩ := List.mem_map.mp ht'
      rintro rfl
      have hdd := hinj (List.mem_of_mem_filter hd) (List.mem_of_mem_filter hd') (htd.symm.trans htd'.symm)
      exact hn (hdd ▸ hd')
  have hlen := (List.subperm_of_subset hnodup hmem).length_le
  simp only [List.length_append, List.length_map] at hlen
  simp only [load, hturns, List.length_append]
  omega

theorem Due.addCaller (hd : c.Due) (label : String) (call : Call) (phase : Phase) :
    (c.addCaller label call phase).Due := by
  intro d hd' hr
  rcases List.mem_append.mp hd' with hd' | hd'
  · exact List.mem_append_left _ (hd d hd' hr)
  · cases List.mem_singleton.mp hd'
    exact List.mem_append_right _ (List.mem_singleton_self _)

variable {next : Turn} {later : List Turn} {ticket : Nat}

theorem go_cons (ht : c.turns = next :: later) (n : Nat) :
    c.go (n + 1) = (c.move (.turn next)).go n := by
  rw [turn_of_cons ht, go, ht]

theorem load_erase (ht : next ∈ c.turns) : load { c with turns := c.turns.erase next } < c.load := by
  have hl := List.length_pos_of_mem ht
  rw [load, load, List.length_erase_of_mem ht]
  exact Nat.add_lt_add_right (Nat.sub_one_lt_of_lt hl) _

theorem Due.erase (h : c.Due) (hd : d ∈ c.callers) (hr : c.Ready d) (hn : next ≠ .caller d.number) :
    .caller d.number ∈ c.turns.erase next :=
  (List.mem_erase_of_ne hn.symm).mpr (h d hd hr)

theorem Due.report (h : c.Due) (d : Caller) (result : Except Failure Json) :
    Due (Client.report { c with turns := c.turns.erase (.caller d.number) } d result) := by
  intro e he hr
  have ⟨he, hn⟩ := List.mem_filter.mp he
  exact h.erase he hr (turn_ne (of_decide_eq_true hn))

theorem load_report (c : Client) (d : Caller) (result : Except Failure Json) :
    (c.report d result).load ≤ c.load :=
  Nat.add_le_add_left (List.filter_sublist.filter _).length_le _

theorem length_untold_await (h : c.Enrolled) (hd : d ∈ c.callers) (hp : d.phase = .fresh)
    (ho : c.session.pending.outcome? ticket = none) :
    (c.await d ticket).untold.length = c.untold.length := by
  simp only [untold, await, List.filter_map, List.length_map]
  refine congrArg List.length (List.filter_congr fun e he => ?_)
  simp only [Function.comp_apply]
  split
  case isTrue hn =>
    cases List.inj_on_of_nodup_map h.numbers he hd hn
    simp only [told?, hp]
    exact congrArg Option.isNone ho
  case isFalse => rfl

theorem Due.await (h : c.Due) (ho : c.session.pending.outcome? ticket = none) (d : Caller) :
    Due (Client.await { c with turns := c.turns.erase (.caller d.number) } d ticket) := by
  intro e he hr
  have ⟨e', he', hee⟩ := List.mem_map.mp he
  split at hee
  case isTrue =>
    subst hee
    rcases hr with hr | hr
    · cases hr
    · simp [told?, Client.await, ho] at hr
  case isFalse hn =>
    subst hee
    exact h.erase he' hr (turn_ne hn)

theorem Due.settled {c₁ : Client} {load : Nat} (hd : c₁.Due) (hl : c₁.load ≤ load)
    (hp : (c₁.withSession s).Proper) (hx : c₁.session.pending.completed <+: s.pending.completed)
    (hh : c₁.session.Hushed s) : (c₁.withSession s).Due ∧ (c₁.withSession s).load ≤ load :=
  ⟨hd.withSession hx,
    Nat.le_trans (load_withSession hp.enrolled.numbers hp.numbered.sound hx hh) hl⟩

theorem Due.turn (hd : c.Due) (h : c.Proper) (next : Turn) : (c.move (.turn next)).Due ∧
    (c.move (.turn next)).load ≤ load { c with turns := c.turns.erase next } := by
  have hp := h.move (.turn next)
  have hh := c.turn_hushed next
  have hx : c.session.pending.completed <+: (c.move (.turn next)).session.pending.completed := by
    rw [session_move]
    exact c.session.completed_actAll _
  have htd := turned { c with turns := c.turns.erase next } next
  have hm : c.move (.turn next) = Client.turn { c with turns := c.turns.erase next } next := rfl
  rw [← hm] at htd
  generalize c.move (.turn next) = c' at hp hh hx htd ⊢
  have hl := Nat.le_refl (load { c with turns := c.turns.erase next })
  -- Whoever can go on, and whose turn this is not, has a turn among those that are left.
  have hleft (hn : ∀ d ∈ c.callers, c.Ready d → next ≠ .caller d.number) :
      Due { c with turns := c.turns.erase next } :=
    fun d hd' hr => hd.erase hd' hr (hn d hd' hr)
  cases htd
  case routes  => exact (hleft nofun).settled hl hp hx hh
  case strange => exact ⟨hleft nofun, hl⟩
  case gone number hf =>
    refine ⟨hleft fun d hd' _ hn => ?_, hl⟩
    cases hn
    cases (h.enrolled.find?_eq hd').symm.trans hf
  case resumes number d hf hr =>
    have hd' := List.mem_of_find?_eq_some hf
    have hn : d.number = number := by simpa using List.find?_some hf
    subst hn
    cases hr
    case waits hf hb =>
      have hu := Nat.le_of_eq (Session.begin_ticket hb).left.symm
      have ho := h.numbered.sound.outcome?_of_unissued hu
      have hu := Nat.le_of_eq (length_untold_await h.enrolled hd' hf ho)
      exact (hd.await ho d).settled (Nat.add_le_add_left hu _) hp hx hh
    case settles | ends => exact (hd.report d _).settled (load_report _ d _) hp hx hh
    case stays ticket hw ho =>
      refine ⟨hleft fun e he hr hn => ?_, hl⟩
      cases List.inj_on_of_nodup_map h.enrolled.numbers hd' he (Turn.caller.inj hn)
      rcases hr with hr | hr
      · cases hw.symm.trans hr
      · have hr : (c.session.pending.outcome? ticket).isSome := told?_of_waiting c hw ▸ hr
        rw [ho] at hr
        cases hr

-- Every caller waits for a request that is not over, and no turn is due.
structure Resting (c : Client) : Prop where
  turns   : c.turns = []
  callers : ∀ d ∈ c.callers, ∃ ticket, d.phase = .waiting ticket ∧
    c.session.pending.outcome? ticket = none

theorem Due.resting (h : c.Due) (ht : c.turns = []) : c.Resting := by
  refine ⟨ht, fun d hd => ?_⟩
  have hr : ¬ c.Ready d := fun hr => by
    have hm := h d hd hr
    rw [ht] at hm
    cases hm
  have ⟨hf, ho⟩ := not_or.mp hr
  match hp : d.phase with
  | .fresh => exact absurd hp hf
  | .waiting ticket =>
    rw [told?_of_waiting _ hp] at ho
    exact ⟨ticket, rfl, by simpa using ho⟩

theorem Resting.told? (h : c.Resting) (hd : d ∈ c.callers) : c.told? d = none := by
  have ⟨ticket, hp, ho⟩ := h.callers d hd
  exact (c.told?_of_waiting hp).trans ho

theorem Resting.not_fresh (h : c.Resting) (hd : d ∈ c.callers) : d.phase ≠ .fresh := by
  have ⟨ticket, hp, _⟩ := h.callers d hd
  rw [hp]
  nofun

theorem Resting.due (h : c.Resting) : c.Due := by
  intro d hd hr
  rcases hr with hr | hr
  · exact absurd hr (h.not_fresh hd)
  · rw [h.told? hd] at hr
    cases hr

theorem Due.go (hd : c.Due) (h : c.Proper) {n : Nat} (hn : c.load ≤ n) : (c.go n).Resting := by
  induction n generalizing c
  case zero =>
    rw [load] at hn
    exact hd.resting (List.length_eq_zero_iff.mp (by omega))
  case succ n hi =>
    rw [Client.go]
    split
    case h_1 ht => exact hd.resting ht
    case h_2 next later ht =>
      obtain ⟨hd', hl⟩ := hd.turn h next
      have hl := Nat.lt_of_le_of_lt hl (load_erase (ht ▸ List.mem_cons_self))
      rw [← turn_of_cons ht]
      exact hi hd' (h.move _) (Nat.le_of_lt_succ (Nat.lt_of_lt_of_le hl hn))

theorem Due.rest (hd : c.Due) (h : c.Proper) : c.rest.Resting :=
  hd.go h (Nat.add_le_add_left (List.length_filter_le _ _) _)

theorem Due.input (hd : c.Due) (i : Input) : (c.move (.input i)).Due := by
  have hx : c.session.pending.completed <+: (c.move (.input i)).session.pending.completed := by
    rw [session_move]
    exact c.session.completed_actAll _
  have hi := c.performed i
  generalize c.move (.input i) = c' at hi hx ⊢
  cases hi
  case sends => exact (hd.withSession hx).addCaller _ _ _
  case calls => exact hd.addCaller _ _ _
  case abandons => exact fun d hd' hr => hd d (List.mem_of_mem_filter hd') hr
  case acts     => exact hd.withSession hx
  case stays    => exact hd

theorem Due.after (hd : c.Due) (h : c.Proper) (ms : List Move) : (c.after ms).Due := by
  induction ms generalizing c
  case nil          => exact hd
  case cons m ms hi =>
    refine hi ?_ (h.move m)
    cases m
    case input i => exact hd.input i
    case turn t  => exact (hd.turn h t).left

theorem fresh_turn (h : c.Enrolled) (hd : d ∈ (c.move (.turn next)).callers) (hp : d.phase = .fresh) :
    d ∈ c.callers ∧ next ≠ .caller d.number := by
  cases h.remains hd
  case other hd hn    => exact ⟨hd, hn⟩
  case still hw _     => cases hw.symm.trans hp
  case begun he       => cases (congrArg (·.phase) he).symm.trans hp

theorem punctual_turns (h : c.Proper) (hf : ∀ d ∈ c.callers, d.phase ≠ .fresh) (ts : List Turn) :
    c.Punctual (ts.map .turn) := by
  induction ts generalizing c
  case nil => trivial
  case cons t ts hi =>
    refine ⟨fun hm => ?_, hi (h.move _) fun d hd hp => ?_⟩
    · rcases hm with hm | ⟨d, hd, _, hp⟩
      · cases hm
      · exact absurd hp (hf d hd)
    · exact hf d (fresh_turn h.enrolled hd hp).left hp

theorem Resting.attended (hr : c.Resting) : c.Attended :=
  fun _ hd _ => hr.told? hd

theorem Resting.call (hr : c.Resting) (h : c.Proper) (label : String) (call : Call) :
    ∃ ms, (c.burst [.call label call]).2 = c.after ms ∧ c.Punctual ms := by
  let c' := c.addCaller label call .fresh
  let first : Move := .turn (.caller c.issued)
  have hp : c'.Proper := h.move (.input (.call label call))
  have hturns : c'.turns = [.caller c.issued] := congrArg (· ++ [Turn.caller c.issued]) hr.turns
  have hrest : c'.rest = (c'.move first).go c'.callers.length := by
    rw [rest, hturns, List.length_singleton, Nat.add_comm, go_cons hturns]
  -- The first turn is that of the new caller, because no other one is due.
  let ts := (c'.move first).turnsTaken c'.callers.length
  refine ⟨.input (.call label call) :: first :: ts.map .turn, ?_, fun _ => hr.attended, fun _ => ?_, ?_⟩
  · rw [burst_snd]
    exact hrest.trans (go_eq_after ..)
  · intro d hd _
    rcases List.mem_append.mp hd with hd | hd
    · exact hr.told? hd
    · cases List.mem_singleton.mp hd
      rfl
  · refine punctual_turns (hp.move first) (fun d hd hf => ?_) ts
    obtain ⟨hd, hn⟩ := fresh_turn hp.enrolled hd hf
    rcases List.mem_append.mp hd with hd | hd
    · exact hr.not_fresh hd hf
    · cases List.mem_singleton.mp hd
      exact hn rfl

theorem Resting.burst (hr : c.Resting) (h : c.Proper) (i : Input) :
    ∃ ms, (c.burst [i]).2 = c.after ms ∧ c.Punctual ms := by
  by_cases hi : ∃ label call, i = .call label call
  case pos =>
    have ⟨label, call, hi⟩ := hi
    exact hi ▸ hr.call h label call
  case neg =>
    refine ⟨c.schedule [i], c.burst_eq_after [i], fun _ => hr.attended, ?_⟩
    refine punctual_turns (h.move _) (fun d hd hf => ?_) _
    cases joins hd
    case old hd      => exact hr.not_fresh hd hf
    case sent hp     => cases hp.symm.trans hf
    case called hc _ => exact hi ⟨_, _, hc⟩

theorem Resting.run (hr : c.Resting) (h : c.Proper) (is : List Input) :
    ∃ ms, c.run is = c.after ms ∧ c.Punctual ms ∧ (c.run is).Resting := by
  induction is generalizing c
  case nil => exact ⟨[], rfl, trivial, hr⟩
  case cons i is hi =>
    have ⟨ms₁, he₁, hp₁⟩ := hr.burst h i
    have hr₁ : (c.burst [i]).2.Resting := by
      rw [burst_snd]
      exact (hr.due.input i).rest (h.move _)
    have ⟨ms₂, he₂, hp₂, hr₂⟩ := hi hr₁ (he₁ ▸ h.after ms₁)
    refine ⟨ms₁ ++ ms₂, ?_, punctual_append.mpr ⟨hp₁, he₁ ▸ hp₂⟩, hr₂⟩
    rw [after_append, ← he₁, ← he₂]
    rfl

-- In a run each caller that is woken resumes before the next input.
theorem run_punctual (is : List Input) :
    ∃ ms, idle.run is = idle.after ms ∧ idle.Punctual ms ∧ (idle.run is).Resting :=
  Resting.run ⟨rfl, fun _ hd => absurd hd List.not_mem_nil⟩ idle_proper is

end Client
end LanguageClient
