import LanguageClient.Proofs.Client.Arrivals
import LanguageClient.Proofs.Session.Reordering

namespace LanguageClient

variable {d : Caller} {outcome : Except Failure Json}

def Call.isPlain : Call → Bool
  | response | request .. | completion .. => true
  | handshake _ | shutdown => false

theorem Action.isQuiet_of_isPlain {a : Action} {call : Call} (h : call.isPlain) (ha : a.ofCall call) :
    a.isQuiet := by
  cases a
  case start | cleanup => cases call <;> cases ha
  case stop =>
    cases call
    case shutdown => cases h
    all_goals cases ha
  all_goals rfl

theorem Session.finish_plain {call : Call} (h : call.isPlain) (s t : Session) (r : Except Failure Json) :
    s.finish call r = ((t.finish call r).1, s) := by
  cases call
  case response | request | completion => rfl
  case handshake | shutdown => cases h

namespace Session

variable {s : Session}

theorem take_take (s : Session) : s.take.take = s.take := by
  simp [take, Function.comp_def]

theorem take_emit (hc : s.transport.listeners.closed = []) (e : Event) : (s.emit e).take = s.take := by
  simp [take, emit, prune_eq_self hc, Function.comp_def]

theorem take_handled (s : Session) (es : List Event) (ns : List Notice) :
    (s.handled es ns).take = s.take.handled es ns :=
  rfl

end Session

namespace Client

variable {c c' c₁ : Client} {m : Move} {ms : List Move} {es : List Event}

def report? (c : Client) (d : Caller) : Option (String × Except Failure Json) :=
  (c.told? d).map fun outcome => (d.label, (c.session.finish d.call outcome).1)

-- All callers wait, in plain calls.
def Patient (c : Client) : Prop :=
  ∀ d ∈ c.callers, d.call.isPlain ∧ d.phase ≠ .fresh

instance : Decidable c.Patient :=
  inferInstanceAs (Decidable (∀ d ∈ c.callers, _ ∧ _ ≠ _))

inductive Brings : List Event → List Move → Prop
  | nil : Brings [] []
  | emits {es : List Event} {ms : List Move} (e : Event) (later : Brings es ms) :
      Brings (e :: es) (.input (.emit e) :: ms)
  | turns {es : List Event} {ms : List Move} (t : Turn) (later : Brings es ms) : Brings es (.turn t :: ms)

-- A client after some turns of its router, which has handled some events, and of the callers that have been
-- told something.
structure Attending (c c' : Client) (hs : List Event) (ds : List Caller) : Prop where
  session  : ∃ notices, c'.session.take = c.session.take.handled hs notices
  callers  : (ds ++ c'.callers).Perm c.callers
  order    : c'.callers.Sublist c.callers
  told     : ∀ d ∈ ds, (c'.told? d).isSome
  finished : c'.finished = c.finished ++ ds.filterMap c'.report?
  others   : c'.issued = c.issued ∧ c'.handles = c.handles

theorem report?_after (h : c.Proper) (hp : d.call.isPlain) (ht : (c.told? d).isSome)
    (ms : List Move) : ((c.after ms).told? d).isSome ∧ (c.after ms).report? d = c.report? d := by
  obtain ⟨outcome, ho⟩ := Option.isSome_iff_exists.mp ht
  have hf := Session.finish_plain hp (c.after ms).session c.session outcome
  simp [report?, ho, told?_after h ho ms, hf]

namespace Attending

theorem patient {hs : List Event} {ds : List Caller} (h : c.Attending c' hs ds) (hp : c.Patient) :
    c'.Patient :=
  fun d hd => hp d (h.order.subset hd)

theorem stays (hs : c'.session.take = c.session.take) (hd : c'.callers = c.callers)
    (hf : c'.finished = c.finished) (ho : c'.issued = c.issued ∧ c'.handles = c.handles) :
    c.Attending c' [] [] where
  session  := ⟨c.session.take.notices, by simp [hs, Session.handled, Session.refusals, Session.settling]⟩
  callers  := by rw [hd]; rfl
  order    := by rw [hd]
  told     := nofun
  finished := by simp [hf]
  others   := ho

theorem reports (h : c.Enrolled) (hd : d ∈ c.callers) (ho : c.told? d = some outcome)
    (hs : c'.session = c.session) (hc : c'.callers = c.callers.filter (·.number ≠ d.number))
    (hf : c'.finished = c.finished ++ [(d.label, (c.session.finish d.call outcome).1)])
    (hi : c'.issued = c.issued ∧ c'.handles = c.handles) : c.Attending c' [] [d] where
  session := ⟨c.session.take.notices, by simp [hs, Session.handled, Session.refusals, Session.settling]⟩
  callers := by
    have hk : c.callers.filter (·.number = d.number) = [d] := filter_key_eq h.numbers hd
    have hsplit := List.filter_append_perm (fun x : Caller => decide (x.number = d.number)) c.callers
    rw [hk] at hsplit
    simpa [hc] using hsplit
  order := hc ▸ List.filter_sublist
  told := List.forall_mem_singleton.mpr (by rw [told?, hs, ← told?, ho]; rfl)
  finished := by
    have hr : c'.report? d = some (d.label, (c.session.finish d.call outcome).1) := by
      rw [report?, told?, hs, ← told?, ho]
      rfl
    rw [hf, List.filterMap_cons, hr]
    rfl
  others := hi

theorem trans {hs hs' : List Event} {ds ds' : List Caller} (h : c.Attending c₁ hs ds)
    (h' : c₁.Attending c' hs' ds') (ht : ∀ d ∈ ds, (c'.told? d).isSome ∧ c'.report? d = c₁.report? d) :
    c.Attending c' (hs ++ hs') (ds ++ ds') where
  session := by
    obtain ⟨ns, hn⟩ := h.session
    obtain ⟨ns', hn'⟩ := h'.session
    exact ⟨ns', by rw [hn', hn, Session.handled_handled]⟩
  callers := by
    rw [List.append_assoc]
    exact (h'.callers.append_left ds).trans h.callers
  order := h'.order.trans h.order
  told d hd := by
    obtain hd | hd := List.mem_append.mp hd
    · exact (ht d hd).left
    · exact h'.told d hd
  finished := by
    have hr : ds.filterMap c'.report? = ds.filterMap c₁.report? :=
      List.filterMap_congr fun d hd => (ht d hd).right
    rw [h'.finished, h.finished, List.filterMap_append, hr, List.append_assoc]
  others := ⟨h'.others.left.trans h.others.left, h'.others.right.trans h.others.right⟩

end Attending

theorem attending_emit (hc : c.session.transport.listeners.closed = []) (e : Event) :
    c.Attending (c.move (.input (.emit e))) [] [] :=
  .stays (Session.take_emit hc e) rfl rfl ⟨rfl, rfl⟩

theorem attending_router (c : Client) (channel : Nat) : c.Attending (c.move (.turn (.router channel)))
    ((c.actions (.turn (.router channel))).filterMap (·.handled?)) [] := by
  rw [handled_turn]
  by_cases hr : c.session.wiring.router?.map (·.channel) = some channel
  case neg =>
    rw [if_neg (by simpa using hr), move_router_strange hr]
    exact .stays rfl rfl rfl ⟨rfl, rfl⟩
  case pos =>
    rw [if_pos (by simpa using hr), move_router hr]
    obtain ⟨ns, h⟩ := c.session.take.foldl_handle_eq c.session.inbox
    refine ⟨⟨ns, ?_⟩, .refl _, .refl _, nofun, (List.append_nil _).symm, rfl, rfl⟩
    change c.session.route.take = _
    rw [c.session.route_eq_foldl, h, Session.take_handled, Session.take_take]

theorem Patient.attending_caller (hp : c.Patient) (h : c.Proper) (number : Nat) :
    ∃ ds, c.Attending (c.move (.turn (.caller number))) [] ds := by
  have ht := turned { c with turns := c.turns.erase (.caller number) } (.caller number)
  change Turned _ _ (c.move (.turn (.caller number))) at ht
  generalize c.move (.turn (.caller number)) = c' at ht ⊢
  cases ht
  case gone => exact ⟨[], .stays rfl rfl rfl ⟨rfl, rfl⟩⟩
  case resumes d hf hr =>
    have hd : d ∈ c.callers := List.mem_of_find?_eq_some hf
    have ⟨hpl, hw⟩ := hp d hd
    cases hr
    case waits phase _   => exact absurd phase hw
    case settles phase _ => exact absurd phase hw
    case stays           => exact ⟨[], .stays rfl rfl rfl ⟨rfl, rfl⟩⟩
    case ends ticket outcome result s phase told finished =>
      have ho : c.told? d = some outcome := (c.told?_of_waiting phase).trans told
      obtain ⟨hr, hs⟩ := Prod.mk.inj (finished.symm.trans (Session.finish_plain hpl _ c.session outcome))
      subst hs hr
      exact ⟨[d], .reports h.enrolled hd ho rfl rfl rfl ⟨rfl, rfl⟩⟩

theorem Patient.attending (hp : c.Patient) (h : c.Proper) (hb : Brings es ms) :
    ∃ ds, c.Attending (c.after ms) (c.handled ms) ds := by
  induction hb generalizing c
  case nil => exact ⟨[], .stays rfl rfl rfl ⟨rfl, rfl⟩⟩
  case emits es ms e later hi =>
    have h₁ := attending_emit h.orderly.open_ e
    obtain ⟨ds, hds⟩ := hi (h₁.patient hp) (h.move _)
    exact ⟨[] ++ ds, h₁.trans hds nofun⟩
  case turns es ms t later hi =>
    obtain ⟨ds₁, h₁⟩ : ∃ ds, c.Attending (c.move (.turn t))
        ((c.actions (.turn t)).filterMap (·.handled?)) ds := by
      cases t
      case router channel => exact ⟨[], c.attending_router channel⟩
      case caller number  =>
        have hn : (c.actions (.turn (.caller number))).filterMap (·.handled?) = [] := by
          simp [handled_turn]
        exact hn ▸ hp.attending_caller h number
    obtain ⟨ds₂, h₂⟩ := hi (h₁.patient hp) (h.move _)
    refine ⟨ds₁ ++ ds₂, ?_⟩
    rw [handled_cons]
    -- Who has reported does not report anything else later.
    refine h₁.trans h₂ fun d hd => ?_
    have hd' : d ∈ c.callers := h₁.callers.subset (List.mem_append_left _ hd)
    exact report?_after (h.move _) (hp d hd').left (h₁.told d hd) ms

theorem Patient.actions_turn (hp : c.Patient) (t : Turn) : ∀ a ∈ c.actions (.turn t), a.isQuiet := by
  intro a ha
  cases t
  case router =>
    rw [actions] at ha
    split at ha
    case isFalse => cases ha
    case isTrue  =>
      rw [Session.routing] at ha
      split at ha
      case h_1 => cases ha
      case h_2 =>
        obtain rfl | ha := List.mem_cons.mp ha
        · rfl
        · obtain ⟨e, -, rfl⟩ := List.mem_map.mp ha
          rfl
  case caller number =>
    rw [actions] at ha
    split at ha
    case h_1      => cases ha
    case h_2 d hf =>
      exact Action.isQuiet_of_isPlain (hp d (List.mem_of_find?_eq_some hf)).left (resuming_ofCall _ d a ha)

theorem Patient.trace (hp : c.Patient) (h : c.Proper) (hb : Brings es ms) :
    (∀ a ∈ c.trace ms, a.isQuiet) ∧ c.arrived ms = es := by
  induction hb generalizing c
  case nil => exact ⟨nofun, rfl⟩
  case emits es ms e later hi =>
    have h₁ := attending_emit h.orderly.open_ e
    obtain ⟨hq, ha⟩ := hi (h₁.patient hp) (h.move _)
    refine ⟨List.forall_mem_append.mpr ⟨List.forall_mem_singleton.mpr rfl, hq⟩, ?_⟩
    exact congrArg (e :: ·) ha
  case turns es ms t later hi =>
    obtain ⟨ds, h₁⟩ := hp.attending h (.turns t .nil)
    obtain ⟨hq, ha⟩ := hi (h₁.patient hp) (h.move (.turn t))
    refine ⟨List.forall_mem_append.mpr ⟨hp.actions_turn t, hq⟩, ?_⟩
    rw [arrived, trace, List.flatMap_append, emitted_turn]
    exact ha

theorem Patient.handled_eq (hp : c.Patient) (h : c.Proper) (hb : Brings es ms)
    (hi : (c.after ms).session.inbox = []) :
    c.handled ms = if c.session.wiring.router?.isSome then c.session.inbox ++ es else [] := by
  obtain ⟨hq, ha⟩ := hp.trace h hb
  obtain hw | ⟨first, channel, hw⟩ := h.orderly.wiring
  · have hr : c.session.wiring.router?.isSome = false := by simpa using hw.router
    rw [hr, handled_bare hw h.orderly.open_ hq]
    rfl
  · have hr : c.session.wiring.router?.isSome := by
      simpa using congrArg Option.isSome hw.router
    rw [if_pos hr, ← ha, ← handled_inbox hw h.orderly.open_ hq, hi, List.append_nil]

section AtRest

variable {hs : List Event} {ds : List Caller}

theorem Attending.callers_eq (h : c.Attending c' hs ds) (hr : c'.Resting) :
    c'.callers = c.callers.filter fun d => (c'.told? d).isNone := by
  let untold (d : Caller) : Bool := (c'.told? d).isNone
  have hk : c'.callers.filter untold = c'.callers :=
    List.filter_eq_self.mpr fun d hd => by simp [untold, hr.told? hd]
  have hd : ds.filter untold = [] :=
    List.filter_eq_nil_iff.mpr fun d hd => by simp [untold, Option.ne_none_iff_isSome.mpr (h.told d hd)]
  have hl := (h.callers.filter untold).length_eq
  rw [List.filter_append, hd, hk, List.nil_append] at hl
  have hsub := h.order.filter untold
  rw [hk] at hsub
  exact hsub.eq_of_length hl

theorem Attending.finished_eq (h : c.Attending c' hs ds) (hr : c'.Resting) :
    ∃ ds : List Caller, ds.Perm c.callers ∧ c'.finished = c.finished ++ ds.filterMap c'.report? := by
  refine ⟨ds ++ c'.callers, h.callers, ?_⟩
  have hn : c'.callers.filterMap c'.report? = [] := by
    refine List.filterMap_eq_nil_iff.mpr fun d hd => ?_
    rw [report?, hr.told? hd]
    rfl
  rw [h.finished, List.filterMap_append, hn, List.append_nil]

end AtRest

-- What two runs have in common in the end: all but the order in which the waits have ended, in which the
-- callers have reported and in which things were noted.
structure Accord (c c₁ c₂ : Client) : Prop where
  session : ∃ completed notices, completed.Perm c₁.session.pending.completed ∧
    c₂.session = { c₁.session with
      pending := { c₁.session.pending with completed }
      notices }
  told    : ∀ d, c₂.told? d = c₁.told? d
  callers : c₁.callers = (c.callers.filter fun d => (c₁.told? d).isNone) ∧ c₂.callers = c₁.callers
  reports : ∃ ds₁ ds₂ : List Caller, ds₁.Perm c.callers ∧ ds₂.Perm c.callers ∧
    c₁.finished = c.finished ++ ds₁.filterMap c₁.report? ∧
    c₂.finished = c.finished ++ ds₂.filterMap c₁.report?
  others  : c₂.issued = c₁.issued ∧ c₂.handles = c₁.handles

-- Events come to a client whose callers only wait, among any turns and until no turn is due.
theorem Patient.rests (hp : c.Patient) (h : c.Proper) (hd : c.Due) (hu : c.RouterDue) (hb : Brings es ms)
    (ht : (c.after ms).turns = []) : ∃ ds notices,
    c.Attending (c.after ms) (c.handled ms) ds ∧ (c.after ms).Resting ∧
      (c.after ms).session = c.session.take.handled
        (if c.session.wiring.router?.isSome then c.session.inbox ++ es else []) notices := by
  obtain ⟨ds, ha⟩ := hp.attending h hb
  obtain ⟨ns, hs⟩ := ha.session
  have hr : (c.after ms).Resting := (hd.after h ms).resting ht
  have hi := hr.inbox (hu.after ms)
  rw [Session.take_of_empty hi, hp.handled_eq h hb hi] at hs
  exact ⟨ds, ns, ha, hr, hs⟩

theorem Patient.accord {es es' : List Event} {ms ms' : List Move} (hp : c.Patient) (h : c.Proper) (hd : c.Due)
    (hu : c.RouterDue) (hr : Reordered es es') (hn : ((es.filterMap (·.answer?)).map (·.1)).Nodup)
    (hb : Brings es ms) (hb' : Brings es' ms') (ht : (c.after ms).turns = [])
    (ht' : (c.after ms').turns = []) : c.Accord (c.after ms) (c.after ms') := by
  obtain ⟨ds, ns, ha, hr₁, hs⟩ := hp.rests h hd hu hb ht
  obtain ⟨ds', ns', ha', hr₂, hs'⟩ := hp.rests h hd hu hb' ht'
  -- Both runs handle the same events, with the answers moved among them, or both handle none.
  have hsession : ∃ completed notices, completed.Perm (c.after ms).session.pending.completed ∧
      (c.after ms').session = { (c.after ms).session with
        pending := { (c.after ms).session.pending with completed }
        notices } := by
    rw [hs, hs']
    split
    case isFalse => exact ⟨_, ns', .refl _, rfl⟩
    case isTrue  =>
      rw [← Session.handled_handled _ _ _ ns, ← Session.handled_handled _ _ _ ns]
      obtain ⟨completed, hc, he⟩ :=
        (c.session.take.handled c.session.inbox ns).handled_reordered hr hn ns ns'
      exact ⟨completed, ns', hc, he⟩
  have htold (d : Caller) : (c.after ms').told? d = (c.after ms).told? d := by
    obtain ⟨completed, ns, hc, he⟩ := hsession
    have hp' : (c.after ms').session.pending.completed = completed := by rw [he]
    have ho := (h.after ms').numbered.sound.outcome?_perm (h.after ms).numbered.sound (hp' ▸ hc)
    simp only [told?, ho]
  have hreport : ∀ d ∈ c.callers, (c.after ms').report? d = (c.after ms).report? d := by
    intro d hdc
    have hf := Session.finish_plain (hp d hdc).left (c.after ms').session (c.after ms).session
    simp only [report?, htold, hf]
  refine ⟨hsession, htold, ⟨ha.callers_eq hr₁, ?_⟩, ?_, ?_⟩
  · rw [ha.callers_eq hr₁, ha'.callers_eq hr₂]
    simp only [htold]
  · obtain ⟨ds₁, hp₁, hf₁⟩ := ha.finished_eq hr₁
    obtain ⟨ds₂, hp₂, hf₂⟩ := ha'.finished_eq hr₂
    refine ⟨ds₁, ds₂, hp₁, hp₂, hf₁, hf₂.trans ?_⟩
    exact congrArg _ (List.filterMap_congr fun d hd => hreport d (hp₂.subset hd))
  · exact ⟨ha'.others.left.trans ha.others.left.symm, ha'.others.right.trans ha.others.right.symm⟩

-- Moving the answers among the events, where no id is answered twice, makes no difference, in whatever order
-- the router and the callers have their turns.
theorem order_irrelevant {es es' : List Event} {ms₀ ms ms' : List Move} (hp : (idle.after ms₀).Patient)
    (hr : Reordered es es') (hn : ((es.filterMap (·.answer?)).map (·.1)).Nodup) (hb : Brings es ms)
    (hb' : Brings es' ms') (ht : ((idle.after ms₀).after ms).turns = [])
    (ht' : ((idle.after ms₀).after ms').turns = []) :
    (idle.after ms₀).Accord ((idle.after ms₀).after ms) ((idle.after ms₀).after ms') :=
  hp.accord (idle_proper.after ms₀) (idle_resting.due.after idle_proper ms₀) (idle_routerDue.after ms₀) hr hn
    hb hb' ht ht'

theorem order_irrelevant_of_two :
    let ms₀ : List Move := [.input (.start "server" []), .turn (.router 0),
      .input (.send "first" "ask" .null), .input (.send "second" "ask" .null)]
    let first : Event := ⟨.message, "\x7b\"id\":0,\"result\":1\x7d"⟩
    let second : Event := ⟨.message, "\x7b\"id\":1,\"error\":\x7b\"code\":5,\"message\":\"no\"\x7d\x7d"⟩
    let question : Event := ⟨.message, "\x7b\"id\":0,\"method\":\"who\"\x7d"⟩
    let news : Event := ⟨.message, "\x7b\"method\":\"textDocument/publishDiagnostics\"," ++
      "\"params\":\x7b\"uri\":\"file:///a\",\"diagnostics\":[]\x7d\x7d"⟩
    let ms : List Move := [.input (.emit first), .turn (.router 0), .input (.emit question),
      .input (.emit second), .turn (.caller 0), .input (.emit news), .turn (.router 0), .turn (.caller 1)]
    let ms' : List Move := [.input (.emit question), .input (.emit news), .input (.emit second),
      .input (.emit first), .turn (.router 0), .turn (.caller 1), .turn (.caller 0)]
    (idle.after ms₀).Patient ∧ Reordered [first, question, second, news] [question, news, second, first] ∧
      (idle.after ms₀).Accord ((idle.after ms₀).after ms) ((idle.after ms₀).after ms') ∧
      ((idle.after ms₀).after ms).finished.map (·.1) = ["first", "second"] ∧
      ((idle.after ms₀).after ms').finished.map (·.1) = ["second", "first"] := by
  intro ms₀ first second question news ms ms'
  have hp : (idle.after ms₀).Patient := by decide +kernel
  have hr : Reordered [first, question, second, news] [question, news, second, first] :=
    ⟨by decide +kernel, by decide +kernel⟩
  have hb : Brings [first, question, second, news] ms :=
    .emits _ <| .turns _ <| .emits _ <| .emits _ <| .turns _ <| .emits _ <| .turns _ <| .turns _ .nil
  have hb' : Brings [question, news, second, first] ms' :=
    .emits _ <| .emits _ <| .emits _ <| .emits _ <| .turns _ <| .turns _ <| .turns _ .nil
  exact ⟨hp, hr, order_irrelevant hp hr (by decide +kernel) hb hb' (by decide +kernel) (by decide +kernel),
    by decide +kernel, by decide +kernel⟩

theorem Brings.of_turns (ts : List Turn) : Brings [] (ts.map .turn) := by
  induction ts
  case nil          => exact .nil
  case cons t ts hi => exact .turns t hi

theorem brings_schedule (c : Client) (es : List Event) : Brings es (c.schedule (es.map .emit)) := by
  have hb (ts : List Turn) : Brings es ((es.map Input.emit).map .input ++ ts.map .turn) := by
    induction es
    case nil          => exact .of_turns ts
    case cons e es hi => exact .emits e hi
  exact hb _

theorem burst_accord {es es' : List Event} {ms₀ : List Move} (hp : (idle.after ms₀).Patient)
    (hr : Reordered es es') (hn : ((es.filterMap (·.answer?)).map (·.1)).Nodup) :
    (idle.after ms₀).Accord ((idle.after ms₀).burst (es.map .emit)).2
      ((idle.after ms₀).burst (es'.map .emit)).2 := by
  have h := idle_proper.after ms₀
  have hd := idle_resting.due.after idle_proper ms₀
  have ht (es : List Event) : ((idle.after ms₀).burst (es.map .emit)).2.turns = [] := by
    rw [burst_snd]
    exact ((hd.inputs _).rest (h.after _)).turns
  simp only [burst_eq_after] at ht ⊢
  exact hp.accord h hd (idle_routerDue.after ms₀) hr hn (brings_schedule _ _) (brings_schedule _ _)
    (ht _) (ht _)

end Client
end LanguageClient
