import LanguageClient.Proofs.Client.Talking

namespace LanguageClient

open Protocol
open MockServer (Options events offer)

variable {d : Caller} {e : Event} {options : Options}

namespace Saying

variable {said before after before' after' : List Saying} {s s' : Saying} {number : Nat}

theorem not_nodup_numbers (hs : s.number? = some number) (hs' : s'.number? = some number) :
    ¬((before ++ s :: (after ++ s' :: after')).filterMap (·.number?)).Nodup := by
  simp [List.filterMap_append, List.filterMap_cons_some hs, List.filterMap_cons_some hs', List.nodup_append]

theorem eq_of_number? (h : (said.filterMap (·.number?)).Nodup) (hs : s.number? = some number)
    (hs' : s'.number? = some number) (he : said = before ++ s :: after) (he' : said = before' ++ s' :: after') :
    before = before' ∧ s = s' := by
  obtain ⟨_ | ⟨x, between⟩, rfl, hb⟩ | ⟨_ | ⟨x, between⟩, rfl, hb⟩ :=
    List.append_eq_append_iff.mp (he.symm.trans he')
  · cases hb
    exact ⟨by simp, rfl⟩
  · obtain ⟨rfl, rfl⟩ := List.cons.inj hb
    exact absurd (he ▸ h) (not_nodup_numbers hs hs')
  · cases hb
    exact ⟨by simp, rfl⟩
  · obtain ⟨rfl, rfl⟩ := List.cons.inj hb
    exact absurd (he' ▸ h) (not_nodup_numbers hs' hs)

end Saying

namespace Client

variable {c : Client} {m : Move} {ms ms₁ ms₂ : List Move}

theorem exists_last {P : Client → Prop} (h : P c) (hn : ¬P (c.after ms)) :
    ∃ ms₁ m ms₂, ms = ms₁ ++ m :: ms₂ ∧ P (c.after ms₁) ∧ ¬P ((c.after ms₁).move m) := by
  induction ms generalizing c
  case nil          => exact absurd h hn
  case cons m ms hi =>
    by_cases hm : P (c.move m)
    case neg => exact ⟨[], m, ms, rfl, h, hm⟩
    case pos =>
      obtain ⟨ms₁, m', ms₂, rfl, h₁, h₂⟩ := hi hm hn
      exact ⟨m :: ms₁, m', ms₂, rfl, h₁, h₂⟩

namespace Talking

theorem leaves (h : c.Talking) (hm : ∀ m ∈ ms, Talks m) (hd : d ∈ c.callers)
    (hx : d ∉ (c.after ms).callers) :
    ∃ ms₁ ms₂, ms = ms₁ ++ .turn (.caller d.number) :: ms₂ ∧ d ∈ (c.after ms₁).callers ∧
      (d.phase = .fresh ∨ ∃ outcome, (c.after ms₁).told? d = some outcome) := by
  obtain ⟨ms₁, m, ms₂, rfl, hd₁, hx₁⟩ := exists_last (P := (d ∈ ·.callers)) hd hx
  have hp := (h.proper.after ms₁).enrolled
  obtain hl | ⟨label, rfl⟩ | ⟨rfl, ht⟩ := mem_callers_unless hp hd₁ m
  · exact absurd hl hx₁
  · cases hm (.input (.abandon label)) (List.mem_append_right _ List.mem_cons_self)
  · exact ⟨ms₁, ms₂, rfl, hd₁, ht⟩

variable {path : String} {line character : Nat}

theorem begins (h : c.Talking) (hd : d ∈ c.callers) (hp : d.phase = .fresh)
    (hc : d.call = .completion path line character) :
    let m : Move := .turn (.caller d.number)
    c.utters m = [.asked c.session.issued path line character] ∧
      { d with phase := .waiting c.session.issued } ∈ (c.move m).callers ∧
      ∃ e ∈ (c.move m).session.pending.entries,
        e.id = c.session.issued ∧ e.ticket = c.session.issued := by
  have hf := h.proper.enrolled.find?_eq hd
  have hh : c.session.hindrance? = none := by
    simp [Session.hindrance?, Session.refusal?, h.accepts, h.willing]
  obtain ⟨t, hs, handle, notices, ht⟩ := Session.send_unhindered h.proper.numbered hh
    "textDocument/completion" (completionParams path line character)
  have hb : c.session.begin d.call = (.waiting c.session.issued, t) := by
    rw [hc, Session.begin, Session.ask, hs]
  refine ⟨?_, ?_⟩
  · simp only [utters, hf, Caller.utters, hp, hc]
  · have hr := resumed_turn hf
    generalize c.move (.turn (.caller d.number)) = c' at hr ⊢
    cases hr
    case waits begun =>
      obtain ⟨hw, rfl⟩ := Prod.mk.inj (hb.symm.trans begun)
      cases hw
      refine ⟨List.mem_map.mpr ⟨d, hd, if_pos rfl⟩, ?_⟩
      rw [ht]
      exact ⟨_, List.mem_append_right _ (List.mem_singleton_self _), rfl, rfl⟩
    case settles begun => cases (Prod.mk.inj (hb.symm.trans begun)).left
    case stays phase _ => cases hp.symm.trans phase
    case ends phase _ _ => cases hp.symm.trans phase

end Talking

-- A client that talks to a mock server. What has come to it at any time is some of what there is to tell of
-- what it has said until then, or a line of the error stream.
structure Served (options : Options) (c : Client) (ms : List Move) : Prop where
  obliging : options.Obliging
  talking  : c.Talking
  empty    : c.session.inbox = []
  talks    : ∀ m ∈ ms, Talks m
  fits     : ∀ s ∈ c.said ms, s.Fits
  output   : ∀ ms₁ ms₂, ms = ms₁ ++ ms₂ → ∀ e ∈ c.arrived ms₁,
    e.stream = .error ∨ e ∈ events options (c.said ms₁)

-- All has been told, and all has been done that was to be done.
structure Sated (options : Options) (c : Client) (ms : List Move) : Prop where
  served  : c.Served options ms
  resting : (c.after ms).Resting
  inbox   : (c.after ms).session.inbox = []
  full    : (c.arrived ms).filter (·.stream ≠ .error) = events options (c.said ms)

namespace Served

theorem initial (h : c.Served options (ms₁ ++ ms₂)) : c.Served options ms₁ where
  obliging := h.obliging
  talking  := h.talking
  empty    := h.empty
  talks    := fun m hm => h.talks m (List.mem_append_left _ hm)
  fits     := fun s hs => h.fits s (by rw [said_append]; exact List.mem_append_left _ hs)
  output   := fun ms ms' he => h.output ms (ms' ++ ms₂) (by rw [he, List.append_assoc])

theorem handled_inbox (h : c.Served options ms) :
    c.handled ms ++ (c.after ms).session.inbox = c.arrived ms := by
  obtain ⟨first, channel, hw⟩ := h.talking.listens
  have hq : ∀ a ∈ c.trace ms, a.isQuiet := fun a ha =>
    Session.isQuiet_of_isTalk (h.talking.trace_isTalk h.talks a ha)
  have hi := Client.handled_inbox hw h.talking.proper.orderly.open_ hq
  rwa [h.empty, List.nil_append] at hi

theorem of_answer? (h : c.Served options ms) (he : e ∈ c.handled ms) {id : Int}
    {outcome : Except Rpc.ErrorObject Json} (ha : e.answer? = some (id, outcome)) :
    ∃ before number path line character after,
      c.said ms = before ++ Saying.asked number path line character :: after ∧ id = number ∧
      outcome = .ok (offer options.itemsWrapper (lastText (Uri.File.ofPath path) (textsOf before))) := by
  have he : e ∈ c.arrived ms := h.handled_inbox ▸ List.mem_append_left _ he
  obtain he | he := h.output ms [] (List.append_nil _).symm e he
  · rw [Event.answer?, he] at ha
    cases ha
  · exact MockServer.of_answer?_events h.obliging h.fits he ha

theorem answer_lt (h : c.Served options ms) (he : e ∈ c.handled ms) {id : Int}
    {outcome : Except Rpc.ErrorObject Json} (ha : e.answer? = some (id, outcome)) :
    ∃ n < (c.after ms).session.issued, id = (n : Int) := by
  obtain ⟨k, hk, hn⟩ := h.talking.numbers_after h.talks
  obtain ⟨before, number, path, line, character, after, hs, hid, -⟩ := h.of_answer? he ha
  have hm : number ∈ (c.said ms).filterMap (·.number?) := by
    rw [hs]
    simp [Saying.number?]
  rw [hk, List.mem_range'_1] at hm
  exact ⟨number, hn ▸ hm.right, hid⟩

end Served

namespace Sated

variable {path : String} {line character : Nat} {label : String}

theorem handled (h : c.Sated options ms) : c.handled ms = c.arrived ms := by
  rw [← h.served.handled_inbox, h.inbox, List.append_nil]

theorem told (h : c.Sated options ms) (he : ms = ms₁ ++ .turn (.caller d.number) :: ms₂)
    (hd : d ∈ (c.after ms₁).callers) (hp : d.phase = .fresh)
    (hc : d.call = .completion path line character) :
    (c.after ms).session.pending.outcome? (c.after ms₁).session.issued =
      some (.ok (offer options.itemsWrapper (lastText (Uri.File.ofPath path) (textsOf (c.said ms₁))))) := by
  subst he
  have hs := h.served
  have ⟨htalks₁, htalks⟩ := List.forall_mem_append.mp hs.talks
  have ⟨htalk, htalks₂⟩ := List.forall_mem_cons.mp htalks
  have h₁ := hs.talking.after htalks₁
  have h₂ := h₁.move htalk
  obtain ⟨hu, -, e, hep, hid, ht⟩ := h₁.begins hd hp hc
  obtain ⟨_, hk, -⟩ := hs.talking.numbers_after hs.talks
  have hsaid : c.said (ms₁ ++ .turn (.caller d.number) :: ms₂) = c.said ms₁ ++
      .asked (c.after ms₁).session.issued path line character ::
        ((c.after ms₁).move (.turn (.caller d.number))).said ms₂ := by
    rw [said_append, said, hu]
    rfl
  have hhandled : c.handled (ms₁ ++ .turn (.caller d.number) :: ms₂) =
      c.handled ms₁ ++ ((c.after ms₁).move (.turn (.caller d.number))).handled ms₂ := by
    rw [handled_append, handled_cons, handled_turn, if_neg (by simp), List.nil_append]
  rw [session_after, trace_append, trace, Session.actAll_append, Session.actAll_append, ← session_after,
    ← session_move, ← ht]
  refine Session.outcome?_of_delivered h₂.proper.numbered hep (h₂.trace_isTalk htalks₂) ?_ ?_
  -- The answer is not among what was handled before, where no question has this number.
  · obtain ⟨ev, hev, ha⟩ := MockServer.exists_answer hs.obliging hs.fits hsaid
    refine ⟨ev, ?_, _, hid ▸ ha⟩
    rw [← h.full, ← h.handled, hhandled] at hev
    refine (List.mem_append.mp (List.mem_filter.mp hev).left).resolve_left fun hev => ?_
    obtain ⟨number, hn, hnum⟩ := hs.initial.answer_lt hev ha
    omega
  -- Whatever answers the question is the answer to it.
  · intro ev hev o ha
    have hev : ev ∈ c.handled (ms₁ ++ .turn (.caller d.number) :: ms₂) :=
      hhandled ▸ List.mem_append_right _ hev
    obtain ⟨before, number, path', line', character', after, hb, hnum, ho⟩ := hs.of_answer? hev (hid ▸ ha)
    have hnd : ((c.said (ms₁ ++ .turn (.caller d.number) :: ms₂)).filterMap (·.number?)).Nodup :=
      hk ▸ List.nodup_range'
    obtain rfl : number = (c.after ms₁).session.issued := by omega
    obtain ⟨rfl, heq⟩ := Saying.eq_of_number? hnd rfl rfl hsaid hb
    cases heq
    exact ho

theorem returns (h : c.Sated options ms) (he : ms = ms₁ ++ .turn (.caller d.number) :: ms₂)
    (hd : d ∈ (c.after ms₁).callers) (hp : d.phase = .fresh)
    (hc : d.call = .completion path line character) :
    ∃ between after,
      let t : Move := .turn (.caller d.number)
      ms₂ = between ++ t :: after ∧
      (c.after (ms₁ ++ t :: between ++ [t])).finished = (c.after (ms₁ ++ t :: between)).finished ++
        [(d.label, .ok (.arr ((MockServer.vocabulary (lastText (Uri.File.ofPath path)
          (textsOf (c.said ms₁)))).map fun w => (MockServer.suggestion w).toJson)))] := by
  have htold := h.told he hd hp hc
  subst he
  have hs := h.served
  have ⟨htalks₁, htalks⟩ := List.forall_mem_append.mp hs.talks
  have ⟨htalk, htalks₂⟩ := List.forall_mem_cons.mp htalks
  have h₁ := hs.talking.after htalks₁
  obtain ⟨-, hw, -⟩ := h₁.begins hd hp hc
  let waiting : Caller := { d with phase := .waiting (c.after ms₁).session.issued }
  -- At rest no caller is there that has been told something.
  have hx : waiting ∉ (((c.after ms₁).move (.turn (.caller d.number))).after ms₂).callers := by
    intro hx
    rw [← after_cons, ← after_append] at hx
    have hn := h.resting.told? hx
    rw [told?_of_waiting _ rfl, htold] at hn
    cases hn
  obtain ⟨between, after, rfl, hd', ho⟩ := (h₁.move htalk).leaves htalks₂ hw hx
  obtain ⟨outcome, ho⟩ := ho.resolve_left nofun
  refine ⟨between, after, rfl, ?_⟩
  rw [← after_cons, ← after_append] at hd' ho
  have hproper := hs.talking.proper.after (ms₁ ++ .turn (.caller d.number) :: between)
  have hlast := told?_after hproper ho (.turn (.caller d.number) :: after)
  rw [← after_append, told?_of_waiting _ rfl, List.append_assoc, List.cons_append] at hlast
  cases hlast.symm.trans htold
  rw [after_append]
  refine (finished_turn hproper.enrolled hd' ho).trans ?_
  simp [hc, Session.finish, MockServer.completionItems_offer, Except.bind, Except.map, Except.mapError]

theorem completes (h : c.Sated options ms)
    (he : ms = ms₁ ++ .input (.call label (.completion path line character)) :: ms₂) :
    ∃ before between after,
      let t : Move := .turn (.caller (c.after ms₁).issued)
      let asking := ms₁ ++ .input (.call label (.completion path line character)) :: before
      ms = asking ++ t :: (between ++ t :: after) ∧
      (c.after asking).utters t = [.asked (c.after asking).session.issued path line character] ∧
      (c.after (asking ++ t :: between ++ [t])).finished = (c.after (asking ++ t :: between)).finished ++
        [(label, .ok (.arr ((MockServer.vocabulary (lastText (Uri.File.ofPath path)
          (textsOf (c.said asking)))).map fun w => (MockServer.suggestion w).toJson)))] := by
  subst he
  have hs := h.served
  have ⟨htalks₁, htalks⟩ := List.forall_mem_append.mp hs.talks
  have ⟨htalk, htalks₂⟩ := List.forall_mem_cons.mp htalks
  let d : Caller := ⟨(c.after ms₁).issued, label, .completion path line character, .fresh⟩
  have hd : d ∈ ((c.after ms₁).move (.input (.call label d.call))).callers :=
    List.mem_append_right _ (List.mem_singleton_self _)
  -- At rest no caller is there that has not begun.
  have hx : d ∉ (((c.after ms₁).move (.input (.call label d.call))).after ms₂).callers := by
    intro hx
    rw [← after_cons, ← after_append] at hx
    exact h.resting.not_fresh hx rfl
  obtain ⟨before, later, rfl, hd', -⟩ := ((hs.talking.after htalks₁).move htalk).leaves htalks₂ hd hx
  rw [← after_cons, ← after_append] at hd'
  rw [← List.cons_append, ← List.append_assoc] at h
  have hasking := h.served.talking.after (List.forall_mem_append.mp h.served.talks).left
  obtain ⟨between, after, rfl, hf⟩ := h.returns rfl hd' rfl rfl
  exact ⟨before, between, after, by simp [d], (hasking.begins hd' rfl rfl).left, hf⟩

theorem diagnoses {uri : String} (h : c.Sated options ms) (hu : (Uri.Reference.check uri.toList).isOk)
    (hr : ∀ text, lastText? uri (textsOf (c.said ms)) = some text → ∀ d ∈ MockServer.scan text, d.range.Fits) :
    (c.after ms).session.bulletin.diagnostics uri =
      ((lastText? uri (textsOf (c.said ms))).map MockServer.scan).getD (c.session.bulletin.diagnostics uri) := by
  have hs := h.served
  have hf : (c.arrived ms).filterMap (·.publish?) = (events options (c.said ms)).filterMap (·.publish?) := by
    rw [← h.full, List.filterMap_filter]
    refine List.filterMap_congr fun e _ => ?_
    by_cases hst : e.stream = .error
    · simp [Event.publish?, hst]
    · simp [hst]
  rw [session_after, Session.diagnostics_actAll (hs.talking.trace_isTalk hs.talks), ← Client.handled,
    h.handled, hf, MockServer.published?_events hs.obliging hs.fits hu hr]

end Sated

end Client
end LanguageClient
