import LanguageClient.Proofs.MockServer.Service
import LanguageClient.Transport.Exchange

namespace LanguageClient

open MockServer (Options Output framed)

variable {d : Dialogue} {x : Exchange}

theorem Utf8.encode_join (ss : List String) : encode (String.join ss) = ss.flatMap encode := by
  have h (s : String) : encode (ss.foldl (· ++ ·) s) = encode s ++ ss.flatMap encode := by
    induction ss generalizing s
    case nil           => exact (List.append_nil _).symm
    case cons s' ss hi => rw [List.foldl_cons, hi, encode_append, List.flatMap_cons, List.append_assoc]
  exact h ""

theorem Client.sent_extends (c : Client) (ms : List Client.Move) :
    c.session.transport.sent <+: (c.after ms).session.transport.sent := by
  rw [session_after]
  exact Session.sent_actAll _ _

theorem Client.exists_moves_run (c : Client) (is : List Input) : ∃ ms, c.run is = c.after ms ∧
    ∀ m ∈ ms, (∃ i ∈ is, m = .input i) ∨ ∃ t, m = .turn t := by
  induction is generalizing c
  case nil          => exact ⟨[], rfl, nofun⟩
  case cons i is hi =>
    obtain ⟨ms, hr, hm⟩ := hi (c.burst [i]).2
    refine ⟨c.schedule [i] ++ ms, ?_, List.forall_mem_append.mpr ⟨?_, ?_⟩⟩
    · rw [after_append, ← burst_eq_after, ← hr]
      rfl
    · refine List.forall_mem_cons.mpr ⟨.inl ⟨i, List.mem_cons_self, rfl⟩, ?_⟩
      exact List.forall_mem_map.mpr fun t _ => .inr ⟨t, rfl⟩
    · exact fun m h => (hm m h).imp (fun ⟨j, hj, he⟩ => ⟨j, List.mem_cons_of_mem _ hj, he⟩) id

namespace Dialogue

theorem goes_nil (d : Dialogue) : d.goes [] = d := by
  rw [d.goes_eq (List.append_nil _).symm, List.flatMap_nil, List.append_nil]
  rfl

theorem goes_goes (d : Dialogue) (ms ms' : List Client.Move) : (d.goes ms).goes ms' = d.goes (ms ++ ms') := by
  obtain ⟨frames, hs⟩ := d.client.sent_extends ms
  obtain ⟨frames', hs'⟩ := (d.client.after ms).sent_extends ms'
  have hall : (d.client.after (ms ++ ms')).session.transport.sent =
      d.client.session.transport.sent ++ (frames ++ frames') := by
    rw [Client.after_append, ← hs', ← hs, List.append_assoc]
  have hlater := goes_eq { d with
    client := d.client.after ms, inbound := d.inbound ++ frames.flatMap MockServer.framed } hs'.symm
  rw [d.goes_eq hs.symm, hlater, d.goes_eq hall, Client.after_append, List.flatMap_append, List.append_assoc]

theorem run_moves (d : Dialogue) (ms : List Client.Move) : d.run (ms.map .client) = d.goes ms := by
  induction ms generalizing d
  case nil          => exact d.goes_nil.symm
  case cons m ms hi =>
    rw [List.map_cons, run, List.foldl_cons, ← run, hi]
    exact d.goes_goes [m] ms

theorem run_complaints (d : Dialogue) (lines : List String) :
    d.run (lines.map .complaint) = d.goes (hearing (lines.map fun line => ⟨.error, line⟩)) := by
  induction lines generalizing d
  case nil                => exact d.goes_nil.symm
  case cons line lines hi =>
    rw [List.map_cons, run, List.foldl_cons, ← run, hi]
    exact d.goes_goes (hearing [⟨.error, line⟩]) (hearing _)

theorem goes_hearing (d : Dialogue) (es : List Event) :
    d.goes (hearing es) = { d with client := d.client.after (hearing es) } := by
  have hs := (d.client.callers_hearing es).right
  rw [d.goes_eq (hs.trans (List.append_nil _).symm), List.flatMap_nil, List.append_nil]

theorem hearing_append (es es' : List Event) : hearing (es ++ es') = hearing es ++ hearing es' := by
  rw [hearing, List.map_append, List.map_append, ← hearing, ← hearing]

theorem run_frame {frame : String} {rest : Bytes} (hi : d.inbound = framed frame ++ rest)
    (ho : d.outbound = []) :
    ∃ steps : List Step, (∀ s ∈ steps, s.Ends) ∧ ∃ events server unread,
      Child.write? ⟨.serve d.server, d.unread⟩ (framed frame) = some (events, ⟨.serve server, unread⟩) ∧
      d.run steps = ⟨d.client.after (hearing events), server, rest, [], unread⟩ := by
  let fed := d.server.feed (framed frame)
  let drained := Rpc.Frame.drain (d.unread ++ fed.2.flatMap Output.bytes)
  let lines := (Text.lines (String.join (fed.2.map Output.onErr)).toList).map String.ofList
  -- The server reads the frame as a whole, and then the client reads all that was written.
  have hserved : d.serves (framed frame).length =
      { d with server := fed.1, inbound := rest, outbound := fed.2.flatMap Output.bytes } := by
    simp only [serves, hi, ho, List.take_left, List.drop_left, List.nil_append, fed]
  have hread : d.run [.server (framed frame).length, .output (fed.2.flatMap Output.bytes).length] =
      ⟨d.client.after (hearing (drained.1.map Piped.eventOf)), fed.1, rest, [], drained.2⟩ := by
    change (d.serves (framed frame).length).step (.output (fed.2.flatMap Output.bytes).length) = _
    rw [hserved]
    simp only [step, moves, units, List.take_length, List.drop_length]
    exact goes_hearing _ _
  refine ⟨[.server (framed frame).length, .output (fed.2.flatMap Output.bytes).length] ++ lines.map .complaint,
    ?_, drained.1.map Piped.eventOf ++ lines.map fun line => ⟨.error, line⟩, fed.1, drained.2, ?_, ?_⟩
  · refine List.forall_mem_append.mpr ⟨?_, List.forall_mem_map.mpr fun line _ => .complains line⟩
    exact List.forall_mem_cons.mpr ⟨.serves _, List.forall_mem_singleton.mpr (.reads _)⟩
  · have hb : Utf8.encode (String.join (fed.2.map Output.onOut)) = fed.2.flatMap Output.bytes := by
      rw [Utf8.encode_join, List.flatMap_map]
      rfl
    simp only [Child.write?, Child.read, Piped.complaints, drained, lines, ← hb, List.map_map]
    rfl
  · rw [run_append, hread, run_complaints, goes_hearing, ← Client.after_append, ← hearing_append]

theorem run_frames {frames : List String} (hi : d.inbound = frames.flatMap framed) (ho : d.outbound = []) :
    ∃ steps : List Step, (∀ s ∈ steps, s.Ends) ∧ ∃ events server unread,
      Exchange.feed ⟨.serve d.server, d.unread⟩ frames = (events, ⟨.serve server, unread⟩) ∧
      d.run steps = ⟨d.client.after (hearing events), server, [], [], unread⟩ := by
  induction frames generalizing d
  case nil =>
    obtain ⟨client, server, inbound, outbound, unread⟩ := d
    cases hi
    cases ho
    exact ⟨[], nofun, [], server, unread, rfl, rfl⟩
  case cons frame frames hind =>
    rw [List.flatMap_cons] at hi
    obtain ⟨now, hnow, es, server, unread, hw, hr⟩ := run_frame hi ho
    obtain ⟨later, hlater, es', server', unread', hw', hr'⟩ :=
      hind (d := ⟨d.client.after (hearing es), server, frames.flatMap framed, [], unread⟩) rfl rfl
    refine ⟨now ++ later, List.forall_mem_append.mpr ⟨hnow, hlater⟩, es ++ es', server', unread', ?_, ?_⟩
    · have hw : Child.write? ⟨.serve d.server, d.unread⟩ (Utf8.encode (Rpc.Frame.encode frame)) = _ := hw
      simp only [Exchange.feed, hw, hw']
    · rw [run_append, hr, hr', ← Client.after_append, ← hearing_append]

end Dialogue

namespace Exchange

-- An exchange with a mock server and a dialogue in the same state.
structure Matches (x : Exchange) (d : Dialogue) : Prop where
  client   : d.client = x.client
  child    : x.child? = some ⟨.serve d.server, d.unread⟩
  passed   : x.passed ≤ x.client.session.transport.sent.length
  inbound  : d.inbound = (x.client.session.transport.sent.drop x.passed).flatMap framed
  outbound : d.outbound = []

theorem matches_start (command : String) (args : List String) (options : Options) :
    let c := Client.idle.after [.input (.start command args), .turn (.router 0)]
    c.Unoccupied ∧ (idle.start command args (.ok (.serve (.new options)))).2.Matches (.begin c options) :=
  ⟨⟨rfl, rfl, ⟨0, 0, rfl, rfl, rfl⟩, rfl, rfl⟩, rfl, rfl, Nat.zero_le _, rfl, rfl⟩

theorem Matches.moves (h : x.Matches d) (ms : List Client.Move) :
    Matches { x with client := x.client.after ms } (d.run (ms.map .client)) := by
  obtain ⟨frames, hs⟩ := d.client.sent_extends ms
  have hs' : (x.client.after ms).session.transport.sent = x.client.session.transport.sent ++ frames :=
    h.client ▸ hs.symm
  rw [d.run_moves, d.goes_eq hs.symm]
  refine ⟨congrArg (·.after ms) h.client, h.child, ?_, ?_, h.outbound⟩
  · exact h.passed.trans (x.client.sent_extends ms).length_le
  · change d.inbound ++ _ = _
    rw [hs', List.drop_append_of_le_length h.passed, List.flatMap_append, h.inbound]

theorem Matches.pass (h : x.Matches d) : ∃ steps : List Dialogue.Step, (∀ s ∈ steps, s.Ends) ∧
    x.pass.Matches (d.run steps) ∧ x.pass.passed = x.client.session.transport.sent.length := by
  obtain ⟨steps, hs, es, server, unread, hf, hr⟩ := Dialogue.run_frames h.inbound h.outbound
  obtain ⟨-, hsent⟩ := x.client.callers_hearing es
  let heard : Exchange :=
    ⟨x.client.after (Dialogue.hearing es), some ⟨.serve server, unread⟩, x.client.session.transport.sent.length⟩
  have hheard : heard.Matches (d.run steps) := by
    rw [hr, h.client]
    refine ⟨rfl, rfl, (congrArg List.length hsent).ge, ?_, rfl⟩
    simp only [heard, hsent, List.drop_length, List.flatMap_nil]
  -- The events come first, and then the client has the turns that are due.
  obtain ⟨ts, ht⟩ : ∃ ts : List Turn,
      (x.client.burst (es.map .emit)).2 = heard.client.after (ts.map .turn) := by
    rw [Client.burst_snd, Client.rest, Client.go_eq_after]
    exact ⟨_, rfl⟩
  have hpass : x.pass = { heard with client := heard.client.after (ts.map .turn) } := by
    simp only [Exchange.pass, h.child, hf, ht, heard]
  refine ⟨steps ++ Dialogue.turnsOf ts, List.forall_mem_append.mpr ⟨hs, Dialogue.ends_turnsOf ts⟩, ?_, ?_⟩
  · rw [hpass, Dialogue.run_append]
    have hm := hheard.moves (ts.map .turn)
    rwa [List.map_map] at hm
  · rw [hpass]

theorem Matches.pass_resting (h : x.Matches d) (hd : d.client.Due) (hp : d.client.Proper) :
    x.pass.client.Resting := by
  rw [h.client] at hd hp
  simp only [Exchange.pass, h.child, Client.burst_snd]
  exact (hd.inputs _).rest (hp.after _)

theorem Matches.run (h : x.Matches d) {inputs : List Input}
    (hi : ∀ i ∈ inputs, (Dialogue.Step.client (.input i)).Talks) : ∃ steps : List Dialogue.Step,
      (∀ s ∈ steps, s.Talks) ∧ Matches { x with client := x.client.run inputs } (d.run steps) := by
  obtain ⟨ms, hr, hm⟩ := Client.exists_moves_run x.client inputs
  refine ⟨ms.map .client, List.forall_mem_map.mpr fun m hms => ?_, hr ▸ h.moves ms⟩
  obtain ⟨i, hi', rfl⟩ | ⟨t, rfl⟩ := hm m hms
  · exact hi i hi'
  · exact .turns

variable {options : Options} {ms₀ : List Client.Move} {before : List Dialogue.Step}

theorem Matches.over (ho : options.Obliging) (hc : (Client.idle.after ms₀).Unoccupied)
    (hs : ∀ s ∈ before, s.Talks) (h : x.Matches ((Dialogue.begin (Client.idle.after ms₀) options).run before))
    (hr : x.client.Resting) : ∃ steps : List Dialogue.Step, (∀ s ∈ steps, s.Ends) ∧
      x.pass.Matches ((Dialogue.begin (Client.idle.after ms₀) options).run (before ++ steps)) ∧
      (MockServer.Transmissible options
          ((Dialogue.begin (Client.idle.after ms₀) options).said (before ++ steps)) →
        ((Dialogue.begin (Client.idle.after ms₀) options).run (before ++ steps)).Over) := by
  let d := Dialogue.begin (Client.idle.after ms₀) options
  obtain ⟨hdue, hproper⟩ := Dialogue.due_run ms₀ options before
  obtain ⟨steps, hends, hm, hpassed⟩ := h.pass
  have hrest := h.pass_resting hdue hproper
  rw [← Dialogue.run_append] at hm
  refine ⟨steps, hends, hm, fun ht => ⟨?_, hm.outbound, hm.client ▸ hrest.turns⟩⟩
  -- At rest no caller has yet to begin, so that nothing more is said.
  have hmute : d.said (before ++ steps) = d.said before := by
    have hfresh : ∀ y ∈ (d.run before).client.callers, y.phase ≠ .fresh :=
      fun y hy => hr.not_fresh (h.client ▸ hy)
    rw [Dialogue.said_append, Dialogue.said_ends hends hproper hfresh, List.append_nil]
  have hp := Client.idle_proper.after ms₀
  have htalks : ∀ s ∈ before ++ steps, s.Talks :=
    List.forall_mem_append.mpr ⟨hs, fun s hs => (hends s hs).left⟩
  have hsent := Dialogue.sent_run ho hc hp htalks ht
  have hsent' := Dialogue.sent_run ho hc hp hs (hmute ▸ ht)
  rw [hm.client] at hsent
  rw [h.client] at hsent'
  rw [hm.inbound, hsent, hpassed, hsent', hmute, List.drop_length, List.flatMap_nil]

-- Inputs to a client that talks, in an exchange with a mock server: a dialogue that comes to its end, so that
-- the client is served.
theorem Matches.perform (ho : options.Obliging) (hc : (Client.idle.after ms₀).Unoccupied)
    (hs : ∀ s ∈ before, s.Talks) (h : x.Matches ((Dialogue.begin (Client.idle.after ms₀) options).run before))
    {inputs : List Input} (hi : ∀ i ∈ inputs, (Dialogue.Step.client (.input i)).Talks) :
    ∃ steps : List Dialogue.Step, (∀ s ∈ before ++ steps, s.Talks) ∧
      (x.perform inputs).Matches ((Dialogue.begin (Client.idle.after ms₀) options).run (before ++ steps)) ∧
      (MockServer.Transmissible options
          ((Dialogue.begin (Client.idle.after ms₀) options).said (before ++ steps)) →
        (Dialogue.begin (Client.idle.after ms₀) options).Serves (before ++ steps)) := by
  obtain ⟨steps₁, hs₁, h₁⟩ := h.run hi
  rw [← Dialogue.run_append] at h₁
  -- Frames are passed three times, as `settle` does it.
  obtain ⟨steps₂, hs₂, h₂, -⟩ := h₁.pass
  rw [← Dialogue.run_append] at h₂
  obtain ⟨steps₃, hs₃, h₃, -⟩ := h₂.pass
  rw [← Dialogue.run_append] at h₃
  have htalks : ∀ s ∈ before ++ steps₁ ++ steps₂ ++ steps₃, s.Talks := by
    simp only [List.forall_mem_append]
    exact ⟨⟨⟨hs, hs₁⟩, fun s h => (hs₂ s h).left⟩, fun s h => (hs₃ s h).left⟩
  obtain ⟨hdue, hproper⟩ := Dialogue.due_run ms₀ options (before ++ steps₁ ++ steps₂)
  obtain ⟨steps₄, hs₄, h₄, hover⟩ := Matches.over ho hc htalks h₃ (h₂.pass_resting hdue hproper)
  have hall : before ++ (steps₁ ++ steps₂ ++ steps₃ ++ steps₄) =
      before ++ steps₁ ++ steps₂ ++ steps₃ ++ steps₄ := by
    simp only [List.append_assoc]
  have htalks' : ∀ s ∈ before ++ (steps₁ ++ steps₂ ++ steps₃ ++ steps₄), s.Talks :=
    hall ▸ List.forall_mem_append.mpr ⟨htalks, fun s h => (hs₄ s h).left⟩
  refine ⟨steps₁ ++ steps₂ ++ steps₃ ++ steps₄, htalks', hall ▸ h₄, fun ht => ?_⟩
  exact Dialogue.serves_of_over ms₀ ho hc htalks' ht (hall ▸ hover (hall ▸ ht))

end Exchange
end LanguageClient
