import LanguageClient.Proofs.Client.Bursts
import LanguageClient.Proofs.MockServer.Ending
import LanguageClient.Proofs.Text.Words

namespace LanguageClient

open MockServer (Options Output)

variable {options : Options} {c : Client} {d : Dialogue} {steps : List Dialogue.Step}

-- The longest runs of word characters of a text, each once and in the order of their bytes.
structure WordsOf (text : String) (words : List String) : Prop where
  ascending : words.Pairwise fun v w => Utf8.encode v < Utf8.encode w
  runs      : ∀ w, w ∈ words ↔ ∃ before after, Text.Run Text.isWordChar text.toList before w.toList after

namespace Dialogue

-- A call for a completion after some steps, and what happens after it. It is sent in a turn of its caller.
-- In a later turn it returns the words of the text that was last sent for its document before it was.
def Returns (d : Dialogue) (label path : String) (line character : Nat) (before after : List Step) : Prop :=
  let call : Step := .client (.input (.call label (.completion path line character)))
  let turn : Step := .client (.turn (.caller (d.run before).client.issued))
  ∃ later between rest words,
    let asking := before ++ call :: later
    after = later ++ turn :: (between ++ turn :: rest) ∧
    d.said (asking ++ [turn]) =
      d.said asking ++ [.asked (d.run asking).client.session.issued path line character] ∧
    (d.run (asking ++ turn :: between ++ [turn])).client.finished =
      (d.run (asking ++ turn :: between)).client.finished ++
        [(label, .ok (.arr (words.map fun w => (MockServer.suggestion w).toJson)))] ∧
    WordsOf (lastText (Uri.File.ofPath path) (textsOf (d.said asking))) words

-- What a client gets in a dialogue. The server is sent what the client says, each completion returns the
-- words that it is to return, and in the end the client knows of a document what there is to say about its
-- last text, if the positions in it are numbers of 32 bits.
structure Serves (d : Dialogue) (steps : List Step) : Prop where
  writes    : (d.run steps).client.session.transport.sent =
    d.client.session.transport.sent ++ (d.said steps).map (·.message.encode)
  completes : ∀ label path line character before after,
    steps = before ++ .client (.input (.call label (.completion path line character))) :: after →
    d.Returns label path line character before after
  diagnoses : ∀ path text, (Uri.Reference.check (Uri.File.ofPath path).toList).isOk →
    lastText? (Uri.File.ofPath path) (textsOf (d.said steps)) = some text →
    (∀ complaint ∈ MockServer.scan text, complaint.range.Fits) →
    (d.run steps).client.session.bulletin.diagnostics (Uri.File.ofPath path) = MockServer.scan text

-- While a client opens and changes documents and asks for completions, the dialogue with its server can be
-- brought to its end at any time, and in the end the client has got all that it is to get.
structure Service (options : Options) (d : Dialogue) : Prop where
  ends   : ∀ steps : List Step, (∀ s ∈ steps, s.Talks) → ∃ more : List Step, (∀ s ∈ more, s.Ends) ∧
    (MockServer.Transmissible options (d.said (steps ++ more)) → (d.run (steps ++ more)).Over)
  serves : ∀ steps : List Step, (∀ s ∈ steps, s.Talks) → MockServer.Transmissible options (d.said steps) →
    (d.run steps).Over → d.Serves steps

theorem eq_of_turn_mem_moves {s : Step} {t : Turn} (h : .turn t ∈ d.moves s) : s = .client (.turn t) := by
  cases s
  case client => rw [List.mem_singleton.mp h]
  case server => cases h
  all_goals simp [moves, hearing] at h

theorem exists_turn {ms₁ ms₂ : List Client.Move} {t : Turn} (h : d.movesAll steps = ms₁ ++ .turn t :: ms₂) :
    ∃ before after, steps = before ++ .client (.turn t) :: after ∧ d.movesAll before = ms₁ ∧
      (d.run (before ++ [.client (.turn t)])).movesAll after = ms₂ := by
  induction steps generalizing d ms₁
  case nil => cases (List.append_eq_nil_iff.mp h.symm).right
  case cons s steps hi =>
    -- A turn is made in a step of its own, so that it comes after the first step or is all of it.
    have hs : (∃ ms, ms₁ = d.moves s ++ ms ∧ (d.step s).movesAll steps = ms ++ .turn t :: ms₂) ∨
        s = .client (.turn t) ∧ ms₁ = [] ∧ (d.step s).movesAll steps = ms₂ := by
      obtain later | ⟨_ | ⟨m, ms⟩, hm, he⟩ := List.append_eq_append_iff.mp h
      · exact .inl later
      · exact .inl ⟨[], by rw [hm, List.append_nil, List.append_nil], he.symm⟩
      · obtain ⟨rfl, rfl⟩ := List.cons.inj he
        obtain rfl := eq_of_turn_mem_moves (hm ▸ List.mem_append_right _ List.mem_cons_self)
        obtain ⟨rfl, rfl⟩ : ms₁ = [] ∧ ms = [] := by
          have hl := congrArg List.length hm
          simp only [moves, List.length_append, List.length_cons, List.length_nil] at hl
          exact ⟨List.length_eq_zero_iff.mp (by omega), List.length_eq_zero_iff.mp (by omega)⟩
        exact .inr ⟨rfl, rfl, rfl⟩
    obtain ⟨ms, rfl, he⟩ | ⟨rfl, rfl, he⟩ := hs
    · obtain ⟨before, after, rfl, rfl, ha⟩ := hi he
      exact ⟨s :: before, after, rfl, rfl, ha⟩
    · exact ⟨[], steps, rfl, rfl, he⟩

namespace Keeps

variable {ms : List Client.Move} {chunks : List Bytes} {read : Bytes}

theorem full (h : Keeps options c ms chunks read d) (ht : MockServer.Transmissible options (c.said ms))
    (hi : d.inbound = []) (ho : d.outbound = []) :
    (c.arrived ms).filter (·.stream ≠ .error) = MockServer.events options (c.said ms) := by
  have hin := h.inbound
  have hout := h.outbound
  rw [hi, List.append_nil] at hin
  have htold := MockServer.feedAll_sayings ht.fits ht.frames hin options
  rw [ho, List.append_nil, htold] at hout
  rw [h.arrived, hout, MockServer.drain_outputs (ht.output_fits h.served.obliging), List.map_map]
  rfl

theorem sated {ms₀ : List Client.Move} (h : Keeps options (Client.idle.after ms₀) ms chunks read d)
    (ht : MockServer.Transmissible options ((Client.idle.after ms₀).said ms)) (ho : d.Over) :
    (Client.idle.after ms₀).Sated options ms := by
  have hdue := (Client.idle_resting.due.after Client.idle_proper ms₀).after (Client.idle_proper.after ms₀) ms
  have hrest := hdue.resting (h.client ▸ ho.turns)
  exact ⟨h.served, hrest, hrest.inbox ((Client.idle_routerDue.after ms₀).after ms),
    h.full ht ho.inbound ho.outbound⟩

end Keeps
end Dialogue

namespace Dialogue

theorem hasWords_vocabulary (text : String) : WordsOf text (MockServer.vocabulary text) :=
  ⟨MockServer.vocabulary_ascending text, fun _ => MockServer.mem_vocabulary⟩

theorem returns {label path : String} {line character : Nat} {before after : List Step}
    (h : d.client.Sated options (d.movesAll
      (before ++ .client (.input (.call label (.completion path line character))) :: after))) :
    d.Returns label path line character before after := by
  let call : Client.Move := .input (.call label (.completion path line character))
  let turn : Client.Move := .turn (.caller (d.run before).client.issued)
  have hcall := d.movesAll_client call before after
  obtain ⟨moves₁, moves₂, moves₃, hm, hu, hf⟩ := h.completes hcall
  rw [← client_run] at hm hu hf
  have hafter : (d.run (before ++ [.client call])).movesAll after =
      moves₁ ++ turn :: (moves₂ ++ turn :: moves₃) := by
    have hm := hcall.symm.trans hm
    rw [List.append_assoc, List.cons_append] at hm
    exact (List.cons.inj (List.append_cancel_left hm)).right
  -- The moves are cut where the caller has its turns, and so are the steps that they belong to.
  obtain ⟨later, after, rfl, rfl, hrest⟩ := exists_turn hafter
  rw [← run_append, List.append_assoc, List.singleton_append, ← List.cons_append, ← List.append_assoc] at hrest
  obtain ⟨between, rest, rfl, rfl, -⟩ := exists_turn hrest
  have hasking : d.movesAll (before ++ .client call :: later) = _ := d.movesAll_client call before later
  have hbetween : d.movesAll (before ++ .client call :: later ++ .client turn :: between) = _ :=
    d.movesAll_client turn _ between
  have hturn (front : List Step) : d.movesAll (front ++ [.client turn]) = d.movesAll front ++ [turn] :=
    d.movesAll_client turn front []
  rw [← hasking, ← client_run] at hu
  rw [← hasking, ← hbetween, ← hturn, ← client_run, ← client_run] at hf
  refine ⟨later, between, rest, _, rfl, ?_, hf, hasWords_vocabulary _⟩
  rw [said, hturn, Client.said_append, Client.said, Client.said, List.append_nil, ← client_run]
  exact congrArg _ hu

theorem serves_of_over (ms₀ : List Client.Move) (ho : options.Obliging)
    (hc : (Client.idle.after ms₀).Unoccupied) (hs : ∀ s ∈ steps, s.Talks)
    (ht : MockServer.Transmissible options ((begin (Client.idle.after ms₀) options).said steps))
    (he : ((begin (Client.idle.after ms₀) options).run steps).Over) :
    (begin (Client.idle.after ms₀) options).Serves steps := by
  obtain ⟨chunks, read, hkeeps⟩ := keeps_run ho hc (Client.idle_proper.after ms₀) hs ht
  have hsated := hkeeps.sated ht he
  have hclient := hkeeps.client
  constructor
  case writes => exact sent_run ho hc (Client.idle_proper.after ms₀) hs ht
  case completes =>
    rintro label path line character before after rfl
    exact returns hsated
  case diagnoses =>
    intro path text hu htext hfit
    have hfits (text' : String) (h : lastText? (Uri.File.ofPath path)
        (textsOf ((begin (Client.idle.after ms₀) options).said steps)) = some text') :
        ∀ complaint ∈ MockServer.scan text', complaint.range.Fits := by
      cases htext.symm.trans h
      exact hfit
    have hsaid : (begin (Client.idle.after ms₀) options).said steps =
        (Client.idle.after ms₀).said ((begin (Client.idle.after ms₀) options).movesAll steps) := rfl
    rw [hclient, hsated.diagnoses hu hfits, ← hsaid, htext]
    rfl

theorem service (ms₀ : List Client.Move) (ho : options.Obliging) (hc : (Client.idle.after ms₀).Unoccupied) :
    (begin (Client.idle.after ms₀) options).Service options where
  ends   := fun _ hs => exists_over ms₀ ho hc hs
  serves := fun _ hs => serves_of_over ms₀ ho hc hs

theorem service_of_completion :
    let options := { Options.default with itemsWrapper := true, logNoise := true }
    let ms₀ : List Client.Move := [.input (.start "mockls" [])]
    let steps : List Step :=
      [.client (.input (.didOpen "/a" "error b_1" "rust")),
        .client (.input (.call "words" (.completion "/a" 0 0))), .client (.turn (.caller 0))]
    let d := begin (Client.idle.after ms₀) options
    options.Obliging ∧ (Client.idle.after ms₀).Unoccupied ∧
    ∃ more : List Step, (∀ s ∈ steps ++ more, s.Talks) ∧
      MockServer.Transmissible options (d.said (steps ++ more)) ∧ (d.run (steps ++ more)).Over ∧
      d.Serves (steps ++ more) := by
  intro options ms₀ steps d
  have ho : options.Obliging := ⟨rfl, rfl, rfl, rfl⟩
  have hc : (Client.idle.after ms₀).Unoccupied :=
    ⟨rfl, rfl, ⟨0, 0, rfl, rfl, rfl⟩, rfl, rfl⟩
  have hs : ∀ s ∈ steps, s.Talks :=
    List.forall_mem_cons.mpr ⟨.opens, List.forall_mem_cons.mpr ⟨.asks, List.forall_mem_singleton.mpr .turns⟩⟩
  have hsaid : d.said steps = [.opened "/a" "error b_1" "rust", .asked 0 "/a" 0 0] := rfl
  have ht : MockServer.Transmissible options (d.said steps) := by
    rw [hsaid]
    refine ⟨?_, ?_, ?_⟩
    · have hopened : "error b_1".utf8ByteSize < UInt64.size := by decide
      exact List.forall_mem_cons.mpr ⟨hopened,
        List.forall_mem_singleton.mpr ⟨by simp [Rpc.IsInt64], by decide, by decide⟩⟩
    · refine List.forall_mem_cons.mpr ⟨?_, List.forall_mem_singleton.mpr ?_⟩
      all_goals decide +kernel
    · have hb : ∀ output ∈ MockServer.told options
          [.opened "/a" "error b_1" "rust", .asked 0 "/a" 0 0], output.Fits := by
        decide +kernel
      exact fun body hm => hb (.frame body) hm
  have hfresh : ∀ x ∈ (d.run steps).client.callers, x.phase ≠ .fresh := by
    have hcallers : (d.run steps).client.callers = [⟨0, "words", .completion "/a" 0 0, .waiting 0⟩] := rfl
    simp [hcallers]
  -- The end of the dialogue is not computed. There is one, and the client says nothing on the way to
  -- it.
  obtain ⟨more, hmore, hover⟩ := (service ms₀ ho hc).ends steps hs
  have hmute : d.said (steps ++ more) = d.said steps := by
    rw [said_append, said_ends hmore (d.client_run steps ▸ (Client.idle_proper.after ms₀).after _) hfresh,
      List.append_nil]
  have htalks : ∀ s ∈ steps ++ more, s.Talks := List.forall_mem_append.mpr ⟨hs, fun s hs => (hmore s hs).left⟩
  have ht' : MockServer.Transmissible options (d.said (steps ++ more)) := hmute ▸ ht
  exact ⟨ho, hc, more, htalks, ht', hover ht', (service ms₀ ho hc).serves _ htalks ht' (hover ht')⟩

end Dialogue
end LanguageClient
