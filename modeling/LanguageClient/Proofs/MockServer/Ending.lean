import LanguageClient.Proofs.Client.Bursts
import LanguageClient.Proofs.MockServer.Dialogue

namespace LanguageClient

open MockServer (Options)

variable {options : Options} {c : Client} {d : Dialogue} {steps : List Dialogue.Step}

namespace Client

theorem exists_rest (hd : c.Due) (h : c.Proper) : ∃ ts : List Turn, (c.after (ts.map .turn)).Resting :=
  ⟨c.turnsTaken c.load, go_eq_after c c.load ▸ hd.go h (Nat.le_refl _)⟩

theorem utters_turn (hf : ∀ d ∈ c.callers, d.phase ≠ .fresh) (t : Turn) : c.utters (.turn t) = [] := by
  cases t
  case router => rfl
  case caller number =>
    rw [utters]
    split
    case h_1 d hd =>
      have hd := hf d (List.mem_of_find?_eq_some hd)
      rw [Caller.utters]
      split
      case h_1 hp _ => exact absurd hp hd
      case h_2      => rfl
    case h_2 => rfl

theorem callers_hearing (c : Client) (es : List Event) :
    (c.after (Dialogue.hearing es)).callers = c.callers ∧
      (c.after (Dialogue.hearing es)).session.transport.sent = c.session.transport.sent := by
  induction es generalizing c
  case nil          => exact ⟨rfl, rfl⟩
  case cons e es hi => exact hi (c.move (.input (.emit e)))

end Client

namespace Dialogue

def turnsOf (ts : List Turn) : List Step :=
  ts.map fun t => .client (.turn t)

theorem movesAll_turnsOf (d : Dialogue) (ts : List Turn) : d.movesAll (turnsOf ts) = ts.map .turn := by
  induction ts generalizing d
  case nil          => rfl
  case cons t ts hi => exact congrArg (Client.Move.turn t :: ·) (hi _)

theorem run_turnsOf (hc : d.client.Talking) (hf : ∀ x ∈ d.client.callers, x.phase ≠ .fresh) (ts : List Turn) :
    (d.run (turnsOf ts)).inbound = d.inbound ∧ (d.run (turnsOf ts)).outbound = d.outbound := by
  induction ts generalizing d
  case nil          => exact ⟨rfl, rfl⟩
  case cons t ts hi =>
    have hs := hc.sent_after (List.forall_mem_singleton.mpr (.turns (t := t)))
    rw [Client.said, Client.said, Client.utters_turn hf, List.append_nil, List.map_nil, List.append_nil] at hs
    have hstep : (d.step (.client (.turn t))).inbound = d.inbound := d.goes_inbound hs
    obtain ⟨hin, hout⟩ := hi (d := d.step (.client (.turn t))) (hc.move .turns)
      fun x hx hp => hf x (Client.fresh_turn hc.proper.enrolled hx hp).left hp
    exact ⟨hin.trans hstep, hout⟩

def flush (d : Dialogue) : List Step :=
  [.server d.inbound.length, .output (d.serves d.inbound.length).outbound.length]

theorem run_flush (d : Dialogue) : (d.run d.flush).inbound = [] ∧ (d.run d.flush).outbound = [] ∧
    (d.run d.flush).client.callers = d.client.callers := by
  let n := (d.serves d.inbound.length).outbound.length
  obtain ⟨hcallers, hsent⟩ := d.client.callers_hearing
    (((d.serves d.inbound.length).units n).1.map Piped.eventOf)
  have hin : (d.run d.flush).inbound = d.inbound.drop d.inbound.length := goes_inbound _ hsent
  exact ⟨hin.trans List.drop_length, List.drop_length, hcallers⟩

-- The steps by which a dialogue ends: nothing more is asked of the client.
def Step.Ends (s : Step) : Prop :=
  s.Talks ∧ ∀ i, s ≠ .client (.input i)

theorem Step.Ends.turns (t : Turn) : (client (.turn t)).Ends :=
  ⟨.turns, nofun⟩

theorem Step.Ends.serves (n : Nat) : (server n).Ends :=
  ⟨.serves, nofun⟩

theorem Step.Ends.reads (n : Nat) : (output n).Ends :=
  ⟨.reads, nofun⟩

theorem Step.Ends.complains (line : String) : (complaint line).Ends :=
  ⟨.complains, nofun⟩

theorem ends_turnsOf (ts : List Turn) : ∀ s ∈ turnsOf ts, s.Ends :=
  List.forall_mem_map.mpr fun t _ => .turns t

theorem ends_flush (d : Dialogue) : ∀ s ∈ d.flush, s.Ends :=
  List.forall_mem_cons.mpr ⟨.serves _, List.forall_mem_singleton.mpr (.reads _)⟩

theorem Step.Ends.quiet {s : Step} (hs : s.Ends) (hp : d.client.Proper)
    (hf : ∀ x ∈ d.client.callers, x.phase ≠ .fresh) :
    d.client.said (d.moves s) = [] ∧ ∀ x ∈ (d.step s).client.callers, x.phase ≠ .fresh := by
  have hhearing (es : List Event) : d.client.said (hearing es) = [] ∧
      ∀ x ∈ (d.client.after (hearing es)).callers, x.phase ≠ .fresh :=
    ⟨d.client.said_hearing es, (d.client.callers_hearing es).left ▸ hf⟩
  obtain ⟨ht, hn⟩ := hs
  cases ht
  case opens | changes | asks => exact absurd rfl (hn _)
  case turns t =>
    refine ⟨?_, fun x hx hx' => hf x (Client.fresh_turn hp.enrolled hx hx').left hx'⟩
    rw [moves, Client.said, Client.said, Client.utters_turn hf, List.append_nil]
  case serves    => exact ⟨rfl, hf⟩
  case reads     => exact hhearing _
  case complains => exact hhearing _

theorem said_ends (hs : ∀ s ∈ steps, s.Ends) (hp : d.client.Proper)
    (hf : ∀ x ∈ d.client.callers, x.phase ≠ .fresh) : d.said steps = [] := by
  induction steps generalizing d
  case nil             => rfl
  case cons s steps hi =>
    have ⟨hs, hsteps⟩ := List.forall_mem_cons.mp hs
    obtain ⟨hsaid, hfresh⟩ := hs.quiet hp hf
    have hlater := hi (d := d.step s) hsteps (d.client_step s ▸ hp.after _) hfresh
    rw [said, client_step] at hlater
    rw [said, movesAll, Client.said_append, hsaid, hlater, List.append_nil]

theorem due_run (ms₀ : List Client.Move) (options : Options) (steps : List Step) :
    ((begin (Client.idle.after ms₀) options).run steps).client.Due ∧
      ((begin (Client.idle.after ms₀) options).run steps).client.Proper := by
  have hclient : ((begin (Client.idle.after ms₀) options).run steps).client =
      Client.idle.after (ms₀ ++ (begin (Client.idle.after ms₀) options).movesAll steps) := by
    rw [client_run, Client.after_append]
    rfl
  rw [hclient]
  exact ⟨Client.idle_resting.due.after Client.idle_proper _, Client.idle_proper.after _⟩

theorem exists_over (ms₀ : List Client.Move) (ho : options.Obliging) (hc : (Client.idle.after ms₀).Unoccupied)
    (hs : ∀ s ∈ steps, s.Talks) : ∃ more : List Step, (∀ s ∈ more, s.Ends) ∧
      (MockServer.Transmissible options ((begin (Client.idle.after ms₀) options).said (steps ++ more)) →
        ((begin (Client.idle.after ms₀) options).run (steps ++ more)).Over) := by
  let d := begin (Client.idle.after ms₀) options
  have hrest (steps : List Step) : ∃ ts : List Turn, (d.run (steps ++ turnsOf ts)).client.Resting := by
    obtain ⟨hdue, hproper⟩ := due_run ms₀ options steps
    obtain ⟨ts, ht⟩ := Client.exists_rest hdue hproper
    refine ⟨ts, ?_⟩
    rwa [run_append, client_run, movesAll_turnsOf]
  obtain ⟨ts, hbegun⟩ := hrest steps
  let begun := d.run (steps ++ turnsOf ts)
  obtain ⟨us, hended⟩ := hrest (steps ++ turnsOf ts ++ begun.flush)
  refine ⟨turnsOf ts ++ begun.flush ++ turnsOf us, ?_, fun ht => ?_⟩
  · exact List.forall_mem_append.mpr ⟨List.forall_mem_append.mpr ⟨ends_turnsOf ts, ends_flush begun⟩,
      ends_turnsOf us⟩
  · rw [← List.append_assoc, ← List.append_assoc] at ht ⊢
    have hflushed : (d.run (steps ++ turnsOf ts ++ begun.flush)) = begun.run begun.flush := run_append ..
    obtain ⟨hin, hout, hcallers⟩ := begun.run_flush
    rw [← hflushed] at hin hout hcallers
    -- All callers have begun and the client still talks.
    have hfresh : ∀ x ∈ (d.run (steps ++ turnsOf ts ++ begun.flush)).client.callers, x.phase ≠ .fresh :=
      fun x hx => hbegun.not_fresh (hcallers ▸ hx)
    have htalk : (d.run (steps ++ turnsOf ts ++ begun.flush)).client.Talking := by
      rw [said_append] at ht
      have hflush := List.forall_mem_append.mpr ⟨List.forall_mem_append.mpr ⟨hs, fun s hs =>
        (ends_turnsOf ts s hs).left⟩, fun s hs => (ends_flush begun s hs).left⟩
      obtain ⟨_, _, h⟩ := keeps_run ho hc (Client.idle_proper.after ms₀) hflush ht.initial
      exact h.talking
    obtain ⟨hin', hout'⟩ := run_turnsOf htalk hfresh us
    rw [← run_append] at hin' hout'
    exact ⟨hin'.trans hin, hout'.trans hout, hended.turns⟩

end Dialogue
end LanguageClient
