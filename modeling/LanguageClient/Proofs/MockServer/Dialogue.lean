import LanguageClient.Proofs.Client.Completing

namespace LanguageClient

open Client (Talks)
open MockServer (Options Output framed bytesOf told events)

variable {options : Options} {c : Client} {m : Client.Move} {ms ms' : List Client.Move}

-- What can be sent: numbers of 64 bits, and texts and frames whose length is a number of 64 bits.
structure MockServer.Transmissible (options : Options) (said : List Saying) : Prop where
  fits    : ∀ s ∈ said, s.Fits
  frames  : ∀ s ∈ said, s.message.encode.utf8ByteSize < UInt64.size
  outputs : ∀ body, .frame body ∈ told options said → body.utf8ByteSize < UInt64.size

-- A client and a server, what each has written that the other has not read, and what the client has read
-- that is no whole unit yet.
structure Dialogue where
  client   : Client
  server   : MockServer
  inbound  : Bytes
  outbound : Bytes
  unread   : Bytes

namespace Dialogue

def begin (c : Client) (options : Options) : Dialogue :=
  ⟨c, .new options, [], [], []⟩

-- What happens next: a move of the client, some bytes are read by the server or by the client, or a line of
-- the error stream of the server comes to the client.
inductive Step
  | client (m : Client.Move)
  | server (n : Nat)
  | output (n : Nat)
  | complaint (line : String)

def goes (d : Dialogue) (ms : List Client.Move) : Dialogue :=
  let client := d.client.after ms
  let frames := client.session.transport.sent.drop d.client.session.transport.sent.length
  { d with client, inbound := d.inbound ++ frames.flatMap framed }

def serves (d : Dialogue) (n : Nat) : Dialogue :=
  let (server, outputs) := d.server.feed (d.inbound.take n)
  { d with
    server
    inbound  := d.inbound.drop n
    outbound := d.outbound ++ outputs.flatMap Output.bytes }

def units (d : Dialogue) (n : Nat) : List Rpc.Frame.Unit × Bytes :=
  Rpc.Frame.drain (d.unread ++ d.outbound.take n)

def hearing (es : List Event) : List Client.Move :=
  (es.map .emit).map .input

def moves (d : Dialogue) : Step → List Client.Move
  | .client m => [m]
  | .server _ => []
  | .output n => hearing ((d.units n).1.map Piped.eventOf)
  | .complaint line => hearing [⟨.error, line⟩]

inductive Step.Talks : Step → Prop
  | opens {path text language : String} : Talks (.client (.input (.didOpen path text language)))
  | changes {path text : String} {version : Int} : Talks (.client (.input (.didChange path text version)))
  | asks {label path : String} {line character : Nat} :
      Talks (.client (.input (.call label (.completion path line character))))
  | turns {t : Turn} : Talks (.client (.turn t))
  | serves {n : Nat} : Talks (.server n)
  | reads {n : Nat} : Talks (.output n)
  | complains {line : String} : Talks (.complaint line)

def step (d : Dialogue) : Step → Dialogue
  | .client m => d.goes (d.moves (.client m))
  | .server n => d.serves n
  | .output n =>
    { d with outbound := d.outbound.drop n, unread := (d.units n).2 }.goes (d.moves (.output n))
  | .complaint line => d.goes (d.moves (.complaint line))

def run (d : Dialogue) (steps : List Step) : Dialogue :=
  steps.foldl step d

def movesAll (d : Dialogue) : List Step → List Client.Move
  | [] => []
  | s :: steps => d.moves s ++ (d.step s).movesAll steps

def said (d : Dialogue) (steps : List Step) : List Saying :=
  d.client.said (d.movesAll steps)

-- All that was written has been read, and the client has nothing left to do.
structure Over (d : Dialogue) : Prop where
  inbound  : d.inbound = []
  outbound : d.outbound = []
  turns    : d.client.turns = []

end Dialogue

structure Client.Unoccupied (c : Client) : Prop where
  ready   : c.session.lifecycle = .ready
  willing : c.session.transport.sendRefusal? = none
  listens : c.session.Listens
  callers : c.callers = []
  inbox   : c.session.inbox = []

namespace Dialogue

theorem goes_eq (d : Dialogue) {frames : List String} (h : (d.client.after ms).session.transport.sent =
    d.client.session.transport.sent ++ frames) :
    d.goes ms = { d with client := d.client.after ms, inbound := d.inbound ++ frames.flatMap framed } := by
  simp only [goes, h, List.drop_left]

theorem goes_inbound (d : Dialogue)
    (h : (d.client.after ms).session.transport.sent = d.client.session.transport.sent) :
    (d.goes ms).inbound = d.inbound := by
  rw [d.goes_eq (h.trans (List.append_nil _).symm), List.flatMap_nil, List.append_nil]

end Dialogue

namespace Client

theorem Unoccupied.talking (h : c.Unoccupied) (hp : c.Proper) : c.Talking where
  proper  := hp
  accepts := by rw [h.ready]; rfl
  willing := h.willing
  listens := h.listens
  calm    := h.inbox ▸ nofun
  callers := h.callers ▸ nofun

theorem arrived_hearing (c : Client) (es : List Event) : c.arrived (Dialogue.hearing es) = es := by
  induction es generalizing c
  case nil          => rfl
  case cons e es hi => exact congrArg (e :: ·) (hi (c.move (.input (.emit e))))

theorem said_hearing (c : Client) (es : List Event) : c.said (Dialogue.hearing es) = [] := by
  induction es generalizing c
  case nil          => rfl
  case cons e es hi => exact hi (c.move (.input (.emit e)))

theorem talks_hearing {es : List Event} (h : ∀ e ∈ es, e.question? = none) :
    ∀ m ∈ Dialogue.hearing es, Talks m :=
  List.forall_mem_map.mpr (List.forall_mem_map.mpr fun e he => .hears (h e he))

theorem events_of_said (c : Client) (options : Options) (ms ms' : List Move) :
    events options (c.said ms) <+: events options (c.said (ms ++ ms')) := by
  rw [said_append]
  exact MockServer.events_append options _ _

end Client

section Transmission

variable {said : List Saying}

theorem MockServer.Transmissible.initial {more : List Saying} (h : Transmissible options (said ++ more)) :
    Transmissible options said where
  fits    := fun s hs => h.fits s (List.mem_append_left _ hs)
  frames  := fun s hs => h.frames s (List.mem_append_left _ hs)
  outputs := fun body hb => h.outputs body ((MockServer.told_append options said more).subset hb)

theorem MockServer.Transmissible.output_fits (h : Transmissible options said) (ho : options.Obliging) :
    ∀ output ∈ told options said, output.Fits := by
  intro output hm
  cases output
  case frame body   => exact h.outputs body hm
  case noise method =>
    obtain ⟨before, s, after, -, ht⟩ := (MockServer.mem_told ho).mp hm
    cases hs : s.text?
    case some t =>
      rw [MockServer.tells_of_text hs] at ht
      cases List.mem_singleton.mp ht
    case none =>
      cases s
      case asked =>
        obtain h | h := MockServer.mem_tells_asked ht
        · cases h
          show '\n' ∉ _
          decide
        · cases h
      all_goals cases hs

end Transmission

namespace Client

theorem Served.append (h : c.Served options ms) (ht : ∀ m ∈ ms', Talks m)
    (hf : ∀ s ∈ c.said (ms ++ ms'), s.Fits)
    (ho : ∀ e ∈ (c.after ms).arrived ms', e.stream = .error ∨ e ∈ events options (c.said ms)) :
    c.Served options (ms ++ ms') where
  obliging := h.obliging
  talking  := h.talking
  empty    := h.empty
  talks    := List.forall_mem_append.mpr ⟨h.talks, ht⟩
  fits     := hf
  output   := by
    intro ms₁ ms₂ he e hm
    obtain ⟨rest, rfl, rfl⟩ | ⟨rest, rfl, rfl⟩ := List.append_eq_append_iff.mp he
    -- The moves go beyond those that were made before.
    · have hmono := (events_of_said c options ms rest).subset
      rw [arrived_append] at hm
      obtain hm | hm := List.mem_append.mp hm
      · exact (h.output ms [] (List.append_nil _).symm e hm).imp id (@hmono e)
      · rw [arrived_append] at ho
        exact (ho e (List.mem_append_left _ hm)).imp id (@hmono e)
    · exact h.output ms₁ rest rfl e hm

end Client

namespace Dialogue

-- A dialogue in which the client has made some moves. The server has been fed some chunks, and the client has
-- read some bytes.
structure Keeps (options : Options) (c : Client) (ms : List Client.Move) (chunks : List Bytes) (read : Bytes)
    (d : Dialogue) : Prop where
  client   : d.client = c.after ms
  served   : c.Served options ms
  server   : d.server = ((MockServer.new options).feedAll chunks).1
  inbound  : chunks.flatten ++ d.inbound = bytesOf (c.said ms)
  outbound : read ++ d.outbound = ((MockServer.new options).feedAll chunks).2.flatMap Output.bytes
  unread   : d.unread = (Rpc.Frame.drain read).2
  arrived  : (c.arrived ms).filter (·.stream ≠ .error) = (Rpc.Frame.drain read).1.map Piped.eventOf

namespace Keeps

variable {d : Dialogue} {chunks : List Bytes} {read : Bytes}

theorem talking (h : Keeps options c ms chunks read d) : d.client.Talking :=
  h.client ▸ h.served.talking.after h.served.talks

theorem begin (ho : options.Obliging) (ht : c.Talking) (hi : c.session.inbox = []) :
    Keeps options c [] [] [] (.begin c options) := by
  have hd : Rpc.Frame.drain [] = ([], []) := Rpc.Frame.drain_wait Rpc.Frame.next_nil
  refine ⟨rfl, ⟨ho, ht, hi, nofun, nofun, ?_⟩, rfl, rfl, rfl, ?_, ?_⟩
  · intro ms₁ ms₂ he e hm
    obtain ⟨rfl, rfl⟩ := List.append_eq_nil_iff.mp he.symm
    cases hm
  · rw [hd]
    rfl
  · rw [hd]
    rfl

theorem written (h : Keeps options c ms chunks read d) (hm : ∀ m ∈ ms', Talks m) :
    chunks.flatten ++ (d.goes ms').inbound = bytesOf (c.said (ms ++ ms')) := by
  have hs := (h.served.talking.after h.served.talks).sent_after hm
  rw [← h.client] at hs
  rw [Client.said_append, bytesOf, List.flatMap_append, ← bytesOf, ← h.inbound, List.append_assoc, ← h.client,
    d.goes_eq hs, List.flatMap_map]

theorem units_told (h : Keeps options c ms chunks read d)
    (ht : MockServer.Transmissible options (c.said ms)) (n : Nat) :
    (Rpc.Frame.drain (read ++ d.outbound.take n)).1.map Piped.eventOf <+: events options (c.said ms) := by
  have htold := MockServer.feedAll_some ht.fits ht.frames h.inbound options
  have hfit : ∀ output ∈ ((MockServer.new options).feedAll chunks).2, output.Fits :=
    fun output hm => ht.output_fits h.served.obliging output (htold.subset hm)
  have hunits : (Rpc.Frame.drain (read ++ d.outbound.take n)).1 <+:
      ((MockServer.new options).feedAll chunks).2.map Output.unit := by
    have hd := MockServer.drain_outputs hfit
    rw [← h.outbound, ← List.take_append_drop n d.outbound, ← List.append_assoc, Rpc.Frame.drain_append] at hd
    exact ⟨_, (Prod.mk.inj hd).left⟩
  have hevents : (((MockServer.new options).feedAll chunks).2.map Output.unit).map Piped.eventOf <+:
      events options (c.said ms) := by
    rw [List.map_map]
    exact htold.map _
  exact (hunits.map _).trans hevents

theorem goes (h : Keeps options c ms chunks read d) (hm : ∀ m ∈ ms', Talks m)
    (he : ∀ e ∈ (c.after ms).arrived ms', e.stream = .error) (hf : ∀ s ∈ c.said (ms ++ ms'), s.Fits) :
    Keeps options c (ms ++ ms') chunks read (d.goes ms') where
  client   := by rw [Client.after_append, ← h.client]; rfl
  served   := h.served.append hm hf fun e hm => .inl (he e hm)
  server   := h.server
  inbound  := h.written hm
  outbound := h.outbound
  unread   := h.unread
  arrived  := by
    have hn : ((c.after ms).arrived ms').filter (·.stream ≠ .error) = [] :=
      List.filter_eq_nil_iff.mpr fun e hm => by simp [he e hm]
    rw [Client.arrived_append, List.filter_append, h.arrived, hn, List.append_nil]

theorem serves (h : Keeps options c ms chunks read d) (n : Nat) :
    Keeps options c ms (chunks ++ [d.inbound.take n]) read (d.serves n) where
  client   := h.client
  served   := h.served
  server   := by
    rw [MockServer.feedAll_concat, ← h.server]
    rfl
  inbound  := by
    rw [← h.inbound, List.flatten_append, List.flatten_singleton, List.append_assoc]
    exact congrArg _ (List.take_append_drop n d.inbound)
  outbound := by
    rw [MockServer.feedAll_concat, ← h.server, List.flatMap_append, ← h.outbound, List.append_assoc]
    rfl
  unread   := h.unread
  arrived  := h.arrived

theorem reads (h : Keeps options c ms chunks read d)
    (ht : MockServer.Transmissible options (c.said ms)) (n : Nat) :
    Keeps options c (ms ++ d.moves (.output n)) chunks (read ++ d.outbound.take n) (d.step (.output n)) := by
  have hdrain := Rpc.Frame.drain_append read (d.outbound.take n)
  rw [← h.unread] at hdrain
  -- What is read now was told by the server, since all that was read until then was.
  have htold : ∀ e ∈ (d.units n).1.map Piped.eventOf, e ∈ events options (c.said ms) := by
    have hp := (h.units_told ht n).subset
    rw [hdrain, List.map_append] at hp
    exact fun e he => hp (List.mem_append_right _ he)
  have hcalm := fun e he => MockServer.calm_events h.served.obliging ht.fits (htold e he)
  have htalks := Client.talks_hearing fun e he => (hcalm e he).left
  have hsaid : c.said (ms ++ d.moves (.output n)) = c.said ms := by
    rw [Client.said_append, moves, Client.said_hearing, List.append_nil]
  refine ⟨?_, ?_, h.server, h.written htalks, ?_, ?_, ?_⟩
  · rw [Client.after_append, ← h.client]
    rfl
  · refine h.served.append htalks (hsaid ▸ ht.fits) fun e he => .inr (htold e ?_)
    rwa [moves, Client.arrived_hearing] at he
  · rw [← h.outbound, List.append_assoc]
    exact congrArg _ (List.take_append_drop n d.outbound)
  · rw [hdrain]
    rfl
  · have hall : ((d.units n).1.map Piped.eventOf).filter (·.stream ≠ .error) =
        (d.units n).1.map Piped.eventOf :=
      List.filter_eq_self.mpr fun e he => decide_eq_true (hcalm e he).right
    rw [Client.arrived_append, moves, Client.arrived_hearing, List.filter_append, hall, h.arrived, hdrain,
      List.map_append]
    rfl

theorem complains (h : Keeps options c ms chunks read d) (line : String) :
    Keeps options c (ms ++ d.moves (.complaint line)) chunks read (d.step (.complaint line)) := by
  have hsaid : c.said (ms ++ d.moves (.complaint line)) = c.said ms := by
    rw [Client.said_append, moves, Client.said_hearing, List.append_nil]
  refine h.goes (Client.talks_hearing ?_) ?_ (hsaid ▸ h.served.fits)
  · exact List.forall_mem_singleton.mpr rfl
  · rw [moves, Client.arrived_hearing]
    exact List.forall_mem_singleton.mpr rfl

theorem moved (h : Keeps options c ms chunks read d) (hm : Talks m) (hn : (c.after ms).arrived [m] = [])
    (hf : ∀ s ∈ c.said (ms ++ [m]), s.Fits) :
    Keeps options c (ms ++ [m]) chunks read (d.step (.client m)) :=
  h.goes (List.forall_mem_singleton.mpr hm) (hn ▸ nofun) hf

theorem step {s : Step} (h : Keeps options c ms chunks read d) (hs : s.Talks)
    (ht : MockServer.Transmissible options (c.said (ms ++ d.moves s))) :
    ∃ chunks' read', Keeps options c (ms ++ d.moves s) chunks' read' (d.step s) := by
  cases hs
  case opens     => exact ⟨_, _, h.moved .opens rfl ht.fits⟩
  case changes   => exact ⟨_, _, h.moved .changes rfl ht.fits⟩
  case asks      => exact ⟨_, _, h.moved (.calls ⟨_, _, _, rfl⟩) rfl ht.fits⟩
  case turns t   =>
    refine ⟨_, _, h.moved .turns ?_ ht.fits⟩
    rw [Client.arrived, Client.trace, Client.trace, List.append_nil, Client.emitted_turn]
  case serves n  =>
    rw [moves, List.append_nil]
    exact ⟨_, _, h.serves n⟩
  case reads n   =>
    rw [Client.said_append] at ht
    exact ⟨_, _, h.reads ht.initial n⟩
  case complains => exact ⟨_, _, h.complains _⟩

end Keeps

variable {d : Dialogue} {steps : List Step}

theorem run_append (d : Dialogue) (steps more : List Step) :
    d.run (steps ++ more) = (d.run steps).run more :=
  List.foldl_append

theorem movesAll_append (d : Dialogue) (steps more : List Step) :
    d.movesAll (steps ++ more) = d.movesAll steps ++ (d.run steps).movesAll more := by
  induction steps generalizing d
  case nil             => rfl
  case cons s steps hi => rw [List.cons_append, movesAll, hi, movesAll, List.append_assoc]; rfl

theorem client_step (d : Dialogue) (s : Step) : (d.step s).client = d.client.after (d.moves s) := by
  cases s <;> rfl

theorem client_run (d : Dialogue) (steps : List Step) :
    (d.run steps).client = d.client.after (d.movesAll steps) := by
  induction steps generalizing d
  case nil             => rfl
  case cons s steps hi => rw [movesAll, Client.after_append, ← client_step, ← hi]; rfl

theorem said_append (d : Dialogue) (steps more : List Step) :
    d.said (steps ++ more) = d.said steps ++ (d.run steps).said more := by
  rw [said, movesAll_append, Client.said_append, ← client_run, ← said, ← said]

theorem movesAll_client (d : Dialogue) (m : Client.Move) (before after : List Step) :
    d.movesAll (before ++ .client m :: after) =
      d.movesAll before ++ m :: (d.run (before ++ [.client m])).movesAll after := by
  rw [movesAll_append, run_append]
  rfl

-- The induction is on the steps from their end: what could be sent in the end could be sent before.
theorem keeps_run (ho : options.Obliging) (hc : c.Unoccupied) (hp : c.Proper)
    (hs : ∀ s ∈ steps, s.Talks) (ht : MockServer.Transmissible options ((begin c options).said steps)) :
    ∃ chunks read, Keeps options c ((begin c options).movesAll steps) chunks read
      ((begin c options).run steps) := by
  induction steps using List.reverseRecOn
  case nil => exact ⟨_, _, .begin ho (hc.talking hp) hc.inbox⟩
  case append_singleton steps s hind =>
    obtain ⟨hsteps, hs⟩ := List.forall_mem_append.mp hs
    have hm := movesAll_append (begin c options) steps [s]
    rw [movesAll, movesAll, List.append_nil] at hm
    have hinitial : MockServer.Transmissible options ((begin c options).said steps) := by
      rw [said_append] at ht
      exact ht.initial
    obtain ⟨chunks, read, h⟩ := hind hsteps hinitial
    rw [said, hm] at ht
    rw [hm, run_append]
    exact h.step (List.forall_mem_singleton.mp hs) ht

theorem sent_run (ho : options.Obliging) (hc : c.Unoccupied) (hp : c.Proper)
    (hs : ∀ s ∈ steps, s.Talks) (ht : MockServer.Transmissible options ((begin c options).said steps)) :
    ((begin c options).run steps).client.session.transport.sent =
      c.session.transport.sent ++ ((begin c options).said steps).map (·.message.encode) := by
  obtain ⟨_, _, h⟩ := keeps_run ho hc hp hs ht
  rw [h.client, h.served.talking.sent_after h.served.talks]
  rfl

end Dialogue
end LanguageClient
