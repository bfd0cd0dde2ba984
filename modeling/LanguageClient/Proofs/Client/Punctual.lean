import LanguageClient.Proofs.Client.Handshake

namespace LanguageClient

variable {d : Caller} {ticket : Nat} {outcome : Except Failure Json}

namespace Client

variable {c : Client} {m : Move} {ms ms₁ ms₂ : List Move}

theorem told?_after (h : c.Proper) (ht : c.told? d = some outcome) (ms : List Move) :
    (c.after ms).told? d = some outcome := by
  rw [told?] at ht ⊢
  split at ht
  case h_1 => cases ht
  case h_2 =>
    rw [session_after]
    exact h.numbered.outcome?_actAll ht _

theorem told?_move (h : c.Proper) (ht : c.told? d = some outcome) (m : Move) :
    (c.move m).told? d = some outcome :=
  told?_after h ht [m]

theorem told?_start (h : c.Proper) (hd : d ∈ c.callers) (hp : d.phase = .waiting ticket)
    (ht : c.told? d = none) (command : String) (args : List String) :
    ∃ f, (c.move (.input (.start command args))).told? d = some (.error f) := by
  have hn := h.numbered
  have hl := h.enrolled.given d hd ticket hp
  rw [told?_of_waiting _ hp] at ht ⊢
  rw [session_move]
  have ⟨e, he, hte⟩ := hn.sound.exists_entry hl ht
  have hn' := hn.act (.start command args)
  have hl' := Nat.lt_of_lt_of_le hl (c.session.issued_le_actAll [.start command args])
  have ⟨outcome, ho⟩ := hn'.sound.outcome?_isSome (h.orderly.start_entries command args) hl'
  cases outcome
  case error f => exact ⟨f, ho⟩
  case ok v =>
    -- An answer would have to come before the start.
    subst hte
    have ho : (c.session.actAll [.start command args]).pending.outcome? e.ticket = some (.ok v) := ho
    have ⟨between, _, _, _, hb, hs, _⟩ := Session.answered_of_waiting h.orderly hn he ho rfl
    cases between
    case nil         => cases hb
    case cons a rest =>
      cases (List.cons.inj hb).left
      cases (List.forall_mem_cons.mp hs).left

def Move.isStart : Move → Bool
  | .input (.start ..) => true
  | _ => false

-- No caller of `initialize` has been told something and has yet to resume.
def Attended (c : Client) : Prop :=
  ∀ d ∈ c.callers, d.call.isHandshake → c.told? d = none

instance : Decidable c.Attended :=
  inferInstanceAs (Decidable (∀ d ∈ c.callers, _ → _ = none))

def Punctual (c : Client) : List Move → Prop
  | []      => True
  | m :: ms => (m.isStart ∨ c.Fresh m → c.Attended) ∧ (c.move m).Punctual ms

theorem punctual_append : c.Punctual (ms₁ ++ ms₂) ↔ c.Punctual ms₁ ∧ (c.after ms₁).Punctual ms₂ := by
  induction ms₁ generalizing c
  case nil          => exact (iff_of_eq (true_and _)).symm
  case cons m ms hi => rw [List.cons_append, Punctual, hi, Punctual, after_cons, and_assoc]

def Spent (c : Client) : Prop :=
  ∀ d ∈ c.callers, ∀ ticket, d.Initializes ticket → ∃ f, c.told? d = some (.error f)

theorem Attended.spent_start (ha : c.Attended) (h : c.Proper) (command : String)
    (args : List String) : (c.move (.input (.start command args))).Spent :=
  fun d hd _ hw => told?_start h (d := d) hd hw.phase (ha d hd hw.call) command args

end Client
end LanguageClient
