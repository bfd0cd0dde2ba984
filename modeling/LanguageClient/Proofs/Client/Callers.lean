import LanguageClient.Proofs.Client.Moves

namespace LanguageClient

variable {ds : List Caller} {d : Caller}

-- A list of callers whose numbers lie below `issued` and whose tickets lie below `tickets`.
structure Roll (ds : List Caller) (issued tickets : Nat) : Prop where
  numbers : (ds.map (·.number)).Nodup
  below   : ∀ d ∈ ds, d.number < issued
  given   : ∀ d ∈ ds, ∀ ticket, d.phase = .waiting ticket → ticket < tickets

namespace Roll

variable {issued tickets : Nat}

theorem mono (h : Roll ds issued tickets) {tickets' : Nat} (ht : tickets ≤ tickets') :
    Roll ds issued tickets' where
  numbers := h.numbers
  below   := h.below
  given   := fun d hd ticket hp => Nat.lt_of_lt_of_le (h.given d hd ticket hp) ht

theorem filter (h : Roll ds issued tickets) (p : Caller → Bool) :
    Roll (ds.filter p) issued tickets where
  numbers := h.numbers.sublist (List.filter_sublist.map _)
  below   := fun d hd => h.below d (List.mem_of_mem_filter hd)
  given   := fun d hd => h.given d (List.mem_of_mem_filter hd)

theorem add (h : Roll ds issued tickets) (label : String) (call : Call) {phase : Phase}
    (hp : ∀ ticket, phase = .waiting ticket → ticket < tickets) :
    Roll (ds ++ [⟨issued, label, call, phase⟩]) (issued + 1) tickets where
  numbers := by
    rw [List.map_append]
    refine List.nodup_append.mpr ⟨h.numbers, List.nodup_singleton _, fun n hn k hk => ?_⟩
    have ⟨d, hd, hn⟩ := List.mem_map.mp hn
    have hb := h.below d hd
    simp only [List.map_cons, List.map_nil, List.mem_singleton] at hk
    omega
  below := by
    intro d hd
    rcases List.mem_append.mp hd with hd | hd
    · exact Nat.lt_succ_of_lt (h.below d hd)
    · cases List.mem_singleton.mp hd
      exact Nat.lt_succ_self _
  given := by
    intro d hd
    rcases List.mem_append.mp hd with hd | hd
    · exact h.given d hd
    · cases List.mem_singleton.mp hd
      exact hp

theorem await (h : Roll ds issued tickets) (number : Nat) {ticket : Nat} (ht : ticket < tickets) :
    Roll (ds.map fun d => if d.number = number then { d with phase := .waiting ticket } else d)
      issued tickets where
  numbers := by
    rw [List.map_map]
    refine List.Nodup.map_on (fun d hd d' hd' he => ?_) h.numbers.of_map
    refine List.inj_on_of_nodup_map h.numbers hd hd' ?_
    simp only [Function.comp_apply] at he
    split at he
    all_goals
      split at he
      all_goals exact he
  below := by
    intro d hd
    have ⟨d', hd', he⟩ := List.mem_map.mp hd
    have hb := h.below d' hd'
    subst he
    split
    · exact hb
    · exact hb
  given := by
    intro d hd k hk
    have ⟨d', hd', he⟩ := List.mem_map.mp hd
    subst he
    split at hk
    · cases hk
      exact ht
    · exact h.given d' hd' k hk

theorem find?_eq (h : Roll ds issued tickets) (hd : d ∈ ds) :
    ds.find? (·.number = d.number) = some d := by
  have hf : (ds.find? (·.number = d.number)).isSome :=
    List.find?_isSome.mpr ⟨d, hd, by simp⟩
  have ⟨d', hd'⟩ := Option.isSome_iff_exists.mp hf
  have hn : d'.number = d.number := by simpa using List.find?_some hd'
  rw [hd', List.inj_on_of_nodup_map h.numbers (List.mem_of_find?_eq_some hd') hd hn]

end Roll

namespace Session

variable {s t : Session} {ticket : Nat}

theorem send_ticket {method : String} {params : Json} {handle : Handle}
    (h : s.send method params = (.ok handle, t)) :
    handle.ticket = s.pending.issued ∧ handle.ticket < t.pending.issued := by
  cases ha : s.lifecycle.acceptsTraffic
  case false =>
    rw [send_closed ha] at h
    cases h
  case true =>
    match hr : s.transport.sendRefusal? with
    | none =>
      have ⟨_, hs⟩ := send_accepted ha hr method params
      cases hs.symm.trans h
      exact ⟨rfl, Nat.lt_succ_self _⟩
    | some _ =>
      have ⟨_, hs⟩ := send_refused ha hr method params
      cases hs.symm.trans h

theorem ask_ticket (s : Session) {call : Call} {method : String} {params : Json}
    (h : s.ask call method params = (.waiting ticket, t)) :
    ticket = s.pending.issued ∧ ticket < t.pending.issued := by
  rw [ask] at h
  cases hs : s.send method params
  case mk r s' =>
    rw [hs] at h
    cases r
    case error => cases h
    case ok handle =>
      cases h
      exact send_ticket hs

theorem begin_ticket {call : Call} (h : s.begin call = (.waiting ticket, t)) :
    ticket = s.pending.issued ∧ ticket < t.pending.issued := by
  cases call
  case response => cases h
  case handshake =>
    simp only [Session.begin] at h
    split at h
    · cases h
    · exact ask_ticket { s with handshake := .awaitingResponse } h
  all_goals
    rw [Session.begin] at h
    exact ask_ticket s h

theorem issued_le_actAll (s : Session) (as : List Action) :
    s.pending.issued ≤ (s.actAll as).pending.issued := by
  rw [pending_actAll, Pending.issued_performAll]
  exact Nat.le_add_right ..

end Session

namespace Client

variable {c : Client}

def Enrolled (c : Client) : Prop :=
  Roll c.callers c.issued c.session.pending.issued

structure Proper (c : Client) : Prop where
  orderly  : c.session.Orderly
  numbered : c.session.Numbered
  enrolled : c.Enrolled

theorem idle_proper : idle.Proper where
  orderly  := Session.idle_orderly
  numbered := Session.idle_numbered
  enrolled := ⟨List.nodup_nil, nofun, nofun⟩

namespace Enrolled

theorem performed {i : Input} {c' : Client} (h : c.Enrolled) (hi : c.Performed i c') :
    c'.Enrolled := by
  have hm := h.mono (c.session.issued_le_actAll i.actions)
  rw [← hi.session_eq] at hm
  cases hi
  case sends label _ _ handle _ hs =>
    refine hm.add label .response fun ticket ht => ?_
    cases ht
    exact (Session.send_ticket hs).right
  case calls label call => exact hm.add label call nofun
  case abandons         => exact hm.filter _
  case acts | stays     => exact hm

theorem resumed {d : Caller} {c' : Client} (h : c.Enrolled) (hr : c.Resumed d c') :
    c'.Enrolled := by
  have hm := h.mono (c.session.issued_le_actAll (resuming c.session d))
  rw [← hr.session_eq] at hm
  cases hr
  case waits hp hb => exact hm.await d.number (Session.begin_ticket hb).right
  case settles     => exact hm.filter _
  case stays       => exact h
  case ends        => exact hm.filter _

theorem turned {t : Turn} {c' : Client} (h : c.Enrolled) (ht : c.Turned t c') : c'.Enrolled := by
  have hm := h.mono (c.session.issued_le_actAll (c.actions (.turn t)))
  rw [← ht.session_eq] at hm
  cases ht
  case routes         => exact hm
  case resumes hr     => exact h.resumed hr
  case strange | gone => exact h

end Enrolled

namespace Proper

theorem move (h : c.Proper) (m : Move) : (c.move m).Proper where
  orderly  := c.session_move m ▸ h.orderly.actAll _
  numbered := c.session_move m ▸ h.numbered.actAll _
  enrolled := by
    cases m
    case input i => exact h.enrolled.performed (c.performed i)
    case turn t  =>
      have he : Enrolled { c with turns := c.turns.erase t } := h.enrolled
      exact he.turned (turned _ t)

theorem after (h : c.Proper) (ms : List Move) : (c.after ms).Proper := by
  induction ms generalizing c
  case nil          => exact h
  case cons m ms hi => exact hi (h.move m)

end Proper
end Client
end LanguageClient
