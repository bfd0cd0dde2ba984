import LanguageClient.Proofs.Json.Tokens

namespace LanguageClient.Json

variable {s s' : State} {c : Char} {cs rest t ds : List Char} {stack : List Frame} {n k : Nat} {v w : Json}
  {ms : Members} {key : String} {first isKey : Bool} {q q' : Quoted}

def room (stack : List Frame) : Nat := maxDepth - stack.length

-- The text completes the containers that are open, once the value `w` is complete, and makes `v` of them.
def Closes : List Frame → Json → List Char → Json → Prop
  | [], w, cs, v                         => Blank cs [] ∧ v = w
  | .array items :: stack, w, cs, v      => ∃ vs rest,
      Derives (room (.array items :: stack)) cs (.moreItems vs) rest ∧
      Closes stack (.arr (items.reverse ++ w :: vs)) rest v
  | .object members key :: stack, w, cs, v => ∃ ps rest,
      Derives (room (.object members key :: stack)) cs (.moreMembers ps) rest ∧
      Closes stack (.obj (addAll (Members.insert key w members) ps)) rest v

def AtValue (stack : List Frame) (cs : List Char) (v : Json) : Prop :=
  ∃ cs₁ w rest, Blank cs cs₁ ∧ Derives (room stack) cs₁ (.value w) rest ∧ Closes stack w rest v

def AtColon (stack : List Frame) (cs : List Char) (v : Json) : Prop :=
  ∃ rest, Blank cs (':' :: rest) ∧ AtValue stack rest v

def AtKey (members : Members) (stack : List Frame) (cs : List Char) (v : Json) : Prop :=
  ∃ cs₁ t rest, Blank cs ('"' :: cs₁) ∧ Chars cs₁ t rest ∧
    AtColon (.object members (String.ofList t) :: stack) rest v

def AfterString (isKey : Bool) (stack : List Frame) (t : List Char) (cs : List Char) (v : Json) : Prop :=
  match isKey, stack with
  | true, .object members _ :: stack => AtColon (.object members (String.ofList t) :: stack) cs v
  | _, stack                         => Closes stack (.str (String.ofList t)) cs v

-- The text completes what the machine has read when it is in a state that it can come to.
def Completes (s : State) (cs : List Char) (v : Json) : Prop :=
  match s.mode, s.stack with
  | .value, stack                        => AtValue stack cs v
  | .item first, .array items :: stack   =>
    first ∧ (∃ rest, Blank cs (']' :: rest) ∧ Closes stack (.arr items.reverse) rest v) ∨
    AtValue (.array items :: stack) cs v
  | .key first, .object members _ :: stack =>
    first ∧ (∃ rest, Blank cs ('}' :: rest) ∧ Closes stack (.obj members) rest v) ∨ AtKey members stack cs v
  | .colon, stack                        => AtColon stack cs v
  | .after, .array items :: stack        => ∃ vs rest,
    Derives (room (.array items :: stack)) cs (.moreItems vs) rest ∧
    Closes stack (.arr (items.reverse ++ vs)) rest v
  | .after, .object members key :: stack => ∃ ps rest,
    Derives (room (.object members key :: stack)) cs (.moreMembers ps) rest ∧
    Closes stack (.obj (addAll members ps)) rest v
  | .finished w, []                      => Blank cs [] ∧ v = w
  | .literal ds w, stack                 => ∃ rest, cs = ds ++ rest ∧ Closes stack w rest v
  | .string isKey q, stack               => ∃ t rest, q.Completes cs t rest ∧
    AfterString isKey stack (q.chars.reverse ++ t) rest v
  | .number n, stack                     =>
    ∃ t n' x rest, cs = t ++ rest ∧ n.through? t = some n' ∧ Ended n' x ∧ Closes stack (.num x) rest v
  | _, _                                 => True

theorem completes_put : Completes (put stack w) cs v ↔ Closes stack w cs v := by
  unfold put
  split
  all_goals simp [Completes, Closes, room]

theorem completes_endString (h : Completes (endString stack isKey q) cs v) :
    AfterString isKey stack q.chars.reverse cs v := by
  obtain - | ⟨⟨items⟩ | ⟨members, key⟩, stack⟩ := stack
  case cons.object =>
    cases isKey
    case false => exact completes_put.mp h
    case true  => exact h
  all_goals
    cases isKey
    all_goals exact completes_put.mp h

theorem space_moreItems {vs : List Json} (hc : isSpace c) (h : Derives n cs (.moreItems vs) rest) :
    Derives n (c :: cs) (.moreItems vs) rest := by
  cases h
  case lastItem h    => exact .lastItem (.space hc h)
  case nextItem hb h => exact .nextItem (.space hc hb) h

theorem space_moreMembers {ps : Members} (hc : isSpace c) (h : Derives n cs (.moreMembers ps) rest) :
    Derives n (c :: cs) (.moreMembers ps) rest := by
  cases h
  case lastMember h    => exact .lastMember (.space hc h)
  case nextMember hb h => exact .nextMember (.space hc hb) h

section Next

variable {items : List Json}

theorem completes_space (hm : s.mode.isBetween) (hc : isSpace c) (h : Completes s cs v) :
    Completes s (c :: cs) v := by
  obtain ⟨stack, mode⟩ := s
  cases mode
  case literal | string | number => cases hm
  case value =>
    obtain ⟨cs₁, w, rest, hb, hr⟩ := h
    exact ⟨cs₁, w, rest, .space hc hb, hr⟩
  case colon =>
    obtain ⟨rest, hb, hr⟩ := h
    exact ⟨rest, .space hc hb, hr⟩
  case finished =>
    cases stack
    case nil  => exact ⟨.space hc h.left, h.right⟩
    case cons => trivial
  all_goals obtain - | ⟨⟨items⟩ | ⟨members, key⟩, stack⟩ := stack
  all_goals try trivial
  case item.cons.array =>
    obtain ⟨hf, rest, hb, hr⟩ | ⟨cs₁, w, rest, hb, hr⟩ := h
    · exact .inl ⟨hf, rest, .space hc hb, hr⟩
    · exact .inr ⟨cs₁, w, rest, .space hc hb, hr⟩
  case key.cons.object =>
    obtain ⟨hf, rest, hb, hr⟩ | ⟨cs₁, t, rest, hb, hr⟩ := h
    · exact .inl ⟨hf, rest, .space hc hb, hr⟩
    · exact .inr ⟨cs₁, t, rest, .space hc hb, hr⟩
  case after.cons.array =>
    obtain ⟨vs, rest, hv, hr⟩ := h
    exact ⟨vs, rest, space_moreItems hc hv, hr⟩
  case after.cons.object =>
    obtain ⟨ps, rest, hp, hr⟩ := h
    exact ⟨ps, rest, space_moreMembers hc hp, hr⟩

theorem completes_nextItem (h : Completes ⟨.array items :: stack, .item false⟩ cs v) :
    Completes ⟨.array items :: stack, .after⟩ (',' :: cs) v := by
  obtain ⟨hf, _⟩ | ⟨_, w, _, hb, hv, vs, rest, hvs, hr⟩ := h
  · cases hf
  · exact ⟨w :: vs, rest, .nextItem .none (.item hb hv hvs), hr⟩

theorem completes_lastItem (h : Closes stack (.arr items.reverse) cs v) :
    Completes ⟨.array items :: stack, .after⟩ (']' :: cs) v :=
  ⟨[], cs, .lastItem .none, by simpa using h⟩

theorem completes_nextMember (h : Completes ⟨.object ms key :: stack, .key false⟩ cs v) :
    Completes ⟨.object ms key :: stack, .after⟩ (',' :: cs) v := by
  obtain ⟨hf, _⟩ | ⟨_, t, _, hb, ht, _, hc, _, w, _, hs, hv, ps, rest, hps, hr⟩ := h
  · cases hf
  · exact ⟨(String.ofList t, w) :: ps, rest, .nextMember .none (.member hb ht hc hs hv hps), hr⟩

theorem completes_lastMember (h : Closes stack (.obj ms) cs v) :
    Completes ⟨.object ms key :: stack, .after⟩ ('}' :: cs) v :=
  ⟨[], cs, .lastMember .none, h⟩

theorem completes_afterStep (hm : s.mode = .after ∨ ∃ w, s.mode = .finished w) (hs : afterStep s c = .ok s')
    (h : Completes s' cs v) : Completes s (c :: cs) v := by
  rw [afterStep] at hs
  by_cases hc : isSpace c
  case pos =>
    rw [if_pos hc] at hs
    cases hs
    refine completes_space ?_ hc h
    obtain hm | ⟨w, hm⟩ := hm
    all_goals rw [hm]; rfl
  case neg =>
    rw [if_neg hc] at hs
    obtain ⟨stack, mode⟩ := s
    obtain rfl | ⟨w, rfl⟩ := hm
    case inr =>
      cases stack
      case nil  => cases hs
      case cons => trivial
    case inl =>
      obtain - | ⟨⟨items⟩ | ⟨members, key⟩, stack⟩ := stack
      case nil => trivial
      all_goals
        simp only at hs
        split_ifs at hs with hn hl
        all_goals cases hs
      · exact hn ▸ completes_nextItem h
      · exact hl ▸ completes_lastItem (completes_put.mp h)
      · exact hn ▸ completes_nextMember h
      · exact hl ▸ completes_lastMember (completes_put.mp h)

theorem closes_afterStep (hs : afterStep (put stack w) c = .ok s') (h : Completes s' cs v) :
    Closes stack w (c :: cs) v :=
  completes_put.mp (completes_afterStep ((mode_put stack w).imp_right fun hm => ⟨w, hm⟩) hs h)

end Next

theorem room_cons (top : Frame) (h : stack.length < maxDepth) : room stack = room (top :: stack) + 1 := by
  rw [room, room, List.length_cons]
  omega

theorem completes_array (hl : stack.length < maxDepth) (h : Completes ⟨.array [] :: stack, .item true⟩ cs v) :
    ∃ w rest, Derives (room stack) ('[' :: cs) (.value w) rest ∧ Closes stack w rest v := by
  rw [room_cons (.array []) hl]
  obtain ⟨_, rest, hb, hr⟩ | ⟨_, w, _, hb, hv, vs, rest, hvs, hr⟩ := h
  · exact ⟨_, rest, .array (.noItems hb), hr⟩
  · exact ⟨_, rest, .array (.item hb hv hvs), hr⟩

theorem completes_object (hl : stack.length < maxDepth)
    (h : Completes ⟨.object [] "" :: stack, .key true⟩ cs v) :
    ∃ w rest, Derives (room stack) ('{' :: cs) (.value w) rest ∧ Closes stack w rest v := by
  rw [room_cons (.object [] "") hl]
  obtain ⟨_, rest, hb, hr⟩ | ⟨_, t, _, hb, ht, _, hc, _, w, _, hs, hv, ps, rest, hps, hr⟩ := h
  · exact ⟨_, rest, .object (.noMembers hb), hr⟩
  · exact ⟨_, rest, .object (.member hb ht hc hs hv hps), hr⟩

theorem completes_number {m : Numeral} (hc : Numeral.first? c = some m) (h : Completes ⟨stack, .number m⟩ cs v) :
    ∃ w rest, Derives (room stack) (c :: cs) (.value w) rest ∧ Closes stack w rest v := by
  obtain ⟨t, m', x, rest, rfl, hm, he, hr⟩ := h
  exact ⟨_, rest, .number (evaluates_iff.mpr ⟨c, t, m, m', rfl, hc, hm, he⟩), hr⟩

theorem completes_valueStep (hs : valueStep stack c = .ok s') (h : Completes s' cs v) :
    ∃ w rest, Derives (room stack) (c :: cs) (.value w) rest ∧ Closes stack w rest v := by
  unfold valueStep at hs
  split at hs
  case h_1 | h_2 | h_3 =>
    cases hs
    obtain ⟨rest, rfl, hr⟩ := h
    exact ⟨_, rest, by constructor, hr⟩
  case h_4 =>
    cases hs
    obtain ⟨t, rest, ht, hr⟩ := h
    exact ⟨_, rest, .string ht, hr⟩
  case h_5 =>
    rw [openFrame] at hs
    split_ifs at hs with hl
    cases hs
    exact completes_array hl h
  case h_6 =>
    rw [openFrame] at hs
    split_ifs at hs with hl
    cases hs
    exact completes_object hl h
  case h_7 =>
    cases hs
    exact completes_number rfl h
  case h_8 hm =>
    split_ifs at hs with hd
    cases hs
    exact completes_number (by rw [Numeral.first?, if_neg hm, if_pos hd]) h

theorem completes_finish (h : finish s = .ok v) : Completes s [] v := by
  obtain ⟨stack, mode⟩ := s
  cases mode
  case finished w =>
    cases h
    cases stack
    case nil  => exact ⟨.none, rfl⟩
    case cons => trivial
  case number n =>
    simp only [finish] at h
    split_ifs at h with hc
    split at h
    case h_1 => cases h
    case h_2 x hx =>
      -- A number at the end of the text must not stand inside a container.
      obtain - | ⟨⟨items⟩ | ⟨members, key⟩, stack⟩ := stack
      case nil =>
        cases h
        exact ⟨[], n, x, [], rfl, rfl, ⟨hc, hx⟩, .none, rfl⟩
      all_goals cases h
  case after =>
    obtain - | ⟨⟨items⟩ | ⟨members, key⟩, stack⟩ := stack
    all_goals cases h
  all_goals cases h

theorem completes_step (hs : step s c = .ok s') (h : Completes s' cs v) : Completes s (c :: cs) v := by
  obtain ⟨stack, mode⟩ := s
  cases mode
  case value =>
    simp only [step] at hs
    split_ifs at hs with hc
    · cases hs
      exact completes_space rfl hc h
    · obtain ⟨w, rest, hw⟩ := completes_valueStep hs h
      exact ⟨_, w, rest, .none, hw⟩
  case item first =>
    obtain - | ⟨⟨items⟩ | ⟨members, key⟩, stack⟩ := stack
    all_goals try trivial
    simp only [step] at hs
    split_ifs at hs with hc he hf
    · cases hs
      exact completes_space rfl hc h
    · cases hs
      exact .inl ⟨hf, cs, he ▸ .none, completes_put.mp h⟩
    · obtain ⟨w, rest, hw⟩ := completes_valueStep hs h
      exact .inr ⟨_, w, rest, .none, hw⟩
  case key first =>
    obtain - | ⟨⟨items⟩ | ⟨members, key⟩, stack⟩ := stack
    all_goals try trivial
    simp only [step, keyStep] at hs
    split_ifs at hs with hc hq he hf
    all_goals cases hs
    · exact completes_space rfl hc h
    · obtain ⟨t, rest, ht, hr⟩ := h
      exact .inr ⟨cs, t, rest, hq ▸ .none, ht, hr⟩
    · exact .inl ⟨hf, cs, he ▸ .none, completes_put.mp h⟩
  case colon =>
    simp only [step] at hs
    split_ifs at hs with hc he
    all_goals cases hs
    · exact completes_space rfl hc h
    · exact ⟨cs, he ▸ .none, h⟩
  case after => exact completes_afterStep (.inl rfl) hs h
  case finished w => exact completes_afterStep (.inr ⟨w, rfl⟩) hs h
  case literal ds w =>
    cases ds
    case nil =>
      exact ⟨_, rfl, closes_afterStep hs h⟩
    case cons d ds =>
      simp only [step] at hs
      split_ifs at hs with hd he
      all_goals cases hs
      · exact ⟨cs, by rw [not_not.mp hd, he]; rfl, completes_put.mp h⟩
      · obtain ⟨rest, rfl, hr⟩ := h
        exact ⟨rest, by rw [not_not.mp hd]; rfl, hr⟩
  case string isKey q =>
    simp only [step] at hs
    split at hs
    case h_1 => cases hs
    case h_2 hq =>
      cases hs
      exact ⟨[], cs, Quoted.completes_end hq, by simpa using completes_endString h⟩
    case h_3 q' hq =>
      cases hs
      obtain ⟨t, rest, ht, hr⟩ := h
      obtain ⟨u, hu, he⟩ := Quoted.completes_step hq ht
      exact ⟨u ++ t, rest, hu, he ▸ hr⟩
  case number n =>
    simp only [step] at hs
    split at hs
    case h_1 m hm =>
      cases hs
      obtain ⟨t, m', x, rest, rfl, ht, hr⟩ := h
      exact ⟨c :: t, m', x, rest, rfl, by simpa only [Numeral.through?, hm] using ht, hr⟩
    case h_2 => cases hs
    case h_3 => cases hs
    case h_4 hm =>
      split at hs
      case h_1 => cases hs
      case h_2 x hx =>
        exact ⟨[], n, x, c :: cs, rfl, rfl, ⟨Numeral.isComplete_of_over hm, hx⟩,
          closes_afterStep hs h⟩

theorem completes_of_reading (h : reading s cs = .ok v) : Completes s cs v := by
  induction cs generalizing s
  case nil          => exact completes_finish h
  case cons c cs hi =>
    cases hs : step s c
    case error e => simp [reading, run, hs] at h
    case ok s'   =>
      rw [reading_cons hs] at h
      exact completes_step hs (hi h)

theorem parse_eq_ok_iff {text : String} : parse text = .ok v ↔ Denotes text.toList v := by
  constructor
  case mp =>
    intro h
    have hr : reading start text.toList = .ok v := by
      rw [reading]
      rw [parse] at h
      cases hs : run start text.toList
      case ok s =>
        rw [hs] at h
        simp only at h ⊢
        cases hf : finish s
        case ok w    => simpa [hf, Except.mapError] using h
        case error e => simp [hf, Except.mapError] at h
      case error e =>
        rw [hs] at h
        cases h
    obtain ⟨cs, w, rest, hb, hv, hr, rfl⟩ := completes_of_reading hr
    exact ⟨cs, rest, hb, hv, hr⟩
  case mpr => exact fun h => parse_eq_ok (reading_of_denotes h)

end LanguageClient.Json
