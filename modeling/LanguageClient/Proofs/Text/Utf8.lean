import LanguageClient.Text.Utf8

namespace LanguageClient.Utf8

variable {a b : UInt8} {more tail rest bytes : Bytes} {c : Char} {cs : List Char} {ps : List Piece}

theorem width_eq (a : UInt8) : width a =
    if a.toNat < 128 then 1
    else if 194 ≤ a.toNat ∧ a.toNat ≤ 223 then 2
    else if 224 ≤ a.toNat ∧ a.toNat ≤ 239 then 3
    else if 240 ≤ a.toNat ∧ a.toNat ≤ 244 then 4
    else 0 := by
  simp [width, UInt8.lt_iff_toNat_lt, UInt8.le_iff_toNat_le]

theorem width_eq_iff {n : Nat} (hn : 0 < n) : width a = n ↔
    n = 1 ∧ a.toNat < 128 ∨ n = 2 ∧ 194 ≤ a.toNat ∧ a.toNat ≤ 223 ∨
      n = 3 ∧ 224 ≤ a.toNat ∧ a.toNat ≤ 239 ∨ n = 4 ∧ 240 ≤ a.toNat ∧ a.toNat ≤ 244 := by
  rw [width_eq]
  repeat' split
  all_goals omega

theorem width_ascii (h : a.toNat < 128) : width a = 1 :=
  (width_eq_iff Nat.one_pos).mpr (.inl ⟨rfl, h⟩)

theorem width_le_four (a : UInt8) : width a ≤ 4 := by
  rw [width_eq]
  repeat' split
  all_goals omega

theorem isContinuation_iff : isContinuation b ↔ 128 ≤ b.toNat ∧ b.toNat ≤ 191 := by
  simp [isContinuation, UInt8.le_iff_toNat_le]

theorem isSecond_iff : isSecond a b ↔ 128 ≤ b.toNat ∧ b.toNat ≤ 191 ∧
    (a.toNat = 224 → 160 ≤ b.toNat) ∧ (a.toNat = 237 → b.toNat ≤ 159) ∧
    (a.toNat = 240 → 144 ≤ b.toNat) ∧ (a.toNat = 244 → b.toNat ≤ 143) := by
  simp only [isSecond, isContinuation, ← UInt8.toNat_inj, UInt8.le_iff_toNat_le,
    UInt8.reduceToNat]
  split
  · simp; omega
  split
  · simp; omega
  split
  · simp; omega
  split
  · simp; omega
  · simp; omega

def follows (a : UInt8) (more : Bytes) : Bytes → Bool
  | []        => true
  | b :: tail => continues a more b && follows a (more ++ [b]) tail

structure IsChar (a : UInt8) (more : Bytes) : Prop where
  width   : width a = more.length + 1
  follows : follows a [] more

def charOf (a : UInt8) (more : Bytes) : Char :=
  if more = [] then join 128 a [] else join (Nat.pow 2 (7 - width a)) a more

theorem toNat_ofNat {n : Nat} (h : n.isValidChar) : (Char.ofNat n).val.toNat = n := by
  rw [Char.ofNat, dif_pos h]
  rfl

theorem ofNat_eq {n : Nat} (h : n = a.toNat) : UInt8.ofNat n = a := by
  rw [h, UInt8.ofNat_toNat]

inductive Kind (a : UInt8) : Bytes → Prop
  | one (ha : a.toNat < 128) : Kind a []
  | two {b : UInt8} (ha : 194 ≤ a.toNat ∧ a.toNat ≤ 223) (hb : isSecond a b) : Kind a [b]
  | three {b c : UInt8} (ha : 224 ≤ a.toNat ∧ a.toNat ≤ 239) (hb : isSecond a b)
      (hc : isContinuation c) : Kind a [b, c]
  | four {b c d : UInt8} (ha : 240 ≤ a.toNat ∧ a.toNat ≤ 244) (hb : isSecond a b)
      (hc : isContinuation c) (hd : isContinuation d) : Kind a [b, c, d]

theorem isChar_iff : IsChar a more ↔ Kind a more := by
  constructor
  case mp =>
    intro ⟨hw, hf⟩
    match more with
    | []        => exact .one (by simpa [width_eq_iff] using hw)
    | [b]       => exact .two (by simpa [width_eq_iff] using hw) (by simpa [follows, continues] using hf)
    | [b, c]    =>
      have ⟨hb, hc⟩ : isSecond a b ∧ isContinuation c := by simpa [follows, continues] using hf
      exact .three (by simpa [width_eq_iff] using hw) hb hc
    | [b, c, d] =>
      have ⟨hb, hc, hd⟩ : isSecond a b ∧ isContinuation c ∧ isContinuation d := by
        simpa [follows, continues] using hf
      exact .four (by simpa [width_eq_iff] using hw) hb hc hd
    -- No character has more than four bytes.
    | b :: c :: d :: e :: more =>
      have hl := width_le_four a
      simp only [List.length_cons] at hw
      omega
  case mpr =>
    intro h
    cases h
    case one ha            => exact ⟨width_ascii ha, rfl⟩
    case two ha hb         => exact ⟨by simp [width_eq_iff, ha], by simp [follows, continues, hb]⟩
    case three ha hb hc    => exact ⟨by simp [width_eq_iff, ha], by simp [follows, continues, hb, hc]⟩
    case four ha hb hc hd  => exact ⟨by simp [width_eq_iff, ha], by simp [follows, continues, hb, hc, hd]⟩

theorem encodeChar_charOf (h : IsChar a more) :
    String.utf8EncodeChar (charOf a more) = a :: more := by
  have hw := h.width
  cases isChar_iff.mp h
  case one ha =>
    have he : charOf a [] = Char.ofNat (a.toNat % 128) := rfl
    simp only [String.utf8EncodeChar, he]
    rw [toNat_ofNat (by simp only [Nat.isValidChar]; omega), if_pos (by omega),
      ofNat_eq (a := a) (by omega)]
  case two b ha hb =>
    have hb := isSecond_iff.mp hb
    have he : charOf a [b] = Char.ofNat (a.toNat % 32 * 64 + b.toNat % 64) := by
      rw [charOf, hw]
      rfl
    simp only [String.utf8EncodeChar, he]
    rw [toNat_ofNat (by simp only [Nat.isValidChar]; omega), if_neg (by omega), if_pos (by omega),
      ofNat_eq (a := a) (by omega), ofNat_eq (a := b) (by omega)]
  case three b c ha hb hc =>
    have hb := isSecond_iff.mp hb
    have hc := isContinuation_iff.mp hc
    have he : charOf a [b, c] =
        Char.ofNat ((a.toNat % 16 * 64 + b.toNat % 64) * 64 + c.toNat % 64) := by
      rw [charOf, hw]
      rfl
    simp only [String.utf8EncodeChar, he]
    rw [toNat_ofNat (by simp only [Nat.isValidChar]; omega), if_neg (by omega), if_neg (by omega),
      if_pos (by omega), ofNat_eq (a := a) (by omega), ofNat_eq (a := b) (by omega),
      ofNat_eq (a := c) (by omega)]
  case four b c d ha hb hc hd =>
    have hb := isSecond_iff.mp hb
    have hc := isContinuation_iff.mp hc
    have hd := isContinuation_iff.mp hd
    have he : charOf a [b, c, d] = Char.ofNat
        (((a.toNat % 8 * 64 + b.toNat % 64) * 64 + c.toNat % 64) * 64 + d.toNat % 64) := by
      rw [charOf, hw]
      rfl
    simp only [String.utf8EncodeChar, he]
    rw [toNat_ofNat (by simp only [Nat.isValidChar]; omega), if_neg (by omega), if_neg (by omega),
      if_neg (by omega), ofNat_eq (a := a) (by omega), ofNat_eq (a := b) (by omega),
      ofNat_eq (a := c) (by omega), ofNat_eq (a := d) (by omega)]

theorem toNat_byte {n : Nat} (h : n < 256) : (UInt8.ofNat n).toNat = n :=
  UInt8.toNat_ofNat_of_lt' h

theorem toNat_low (n : Nat) : (UInt8.ofNat (n % 64 + 128)).toNat = n % 64 + 128 :=
  toNat_byte (by omega)

theorem isContinuation_low (n : Nat) : isContinuation (UInt8.ofNat (n % 64 + 128)) := by
  rw [isContinuation_iff, toNat_low]
  omega

theorem encodeChar_eq (c : Char) :
    ∃ a more, String.utf8EncodeChar c = a :: more ∧ IsChar a more ∧ charOf a more = c := by
  have hv : c.val.toNat < 0xd800 ∨ 0xdfff < c.val.toNat ∧ c.val.toNat < 0x110000 := c.valid
  have ho : Char.ofNat c.val.toNat = c := c.ofNat_toNat
  rw [String.utf8EncodeChar]
  generalize c.val.toNat = n at hv ho ⊢
  -- The cases differ in the number of bytes. In each of them the payload bits spell the code again.
  split
  case isTrue h =>
    have ha := toNat_byte (n := n) (by omega)
    have hc := isChar_iff.mpr (.one (a := UInt8.ofNat n) (by omega))
    refine ⟨_, _, rfl, hc, ho ▸ ?_⟩
    exact congrArg Char.ofNat (by rw [List.foldl_nil, ha]; omega)
  split
  case isTrue _ h =>
    have ha := toNat_byte (n := n / 64 % 32 + 192) (by omega)
    have hb := toNat_low n
    have hs : isSecond (UInt8.ofNat (n / 64 % 32 + 192)) (UInt8.ofNat (n % 64 + 128)) :=
      isSecond_iff.mpr (by omega)
    have hc := isChar_iff.mpr (.two (by omega) hs)
    have hn : (n / 64 % 32 + 192) % 32 * 64 + (n % 64 + 128) % 64 = n := by omega
    refine ⟨_, _, rfl, hc, ho ▸ ?_⟩
    rw [charOf, hc.width]
    exact congrArg Char.ofNat (by rw [List.foldl_cons, List.foldl_nil, ha, hb]; exact hn)
  split
  case isTrue _ _ h =>
    have ha := toNat_byte (n := n / 4096 % 16 + 224) (by omega)
    have hb := toNat_low (n / 64)
    have hl := toNat_low n
    have hs : isSecond (UInt8.ofNat (n / 4096 % 16 + 224)) (UInt8.ofNat (n / 64 % 64 + 128)) :=
      isSecond_iff.mpr (by omega)
    have hc := isChar_iff.mpr (.three (by omega) hs (isContinuation_low n))
    have hn : ((n / 4096 % 16 + 224) % 16 * 64 + (n / 64 % 64 + 128) % 64) * 64 +
        (n % 64 + 128) % 64 = n := by omega
    refine ⟨_, _, rfl, hc, ho ▸ ?_⟩
    rw [charOf, hc.width]
    exact congrArg Char.ofNat (by simp only [List.foldl_cons, List.foldl_nil, ha, hb, hl]; exact hn)
  case isFalse =>
    have ha := toNat_byte (n := n / 262144 % 8 + 240) (by omega)
    have hb := toNat_low (n / 4096)
    have hm := toNat_low (n / 64)
    have hl := toNat_low n
    have hs : isSecond (UInt8.ofNat (n / 262144 % 8 + 240)) (UInt8.ofNat (n / 4096 % 64 + 128)) :=
      isSecond_iff.mpr (by omega)
    have hk := Kind.four (by omega) hs (isContinuation_low (n / 64)) (isContinuation_low n)
    have hc := isChar_iff.mpr hk
    have hn : (((n / 262144 % 8 + 240) % 8 * 64 + (n / 4096 % 64 + 128) % 64) * 64 +
        (n / 64 % 64 + 128) % 64) * 64 + (n % 64 + 128) % 64 = n := by omega
    refine ⟨_, _, rfl, hc, ho ▸ ?_⟩
    rw [charOf, hc.width]
    exact congrArg Char.ofNat <| by
      simp only [List.foldl_cons, List.foldl_nil, ha, hb, hm, hl]
      exact hn

theorem cut_nil_cons (a : UInt8) (rest : Bytes) : cut [] (a :: rest) =
    match width a with
    | 0 => .invalid 1 :: cut [] rest
    | 1 => .char (join 128 a []) :: cut [] rest
    | _ => cut [a] rest := by
  rw [cut, step, start]
  match width a with
  | 0     => rfl
  | 1     => rfl
  | _ + 2 => rfl

-- A byte inside a character. One that does not belong there is looked at again.
theorem cut_cons_cons (a : UInt8) (more : Bytes) (b : UInt8) (rest : Bytes) :
    cut (a :: more) (b :: rest) =
      if continues a more b then
        if more.length + 2 = width a then .char (charOf a (more ++ [b])) :: cut [] rest
        else cut (a :: (more ++ [b])) rest
      else .invalid (more.length + 1) :: cut [] (b :: rest) := by
  rw [cut, step]
  by_cases hc : continues a more b
  case pos =>
    rw [if_pos hc, if_pos hc]
    by_cases hw : more.length + 2 = width a
    · simp [hw, charOf]
    · rw [if_neg hw, if_neg hw]
      rfl
  case neg =>
    rw [if_neg hc, if_neg hc, cut, step]
    rfl

theorem cut_tail (a : UInt8) (more tail rest : Bytes) (hw : width a = more.length + 1 + tail.length)
    (ht : tail ≠ []) (hf : follows a more tail) :
    cut (a :: more) (tail ++ rest) = .char (charOf a (more ++ tail)) :: cut [] rest := by
  induction tail generalizing more
  case nil => cases ht rfl
  case cons b tail hi =>
    simp only [follows, Bool.and_eq_true] at hf
    rw [List.cons_append, cut_cons_cons, if_pos hf.left]
    cases tail
    case nil =>
      rw [if_pos (by rw [hw]; rfl)]
      rfl
    case cons d tail =>
      have hl : width a = (more ++ [b]).length + 1 + (d :: tail).length := by
        simp only [hw, List.length_cons, List.length_append, List.length_nil]
        omega
      rw [if_neg (by simp only [hw, List.length_cons]; omega),
        hi _ hl (List.cons_ne_nil d tail) hf.right, List.append_assoc]
      rfl

theorem cut_isChar (h : IsChar a more) (rest : Bytes) :
    cut [] (a :: more ++ rest) = .char (charOf a more) :: cut [] rest := by
  have hw := h.width
  rw [List.cons_append, cut_nil_cons, hw]
  cases more
  case nil => rfl
  case cons b more =>
    have hl : width a = ([] : Bytes).length + 1 + (b :: more).length := by
      rw [hw, List.length_nil]
      omega
    exact cut_tail a [] (b :: more) rest hl (List.cons_ne_nil b more) h.follows

theorem exists_of_cut_cons (h : cut (a :: more) bytes = .char c :: ps)
    (hw : more.length + 1 < width a) : ∃ tail rest, bytes = tail ++ rest ∧
      width a = more.length + 1 + tail.length ∧ follows a more tail ∧
      c = charOf a (more ++ tail) ∧ cut [] rest = ps := by
  induction bytes generalizing more
  case nil => cases h
  case cons b bytes hi =>
    rw [cut_cons_cons] at h
    split at h
    case isTrue hc =>
      split at h
      case isTrue hl =>
        cases h
        exact ⟨[b], bytes, rfl, hl.symm, by simp [follows, hc], rfl, rfl⟩
      case isFalse hl =>
        -- The character is still unfinished with this byte.
        have hm : (more ++ [b]).length + 1 < width a := by
          rw [List.length_append, List.length_singleton]
          omega
        have ⟨tail, rest, hb, hw, hf, hc', hr⟩ := hi h hm
        refine ⟨b :: tail, rest, by rw [hb]; rfl, ?_, by simp [follows, hc, hf], ?_, hr⟩
        · simp only [hw, List.length_append, List.length_cons, List.length_nil]
          omega
        · rw [hc', List.append_assoc]
          rfl
    case isFalse => cases h

theorem exists_of_cut (h : cut [] bytes = .char c :: ps) :
    ∃ a more rest, bytes = a :: more ++ rest ∧ IsChar a more ∧ c = charOf a more ∧
      cut [] rest = ps := by
  cases bytes
  case nil => cases h
  case cons a bytes =>
    rw [cut_nil_cons] at h
    match hw : width a with
    | 0 =>
      rw [hw] at h
      cases h
    | 1 =>
      rw [hw] at h
      cases h
      exact ⟨a, [], bytes, rfl, ⟨hw, rfl⟩, rfl, rfl⟩
    | n + 2 =>
      simp only [hw] at h
      have ⟨tail, rest, hb, hl, hf, hc, hr⟩ := exists_of_cut_cons h (by rw [hw]; simp)
      exact ⟨a, tail, rest, by rw [hb]; rfl, ⟨by rw [hl, List.length_nil]; omega, hf⟩, hc, hr⟩

theorem pieces_encode (cs : List Char) (rest : Bytes) :
    pieces (cs.flatMap String.utf8EncodeChar ++ rest) = cs.map .char ++ pieces rest := by
  induction cs
  case nil => rfl
  case cons c cs hi =>
    have ⟨a, more, he, hc, ho⟩ := encodeChar_eq c
    rw [List.flatMap_cons, List.append_assoc, he, pieces, cut_isChar hc, ho]
    exact congrArg _ hi

theorem cut_ne_nil (a : UInt8) (more : Bytes) (bytes : Bytes) : cut (a :: more) bytes ≠ [] := by
  induction bytes generalizing more
  case nil => simp [cut]
  case cons b bytes hi =>
    rw [cut_cons_cons]
    split
    · split
      · exact List.cons_ne_nil _ _
      · exact hi _
    · exact List.cons_ne_nil _ _

theorem encode_of_pieces (h : pieces bytes = cs.map .char) :
    cs.flatMap String.utf8EncodeChar = bytes := by
  induction cs generalizing bytes
  case nil =>
    cases bytes
    case nil => rfl
    case cons a bytes =>
      rw [pieces, cut_nil_cons] at h
      split at h
      · cases h
      · cases h
      · cases cut_ne_nil a [] bytes h
  case cons c cs hi =>
    have ⟨a, more, rest, hb, hc, ho, hr⟩ := exists_of_cut h
    rw [List.flatMap_cons, ho, encodeChar_charOf hc, hi hr, hb]

theorem ofPieces_chars (index : Nat) (cs : List Char) : ofPieces index (cs.map .char) = .ok cs := by
  induction cs generalizing index
  case nil          => rfl
  case cons c cs hi => rw [List.map_cons, ofPieces, hi]; rfl

theorem pieces_of_ofPieces {index : Nat} (h : ofPieces index ps = .ok cs) : ps = cs.map .char := by
  induction ps generalizing index cs
  case nil =>
    cases h
    rfl
  case cons p ps hi =>
    cases p
    case char c =>
      rw [ofPieces] at h
      match hr : ofPieces (index + c.utf8Size) ps with
      | .ok cs' =>
        rw [hr] at h
        cases h
        rw [hi hr, List.map_cons]
      | .error _ =>
        rw [hr] at h
        cases h
    case invalid    => cases h
    case incomplete => cases h

theorem decode_encode (s : String) : decode (encode s) = .ok s := by
  have hp := pieces_encode s.toList []
  rw [List.append_nil] at hp
  rw [decode, encode, hp, pieces, cut, if_pos rfl, List.append_nil, ofPieces_chars]
  exact congrArg Except.ok s.ofList_toList

theorem encode_of_decode {s : String} (h : decode bytes = .ok s) : encode s = bytes := by
  rw [decode] at h
  match hp : ofPieces 0 (pieces bytes) with
  | .ok cs =>
    rw [hp] at h
    cases h
    rw [encode, String.toList_ofList]
    exact encode_of_pieces (pieces_of_ofPieces hp)
  | .error _ =>
    rw [hp] at h
    cases h

theorem decode_error (h : ∀ s, encode s ≠ bytes) : ∃ fault, decode bytes = .error fault := by
  match hd : decode bytes with
  | .ok s        => exact absurd (encode_of_decode hd) (h s)
  | .error fault => exact ⟨fault, rfl⟩

def Piece.text : Piece → Char
  | .char c => c
  | _ => '\uFFFD'

theorem lossy_eq (bytes : Bytes) : lossy bytes = String.ofList ((pieces bytes).map Piece.text) :=
  rfl

theorem continues_ascii (hb : b.toNat < 128) (a : UInt8) (more : Bytes) :
    continues a more b = false := by
  refine Bool.eq_false_iff.mpr fun h => ?_
  rw [continues] at h
  split at h
  · have hs := isSecond_iff.mp h
    omega
  · have hc := isContinuation_iff.mp h
    omega

theorem text_cut_ascii (hb : b.toNat < 128) (unfinished bytes rest : Bytes) :
    (cut unfinished (bytes ++ b :: rest)).map Piece.text =
      (cut unfinished bytes).map Piece.text ++
        Char.ofNat b.toNat :: (cut [] rest).map Piece.text := by
  induction bytes generalizing unfinished
  case nil =>
    have hj : cut [] (b :: rest) = .char (Char.ofNat b.toNat) :: cut [] rest := by
      have hc : join 128 b [] = Char.ofNat b.toNat := by
        rw [join, List.foldl_nil, Nat.mod_eq_of_lt hb]
      rw [cut_nil_cons, width_ascii hb, hc]
      rfl
    cases unfinished
    case nil => rw [List.nil_append, hj]; rfl
    case cons a more =>
      rw [List.nil_append, cut_cons_cons, if_neg (by simp [continues_ascii hb]), hj]
      rfl
  case cons d bytes hi =>
    rw [List.cons_append, cut, cut]
    simp only [List.map_append, hi, List.append_assoc]

theorem lossy_ascii (hb : b.toNat < 128) (bytes rest : Bytes) :
    (lossy (bytes ++ b :: rest)).toList =
      (lossy bytes).toList ++ Char.ofNat b.toNat :: (lossy rest).toList := by
  simpa only [lossy_eq, String.toList_ofList, pieces] using text_cut_ascii hb [] bytes rest

theorem encodeChar_ascii (h : c.toNat < 128) : String.utf8EncodeChar c = [UInt8.ofNat c.toNat] := by
  have hv : c.val.toNat ≤ 127 := Nat.le_of_lt_succ h
  rw [String.utf8EncodeChar, if_pos hv]
  rfl

theorem mem_encode_ascii {s : String} (hc : c ∈ s.toList) (h : c.toNat < 128) :
    UInt8.ofNat c.toNat ∈ encode s :=
  List.mem_flatMap.mpr ⟨c, hc, encodeChar_ascii h ▸ List.mem_singleton_self _⟩

theorem encode_ofList (cs : List Char) :
    encode (String.ofList cs) = cs.flatMap String.utf8EncodeChar := by
  rw [encode, String.toList_ofList]

theorem encode_append (s t : String) : encode (s ++ t) = encode s ++ encode t := by
  rw [encode, String.toList_append, List.flatMap_append]
  rfl

theorem length_encode (s : String) : (encode s).length = s.utf8ByteSize := by
  rw [encode, String.utf8ByteSize, ← String.utf8Encode_toList, List.utf8Encode,
    List.size_toByteArray]

theorem ge_of_follows (hf : follows a more tail) : ∀ b ∈ tail, 128 ≤ b.toNat := by
  induction tail generalizing more
  case nil => nofun
  case cons d tail hi =>
    simp only [follows, Bool.and_eq_true] at hf
    refine List.forall_mem_cons.mpr ⟨Nat.not_lt.mp fun hd => ?_, hi hf.right⟩
    rw [continues_ascii hd] at hf
    cases hf.left

theorem split_encode (hb : b.toNat < 128) {before : Bytes}
    (h : cs.flatMap String.utf8EncodeChar = before ++ b :: rest) :
    ∃ cs₁ cs₂, cs = cs₁ ++ Char.ofNat b.toNat :: cs₂ ∧
      cs₁.flatMap String.utf8EncodeChar = before ∧ cs₂.flatMap String.utf8EncodeChar = rest := by
  induction cs generalizing before
  case nil => cases List.append_ne_nil_of_right_ne_nil before (List.cons_ne_nil b rest) h.symm
  case cons c cs hi =>
    have ⟨a, more, he, hc, ho⟩ := encodeChar_eq c
    rw [List.flatMap_cons] at h
    -- The byte comes after the first character, or it begins it; inside of it there are no such bytes.
    rcases List.append_eq_append_iff.mp h with ⟨before', hb', hr⟩ | ⟨tail, hl, hr⟩
    · have ⟨cs₁, cs₂, hcs, h₁, h₂⟩ := hi hr
      exact ⟨c :: cs₁, cs₂, by rw [hcs]; rfl, by rw [List.flatMap_cons, h₁, hb'], h₂⟩
    · cases before
      case nil =>
        have hl : a :: more = tail := he ▸ hl
        have ⟨ha, hr⟩ : b = a ∧ rest = more ++ cs.flatMap String.utf8EncodeChar := by
          rw [← hl] at hr
          simpa using hr
        have hm : more = [] := by
          have hw := width_ascii (ha ▸ hb)
          exact List.length_eq_zero_iff.mp (Nat.succ.inj (hc.width.symm.trans hw))
        refine ⟨[], cs, ?_, rfl, by rw [hr, hm]; rfl⟩
        rw [← ho, hm, charOf, if_pos rfl, join, List.foldl_nil, ← ha, Nat.mod_eq_of_lt hb]
        rfl
      case cons a' before =>
        cases tail
        case nil =>
          have ⟨cs₁, cs₂, hcs, h₁, h₂⟩ := hi (hr.symm.trans (List.nil_append _).symm)
          refine ⟨c :: cs₁, cs₂, by rw [hcs]; rfl, ?_, h₂⟩
          rw [List.flatMap_cons, h₁, hl, List.append_nil, List.append_nil]
        case cons d tail =>
          have hm : more = before ++ d :: tail := (List.cons.inj (he.symm.trans hl)).right
          have hd := ge_of_follows hc.follows d (by simp [hm])
          have hd' : b = d := (List.cons.inj hr).left
          exact absurd (hd' ▸ hd) (Nat.not_le.mpr hb)

theorem mem_toList_of_mem_encode {s : String} (h : b ∈ encode s) (hb : b.toNat < 128) :
    Char.ofNat b.toNat ∈ s.toList := by
  have ⟨before, rest, hs⟩ := List.append_of_mem h
  have ⟨cs₁, cs₂, hc, _⟩ := split_encode hb hs
  simp [hc]

end LanguageClient.Utf8
