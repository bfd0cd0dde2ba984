import LanguageClient.Proofs.Uri.Ipv6
import LanguageClient.Proofs.Uri.Reference
import LanguageClient.Uri.Host

namespace LanguageClient.Uri

open Reference (isHostChar)

variable {c : Char} {cs ascii : List Char}

namespace Domain

namespace Punycode

theorem isHostChar_digit : ∀ n < 36, isHostChar (digit n) := by
  decide

theorem isHostChar_number {n k bias : Nat} : ∀ c ∈ number n k bias, isHostChar c := by
  fun_induction number n k bias
  case case1 n k t h =>
    have ht := threshold_bounds k bias
    simpa using isHostChar_digit n (by omega)
  case case2 n k t h hi =>
    have ht := threshold_bounds k bias
    have hm : (n - t) % (36 - t) < 36 - t := Nat.mod_lt _ (by omega)
    exact List.forall_mem_cons.mpr ⟨isHostChar_digit _ (by omega), hi⟩

variable {e : Encoder}

theorem Encoder.isHostChar_place {m n : Nat} (h : ∀ c ∈ e.out, isHostChar c) :
    ∀ c ∈ (e.place m n).out, isHostChar c := by
  rw [place]
  split
  case isTrue => exact h
  case isFalse =>
    split
    case isTrue  => exact List.forall_mem_append.mpr ⟨h, isHostChar_number⟩
    case isFalse => exact h

theorem isHostChar_places {label : List Nat} {m : Nat} (h : ∀ c ∈ e.out, isHostChar c) :
    ∀ c ∈ (label.foldl (·.place m) e).out, isHostChar c := by
  induction label generalizing e
  case nil => exact h
  case cons n label hi => exact hi (Encoder.isHostChar_place h)

theorem isHostChar_insertAll {label further : List Nat} {next : Nat} (h : ∀ c ∈ e.out, isHostChar c) :
    ∀ c ∈ (insertAll label e next further).out, isHostChar c := by
  induction further generalizing e next
  case nil => exact h
  case cons m further hi =>
    rw [insertAll]
    exact hi (isHostChar_places h)

theorem isHostChar_encode (h : ∀ c ∈ cs, c.toNat < 128 → isHostChar c) :
    ∀ c ∈ encode cs, isHostChar c := by
  apply isHostChar_insertAll
  have ha : ∀ c ∈ cs.filter (·.toNat < 128), isHostChar c := by
    intro c hc
    have ⟨hm, hl⟩ := List.mem_filter.mp hc
    exact h c hm (by simpa using hl)
  dsimp only
  split
  · nofun
  · exact List.forall_mem_append.mpr ⟨ha, List.forall_mem_singleton.mpr (by decide)⟩

end Punycode

theorem isHostChar_of_not_isForbidden (hc : c.toNat < 128) (h : ¬isForbidden c) : isHostChar c :=
  Reference.of_ascii (p := fun c => ¬isForbidden c → isHostChar c) (by decide) hc h

theorem isHostChar_asciiLabel {label : List Char} (h : asciiLabel label = some ascii)
    (hl : ∀ c ∈ label, ¬isForbidden c) : ∀ c ∈ ascii, isHostChar c := by
  rw [asciiLabel] at h
  split at h
  case isTrue ha =>
    cases h
    intro c hc
    have hn := List.all_eq_true.mp ha c hc
    exact isHostChar_of_not_isForbidden (by simpa using hn) (hl c hc)
  case isFalse =>
    split at h
    case isTrue => cases h
    case isFalse =>
      cases h
      have hm : marker.all isHostChar := by decide
      refine List.forall_mem_append.mpr ⟨List.all_eq_true.mp hm, ?_⟩
      exact Punycode.isHostChar_encode fun c hc hn => isHostChar_of_not_isForbidden hn (hl c hc)

theorem isHostChar_intercalate {parts : List (List Char)}
    (h : ∀ part ∈ parts, ∀ c ∈ part, isHostChar c) : ∀ c ∈ ['.'].intercalate parts, isHostChar c := by
  induction parts
  case nil => nofun
  case cons part parts hi =>
    have ⟨hp, hps⟩ := List.forall_mem_cons.mp h
    cases parts
    case nil => rwa [List.intercalate_singleton]
    case cons part' parts =>
      have hd : ∀ c ∈ ['.'], isHostChar c := List.forall_mem_singleton.mpr (by decide)
      rw [List.intercalate_cons_cons]
      exact List.forall_mem_append.mpr ⟨List.forall_mem_append.mpr ⟨hp, hd⟩, hi hps⟩

theorem isHostChar_toAscii (h : toAscii cs = some ascii) : ∀ c ∈ ascii, isHostChar c := by
  have ⟨mapping, _, h⟩ := Option.bind_eq_some_iff.mp h
  generalize normal mapping.flatten = cs at h
  simp only [Option.bind_eq_bind, Option.bind_none, Option.ite_none_left_eq_some,
    Option.bind_eq_some_iff] at h
  obtain ⟨hf, shown, _, _, _, labels, hl, ⟨⟩⟩ := h
  refine isHostChar_intercalate fun part hp => ?_
  have ⟨label, hm, ha⟩ := mem_of_mapM hl hp
  refine isHostChar_asciiLabel ha fun c hc hb => hf ?_
  exact List.any_eq_true.mpr ⟨c, Text.mem_of_mem_split hm hc, hb⟩

end Domain

theorem isHostChar_of_isDigit (h : c.isDigit) : isHostChar c := by
  have hc : c.toNat < 128 := by
    have h9 : '9'.toNat = 57 := rfl
    have := (Char.isDigit_iff_toNat.mp h).right
    omega
  exact Reference.of_ascii (p := fun c => c.isDigit → isHostChar c) (by decide) hc h

theorem Ipv4.isHostChar_text (n : Nat) : ∀ c ∈ text n, isHostChar c := by
  apply Domain.isHostChar_intercalate
  simp only [List.forall_mem_cons]
  refine ⟨?_, ?_, ?_, ?_, nofun⟩
  all_goals
    intro c hc
    exact isHostChar_of_isDigit (Nat.isDigit_of_mem_toDigits (by decide) (by decide) hc)

theorem Ipv4.text_ne_nil (n : Nat) : text n ≠ [] := by
  simp [text, List.intercalate_cons_cons]

theorem Host.text_cases {host : Host} (h : parse? cs = some host) :
    (host.text ≠ [] ∧ ∀ c ∈ host.text, isHostChar c) ∨
    ∃ pieces, host = .ipv6 pieces ∧ (Ipv6.parse? (Ipv6.text pieces)).isSome := by
  rw [parse?] at h
  split at h
  case isTrue =>
    simp only [Option.ite_none_right_eq_some] at h
    have ⟨pieces, hp, he⟩ := Option.map_eq_some_iff.mp h.right
    have ⟨hl, hb⟩ := Ipv6.spec_of_parse? hp
    refine .inr ⟨pieces, he.symm, ?_⟩
    rw [Ipv6.parse?_text hl hb]
    rfl
  case isFalse =>
    have ⟨name, hn, h⟩ := Option.bind_eq_some_iff.mp h
    simp only [Option.ite_none_left_eq_some] at h
    have ⟨hne, h⟩ := h
    split at h
    case isTrue =>
      have ⟨n, _, he⟩ := Option.map_eq_some_iff.mp h
      exact .inl ⟨he ▸ Ipv4.text_ne_nil n, he ▸ Ipv4.isHostChar_text n⟩
    case isFalse =>
      cases h
      exact .inl ⟨hne, Domain.isHostChar_toAscii hn⟩

end LanguageClient.Uri
