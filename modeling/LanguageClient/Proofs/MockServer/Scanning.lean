import LanguageClient.MockServer.Document
import LanguageClient.Proofs.Text.Occurrences

namespace LanguageClient.MockServer

open Protocol

variable {d e : Diagnostic} {text word word' : String} {severity : Severity} {number : Nat}
  {line : List Char} {ls : List (List Char)}

inductive Objects : String → Severity → Prop
  | error   : Objects "error" 1
  | warning : Objects "warning" 2

-- A complaint about a word in a line, which it covers from its first byte to its last.
def found (word : String) (severity : Severity) (number column : Nat) : Diagnostic :=
  complaint number column (column + word.utf8ByteSize) severity ("mockls: found `" ++ word ++ "`")

-- What there is to complain about: each of the words, wherever it stands in a line.
inductive Finds (text : String) : Diagnostic → Prop
  | intro {word : String} {severity : Severity} {number column : Nat} {line : List Char}
    (hw : Objects word severity) (hl : (Text.lines text.toList)[number]? = some line)
    (hs : Text.StandsAt word.toList line column) : Finds text (found word severity number column)

-- The order of complaints: line by line, in a line errors before warnings, and each of them from left to
-- right.
inductive Precedes (d e : Diagnostic) : Prop
  | line (h : d.range.first.line < e.range.first.line)
  | word (hl : d.range.first.line = e.range.first.line) (hd : d.severity = some 1) (he : e.severity = some 2)
  | column (hl : d.range.first.line = e.range.first.line) (hs : d.severity = e.severity)
    (h : d.range.first.character < e.range.first.character)

def Covers (ds : List Diagnostic) (text word : String) (severity : Severity) : Prop :=
  ∀ place, Text.StandsAt word.toList text.toList place ↔ ∃ d ∈ ds, d.severity = some severity ∧
    Text.lineStart text.toList d.range.first.line + d.range.first.character = place

theorem Precedes.ne (h : Precedes d e) : d ≠ e := by
  rintro rfl
  cases h
  case line h       => exact Nat.lt_irrefl _ h
  case word _ hd he => exact absurd (hd.symm.trans he) (by decide)
  case column h     => exact Nat.lt_irrefl _ h

namespace Objects

theorem ne_nil (h : Objects word severity) : word.toList ≠ [] := by
  cases h <;> decide

theorem isAlpha (h : Objects word severity) : ∀ c ∈ word.toList, c.isAlpha := by
  apply List.all_eq_true.mp
  cases h <;> rfl

theorem ascii (h : Objects word severity) : ∀ c ∈ word.toList, c.toNat < 128 :=
  fun c hc => (Text.toNat_of_isAlpha (h.isAlpha c hc)).right

theorem unique (h : Objects word severity) (h' : Objects word' severity) : word' = word := by
  cases h <;> cases h' <;> rfl

end Objects

def places (number : Nat) (line : List Char) (word : String) (severity : Severity) : List Diagnostic :=
  (Text.occurrences word.toList 0 line).map (found word severity number)

theorem scanLine_eq (number : Nat) (line : List Char) :
    scanLine number line = places number line "error" 1 ++ places number line "warning" 2 := by
  have h : scanLine number line =
      places number line "error" 1 ++ (places number line "warning" 2 ++ []) := rfl
  rw [h, List.append_nil]

theorem mem_places (hw : Objects word severity) : d ∈ places number line word severity ↔
    ∃ column, Text.StandsAt word.toList line column ∧ d = found word severity number column := by
  simp only [places, List.mem_map, Text.mem_occurrences_iff hw.ne_nil hw.ascii, eq_comm]

theorem mem_scanLine : d ∈ scanLine number line ↔ ∃ word severity column, Objects word severity ∧
    Text.StandsAt word.toList line column ∧ d = found word severity number column := by
  rw [scanLine_eq, List.mem_append, mem_places .error, mem_places .warning]
  constructor
  case mp =>
    rintro (⟨column, h⟩ | ⟨column, h⟩)
    · exact ⟨_, _, column, .error, h⟩
    · exact ⟨_, _, column, .warning, h⟩
  case mpr =>
    rintro ⟨_, _, column, hw, h⟩
    cases hw
    case error   => exact .inl ⟨column, h⟩
    case warning => exact .inr ⟨column, h⟩

theorem line_of_mem_scanLine (h : d ∈ scanLine number line) : d.range.first.line = number := by
  obtain ⟨_, _, _, -, -, rfl⟩ := mem_scanLine.mp h
  rfl

theorem places_ordered (number : Nat) (line : List Char) (word : String) (severity : Severity) :
    (places number line word severity).Pairwise Precedes :=
  (Text.occurrences_ascending word.toList 0 line).map _ fun _ _ h => .column rfl rfl h

theorem scanLine_ordered (number : Nat) (line : List Char) : (scanLine number line).Pairwise Precedes := by
  rw [scanLine_eq]
  refine List.pairwise_append.mpr ⟨places_ordered .., places_ordered .., fun d hd e he => ?_⟩
  obtain ⟨_, -, rfl⟩ := List.mem_map.mp hd
  obtain ⟨_, -, rfl⟩ := List.mem_map.mp he
  exact .word rfl rfl rfl

theorem mem_scanLines : d ∈ scanLines number ls ↔
    ∃ n line, ls[n]? = some line ∧ d ∈ scanLine (number + n) line := by
  induction ls generalizing number
  case nil             => simp [scanLines]
  case cons line ls hi =>
    rw [scanLines, List.mem_append, hi, Text.exists_getElem?_cons]
    simp only [Nat.add_zero, Nat.add_assoc, Nat.add_comm 1]

theorem scanLines_ordered (number : Nat) (ls : List (List Char)) :
    (scanLines number ls).Pairwise Precedes := by
  induction ls generalizing number
  case nil             => exact List.Pairwise.nil
  case cons line ls hi =>
    refine List.pairwise_append.mpr ⟨scanLine_ordered number line, hi _, fun d hd e he => .line ?_⟩
    obtain ⟨n, _, -, he⟩ := mem_scanLines.mp he
    rw [line_of_mem_scanLine hd, line_of_mem_scanLine he]
    omega

theorem mem_scan : d ∈ scan text ↔ Finds text d := by
  rw [scan, mem_scanLines]
  simp only [Nat.zero_add, mem_scanLine]
  constructor
  case mp =>
    rintro ⟨number, line, hl, _, _, column, hw, hs, rfl⟩
    exact .intro hw hl hs
  case mpr =>
    rintro ⟨hw, hl, hs⟩
    exact ⟨_, _, hl, _, _, _, hw, hs, rfl⟩

theorem Objects.covers (hw : Objects word severity) (text : String) :
    Covers (scan text) text word severity := by
  intro place
  rw [Text.standsAt_iff_exists_line hw.ne_nil hw.isAlpha]
  constructor
  case mp =>
    rintro ⟨number, line, column, hl, hs, hp⟩
    exact ⟨found word severity number column, mem_scan.mpr (.intro hw hl hs), rfl, hp⟩
  case mpr =>
    rintro ⟨d, hd, hsev, hp⟩
    cases mem_scan.mp hd
    case intro hw' hl hs =>
      cases Option.some.inj hsev
      exact ⟨_, _, _, hl, hw.unique hw' ▸ hs, hp⟩

theorem scan_exact (text : String) :
    (∀ d, d ∈ scan text ↔ Finds text d) ∧ (scan text).Pairwise Precedes ∧ (scan text).Nodup ∧
    Covers (scan text) text "error" 1 ∧ Covers (scan text) text "warning" 2 := by
  have ho : (scan text).Pairwise Precedes := scanLines_ordered 0 _
  exact ⟨fun _ => mem_scan, ho, ho.imp Precedes.ne, Objects.error.covers text, Objects.warning.covers text⟩

end LanguageClient.MockServer
