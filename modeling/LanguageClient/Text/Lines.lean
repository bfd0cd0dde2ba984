namespace LanguageClient.Text

def cut? (c : Char) : List Char → Option (List Char × List Char)
  | [] => none
  | d :: cs => if d = c then some ([], cs) else (cut? c cs).map fun (a, b) => (d :: a, b)

theorem cut?_eq_some {c : Char} {cs a b : List Char} (h : cut? c cs = some (a, b)) :
    cs = a ++ c :: b := by
  induction cs generalizing a b with
  | nil => simp [cut?] at h
  | cons d cs ih =>
    simp only [cut?] at h
    split at h
    case isTrue hd => grind
    case isFalse =>
      obtain ⟨⟨a', b'⟩, h', e⟩ := Option.map_eq_some_iff.1 h
      cases e
      simp [ih h']

def split (c : Char) : List Char → List (List Char)
  | [] => [[]]
  | d :: cs =>
    if d = c then [] :: split c cs
    else
      match split c cs with
      | [] => [[d]]
      | part :: parts => (d :: part) :: parts

def dropLast? (c : Char) (cs : List Char) : List Char :=
  if cs.getLast? = some c then cs.dropLast else cs

-- The lines of a text without their ends. A carriage return counts only before a line feed.
def lines (cs : List Char) : List (List Char) :=
  match (split '\n' cs).reverse with
  | [] => []
  | last :: ended =>
    let ended := ended.reverse.map (dropLast? '\r')
    if last = [] then ended else ended ++ [last]

end LanguageClient.Text
