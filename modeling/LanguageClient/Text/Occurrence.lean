import LanguageClient.Text.Utf8

namespace LanguageClient.Text

def occurrences (word : List Char) (offset : Nat) : List Char → List Nat
  | [] => []
  | c :: cs =>
    let later := occurrences word (offset + c.utf8Size) cs
    if word.isPrefixOf (c :: cs) then offset :: later else later

end LanguageClient.Text
