import LanguageClient.Text.Case

namespace LanguageClient.Protocol

-- The last component of a path; dots for the folder itself and slashes at the end do not count.
def fileName? (path : List Char) : Option (List Char) :=
  let parts := path.splitOnP (· = '/')
  let shown := (parts.filter (· ≠ [])).reverse.dropWhile (· = ['.'])
  match shown with
  | [] => none
  | name :: _ => if name = ['.', '.'] then none else some name

-- What follows the last dot of a file name, unless the name begins with that dot.
def fileExtension? (path : List Char) : Option (List Char) := do
  let name ← fileName? path
  let after := (name.reverse.takeWhile (· ≠ '.')).reverse
  if after.length + 1 < name.length then return after else none

def extensionLanguage : String → String
  | "rs" => "rust"
  | "ts" | "mts" | "cts" => "typescript"
  | "tsx" => "typescriptreact"
  | "js" | "mjs" | "cjs" => "javascript"
  | "jsx" => "javascriptreact"
  | "svelte" => "svelte"
  | "py" => "python"
  | "go" => "go"
  | "sh" | "bash" => "shellscript"
  | "json" => "json"
  | "toml" => "toml"
  | "md" => "markdown"
  | "lua" => "lua"
  | _ => "plaintext"

def languageFor (path : String) : String :=
  match fileExtension? path.toList with
  | some ext => extensionLanguage (String.ofList (ext.map Text.lowerAscii))
  | none => "plaintext"

end LanguageClient.Protocol
