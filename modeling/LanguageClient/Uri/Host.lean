import LanguageClient.Uri.Domain
import LanguageClient.Uri.Ipv4
import LanguageClient.Uri.Ipv6

namespace LanguageClient.Uri

inductive Host
  | domain (name : List Char)
  | ipv4 (address : Nat)
  | ipv6 (pieces : List Nat)
  deriving DecidableEq, Repr

namespace Host

-- The host that a text names. A domain name whose last part is a number must be an address.
def parse? (cs : List Char) : Option Host :=
  if cs.head? = some '[' then
    if cs.length ≥ 2 && cs.getLast? = some ']' then
      (Ipv6.parse? (cs.drop 1).dropLast).map .ipv6
    else none
  else do
    let name ← Domain.toAscii (Utf8.lossy (percentDecode cs)).toList
    if name = [] then none
    else if Ipv4.isAddress name then (Ipv4.parse? name).map .ipv4
    else some (.domain name)

def text : Host → List Char
  | .domain name => name
  | .ipv4 address => Ipv4.text address
  | .ipv6 pieces => '[' :: Ipv6.text pieces ++ [']']

end Host
end LanguageClient.Uri
