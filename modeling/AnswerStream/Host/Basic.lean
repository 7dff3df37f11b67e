import AnswerStream.Host.Address
import AnswerStream.Host.Domain
import AnswerStream.Text.Percent

/-!
Hosts of a URL: a domain, or an address that is written with numbers, or one in brackets.
-/

namespace AnswerStream

inductive Host
  | domain (name : List Char)
  | address4 (address : Nat)
  | address6 (groups : List Nat)
  deriving DecidableEq, Repr

namespace Host

/-- The address between brackets. -/
def bracketed? (cs : List Char) : Option Host :=
  if cs.getLast? = some ']' then (Address6.parse? cs.dropLast).map .address6 else none

/-- A name that ends like an address has to be one. -/
def ofName? (name : List Char) : Option Host :=
  if Address4.isMeant name then (Address4.parse? name).map .address4 else some (.domain name)

def parse? : List Char → Option Host
  | '[' :: rest => bracketed? rest
  | cs => (Domain.toAscii? (Text.Percent.decode (Utf8.encode (String.ofList cs)))).bind ofName?

def render : Host → List Char
  | .domain name => name
  | .address4 address => Address4.render address
  | .address6 groups => '[' :: Address6.render groups ++ [']']

end Host
end AnswerStream
