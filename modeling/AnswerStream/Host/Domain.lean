import AnswerStream.Host.Label
import AnswerStream.Text.Utf8

/-!
Domains: names of hosts, written in ASCII. Whatever the octets of a name say is mapped and composed,
judged label by label, and encoded where it goes beyond ASCII.
-/

namespace AnswerStream.Host.Domain
open Unicode

/-- Characters that would end the host, or be taken for something else. -/
def denied : List Char :=
  ['%', '#', '/', ':', '<', '>', '?', '@', '[', '\\', ']', '^', '|']

def isDenied (c : Char) : Bool := c.toNat ≤ 0x20 || c.toNat = 0x7F || denied.contains c

/-- The characters of a name as they are judged. -/
def characters? (octets : List UInt8) : Option (List Char) := do
  let text ← Utf8.decode? octets
  let mapped ← HostMapping.map? text.toList
  let cs := Composition.normalize mapped
  if cs.any isDenied then none else some cs

/-- The labels of a name, decoded. -/
def labels? (cs : List Char) : Option (List (List Char)) := do
  let labels ← (Text.pieces (· = '.') cs).mapM Label.decode?
  let directed := labels.any Label.hasRight
  if labels.all (fun l => Label.isSound l && (!directed || Label.keepsDirection l)) then some labels
  else none

/-- The name in ASCII; nothing where it is none. -/
def toAscii? (octets : List UInt8) : Option (List Char) := do
  let cs ← characters? octets
  let labels ← labels? cs
  let name := List.intercalate ['.'] (labels.map Label.toAscii)
  if name.isEmpty then none else some name

end AnswerStream.Host.Domain
