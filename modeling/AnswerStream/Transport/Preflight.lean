import AnswerStream.Transport.Basic
import AnswerStream.Url.Reading

/-!
What is refused before anything is sent: a URL that names no host to reach by HTTP, one that does
not fit the head of a request, and header fields that could not be written into it. All are reported
as an invalid URL.
-/

namespace AnswerStream.Preflight

/-- Punctuation that names of header fields may hold, besides ASCII letters and digits. -/
def tokenMarks : List Char :=
  ['!', '#', '$', '%', '&', '\'', '*', '+', '-', '.', '^', '_', '\x60', '|', '~']

/-- The most octets that the name of a header field may have. -/
def nameLimit : Nat := Nat.pow 2 16 - 1

def isToken (name : String) : Bool :=
  !name.isEmpty && name.utf8ByteSize ≤ nameLimit &&
    name.toList.all fun c => c.isAlphanum || tokenMarks.contains c

/-- Control characters other than the tabulator break a header field. -/
def isFieldValue (value : String) : Bool :=
  value.toList.all fun c => c = '\t' || (0x20 ≤ c.toNat && c.toNat ≠ 0x7F)

/-- Credentials that are texts travel in a header field and not in the URL. -/
def isMoved (c : Credentials) : Bool :=
  let isText (cs : List Char) : Bool :=
    (Utf8.decode? (Text.Percent.decode (Utf8.encode (String.ofList cs)))).isSome
  isText c.user && (!c.user.isEmpty || c.password.any isText)

/-- The URL of the request as it is sent. -/
def target (u : Url) : List Char :=
  (if isMoved u.credentials then { u with credentials := ⟨[], none⟩ } else u).render

/-- The most characters that a URL may have. -/
def urlLimit : Nat := Nat.pow 2 16 - 2

/-- Characters that a URL may hold and the head of a request may not, where they name a server. -/
def unsent : List Char := ['"', '\x60', '\x7b', '\x7d']

def isSendable (u : Url) : Bool :=
  (target u).length ≤ urlLimit && u.server.all fun c => !unsent.contains c

/-- Whether a request can be sent at all. -/
def check (r : Request) : Except TransportError Unit :=
  if (Url.parse? r.url).any isSendable &&
      r.headers.all fun h => isToken h.1 && isFieldValue h.2 then
    .ok ()
  else .error (.invalidUrl r.url)

end AnswerStream.Preflight
