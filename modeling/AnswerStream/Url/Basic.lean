import AnswerStream.Host.Basic

/-!
URLs to reach by HTTP, taken apart and written again. The parts are kept as they are written, with
all escapes in place.
-/

namespace AnswerStream

inductive Scheme
  | http
  | https
  deriving DecidableEq, Repr

namespace Scheme

def name : Scheme → String
  | .http => "http"
  | .https => "https"

def ofName? : String → Option Scheme
  | "http" => some .http
  | "https" => some .https
  | _ => none

/-- What a URL without a number behind its host connects to. -/
def defaultPort : Scheme → Nat
  | .http => 80
  | .https => 443

end Scheme

/-- What stands in front of the host for the server to check. -/
structure Credentials where
  user : List Char
  password : Option (List Char)
  deriving DecidableEq, Repr

def Credentials.render (c : Credentials) : List Char :=
  if c.user.isEmpty ∧ c.password.isNone then []
  else c.user ++ (c.password.elim [] fun p => ':' :: p) ++ ['@']

structure Url where
  scheme : Scheme
  credentials : Credentials
  host : Host
  /-- Missing where it is the default of the scheme. -/
  portNumber : Option Nat
  /-- What stands between the slashes; at least one segment. -/
  path : List (List Char)
  query : Option (List Char)
  fragment : Option (List Char)
  deriving DecidableEq, Repr

namespace Url

/-- The host, and the number behind it where it is not the default. -/
def server (u : Url) : List Char :=
  u.host.render ++ u.portNumber.elim [] fun p => ':' :: Decimal.render p

def render (u : Url) : List Char :=
  u.scheme.name.toList ++ [':', '/', '/'] ++ u.credentials.render ++ u.server ++
    u.path.flatMap ('/' :: ·) ++ (u.query.elim [] fun q => '?' :: q) ++
    u.fragment.elim [] fun f => '#' :: f

end Url
end AnswerStream
