import AnswerStream.Url.Basic

/-!
Reading a URL as browsers read it: leniently where blanks, slashes and characters that need an
escape are concerned, and strictly in its host and the number behind it. URLs of other schemes are
not read, nor those that would need another one to start from.
-/

namespace AnswerStream.Url

def isSlash (c : Char) : Bool := c = '/' || c = '\\'

/-- What a path is cut at. -/
def endsPath (c : Char) : Bool := c = '?' || c = '#'

/-- Control characters and blanks around a URL do not count, nor line breaks and tabulators in it.
-/
def essence (text : List Char) : List Char :=
  let isPadding (c : Char) : Bool := c.toNat ≤ 0x20
  let trimmed := ((text.dropWhile isPadding).reverse.dropWhile isPadding).reverse
  trimmed.filter fun c => !(c = '\t' || c = '\n' || c = '\r')

/-- The scheme, in any case, and what follows its colon. -/
def scheme? (cs : List Char) : Option (Scheme × List Char) :=
  let name := Text.lowerAscii (String.ofList (cs.takeWhile (· ≠ ':')))
  match cs.dropWhile (· ≠ ':'), Scheme.ofName? name with
  | _ :: rest, some scheme => some (scheme, rest)
  | _, _ => none

/-! The sets that are escaped, each in its part of the URL. -/

def fragmentSet : List Char := [' ', '"', '<', '>', '\x60']

def pathSet : List Char := fragmentSet ++ ['#', '?', '\x7b', '\x7d']

def credentialSet : List Char := pathSet ++ ['/', ':', ';', '=', '@', '[', '\\', ']', '^', '|']

def querySet : List Char := [' ', '"', '#', '<', '>', '\'']

/-- What stands before the last sign, and behind it; without one there are no credentials. -/
def splitCredentials (authority : List Char) : List Char × List Char :=
  let server := (authority.reverse.takeWhile (· ≠ '@')).reverse
  (authority.take (authority.length - server.length - 1), server)

/-- A password that is empty is none. -/
def readCredentials (cs : List Char) : Credentials :=
  let password := (cs.dropWhile (· ≠ ':')).drop 1
  { user := Text.Percent.encode credentialSet (cs.takeWhile (· ≠ ':'))
    password :=
      if password.isEmpty then none else some (Text.Percent.encode credentialSet password) }

/-- The host, and the first colon with what follows; colons between brackets do not count. -/
def splitPort (inBrackets : Bool) : List Char → List Char × List Char
  | [] => ([], [])
  | c :: rest =>
    if c = ':' ∧ ¬ inBrackets then ([], c :: rest)
    else
      let (host, behind) := splitPort ((inBrackets || c = '[') && c ≠ ']') rest
      (c :: host, behind)

/-- The number behind the colon. No digits mean the default of the scheme. -/
def readPort? (scheme : Scheme) (cs : List Char) : Option (Option Nat) :=
  match cs.drop 1 with
  | [] => some none
  | digits => do
    let n ← Decimal.natural? digits
    if n < Nat.pow 2 16 then some (if n = scheme.defaultPort then none else some n) else none

/-- A letter with a colon or a bar is not left by going up. -/
def isDrive : List Char → Bool
  | [letter, mark] => letter.isAlpha && (mark = ':' || mark = '|')
  | _ => false

/-- Leaves the last segment, the segments being in reverse. -/
def goUp : List (List Char) → List (List Char)
  | [] => []
  | segment :: earlier => if isDrive segment then segment :: earlier else earlier

/-- A dot, perhaps escaped. -/
def isHere (segment : List Char) : Bool :=
  [".", "%2e"].contains (Text.lowerAscii (String.ofList segment))

/-- Two dots, perhaps escaped. -/
def isUp (segment : List Char) : Bool :=
  ["..", ".%2e", "%2e.", "%2e%2e"].contains (Text.lowerAscii (String.ofList segment))

/-- Follows the segments; `done` holds those reached so far, in reverse. A path that ends with a
step ends with a slash. -/
def resolve (done : List (List Char)) : List (List Char) → List (List Char)
  | [] => done.reverse
  | [last] =>
    if isUp last then ([] :: goUp done).reverse
    else if isHere last then ([] :: done).reverse
    else (last :: done).reverse
  | segment :: rest =>
    if isUp segment then resolve (goUp done) rest
    else if isHere segment then resolve done rest
    else resolve (segment :: done) rest

/-- The segments of a path, which may begin with a slash. -/
def readPath (cs : List Char) : List (List Char) :=
  let inside := match cs with
    | c :: rest => if isSlash c then rest else cs
    | [] => []
  resolve [] ((Text.pieces isSlash inside).map (Text.Percent.encode pathSet))

/-- What follows a mark, where it stands. -/
def behind? (mark : Char) (cs : List Char) : Option (List Char) :=
  match cs with
  | [] => none
  | c :: rest => if c = mark then some rest else none

def parse? (text : String) : Option Url := do
  let (scheme, rest) ← scheme? (essence text.toList)
  let rest := rest.dropWhile isSlash
  let isEnd (c : Char) : Bool := isSlash c || endsPath c
  let (credentials, server) := splitCredentials (rest.takeWhile (!isEnd ·))
  let (hostText, portText) := splitPort false server
  let host ← Host.parse? hostText
  let portNumber ← readPort? scheme portText
  let rest := rest.dropWhile (!isEnd ·)
  let tail := rest.dropWhile (!endsPath ·)
  let query := (behind? '?' tail).map (·.takeWhile (· ≠ '#'))
  let fragment := behind? '#' (tail.dropWhile (· ≠ '#'))
  some
    { scheme, host, portNumber
      credentials := readCredentials credentials
      path := readPath (rest.takeWhile (!endsPath ·))
      query := query.map (Text.Percent.encode querySet)
      fragment := fragment.map (Text.Percent.encode fragmentSet) }

end AnswerStream.Url
