import Intake.Net.Address
import Intake.Text.Utf8

/-!
# Web addresses

An absolute address with the scheme `http` or `https`.  Reading one is lenient: line ends and
tabs in it do not count, any number of slashes of either sort may follow the scheme, and
characters that an address cannot hold are written as octets.  What has been read is written in
one form, with the host in ASCII, no number after it that the scheme implies, and no steps up or
in place in its path.

* `WebAddress.read?` reads an address, `WebAddress.text` writes it;
* `WebAddress.normal?` does both.
-/

namespace Intake

/-- The schemes of web addresses. -/
inductive WebScheme where
  | http | https
deriving DecidableEq, Repr

namespace WebScheme

/-- The name of a scheme. -/
def name : WebScheme → String
  | .http => "http"
  | .https => "https"

/-- The number of the service, which need not be written. -/
def serviceNumber : WebScheme → Nat
  | .http => 80
  | .https => 443

/-- The scheme with a name, in whatever case. -/
def ofName? (cs : List Char) : Option WebScheme :=
  let lower := String.ofList (cs.map Char.toLower)
  if lower = "http" then some .http else if lower = "https" then some .https else none

end WebScheme

/-- A web address; each part is as it is written. -/
structure WebAddress where
  scheme : WebScheme
  user : List Char
  password : List Char
  host : List Char
  service : Option Nat
  path : List (List Char)
  query : Option (List Char)
  fragment : Option (List Char)

namespace WebAddress

open Net

/-- An octet in hexadecimal after a percent sign. -/
def octetText (octet : Nat) : List Char :=
  '%' :: (Text.hexDigits 2 octet).map Char.toUpper

/-- The octets of a character. -/
def octetsOf (c : Char) : List Nat := (String.utf8EncodeChar c).map UInt8.toNat

/-- Is `c` a control character? -/
def isControl (c : Char) : Bool := c.toNat < 32 || c.toNat == 127

/-- A part of an address: characters beyond ASCII, controls and some others as octets. -/
def encoded (others : List Char) (cs : List Char) : List Char :=
  cs.flatMap fun c =>
    if isAscii c && !isControl c && !others.contains c then [c]
    else (octetsOf c).flatMap octetText

/-- What a fragment cannot hold. -/
def notInFragment : List Char := [' ', '"', '<', '>', '\x60']

/-- What a path cannot hold. -/
def notInPath : List Char := notInFragment ++ ['#', '?', '\x7b', '\x7d']

/-- What the name and password of a user cannot hold. -/
def notInUser : List Char := notInPath ++ ['/', ':', ';', '=', '@', '[', '\\', ']', '^', '|']

/-- What a query cannot hold. -/
def notInQuery : List Char := [' ', '"', '#', '<', '>', '\x27']

/-- Does `c` end the part of an address that names the host? -/
def endsHost (c : Char) : Bool := c == '/' || c == '\\' || c == '?' || c == '#'

/-- Is `c` a slash of either sort? -/
def isSlash (c : Char) : Bool := c == '/' || c == '\\'

/-- Octets after percent signs as octets, and all else as its own octets. -/
def decodedOctets : List Char → List Nat
  | '%' :: a :: b :: rest =>
    match digitOf? 16 a, digitOf? 16 b with
    | some x, some y => (x * 16 + y) :: decodedOctets rest
    | _, _ => octetsOf '%' ++ decodedOctets (a :: b :: rest)
  | c :: rest => octetsOf c ++ decodedOctets rest
  | [] => []

/-- The form in which a host is written. -/
def hostText? (cs : List Char) : Option (List Char) := do
  match cs with
  | '[' :: rest =>
    if rest.getLast? = some ']' then
      let groups ← eightGroups? rest.dropLast
      return '[' :: groupsText groups ++ [']']
    else none
  | _ =>
    match Text.Utf8.ofOctets (decodedOctets cs) with
    | .error _ => none
    | .ok decoded =>
      let name ← asciiName? decoded.toList
      if name.isEmpty then none
      else if endsInNumber name then (fourOctets? name).map octetsText
      else some name

/-- The host at the front, up to a colon outside brackets, and what follows. -/
def takeHost (inside : Bool) : List Char → List Char × List Char
  | [] => ([], [])
  | c :: rest =>
    if c == ':' && !inside then ([], c :: rest)
    else
      let inside := if c == '[' then true else if c == ']' then false else inside
      let (host, more) := takeHost inside rest
      (c :: host, more)

/-- The number of the service after the host: nothing, or a colon and digits, perhaps none. -/
def service? (scheme : WebScheme) : List Char → Option (Option Nat)
  | [] => some none
  | _ :: digits => do
    let n ← numberOf? 10 digits
    if 65535 < n then none
    else some (if digits.isEmpty || n == scheme.serviceNumber then none else some n)

/-- The parts before and after the last `@`. -/
def splitUser (cs : List Char) : List Char × List Char :=
  if cs.contains '@' then
    let host := (cs.reverse.takeWhile (· ≠ '@')).reverse
    (cs.take (cs.length - host.length - 1), host)
  else ([], cs)

/-- Is the piece of a path a step up? -/
def isStepUp (piece : List Char) : Bool :=
  ["..", "%2e%2e", ".%2e", "%2e."].contains (String.ofList (piece.map Char.toLower))

/-- Is the piece of a path a step in place? -/
def isStepInPlace (piece : List Char) : Bool :=
  [".", "%2e"].contains (String.ofList (piece.map Char.toLower))

/-- Is the piece of a path the letter of a drive?  A step up does not leave one. -/
def isDrive : List Char → Bool
  | [c, d] => c.isAlpha && (d == ':' || d == '|')
  | _ => false

/-- A path after a step up, last piece first. -/
def stepUp : List (List Char) → List (List Char)
  | [] => []
  | piece :: before => if isDrive piece then piece :: before else before

/-- The pieces of a path after its steps have been taken.  `before` holds those that are
settled, last one first. -/
def walk (before : List (List Char)) : List (List Char) → List (List Char)
  | [] => before.reverse
  | [last] =>
    if isStepUp last then (stepUp before).reverse ++ [[]]
    else if isStepInPlace last then before.reverse ++ [[]]
    else before.reverse ++ [last]
  | piece :: rest =>
    if isStepUp piece then walk (stepUp before) rest
    else if isStepInPlace piece then walk before rest
    else walk (piece :: before) rest

/-- The pieces between slashes of either sort. -/
def pieces (cs : List Char) : List (List Char) :=
  splitAt '/' (cs.map fun c => if c == '\\' then '/' else c)

/-- The path that characters write, with or without a slash in front. -/
def pathOf (cs : List Char) : List (List Char) :=
  let cs := if cs.head?.any isSlash then cs.tail else cs
  walk [] ((pieces cs).map (encoded notInPath))

/-- Does `c` count neither at the start nor at the end of an address? -/
def isOuterBlank (c : Char) : Bool := c.toNat ≤ 32

/-- The characters of an address that count. -/
def relevant (cs : List Char) : List Char :=
  (((cs.dropWhile isOuterBlank).reverse.dropWhile isOuterBlank).reverse).filter fun c =>
    c != '\t' && c != '\n' && c != '\r'

/-- The part before the first character of a class, and what follows it, if it is there. -/
def cutAt (mark : Char) (cs : List Char) : List Char × Option (List Char) :=
  match cs.dropWhile (· ≠ mark) with
  | [] => (cs, none)
  | _ :: rest => (cs.takeWhile (· ≠ mark), some rest)

/-- The address that characters write. -/
def ofChars? (cs : List Char) : Option WebAddress := do
  let (name, rest) := cutAt ':' cs
  let rest ← rest
  let scheme ← WebScheme.ofName? name
  let rest := rest.dropWhile isSlash
  let (userPart, hostPart) := splitUser (rest.takeWhile fun c => !endsHost c)
  let (user, password) := cutAt ':' userPart
  let (hostChars, serviceChars) := takeHost false hostPart
  if hostChars.isEmpty then none
  else
    let host ← hostText? hostChars
    let service ← service? scheme serviceChars
    let (beforeFragment, fragment) := cutAt '#' (rest.dropWhile fun c => !endsHost c)
    let (path, query) := cutAt '?' beforeFragment
    return {
      scheme, host, service
      user := encoded notInUser user
      password := encoded notInUser (password.getD [])
      path := pathOf path
      query := query.map (encoded notInQuery)
      fragment := fragment.map (encoded notInFragment) }

/-- The address that a text writes. -/
def read? (s : String) : Option WebAddress := ofChars? (relevant s.toList)

/-- The user and password in front of a host. -/
def userText (a : WebAddress) : List Char :=
  if a.user.isEmpty && a.password.isEmpty then []
  else a.user ++ (if a.password.isEmpty then [] else ':' :: a.password) ++ ['@']

/-- The address in its one form. -/
def text (a : WebAddress) : String :=
  String.ofList
    (a.scheme.name.toList ++ [':', '/', '/'] ++ a.userText ++ a.host ++
      (match a.service with
       | some n => ':' :: (toString n).toList
       | none => []) ++
      a.path.flatMap (fun piece => '/' :: piece) ++
      (match a.query with
       | some q => '?' :: q
       | none => []) ++
      (match a.fragment with
       | some f => '#' :: f
       | none => []))

/-- The one form of the address that a text writes. -/
def normal? (s : String) : Option String := (read? s).map text

end WebAddress

end Intake
