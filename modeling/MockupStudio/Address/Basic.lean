/-
Addresses of services.

* `Address`: scheme, authority and the segments of a path;
* `Address.read`: an address in its usual form; query and fragment are left
  out;
* `Address.asDirectory`: the address with a slash at its end;
* `Address.join`: a path seen from an address, in which `.` and `..` are
  resolved.
-/
import MockupStudio.Address.Host

namespace MockupStudio

/-- An address with a hierarchy of segments. -/
structure Address where
  scheme : String
  /-- Everything between the two slashes and the path, if there are such
  slashes. -/
  authority : Option String
  /-- The segments after each slash of the path. -/
  segments : List String
  deriving Repr, DecidableEq, Inhabited

namespace Address

/-- The path of an address. -/
def path (a : Address) : String := a.segments.foldl (fun out s => out ++ "/" ++ s) ""

/-- An address as text. -/
def text (a : Address) : String :=
  a.scheme ++ ":" ++ (a.authority.map ("//" ++ ·)).getD "" ++ a.path

/-- The port that need not be named, for the schemes whose paths always begin
with a slash. -/
def defaultPort? (scheme : String) : Option Nat :=
  [("http", 80), ("https", 443), ("ws", 80), ("wss", 443), ("ftp", 21)].lookup scheme

/-- Whether a segment stands for the directory itself. -/
def isHere (segment : String) : Bool :=
  segment = "." || segment.toLower = "%2e"

/-- Whether a segment stands for the directory above. -/
def isAbove (segment : String) : Bool :=
  ["..", ".%2e", "%2e.", "%2e%2e"].contains segment.toLower

/-- Follows segments from a place, given by its segments in reverse. -/
def follow : List String → List String → List String
  | place, [] => place.reverse
  | place, [last] =>
    if isAbove last then ("" :: place.tail).reverse
    else if isHere last then ("" :: place).reverse
    else (last :: place).reverse
  | place, segment :: rest =>
    if isAbove segment then follow place.tail rest
    else if isHere segment then follow place rest
    else follow (segment :: place) rest

/-- The segments of a path after its first slash. -/
def splitSegments (backslash : Bool) (cs : List Char) : List String :=
  let cs := if backslash then cs.map fun c => if c = '\\' then '/' else c else cs
  (cs.splitOn '/').map fun segment => String.ofList (Percent.encode Percent.inPath segment)

/-- The address with a slash at its end. -/
def asDirectory (a : Address) : Address :=
  if a.segments.getLast? = some "" then a else { a with segments := a.segments ++ [""] }

/-- A path seen from an address. -/
def join (a : Address) (path : String) : Address :=
  { a with segments := follow a.segments.dropLast.reverse (splitSegments true path.toList) }

/-- Whether a character can be part of a scheme. -/
def inScheme (c : Char) : Bool := c.isAlphanum || c = '+' || c = '-' || c = '.'

/-- The scheme of an address and what follows its colon. -/
def readScheme? (cs : List Char) : Option (String × List Char) :=
  let scheme := cs.takeWhile inScheme
  match cs.drop scheme.length with
  | ':' :: rest =>
    if (scheme.head?.map Char.isAlpha).getD false then
      some (String.ofList (scheme.map Char.toLower), rest)
    else none
  | _ => none

/-- A port, written only if it is not the usual one. -/
def readPort (usual : Option Nat) (cs : List Char) : Except AddressError (List Char) :=
  if !cs.all Char.isDigit then .error .badPort
  else
    let port := Decimal.naturalOf cs
    if twoTo 16 ≤ port then .error .badPort
    else if cs.isEmpty ∨ usual = some port then .ok []
    else .ok (':' :: (Decimal.integer port).toList)

/-- User and password, written before an at sign. -/
def writeUser (cs : List Char) : List Char :=
  let user := cs.takeWhile (· ≠ ':')
  let password := (cs.drop user.length).drop 1
  let out := Percent.encode Percent.inUser user
    ++ (if password.isEmpty then [] else ':' :: Percent.encode Percent.inUser password)
  if out.isEmpty then [] else out ++ ['@']

/-- The part of an authority before the last at sign, and after it. -/
def splitUser (cs : List Char) : List Char × List Char :=
  let host := (cs.reverse.takeWhile (· ≠ '@')).reverse
  (cs.take (cs.length - host.length - 1), host)

/-- A host and what follows it: a colon outside of brackets ends it. -/
def splitHost (inBrackets : Bool) : List Char → List Char × List Char
  | [] => ([], [])
  | c :: cs =>
    if c = ':' && !inBrackets then ([], c :: cs)
    else
      let within := if c = '[' then true else if c = ']' then false else inBrackets
      let (host, rest) := splitHost within cs
      (c :: host, rest)

/-- An authority in its usual form. -/
def readAuthority (usual : Option Nat) (cs : List Char) : Except AddressError (List Char) := do
  let (user, rest) := splitUser cs
  let (host, port) := splitHost false rest
  if host.isEmpty ∧ (usual.isSome ∨ !port.isEmpty ∨ cs.contains '@') then throw .emptyHost
  let host ← if usual.isSome then Host.readHost host else pure host
  let port ← readPort usual (port.drop 1)
  return writeUser user ++ host ++ port

/-- Without the characters that are dropped wherever they stand, and without
blanks and control characters at the ends. -/
def cleaned (cs : List Char) : List Char :=
  let cs := (cs.dropWhile (· ≤ ' ')).reverse.dropWhile (· ≤ ' ') |>.reverse
  cs.filter fun c => c ≠ '\t' && c ≠ '\n' && c ≠ '\r'

/-- The part before query and fragment. -/
def beforeQuery (cs : List Char) : List Char := cs.takeWhile fun c => c ≠ '?' && c ≠ '#'

/-- Whether a character is a slash; in the usual schemes a backslash is one
too. -/
def isSlash (backslash : Bool) (c : Char) : Bool := c = '/' || backslash && c = '\\'

/-- Authority and path after the slashes. -/
def readRest (scheme : String) (backslash : Bool) (cs : List Char) :
    Except AddressError Address := do
  let usual := defaultPort? scheme
  let authority := cs.takeWhile fun c => !isSlash backslash c
  let path := cs.drop authority.length
  let authority ←
    if scheme = "file" then
      if authority.isEmpty then pure []
      else do
        let host ← Host.readHost authority
        pure (if host = "localhost".toList then [] else host)
    else readAuthority usual authority
  let segments :=
    if path.isEmpty ∧ !backslash then [] else follow [] (splitSegments backslash (path.drop 1))
  return ⟨scheme, some (String.ofList authority), segments⟩

/-- Reads an address. -/
def read (s : String) : Except AddressError Address :=
  match readScheme? (cleaned s.toList) with
  | none => .error .noScheme
  | some (scheme, rest) =>
    let rest := beforeQuery rest
    if (defaultPort? scheme).isSome then readRest scheme true (rest.dropWhile (isSlash true))
    else
      let backslash := scheme = "file"
      match rest with
      | a :: b :: tail =>
        if isSlash backslash a && isSlash backslash b then readRest scheme backslash tail
        else withoutAuthority scheme backslash rest
      | rest => withoutAuthority scheme backslash rest
where
  /-- An address with one slash or none after its scheme. -/
  withoutAuthority (scheme : String) (backslash : Bool) (rest : List Char) :
      Except AddressError Address :=
    match rest with
    | c :: path =>
      if isSlash backslash c then
        .ok ⟨scheme, if backslash then some "" else none,
          follow [] (splitSegments backslash path)⟩
      else if backslash then .ok ⟨scheme, some "", follow [] (splitSegments true rest)⟩
      else .error .noHierarchy
    | [] => if backslash then .ok ⟨scheme, some "", [""]⟩ else .error .noHierarchy

end Address

end MockupStudio
