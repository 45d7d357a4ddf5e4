/-
# EventRules.Notify.Url -- addresses of endpoints

An address is a scheme, an authority and a target.  The parts that a client sends
are in their normal form: a path starts with a slash and has no dot segments,
characters that cannot stand in it are percent-encoded bytes, and a fragment is
dropped.
-/
import EventRules.Text.Digits
namespace EventRules

set_option autoImplicit false

open Text

/-- Where a request goes. -/
structure Url where
  scheme : String
  /-- The host with its port, without the name of a user. -/
  authority : String
  /-- The path and the query. -/
  target : String
  deriving DecidableEq, Repr

namespace Url

/-- A byte as a percent sign and two hexadecimal digits. -/
def percent (b : UInt8) : List Char :=
  '%' :: (hexPadded 2 b.toNat).map Char.toUpper

/-- A character as it is sent, when `plain` says which characters stay. -/
def encode (plain : Char → Bool) (c : Char) : List Char :=
  if 0x20 < c.toNat && c.toNat < 0x7F && plain c then [c]
  else (String.singleton c).toUTF8.toList.flatMap percent

/-- The characters that stay in a path. -/
def plainInPath (c : Char) : Bool :=
  !(['"', '#', '<', '>', '?', '\x60', '\x7b', '\x7d', '^'].contains c)

/-- The characters that stay in a query. -/
def plainInQuery (c : Char) : Bool := !(['"', '#', '<', '>', '\''].contains c)

/-- Whether a segment of a path is the place where it stands. -/
def isDot (segment : List Char) : Bool :=
  [".", "%2e"].contains (String.ofList (segment.map Char.toLower))

/-- Whether a segment of a path goes one up. -/
def isDoubleDot (segment : List Char) : Bool :=
  ["..", ".%2e", "%2e.", "%2e%2e"].contains (String.ofList (segment.map Char.toLower))

/-- The segments of a path between slashes. -/
def segments : List Char → List (List Char)
  | [] => [[]]
  | c :: rest =>
      if c = '/' || c = '\\' then [] :: segments rest
      else
        match segments rest with
        | first :: more => (c :: first) :: more
        | [] => [[c]]

/-- Take dot segments away, where `found` are the segments before, reversed. -/
def resolveDots (found : List (List Char)) : List (List Char) → List (List Char)
  | [] => found.reverse
  | [last] =>
      if isDoubleDot last then ([] :: found.tail).reverse
      else if isDot last then ([] :: found).reverse
      else (last :: found).reverse
  | segment :: rest =>
      if isDoubleDot segment then resolveDots found.tail rest
      else if isDot segment then resolveDots found rest
      else resolveDots (segment :: found) rest

/-- The normal form of a path. -/
def path (chars : List Char) : List Char :=
  let body :=
    match chars with
    | c :: rest => if c = '/' || c = '\\' then rest else chars
    | [] => []
  '/' :: (List.intercalate ['/'] (resolveDots [] (segments body))).flatMap (encode plainInPath)

/-- The text before a character, and what follows from it on. -/
def upTo (stop : Char → Bool) (chars : List Char) : List Char × List Char :=
  (chars.takeWhile fun c => !stop c, chars.dropWhile fun c => !stop c)

/-- Read an address. -/
def read? (s : String) : Option Url :=
  let edge := fun (c : Char) => c.toNat ≤ 0x20
  let chars := ((s.toList.dropWhile edge).reverse.dropWhile edge).reverse
  let chars := chars.filter fun c => c != '\t' && c != '\n' && c != '\r'
  let (scheme, rest) := upTo (· = ':') chars
  let scheme := scheme.map Char.toLower
  if scheme = "http".toList || scheme = "https".toList then
    let rest := (rest.drop 1).dropWhile fun c => c = '/' || c = '\\'
    let (authority, rest) := upTo (fun c => c = '/' || c = '\\' || c = '?' || c = '#') rest
    let host := (authority.reverse.takeWhile (· ≠ '@')).reverse
    let (pathChars, rest) := upTo (fun c => c = '?' || c = '#') rest
    let query :=
      match rest with
      | '?' :: rest => '?' :: (upTo (· = '#') rest).1.flatMap (encode plainInQuery)
      | _ => []
    let badHost := fun (c : Char) => c.toNat ≤ 0x20 || [' ', '<', '>', '^', '|', '%'].contains c
    if host.isEmpty || host.any badHost then none
    else
      some ⟨String.ofList scheme, String.ofList (host.map Char.toLower),
        String.ofList (path pathChars ++ query)⟩
  else none

end Url
end EventRules
