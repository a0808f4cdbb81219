import Provision.Text.Decimal
import Provision.Text.Utf8

/-!
Addresses on the network in their normal form: the parts of one, and the text they make.
-/

set_option autoImplicit false

namespace Provision

structure Url where
  scheme : List Char
  user : List Char
  password : List Char
  host : Option (List Char)
  port : Option Nat
  path : List Char
  query : Option (List Char)
  fragment : Option (List Char)
  deriving DecidableEq, Repr

namespace Url

inductive Error where
  | relative
  | emptyHost
  | port
  | ipv4
  | ipv6
  | character
  | domain
  deriving DecidableEq, Repr

def Error.message : Error → String
  | .relative => "relative URL without a base"
  | .emptyHost => "empty host"
  | .port => "invalid port number"
  | .ipv4 => "invalid IPv4 address"
  | .ipv6 => "invalid IPv6 address"
  | .character => "invalid domain character"
  | .domain => "invalid international domain name"

def usualPort (scheme : List Char) : Option Nat :=
  [("http".toList, 80), ("https".toList, 443), ("ws".toList, 80), ("wss".toList, 443), ("ftp".toList, 21)].lookup scheme

def isSpecial (scheme : List Char) : Bool := (usualPort scheme).isSome || scheme = "file".toList

def optional (mark : Char) : Option (List Char) → List Char
  | some cs => mark :: cs
  | none => []

/-- Text of an address. A path that starts like a host, where there is none, has a dot in front. -/
def write (u : Url) : List Char :=
  let credentials :=
    if u.user.isEmpty && u.password.isEmpty then []
    else u.user ++ (if u.password.isEmpty then [] else ':' :: u.password) ++ ['@']
  let authority := match u.host with
    | some h => '/' :: '/' :: credentials ++ h ++ (match u.port with
      | some p => ':' :: Decimal.write p
      | none => [])
    | none => if u.path.take 2 = ['/', '/'] then ['/', '.'] else []
  u.scheme ++ ':' :: authority ++ u.path ++ optional '?' u.query ++ optional '#' u.fragment

def text (u : Url) : String := String.ofList u.write

def withoutCredentials (u : Url) : Url := { u with user := [], password := [] }

def effectivePort (u : Url) : Option Nat := u.port.or (usualPort u.scheme)

/-- Characters that are escaped in every part: those that do not print, and all beyond ASCII. -/
def isUnprintable (c : Char) : Bool := c.toNat < 32 || c.toNat ≥ 127

def escapedIn (more : List Char) (c : Char) : Bool := isUnprintable c || more.contains c

def fragmentSet : List Char := [' ', '"', '<', '>', Char.ofNat 96]
def querySet : List Char := [' ', '"', '#', '<', '>']
def specialQuerySet : List Char := Char.ofNat 39 :: querySet
def pathSet : List Char := fragmentSet ++ ['#', '?', '\x7b', '\x7d']
def userSet : List Char := pathSet ++ ['/', ':', ';', '=', '@', '[', '\\', ']', '^', '|']

def hexDigit (n : Nat) : Char := if n < 10 then Char.ofNat (48 + n) else Char.ofNat (55 + n)

def percent (c : Char) : List Char :=
  (String.singleton c).toUTF8.toList.flatMap fun b => ['%', hexDigit (b.toNat / 16), hexDigit (b.toNat % 16)]

def escape (set : List Char) (cs : List Char) : List Char :=
  cs.flatMap fun c => if escapedIn set c then percent c else [c]

def hexValue? (c : Char) : Option Nat :=
  if '0' ≤ c && c ≤ '9' then some (c.toNat - 48)
  else if 'a' ≤ c && c ≤ 'f' then some (c.toNat - 87)
  else if 'A' ≤ c && c ≤ 'F' then some (c.toNat - 55)
  else none

def unescape : List Char → List UInt8
  | [] => []
  | '%' :: a :: b :: rest =>
    match hexValue? a, hexValue? b with
    | some x, some y => (x * 16 + y).toUInt8 :: unescape rest
    | _, _ => 37 :: unescape (a :: b :: rest)
  | c :: rest => (String.singleton c).toUTF8.toList ++ unescape rest

end Url

end Provision
