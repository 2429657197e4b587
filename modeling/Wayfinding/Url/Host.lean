import Wayfinding.Address.Internet
import Wayfinding.Url.Fault
import Wayfinding.Url.Percent
import Wayfinding.Url.Punycode

/-!
# Hosts

The host in a URL is a domain name or an internet address.

Main definitions:
* `Domain.ofChars?`: a domain name with letters in lower case.
* `Ipv4.ofNumbers?`: an address of one to four numbers in decimal, octal or hexadecimal.
* `Host.parse`, `Host.parsePlain`: the hosts of the schemes that are known, and of all others.
-/

namespace Wayfinding

open Address

namespace Domain

/-- Whether an ASCII character may not stand in a domain name. -/
def isForbidden (c : Char) : Bool :=
  c.toNat ≤ 0x20 || c.toNat == 0x7f ||
    ['%', '#', '/', ':', '<', '>', '?', '@', '[', '\\', ']', '^', '|'].contains c

/-- Whether a character leaves no trace in a domain name. -/
def isIgnored (c : Char) : Bool :=
  let n := c.toNat
  n == 0xad || n == 0x34f || (0x180b ≤ n && n ≤ 0x180d) || n == 0x180f || n == 0x200b ||
    n == 0x2060 || n == 0x2064 || (0xfe00 ≤ n && n ≤ 0xfe0f) || n == 0xfeff ||
    (0xe0100 ≤ n && n ≤ 0xe01ef)

/-- Whether a character outside ASCII may stand in no domain name: control characters, blanks,
characters for private use and those that are none. -/
def isUnusable (c : Char) : Bool :=
  let n := c.toNat
  (0x80 ≤ n && n ≤ 0xa0) || n == 0x1680 || (0x2000 ≤ n && n ≤ 0x200f) ||
    (0x2028 ≤ n && n ≤ 0x202f) || (0x205f ≤ n && n ≤ 0x206f) || n == 0x3000 ||
    (0xe000 ≤ n && n ≤ 0xf8ff) || (0xfdd0 ≤ n && n ≤ 0xfdef) || (0xfff0 ≤ n && n ≤ 0xffff) ||
    n % 0x10000 ≥ 0xfffe || 0xe0000 ≤ n

/-- A character as it stands in a domain name: a full-width form is the ASCII character, and
letters are in lower case. -/
def fold (c : Char) : Char :=
  let n := c.toNat
  if 0xff01 ≤ n && n ≤ 0xff5e then (Char.ofNat (n - 0xfee0)).toLower
  else if n == 0x3002 || n == 0xff61 then '.'
  else c.toLower

/-- Whether a label can be kept; what follows `xn--` has to stand for a label that is not in
ASCII. -/
def isLabel (label : List Char) : Bool :=
  if label.take 4 = ['x', 'n', '-', '-'] then
    match Punycode.decode? (label.drop 4) with
    | some decoded => decoded.any (0x80 ≤ ·.toNat) && decoded.all fun c =>
        !isForbidden c && !isUnusable c && !isIgnored c && fold c == c
    | none => false
  else label.all fun c => !isForbidden c && !isUnusable c

/-- The domain name in a text in which escapes stand for bytes. -/
def ofChars? (cs : List Char) : Option String := do
  let text ← Utf8.decode? (Percent.decode cs)
  let folded := (text.toList.filter (!isIgnored ·)).map fold
  if (folded.splitOn '.').all isLabel then some (String.ofList folded) else none

end Domain

namespace Ipv4

/-- Reads a number in decimal, in octal after a zero or in hexadecimal after `0x`. -/
def number? (cs : List Char) : Option Nat :=
  match cs with
  | [] => none
  | '0' :: 'x' :: ds | '0' :: 'X' :: ds => Digit.number? 16 ds
  | ['0'] => some 0
  | '0' :: ds => Digit.number? 8 ds
  | ds => Digit.number? 10 ds

/-- The parts of a domain name between dots, without an empty last one. -/
def parts (domain : List Char) : List (List Char) :=
  match (domain.splitOn '.').reverse with
  | [] :: rest => rest.reverse
  | all => all.reverse

/-- Whether the last part of a domain name is a number, so that the name is taken as an address. -/
def endsInNumber (domain : List Char) : Bool :=
  match (parts domain).getLast? with
  | none | some [] => false
  | some last => last.all (Digit.isIn 10) || (number? last).isSome

/-- The address of one to four numbers; all but the last are bytes, and the last fills the bytes
that remain. -/
def ofNumbers? (numbers : List Nat) : Option Ipv4 :=
  match numbers.reverse with
  | [] => none
  | last :: bytes =>
    let bytes := bytes.reverse
    if 3 < bytes.length ∨ bytes.any (255 < ·) ∨ Nat.pow 256 (4 - bytes.length) ≤ last then none
    else
      let high := bytes.foldl (256 * · + ·) 0
      some ⟨.ofNat (high * Nat.pow 256 (4 - bytes.length) + last)⟩

/-- The address that a domain name writes. -/
def ofDomain? (domain : List Char) : Option Ipv4 := (parts domain).mapM number? >>= ofNumbers?

end Ipv4

/-- What a URL reaches. -/
inductive Host where
  | domain (name : String)
  | v4 (address : Ipv4)
  | v6 (address : Ipv6)
deriving DecidableEq

namespace Host

/-- Reads an IPv6 address between square brackets, of which the first has been read. -/
def parseBracketed (cs : List Char) : Except UrlFault Host :=
  match cs.getLast?, Ipv6.parse? cs.dropLast with
  | some ']', some a => .ok (v6 a)
  | _, _ => .error .badIpv6

/-- Reads the host of a URL whose scheme is known. -/
def parse : List Char → Except UrlFault Host
  | '[' :: rest => parseBracketed rest
  | cs =>
    match Domain.ofChars? cs with
    | none => .error .badDomain
    | some name =>
      if name.isEmpty then .error .emptyHost
      else if Ipv4.endsInNumber name.toList then
        match Ipv4.ofDomain? name.toList with
        | some a => .ok (v4 a)
        | none => .error .badIpv4
      else .ok (domain name)

/-- Whether a character may not stand in the host of a URL whose scheme is not known. -/
def isForbidden (c : Char) : Bool :=
  ['\x00', '\t', '\n', '\r', ' ', '#', '/', ':', '<', '>', '?', '@', '[', '\\', ']', '^',
    '|'].contains c

/-- Reads the host of a URL whose scheme is not known. -/
def parsePlain : List Char → Except UrlFault Host
  | '[' :: rest => parseBracketed rest
  | cs =>
    if cs.any isForbidden then .error .badHostCharacter
    else .ok (domain (String.ofList (Percent.encode Percent.isControl cs)))

end Host

end Wayfinding
