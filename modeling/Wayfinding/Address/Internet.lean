import Wayfinding.Text.Digit

/-!
# Internet addresses

Main definitions:
* `Ipv4.take?`: an address of four decimal numbers at the start of a text.
* `Ipv6.take?`: an address of eight hexadecimal groups, of which `::` stands for a run of zeros and
  an IPv4 address for the last two.
-/

namespace Wayfinding

namespace Address

/-- Reads a number below a limit; it has at least one digit, and nothing bounds their count. -/
def takeNumber? (base limit : Nat) (cs : List Char) : Option (Nat × List Char) :=
  let digits := cs.takeWhile (Digit.isIn base)
  if digits ≠ [] ∧ Digit.number base digits < limit then
    some (Digit.number base digits, cs.dropWhile (Digit.isIn base))
  else none

/-- What follows a character, if the text starts with it. -/
def takeChar? (c : Char) : List Char → Option (List Char)
  | d :: rest => if c = d then some rest else none
  | [] => none

end Address

open Address

/-- An address of 32 bits. -/
structure Ipv4 where
  number : UInt32
deriving DecidableEq, Repr

namespace Ipv4

/-- The address of four bytes, the first of them the highest. -/
def ofBytes (a b c d : Nat) : Ipv4 := ⟨.ofNat (((a * 256 + b) * 256 + c) * 256 + d)⟩

/-- The higher and the lower half. -/
def groups (a : Ipv4) : List UInt16 := [(a.number >>> 16).toUInt16, a.number.toUInt16]

/-- Reads a byte in decimal, without leading zeros. -/
def takeByte? (cs : List Char) : Option (Nat × List Char) :=
  match cs.takeWhile (Digit.isIn 10) with
  | '0' :: _ :: _ => none
  | _ => takeNumber? 10 256 cs

/-- Reads four bytes with dots between them. -/
def take? (cs : List Char) : Option (Ipv4 × List Char) := do
  let (a, cs) ← takeByte? cs
  let (b, cs) ← takeChar? '.' cs >>= takeByte?
  let (c, cs) ← takeChar? '.' cs >>= takeByte?
  let (d, cs) ← takeChar? '.' cs >>= takeByte?
  return (ofBytes a b c d, cs)

end Ipv4

/-- An address of eight groups of 16 bits. -/
structure Ipv6 where
  groups : List UInt16
  length_groups : groups.length = 8
deriving DecidableEq

namespace Ipv6

/-- Groups at the start of a text. -/
structure Run where
  groups : List UInt16
  /-- Whether the last two groups were written as an IPv4 address. -/
  embedded : Bool
  rest : List Char

/-- Reads a group of one to four digits. -/
def takeGroup? (cs : List Char) : Option (UInt16 × List Char) :=
  if 4 < (cs.takeWhile (Digit.isIn 16)).length then none
  else (takeNumber? 16 UInt16.size cs).map fun r => (.ofNat r.1, r.2)

/-- Reads groups with colons between them, at most `limit`; `first` tells that no colon precedes
the next one. -/
def takeGroups : (limit : Nat) → (first : Bool) → List Char → Run
  | 0, _, cs => ⟨[], false, cs⟩
  | limit + 1, first, cs =>
    let body := if first then some cs else takeChar? ':' cs
    match if limit = 0 then none else body >>= Ipv4.take? with
    | some (a, rest) => ⟨a.groups, true, rest⟩
    | none =>
      match body >>= takeGroup? with
      | some (g, rest) =>
        let more := takeGroups limit false rest
        ⟨g :: more.groups, more.embedded, more.rest⟩
      | none => ⟨[], false, cs⟩

theorem length_takeGroups_le (limit : Nat) (first : Bool) (cs : List Char) :
    (takeGroups limit first cs).groups.length ≤ limit := by
  fun_induction takeGroups limit first cs <;> grind [Ipv4.groups]

/-- An address whose groups between the given ones are zero. -/
def ofEnds (head tail : List UInt16) (h : head.length + tail.length ≤ 8) : Ipv6 where
  groups := head ++ List.replicate (8 - head.length - tail.length) 0 ++ tail
  length_groups := by simp only [List.length_append, List.length_replicate]; omega

/-- Reads an address; `::` stands for at least one group. -/
def take? (cs : List Char) : Option (Ipv6 × List Char) :=
  let head := takeGroups 8 true cs
  if h : head.groups.length = 8 then some (⟨head.groups, h⟩, head.rest)
  else if head.embedded then none
  else match head.rest with
    | ':' :: ':' :: rest =>
      let tail := takeGroups (7 - head.groups.length) true rest
      have bound : head.groups.length + tail.groups.length ≤ 8 := by
        have h₁ : head.groups.length ≤ 8 := length_takeGroups_le 8 true cs
        have h₂ : tail.groups.length ≤ 7 - head.groups.length :=
          length_takeGroups_le (7 - head.groups.length) true rest
        omega
      some (ofEnds head.groups tail.groups bound, tail.rest)
    | _ => none

/-- Reads a text that is an address and nothing else. -/
def parse? (cs : List Char) : Option Ipv6 :=
  match take? cs with
  | some (a, []) => some a
  | _ => none

end Ipv6

end Wayfinding
