/-!
# Punycode

A label of a domain name that holds characters outside ASCII is written in ASCII: first its ASCII
characters, then, behind the last hyphen, the other characters by increasing code, each as the
distance from the previous one in base 36.

Main definition: `Punycode.decode?`.
-/

namespace Wayfinding.Punycode

/-- The value of a digit in base 36: letters first, then the ten digits. -/
def digit? (c : Char) : Option Nat :=
  if 'a' ≤ c ∧ c ≤ 'z' then some (c.toNat - 'a'.toNat)
  else if 'A' ≤ c ∧ c ≤ 'Z' then some (c.toNat - 'A'.toNat)
  else if '0' ≤ c ∧ c ≤ '9' then some (c.toNat - '0'.toNat + 26)
  else none

/-- The largest value that a distance may have. -/
def limit : Nat := UInt32.size

/-- A digit at position `k` below this value ends its number. -/
def threshold (k bias : Nat) : Nat := min 26 (max 1 (k - bias))

/-- Reads a number whose digits have growing weights. -/
def takeNumber? (bias k weight sum : Nat) : List Char → Option (Nat × List Char)
  | [] => none
  | c :: rest =>
    match digit? c with
    | none => none
    | some d =>
      let sum := sum + d * weight
      if limit ≤ sum then none
      else if d < threshold k bias then some (sum, rest)
      else takeNumber? bias (k + 36) (weight * (36 - threshold k bias)) sum rest

theorem length_lt_of_takeNumber? {bias k weight sum : Nat} {cs : List Char}
    {r : Nat × List Char} (h : takeNumber? bias k weight sum cs = some r) :
    r.2.length < cs.length := by
  induction cs generalizing k weight sum with
  | nil => simp [takeNumber?] at h
  | cons c rest ih =>
    simp only [takeNumber?] at h
    split at h
    · exact absurd h (by simp)
    · split at h
      · exact absurd h (by simp)
      · split at h
        · obtain rfl := Option.some.inj h
          simp
        · exact Nat.lt_succ_of_lt (ih h)

/-- Divides a distance until it is small, counting the steps by 36. -/
def settle (delta k : Nat) : Nat :=
  if 455 < delta then settle (delta / 35) (k + 36) else k + 36 * delta / (delta + 38)
termination_by delta
decreasing_by omega

/-- The bias after a distance was read, for a label of `count` characters. -/
def adapt (delta count : Nat) (first : Bool) : Nat :=
  let delta := if first then delta / 700 else delta / 2
  settle (delta + delta / count) 0

/-- Whether a number is the code of a character. -/
def isCode (n : Nat) : Bool := n < 0xd800 || (0xdfff < n && n < 0x110000)

/-- Inserts the characters that the distances stand for; `code` and `place` are where the previous
one was inserted. -/
def insertAll? (code place bias : Nat) (label cs : List Char) : Option (List Char) :=
  if cs = [] then some label
  else match _h : takeNumber? bias 36 1 place cs with
    | none => none
    | some (position, rest) =>
      let count := label.length + 1
      let code := code + position / count
      let index := position % count
      if isCode code then
        insertAll? code (index + 1) (adapt (position - place) count (place = 0))
          (label.take index ++ Char.ofNat code :: label.drop index) rest
      else none
termination_by cs.length
decreasing_by exact length_lt_of_takeNumber? _h

/-- The label that an ASCII form stands for. -/
def decode? (cs : List Char) : Option (List Char) :=
  let tail := cs.reverse.takeWhile (· != '-')
  match cs.reverse.drop (tail.length + 1) with
  | [] => insertAll? 128 0 72 [] cs
  | plain => insertAll? 128 0 72 plain.reverse tail.reverse

end Wayfinding.Punycode
