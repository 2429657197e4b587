/-!
# White space

The characters with the Unicode property White_Space, and the text between the blanks at both ends.

Main statements: `trimStart_blank_append` and `trimEnd_append_blank`, by which blanks around a text
do not change what is between them.
-/

namespace Wayfinding.Text

/-- Whether a character has the Unicode property White_Space. -/
def isBlank (c : Char) : Bool :=
  let n := c.toNat
  (9 ≤ n && n ≤ 13) || n == 0x20 || n == 0x85 || n == 0xa0 || n == 0x1680 ||
    (0x2000 ≤ n && n ≤ 0x200a) || n == 0x2028 || n == 0x2029 || n == 0x202f || n == 0x205f ||
    n == 0x3000

/-- A text without the blanks at its start. -/
def trimStart (cs : List Char) : List Char := cs.dropWhile isBlank

/-- A text without the blanks at its end. -/
def trimEnd (cs : List Char) : List Char := (trimStart cs.reverse).reverse

/-- A text without the blanks at both ends. -/
def trim (cs : List Char) : List Char := trimEnd (trimStart cs)

/-- Blanks before a text do not change its trimmed start. -/
theorem trimStart_blank_append {blanks : List Char} (h : ∀ c ∈ blanks, isBlank c = true)
    (cs : List Char) : trimStart (blanks ++ cs) = trimStart cs := by
  induction blanks with
  | nil => rfl
  | cons c blanks ih =>
    have hc : isBlank c = true := h c (by simp)
    simp only [trimStart, List.cons_append, List.dropWhile_cons, hc, if_true]
    exact ih fun d hd => h d (by simp [hd])

/-- Blanks after a text do not change its trimmed end. -/
theorem trimEnd_append_blank {blanks : List Char} (h : ∀ c ∈ blanks, isBlank c = true)
    (cs : List Char) : trimEnd (cs ++ blanks) = trimEnd cs := by
  rw [trimEnd, List.reverse_append, trimStart_blank_append]
  · rfl
  · intro c hc
    exact h c (by simpa using hc)

/-- A text whose first character is no blank keeps its start. -/
theorem trimStart_eq_self {c : Char} {cs : List Char} (h : isBlank c = false) :
    trimStart (c :: cs) = c :: cs := by
  simp [trimStart, h]

end Wayfinding.Text
