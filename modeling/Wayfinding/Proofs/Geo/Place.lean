import Mathlib.Data.List.TakeWhile
import Wayfinding.Geo.Coordinate
import Wayfinding.Proofs.Number.ReadBack

/-!
# Places as text

A text is read as a place exactly when it has one of the two forms, both numbers can be read
without the blanks around them, and they are exact numbers within the bounds. A coordinate on the
globe reads back from both forms, since neither separator nor the tag occurs in a number or its
blanks.

Main definitions: `Text.Padded`, `Binary64.Within`, `Coordinate.OnGlobe`, `Coordinate.Form`.
Main lemmas: `Coordinate.inRange_iff`, `Coordinate.form_iff`, `Coordinate.parse?_eq_some_iff`.
-/

namespace Wayfinding

namespace Text

variable {c : Char} {cs text : List Char}

/-! ### Blanks around a text -/

/-- A text with any blanks before and after it. -/
inductive Padded (cs : List Char) : List Char → Prop where
  | blanks {before after : List Char} : (∀ c ∈ before, isBlank c = true) →
    (∀ c ∈ after, isBlank c = true) → Padded cs (before ++ cs ++ after)

/-- No blanks are blanks, too. -/
lemma Padded.self (cs : List Char) : Padded cs cs := by
  have hpadded : Padded cs ([] ++ cs ++ []) := .blanks nofun nofun
  rwa [List.nil_append, List.append_nil] at hpadded

/-- Besides what is padded there are only blanks. -/
lemma Padded.mem (h : Padded cs text) (hc : c ∈ text) : isBlank c = true ∨ c ∈ cs := by
  cases h with
  | blanks hbefore hafter =>
    rw [List.mem_append, List.mem_append] at hc
    obtain (hc | hc) | hc := hc
    · exact .inl (hbefore c hc)
    · exact .inr hc
    · exact .inl (hafter c hc)

/-- A text that is padded is not empty. -/
lemma Padded.ne_nil (h : Padded cs text) (hne : cs ≠ []) : text ≠ [] := by
  cases h with
  | blanks => exact List.append_ne_nil_of_left_ne_nil (List.append_ne_nil_of_right_ne_nil _ hne) _

/-- Without blanks, there is nothing to trim in front. -/
lemma trimStart_of_no_blank (h : ∀ c ∈ cs, isBlank c = false) : trimStart cs = cs := by
  cases cs with
  | nil => rfl
  | cons c cs => exact trimStart_eq_self (h c List.mem_cons_self)

/-- Without blanks, there is nothing to trim at the end. -/
lemma trimEnd_of_no_blank (h : ∀ c ∈ cs, isBlank c = false) : trimEnd cs = cs := by
  rw [trimEnd, trimStart_of_no_blank fun c hc => h c (List.mem_reverse.1 hc), List.reverse_reverse]

/-- Trimming takes the blanks away and nothing else. -/
lemma Padded.trim (h : Padded cs text) (hcs : ∀ c ∈ cs, isBlank c = false) :
    Text.trim text = cs := by
  cases h with
  | @blanks before after hbefore hafter =>
    unfold Text.trim
    rw [List.append_assoc, trimStart_blank_append hbefore]
    -- around an empty text all blanks are taken from the start
    cases cs with
    | nil =>
      have hblank : trimStart after = trimStart [] := by
        have hstart := trimStart_blank_append hafter []
        rwa [List.append_nil] at hstart
      rw [List.nil_append, hblank]
      rfl
    | cons c cs =>
      rw [List.cons_append, trimStart_eq_self (hcs c List.mem_cons_self), ← List.cons_append,
        trimEnd_append_blank hafter, trimEnd_of_no_blank hcs]

/-- A digit is no blank. -/
lemma isBlank_of_isDigit (h : Decimal.isDigit c = true) : isBlank c = false := by
  have hbounds : '0' ≤ c ∧ c ≤ '9' := of_decide_eq_true h
  have hlow : 48 ≤ c.toNat := hbounds.1
  have hhigh : c.toNat ≤ 57 := hbounds.2
  simp [isBlank]
  omega

end Text

namespace Binary64

variable {x y low high : Binary64} {a b q : ℚ}

/-! ### Exact bounds -/

/-- The number is an exact one and no further from zero than the bound. -/
def Within (bound : ℚ) (x : Binary64) : Prop :=
  ∃ q : ℚ, x.value = .number q ∧ -bound ≤ q ∧ q ≤ bound

/-- What has a number as its value is finite. -/
lemma isFinite_of_value (h : x.value = .number q) : x.isFinite = true := by
  cases x.kind with
  | nan hx => exact nomatch (value_of_isNaN hx).symm.trans h
  | finite hx => exact hx
  | infinite hx hf => exact nomatch (value_of_infinite hx hf).symm.trans h

/-- What is within bounds is finite. -/
lemma Within.isFinite (h : x.Within a) : x.isFinite = true := by
  obtain ⟨q, hq, -⟩ := h
  exact isFinite_of_value hq

/-- Numbers are ordered as their values are. -/
lemma le_iff_value : x ≤ y ↔ x.value ≠ .nan ∧ y.value ≠ .nan ∧ ¬y.value < x.value := by
  rw [Ne, Ne, value_eq_nan_iff, value_eq_nan_iff, Bool.not_eq_true, Bool.not_eq_true,
    ← lt_iff_value]
  constructor
  · rintro ⟨hx, hy, hle⟩
    exact ⟨hx, hy, Binary64.not_lt_of_le ⟨hx, hy, hle⟩⟩
  · rintro ⟨hx, hy, hlt⟩
    exact Binary64.le_of_not_lt hx hy hlt

/-- A number lies between two numbers exactly when what it stands for does. -/
lemma between_iff (hlow : low.value = .number a) (hhigh : high.value = .number b) :
    between low high x = true ↔ ∃ q : ℚ, x.value = .number q ∧ a ≤ q ∧ q ≤ b := by
  have hbetween : between low high x = true ↔ low ≤ x ∧ x ≤ high := decide_eq_true_iff
  rw [hbetween, le_iff_value, le_iff_value, hlow, hhigh]
  cases x.value with
  | number q => simp [Extended.number_lt]
  | infinity n => cases n <;> simp [LT.lt, Extended.below]
  | nan => simp

end Binary64

namespace Coordinate

variable {c : Coordinate} {place lon lat : List Char}

/-- Longitude and latitude are exact numbers within their bounds, the bounds included. -/
def OnGlobe (c : Coordinate) : Prop := c.lon.Within 180 ∧ c.lat.Within 90

/-- In range are the coordinates on the globe. -/
lemma inRange_iff : c.InRange ↔ c.OnGlobe := by
  have hvalue {x : Binary64} (n : Int) (hn : n.natAbs ≤ 2 ^ 53) (hx : x = .ofInt n) :
      x.value = .number n := by
    rw [hx, Binary64.value_ofInt hn]
  have hwest := hvalue (x := -lonBound) (-180) (by decide) (by decide +kernel)
  have heast := hvalue (x := lonBound) 180 (by decide) (by decide +kernel)
  have hsouth := hvalue (x := -latBound) (-90) (by decide) (by decide +kernel)
  have hnorth := hvalue (x := latBound) 90 (by decide) (by decide +kernel)
  rw [Int.cast_neg] at hwest hsouth
  exact and_congr (Binary64.between_iff hwest heast) (Binary64.between_iff hsouth hnorth)

/-! ### The two forms -/

/-- The forms of a place, with the texts of its longitude and its latitude. -/
inductive Form : List Char → List Char → List Char → Prop where
  | tagged {lon lat : List Char} : ':' ∉ lon → Form (tag ++ (lon ++ ':' :: lat)) lon lat
  | plain {lon lat : List Char} : ¬tag <+: lon ++ ';' :: lat → ';' ∉ lon →
    Form (lon ++ ';' :: lat) lon lat

/-- A text is split at the first occurrence of the separator. -/
lemma splitOnce_eq_some_iff {separator : Char} :
    splitOnce separator place = some (lon, lat) ↔
      place = lon ++ separator :: lat ∧ separator ∉ lon := by
  have happend := @List.takeWhile_append_dropWhile _ (· != separator) place
  unfold splitOnce
  constructor
  · intro h
    split at h
    · cases h
    · next c rest hdrop =>
      obtain ⟨rfl, rfl⟩ := Prod.mk.inj (Option.some.inj h)
      have hnot := List.head?_dropWhile_not (· != separator) place
      rw [hdrop] at hnot happend
      obtain rfl : c = separator := bne_eq_false_iff_eq.1 hnot
      refine ⟨happend.symm, fun hmem => ?_⟩
      have hne := @List.mem_takeWhile_imp _ (· != c) _ _ hmem
      exact bne_iff_ne.1 hne rfl
  · rintro ⟨rfl, hlon⟩
    have hbefore (c : Char) (hc : c ∈ lon) : (c != separator) = true :=
      bne_iff_ne.2 fun heq => hlon (heq ▸ hc)
    rw [List.takeWhile_append_of_pos hbefore, List.dropWhile_append_of_pos hbefore]
    simp

/-- A place is split into its longitude and its latitude if it has one of the two forms. -/
lemma form_iff : components? place = some (lon, lat) ↔ Form place lon lat := by
  constructor
  · intro h
    unfold components? at h
    split at h
    case isTrue htag =>
      obtain ⟨hrest, hlon⟩ := splitOnce_eq_some_iff.1 h
      have hplace := List.prefix_iff_eq_append.1 (List.isPrefixOf_iff_prefix.1 htag)
      rw [← hplace, hrest]
      exact .tagged hlon
    case isFalse htag =>
      obtain ⟨rfl, hlon⟩ := splitOnce_eq_some_iff.1 h
      exact .plain (mt List.isPrefixOf_iff_prefix.2 htag) hlon
  · intro h
    unfold components?
    cases h with
    | tagged hlon =>
      rw [if_pos (List.isPrefixOf_iff_prefix.2 (List.prefix_append _ _)), List.drop_left]
      exact splitOnce_eq_some_iff.2 ⟨rfl, hlon⟩
    | plain htag hlon =>
      rw [if_neg (mt List.isPrefixOf_iff_prefix.1 htag)]
      exact splitOnce_eq_some_iff.2 ⟨rfl, hlon⟩

/-- Both number texts are read and the place lies on the globe. -/
def Reads (lon lat : List Char) (c : Coordinate) : Prop :=
  Binary64.parse? (Text.trim lon) = some c.lon ∧ Binary64.parse? (Text.trim lat) = some c.lat ∧
    c.OnGlobe

/-- A coordinate is read from the texts of its longitude and latitude. -/
lemma parse?_eq_some_iff {place : String} :
    parse? place = some c ↔ ∃ lon lat, Form place.toList lon lat ∧ Reads lon lat c := by
  simp only [parse?, Option.bind_eq_bind, Option.bind_eq_some_iff, Prod.exists, form_iff]
  constructor
  · rintro ⟨lon, lat, hform, x, hx, y, hy, h⟩
    split at h
    · next hc =>
      obtain rfl := Option.some.inj h
      exact ⟨lon, lat, hform, hx, hy, inRange_iff.1 hc⟩
    · cases h
  · rintro ⟨lon, lat, hform, hlon, hlat, hc⟩
    exact ⟨lon, lat, hform, c.lon, hlon, c.lat, hlat, if_pos (inRange_iff.2 hc)⟩

end Coordinate

/-! ### What is written reads back -/

namespace Binary64

variable {x : Binary64} {text : List Char} {c : Char}

/-- Whether a character may occur in a number or among the blanks around it. -/
def isNumeric (c : Char) : Bool :=
  Text.isBlank c || Decimal.isDigit c || c == '-' || c == '.'

/-- What is no part of a number is not in its padded text. -/
lemma not_mem_padded (h : x.isFinite = true) (hpadded : Text.Padded x.positional text)
    (hc : isNumeric c = false) : c ∉ text := by
  intro hmem
  have hnumeric : isNumeric c = true := by
    unfold isNumeric
    obtain hblank | hnumber := hpadded.mem hmem
    · simp [hblank]
    · obtain hdigit | rfl | rfl := (positional_chars h).2 c hnumber
      · simp [hdigit]
      · simp
      · simp
  rw [hc] at hnumeric
  exact absurd hnumeric (by decide)

/-- A finite number reads back from between its blanks. -/
lemma parse?_trim (h : x.isFinite = true) (hpadded : Text.Padded x.positional text) :
    parse? (Text.trim text) = some x := by
  have hblank (c : Char) (hc : c ∈ x.positional) : Text.isBlank c = false := by
    obtain hdigit | rfl | rfl := (positional_chars h).2 c hc
    · exact Text.isBlank_of_isDigit hdigit
    · decide
    · decide
  rw [hpadded.trim hblank, parse?_positional h]

end Binary64

namespace Coordinate

variable {c : Coordinate} {lon lat : List Char}

/-- What starts with a number has no tag. -/
lemma not_tagged_append (hne : lon ≠ []) (hlon : 'c' ∉ lon) (rest : List Char) :
    ¬tag <+: lon ++ rest := by
  obtain ⟨d, lon, rfl⟩ := List.exists_cons_of_ne_nil hne
  rintro ⟨text, htext⟩
  have hd : 'c' = d := List.head_eq_of_cons_eq htext
  exact hlon (hd ▸ List.mem_cons_self)

/-- A coordinate on the globe reads back from both forms, with any blanks around its numbers. -/
lemma parse?_padded (hc : c.OnGlobe) (hlon : Text.Padded c.lon.positional lon)
    (hlat : Text.Padded c.lat.positional lat) :
    parse? (String.ofList (lon ++ ';' :: lat)) = some c ∧
      parse? (String.ofList (tag ++ (lon ++ ':' :: lat))) = some c := by
  have hfinite := hc.1.isFinite
  have hfree {d : Char} (hd : Binary64.isNumeric d = false) : d ∉ lon :=
    Binary64.not_mem_padded hfinite hlon hd
  have hreads : Reads lon lat c :=
    ⟨Binary64.parse?_trim hfinite hlon, Binary64.parse?_trim hc.2.isFinite hlat, hc⟩
  constructor
  · refine parse?_eq_some_iff.2 ⟨lon, lat, ?_, hreads⟩
    have hne : lon ≠ [] := hlon.ne_nil (Binary64.positional_chars hfinite).1
    rw [String.toList_ofList]
    exact .plain (not_tagged_append hne (hfree (by decide)) _) (hfree (by decide))
  · refine parse?_eq_some_iff.2 ⟨lon, lat, ?_, hreads⟩
    rw [String.toList_ofList]
    exact .tagged (hfree (by decide))

/-- A place is read as a coordinate exactly when it has one of the two forms, its numbers are
those of the coordinate and these are within their bounds. A coordinate within the bounds reads
back bit for bit as it is displayed, and from both forms with any blanks around its numbers. -/
theorem undoes_display (c : Coordinate) :
    (∀ place, parse? place = some c → c.OnGlobe) ∧
    (∀ place, parse? place = some c ↔
      ∃ lon lat, Form place.toList lon lat ∧ Reads lon lat c) ∧
    (c.OnGlobe → parse? c.display = some c ∧
      ∀ lon lat, Text.Padded c.lon.positional lon → Text.Padded c.lat.positional lat →
        parse? (String.ofList (lon ++ ';' :: lat)) = some c ∧
        parse? (String.ofList (tag ++ (lon ++ ':' :: lat))) = some c) := by
  refine ⟨fun place h => ?_, fun place => parse?_eq_some_iff, fun hc => ⟨?_, ?_⟩⟩
  · obtain ⟨lon, lat, -, -, -, hc⟩ := parse?_eq_some_iff.1 h
    exact hc
  · exact (parse?_padded hc (.self _) (.self _)).1
  · exact fun lon lat hlon hlat => parse?_padded hc hlon hlat

/-- Both forms of a place at the North Pole whose longitude is the negative zero. -/
theorem undoes_display_pole :
    parse? "\t-0 ; 90" = some ⟨.ofParts true 0, .ofNat 90⟩ ∧
      parse? "coord:\t-0 : 90" = some ⟨.ofParts true 0, .ofNat 90⟩ := by
  -- under a name of its own the coordinate is not evaluated when the theorem is applied
  obtain ⟨pole, hpole⟩ : ∃ c : Coordinate, c = ⟨.ofParts true 0, .ofNat 90⟩ := ⟨_, rfl⟩
  have hglobe : pole.OnGlobe := by
    rw [hpole]
    exact inRange_iff.1 (by decide +kernel)
  have hlon : Text.Padded pole.lon.positional "\t-0 ".toList := by
    have htext : "\t-0 ".toList = ['\t'] ++ pole.lon.positional ++ [' '] := by
      rw [hpole]
      decide +kernel
    rw [htext]
    exact .blanks (List.forall_mem_singleton.2 rfl) (List.forall_mem_singleton.2 rfl)
  have hlat : Text.Padded pole.lat.positional " 90".toList := by
    have htext : " 90".toList = [' '] ++ pole.lat.positional ++ [] := by
      rw [hpole]
      decide +kernel
    rw [htext]
    exact .blanks (List.forall_mem_singleton.2 rfl) (List.forall_mem_nil _)
  have hreads := ((undoes_display pole).2.2 hglobe).2 _ _ hlon hlat
  rw [← hpole]
  exact hreads

end Coordinate

end Wayfinding
