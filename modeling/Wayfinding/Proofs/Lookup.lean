import Mathlib.Data.List.Nodup
import Mathlib.Data.List.Perm.Basic
import Mathlib.Tactic.Lemma

/-!
# Looking up and replacing

States, inboxes and mailboxes are kept as lists of entries with keys, of which the first with a key
counts; threads and connections are kept as lists in which one is replaced at a time.

Main lemmas: `find?_filter_of_ne`, `lookup_map`, `lookup_update`, `eq_or_mem_of_mem_set`,
`countP_set_add`.
-/

namespace Wayfinding

/-! ### Entries -/

section Entries

variable {κ α β : Type} [DecidableEq κ] {xs : List (κ × α)} {k l : κ}

/-- Once the entries of a key are dropped, none is found. -/
lemma find?_filter_self (xs : List (κ × α)) (k : κ) :
    ((xs.filter fun e => e.1 ≠ k).find? fun e => e.1 = k) = none := by
  rw [List.find?_eq_none]
  intro e he hk
  exact of_decide_eq_true (List.mem_filter.1 he).2 (of_decide_eq_true hk)

/-- Leaving out one key does not hide another. -/
lemma find?_filter_of_ne (xs : List (κ × α)) (h : l ≠ k) :
    ((xs.filter fun e => e.1 ≠ k).find? fun e => e.1 = l) = xs.find? fun e => e.1 = l := by
  rw [List.find?_filter]
  congr 1
  funext e
  by_cases he : e.1 = l
  · simp [he, h]
  · simp [he]

/-- What is found after all values have changed. -/
lemma lookup_map (xs : List (κ × α)) (f : κ → α → β) (k : κ) :
    ((xs.map fun e => (e.1, f e.1 e.2)).find? fun e => e.1 = k).map (·.2) =
      ((xs.find? fun e => e.1 = k).map (·.2)).map (f k) := by
  rw [List.find?_map, Option.map_map, Option.map_map]
  change Option.map _ (xs.find? fun e => decide (e.1 = k)) = _
  cases hf : xs.find? fun e => e.1 = k with
  | none => rfl
  | some e =>
    obtain rfl : e.1 = k := by simpa using List.find?_some hf
    rfl

/-- What is found after the value of one key has changed. -/
lemma lookup_update (xs : List (κ × α)) (f : α → α) (k l : κ) :
    ((xs.map fun e => if e.1 = k then (k, f e.2) else e).find? fun e => e.1 = l).map (·.2) =
      if l = k then ((xs.find? fun e => e.1 = l).map (·.2)).map f
      else (xs.find? fun e => e.1 = l).map (·.2) := by
  have hmap : (xs.map fun e => if e.1 = k then (k, f e.2) else e) =
      xs.map fun e => (e.1, if e.1 = k then f e.2 else e.2) := by
    apply List.map_congr_left
    intro e _
    split
    · next he => rw [he]
    · rfl
  rw [hmap, lookup_map xs fun k' a => if k' = k then f a else a]
  by_cases hl : l = k
  · simp only [hl, if_true]
  · simp only [hl, if_false, Option.map_id']

end Entries

/-! ### Replacing one of many -/

section Replacing

variable {α β : Type} {xs : List α} {f : α → β} {x x' y : α} {i : Nat}

/-- Replacing an element by one with the same key leaves the list of keys. -/
lemma map_set_of_eq (hi : xs[i]? = some x) (hf : f x' = f x) : (xs.set i x').map f = xs.map f := by
  obtain ⟨hlt, rfl⟩ := List.getElem?_eq_some_iff.1 hi
  have hlt' : i < (xs.map f).length := by rwa [List.length_map]
  have hself : (xs.map f)[i] = f xs[i] := List.getElem_map f
  rw [List.map_set, hf, ← hself, List.set_getElem_self]

/-- What is found at an index after one element has been replaced. -/
lemma of_getElem?_set {j : Nat} (h : (xs.set i x)[j]? = some y) :
    i = j ∧ y = x ∨ xs[j]? = some y := by
  rw [List.getElem?_set] at h
  split at h
  · next hij =>
    split at h
    · exact .inl ⟨hij, (Option.some.inj h).symm⟩
    · cases h
  · exact .inr h

/-- When one element is replaced, the others stay. -/
lemma mem_set_of_ne (hi : xs[i]? = some x) (hy : y ∈ xs) (hne : y ≠ x) : y ∈ xs.set i x' := by
  obtain ⟨j, hj, rfl⟩ := List.mem_iff_getElem.1 hy
  have hij : i ≠ j := by
    rintro rfl
    exact hne (Option.some.inj ((List.getElem?_eq_getElem hj).symm.trans hi))
  exact List.mem_iff_getElem.2 ⟨j, by rwa [List.length_set], List.getElem_set_ne hij _⟩

/-- When one element is replaced among elements with different keys, those that were there before
have other keys. -/
lemma eq_or_mem_of_mem_set (hn : (xs.map f).Nodup) (hi : xs[i]? = some x) (hy : y ∈ xs.set i x') :
    y = x' ∨ y ∈ xs ∧ f y ≠ f x := by
  obtain ⟨hlt, rfl⟩ := List.getElem?_eq_some_iff.1 hi
  obtain ⟨j, hj, rfl⟩ := List.mem_iff_getElem.1 hy
  rw [List.length_set] at hj
  by_cases hij : i = j
  · subst hij
    exact .inl (List.getElem_set_self _)
  · rw [List.getElem_set_ne hij]
    refine .inr ⟨List.getElem_mem hj, fun he => hij ?_⟩
    have hj' : j < (xs.map f).length := by rwa [List.length_map]
    have hi' : i < (xs.map f).length := by rwa [List.length_map]
    have hsame : (xs.map f)[j] = (xs.map f)[i] := by rw [List.getElem_map, List.getElem_map, he]
    exact (hn.getElem_inj_iff.1 hsame).symm

/-- Among elements with different keys, the one with the key of another is replaced by replacing it
at its index. -/
lemma map_replace_eq_set [DecidableEq β] (hn : (xs.map f).Nodup) (hi : xs[i]? = some x)
    (hf : f x' = f x) : (xs.map fun y => if f y = f x' then x' else y) = xs.set i x' := by
  obtain ⟨hlt, rfl⟩ := List.getElem?_eq_some_iff.1 hi
  refine List.ext_getElem (by simp) fun j hj hj' => ?_
  rw [List.length_map] at hj
  rw [List.getElem_map, List.getElem_set]
  have hiff : f xs[j] = f x' ↔ i = j := by
    rw [hf, ← List.getElem_map f (h := by simpa), ← List.getElem_map f (h := by simpa)]
    exact hn.getElem_inj_iff.trans eq_comm
  by_cases hij : i = j
  · rw [if_pos (hiff.2 hij), if_pos hij]
  · rw [if_neg (mt hiff.1 hij), if_neg hij]

/-- An element and the others are all of them. -/
lemma cons_eraseIdx_perm (hi : xs[i]? = some x) : (x :: xs.eraseIdx i).Perm xs := by
  obtain ⟨hlt, rfl⟩ := List.getElem?_eq_some_iff.1 hi
  exact List.getElem_cons_eraseIdx_perm hlt

/-- A new element in the place of an old one is added to the others. -/
lemma set_perm_cons (hi : xs[i]? = some x) (x' : α) : (xs.set i x').Perm (x' :: xs.eraseIdx i) :=
  List.set_perm_cons_eraseIdx (List.getElem?_eq_some_iff.1 hi).1 x'

/-- When one element is replaced, a count changes by that element. -/
lemma countP_set_add (p : α → Bool) (hi : xs[i]? = some x) (x' : α) :
    (xs.set i x').countP p + (p x).toNat = xs.countP p + (p x').toNat := by
  obtain ⟨hlt, rfl⟩ := List.getElem?_eq_some_iff.1 hi
  rw [List.countP_set hlt]
  cases h : p xs[i] with
  | true =>
    have hpos : 0 < xs.countP p := List.countP_pos_iff.2 ⟨_, List.getElem_mem hlt, h⟩
    cases p x'
    · show xs.countP p - 1 + 0 + 1 = xs.countP p + 0
      omega
    · show xs.countP p - 1 + 1 + 1 = xs.countP p + 1
      omega
  | false => cases p x' <;> rfl

end Replacing

end Wayfinding
