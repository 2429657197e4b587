import Mathlib.Data.List.Chain
import Wayfinding.Journey.Heights
import Wayfinding.Proofs.Number.Extended

/-!
# What a profile keeps

A profile keeps a point when its height differs from that of the sample kept last. This is the case
if and only if its height differs from that of the point before it, so the samples are the changes
of height along the shape, and the height at any point is that of the last sample up to there.

Main definitions: `ElevationSample.Thins`, `ElevationSample.Lossless`.
Main lemmas: `ElevationSample.thins_reduce`, `ElevationSample.Thins.kept_iff`,
`ElevationSample.Thins.recovered`, `ElevationSample.lossless_reduce`.
-/

namespace Wayfinding

namespace Binary64

variable {x y : Binary64}

/-- A finite number has its own value. -/
lemma sameValue_self (h : x.isFinite = true) : x.sameValue x = true :=
  decide_eq_true ⟨Binary64.le_refl (isNaN_of_isFinite h), Binary64.le_refl (isNaN_of_isFinite h)⟩

/-- Numbers of the same value are the same to all others. -/
lemma sameValue_congr (h : x.sameValue y = true) (z : Binary64) :
    x.sameValue z = y.sameValue z := by
  obtain ⟨hxy, hyx⟩ := of_decide_eq_true h
  refine decide_eq_decide.2 ⟨fun ⟨hxz, hzx⟩ => ?_, fun ⟨hyz, hzy⟩ => ?_⟩
  · exact ⟨Binary64.le_trans hyx hxz, Binary64.le_trans hzx hxy⟩
  · exact ⟨Binary64.le_trans hxy hyz, Binary64.le_trans hzy hyx⟩

/-- A NaN has the value of nothing. -/
lemma nan_sameValue (x : Binary64) : nan.sameValue x = false :=
  decide_eq_false fun h => Bool.noConfusion (h.1.1 : true = false)

end Binary64

namespace ElevationSample

/-- The samples are the changes of height along some points, which start at an index and follow
after a point of the given height. -/
inductive Thins : Binary64 → Nat → List (Binary64 × Binary64) → List ElevationSample → Prop where
  | nil {previous start} :
    Thins previous start [] []
  | same {previous start distance height points samples} :
    previous.sameValue height = true →
    Thins height (start + 1) points samples →
    Thins previous start ((distance, height) :: points) samples
  | changed {previous start distance height points samples} :
    previous.sameValue height = false →
    Thins height (start + 1) points samples →
    Thins previous start ((distance, height) :: points)
      (⟨distance, height, UInt32.ofNat start⟩ :: samples)

variable {previous kept : Binary64} {start i : Nat} {points : List (Binary64 × Binary64)}
  {samples : List ElevationSample} {p : Binary64 × Binary64}

/-- Comparing with the height kept last is comparing with that of the point before. -/
lemma thins_reduceAfter (h : ∀ z, kept.sameValue z = previous.sameValue z) :
    Thins previous start points (reduceAfter (some kept) start points) := by
  induction points generalizing kept previous start with
  | nil => exact .nil
  | cons p points ih =>
    obtain ⟨distance, height⟩ := p
    unfold reduceAfter
    cases hsame : kept.sameValue height with
    | true =>
      rw [Option.any_some, hsame, if_pos rfl]
      exact .same ((h height).symm.trans hsame) (ih (Binary64.sameValue_congr hsame))
    | false =>
      rw [Option.any_some, hsame, if_neg Bool.false_ne_true]
      exact .changed ((h height).symm.trans hsame) (ih fun _ => rfl)

/-- Before the first point there is no height, from which every height differs. -/
lemma thins_reduce (points : List (Binary64 × Binary64)) : Thins .nan 0 points (reduce points) := by
  have hnone : reduce points = reduceAfter (some .nan) 0 points := by
    cases points with
    | nil => rfl
    | cons p points =>
      unfold reduce reduceAfter
      rw [Option.any_none, Option.any_some, Binary64.nan_sameValue]
      rfl
  rw [hnone]
  exact thins_reduceAfter fun _ => rfl

/-! ### Samples and their points -/

/-- A sample carries the distance and the height of the point at its index. -/
lemma Thins.carried (h : Thins previous start points samples)
    (hfits : start + points.length ≤ UInt32.size) :
    ∀ s ∈ samples, ∃ i, s.index.toNat = start + i ∧ points[i]? = some (s.distance, s.height) := by
  induction h with
  | nil => exact nofun
  | same _ _ ih =>
    intro s hs
    rw [List.length_cons] at hfits
    obtain ⟨i, hi, hp⟩ := ih (by omega) s hs
    exact ⟨i + 1, by omega, hp⟩
  | changed _ _ ih =>
    rw [List.length_cons] at hfits
    refine List.forall_mem_cons.2 ⟨⟨0, ?_, rfl⟩, fun s hs => ?_⟩
    · exact UInt32.toNat_ofNat_of_lt' (by omega)
    · obtain ⟨i, hi, hp⟩ := ih (by omega) s hs
      exact ⟨i + 1, by omega, hp⟩

/-- No sample is before the first point. -/
lemma Thins.start_le (h : Thins previous start points samples)
    (hfits : start + points.length ≤ UInt32.size) : ∀ s ∈ samples, start ≤ s.index.toNat := by
  intro s hs
  obtain ⟨i, hi, -⟩ := h.carried hfits s hs
  omega

/-- Samples are in the order of the points. -/
lemma Thins.increasing (h : Thins previous start points samples)
    (hfits : start + points.length ≤ UInt32.size) :
    samples.Pairwise fun s t => s.index < t.index := by
  induction h with
  | nil => exact .nil
  | same _ _ ih =>
    rw [List.length_cons] at hfits
    exact ih (by omega)
  | @changed _ start _ _ _ _ _ hrest ih =>
    rw [List.length_cons] at hfits
    refine List.pairwise_cons.2 ⟨fun s hs => ?_, ih (by omega)⟩
    have hle := hrest.start_le (by omega) s hs
    rw [UInt32.lt_iff_toNat_lt, UInt32.toNat_ofNat_of_lt' (by omega)]
    omega

/-- The samples differ in height, each from the one before. -/
lemma Thins.distinct (h : Thins previous start points samples) :
    (previous :: samples.map (·.height)).IsChain fun x y => x.sameValue y = false := by
  induction h with
  | nil => exact .singleton _
  | same hsame _ ih =>
    rw [List.isChain_cons] at ih ⊢
    exact ⟨fun y hy => (Binary64.sameValue_congr hsame y).trans (ih.1 y hy), ih.2⟩
  | changed hchanged _ ih => exact .cons_cons hchanged ih

/-- A point is kept if and only if its height differs from the one before it. -/
lemma Thins.kept_iff (h : Thins previous start points samples)
    (hfits : start + points.length ≤ UInt32.size) (hp : points[i]? = some p) :
    (∃ s ∈ samples, s.index.toNat = start + i) ↔
      ∃ before, (previous :: points.map (·.2))[i]? = some before ∧
        before.sameValue p.2 = false := by
  induction h generalizing i with
  | nil => cases hp
  | @same previous start _ height _ _ hsame hrest ih =>
    rw [List.length_cons] at hfits
    cases i with
    | zero =>
      cases hp
      refine iff_of_false ?_ ?_
      · rintro ⟨s, hs, hindex⟩
        have hle := hrest.start_le (by omega) s hs
        omega
      · rintro ⟨before, hbefore, hdiffers⟩
        cases hbefore
        cases hsame.symm.trans hdiffers
    | succ i =>
      rw [← Nat.succ_add_eq_add_succ]
      exact ih (by omega) hp
  | @changed previous start _ height _ _ hchanged hrest ih =>
    rw [List.length_cons] at hfits
    have hfirst : (UInt32.ofNat start).toNat = start := UInt32.toNat_ofNat_of_lt' (by omega)
    cases i with
    | zero =>
      cases hp
      exact iff_of_true ⟨_, List.mem_cons_self, hfirst⟩ ⟨previous, rfl, hchanged⟩
    | succ i =>
      have hne : (UInt32.ofNat start).toNat ≠ start + (i + 1) := by omega
      rw [List.exists_mem_cons_iff, or_iff_right hne, ← Nat.succ_add_eq_add_succ]
      exact ih (by omega) hp

/-- The samples up to an index. -/
def upTo (samples : List ElevationSample) (i : Nat) : List ElevationSample :=
  samples.filter fun s => s.index.toNat ≤ i

/-- The height of the last sample up to an index, or else the one before all samples. -/
def heightAt (previous : Binary64) (samples : List ElevationSample) (i : Nat) : Binary64 :=
  ((upTo samples i).map (·.height)).getLastD previous

/-- Before the first sample the height is still the earlier one. -/
lemma heightAt_of_lt (h : ∀ s ∈ samples, i < s.index.toNat) :
    heightAt previous samples i = previous := by
  have hnil : upTo samples i = [] := List.filter_eq_nil_iff.2 fun s hs => by simpa using h s hs
  rw [heightAt, hnil]
  rfl

/-- From a sample on the height is that of the sample, until the next one. -/
lemma heightAt_cons {s : ElevationSample} (h : s.index.toNat ≤ i) :
    heightAt previous (s :: samples) i = heightAt s.height samples i := by
  have hcons : upTo (s :: samples) i = s :: upTo samples i :=
    List.filter_cons_of_pos (decide_eq_true h)
  rw [heightAt, hcons, List.map_cons, List.getLastD_cons]
  rfl

/-- Where there is no sample yet, any height of the same value will do. -/
lemma heightAt_congr (h : previous.sameValue kept = true) (z : Binary64) :
    (heightAt previous samples i).sameValue z = (heightAt kept samples i).sameValue z := by
  unfold heightAt
  cases (upTo samples i).map (·.height) with
  | nil => exact Binary64.sameValue_congr h z
  | cons x xs => rw [List.getLastD_cons, List.getLastD_cons]

/-- The height of each point is recovered from the samples. -/
lemma Thins.recovered (h : Thins previous start points samples)
    (hfits : start + points.length ≤ UInt32.size) (hfinite : ∀ p ∈ points, p.2.isFinite = true)
    (hp : points[i]? = some p) :
    (heightAt previous samples (start + i)).sameValue p.2 = true := by
  induction h generalizing i with
  | nil => cases hp
  | @same previous start _ height _ samples hsame hrest ih =>
    rw [List.length_cons] at hfits
    cases i with
    | zero =>
      cases hp
      rw [Nat.add_zero, heightAt_of_lt (hrest.start_le (by omega))]
      exact hsame
    | succ i =>
      rw [heightAt_congr hsame, ← Nat.succ_add_eq_add_succ]
      exact ih (by omega) (List.forall_mem_cons.1 hfinite).2 hp
  | @changed previous start distance height _ samples hchanged hrest ih =>
    rw [List.length_cons] at hfits
    have hfirst : (UInt32.ofNat start).toNat = start := UInt32.toNat_ofNat_of_lt' (by omega)
    rw [heightAt_cons (by simp only [hfirst, Nat.le_add_right])]
    cases i with
    | zero =>
      cases hp
      rw [Nat.add_zero, heightAt_of_lt (hrest.start_le (by omega))]
      exact Binary64.sameValue_self (hfinite _ List.mem_cons_self)
    | succ i =>
      rw [← Nat.succ_add_eq_add_succ]
      exact ih (by omega) (List.forall_mem_cons.1 hfinite).2 hp

/-! ### The whole profile -/

/-- The samples are the changes of height along some points, and tell the height at each of them. -/
structure Lossless (points : List (Binary64 × Binary64)) (samples : List ElevationSample) :
    Prop where
  /-- There are no samples if and only if there are no points. -/
  nil_iff : samples = [] ↔ points = []
  /-- The first point is a sample. -/
  starts : ∀ s ∈ samples.head?, s.index = 0
  increasing : samples.Pairwise fun s t => s.index < t.index
  /-- A sample has the distance and the height of the point at its index. -/
  carried : ∀ s ∈ samples, points[s.index.toNat]? = some (s.distance, s.height)
  /-- No sample has the height of the one before. -/
  distinct : samples.IsChain fun s t => s.height.sameValue t.height = false
  /-- A point is kept if and only if it is the first or has another height than the one before. -/
  kept_iff : ∀ i p, points[i]? = some p →
    ((∃ s ∈ samples, s.index.toNat = i) ↔
      i = 0 ∨ ∃ before, points[i - 1]? = some before ∧ before.2.sameValue p.2 = false)
  /-- The height at a point is that of the last sample up to there. -/
  recovered : ∀ i p, points[i]? = some p →
    ∃ s, (upTo samples i).getLast? = some s ∧ s.height.sameValue p.2 = true

/-- Only the first point follows after no height. -/
lemma differs_iff (points : List (Binary64 × Binary64)) (i : Nat) (height : Binary64) :
    (∃ before, (.nan :: points.map (·.2))[i]? = some before ∧ before.sameValue height = false) ↔
      i = 0 ∨ ∃ before, points[i - 1]? = some before ∧ before.2.sameValue height = false := by
  cases i with
  | zero => exact iff_of_true ⟨.nan, rfl, Binary64.nan_sameValue height⟩ (.inl rfl)
  | succ i =>
    rw [List.getElem?_cons_succ, List.getElem?_map, Nat.add_sub_cancel,
      or_iff_right (Nat.succ_ne_zero i)]
    constructor
    · rintro ⟨before, hbefore, hdiffers⟩
      obtain ⟨point, hpoint, rfl⟩ := Option.map_eq_some_iff.1 hbefore
      exact ⟨point, hpoint, hdiffers⟩
    · rintro ⟨point, hpoint, hdiffers⟩
      exact ⟨point.2, congrArg (Option.map (·.2)) hpoint, hdiffers⟩

/-- Thinned points lose nothing of the heights. -/
lemma Thins.lossless (h : Thins .nan 0 points samples) (hlength : points.length < UInt32.size)
    (hfinite : ∀ p ∈ points, p.2.isFinite = true) : Lossless points samples := by
  have hfits : 0 + points.length ≤ UInt32.size := by omega
  constructor
  case nil_iff =>
    cases h with
    | nil => exact iff_of_true rfl rfl
    | same hsame => cases (Binary64.nan_sameValue _).symm.trans hsame
    | changed => exact iff_of_false (List.cons_ne_nil _ _) (List.cons_ne_nil _ _)
  case starts =>
    cases h with
    | nil => exact nofun
    | same hsame => cases (Binary64.nan_sameValue _).symm.trans hsame
    | changed =>
      intro s hs
      cases hs
      rfl
  case increasing => exact h.increasing hfits
  case carried =>
    intro s hs
    obtain ⟨i, hi, hp⟩ := h.carried hfits s hs
    rwa [hi, Nat.zero_add]
  case distinct => exact List.isChain_of_isChain_map _ (fun _ _ h => h) h.distinct.tail
  case kept_iff =>
    intro i p hp
    rw [← differs_iff, ← h.kept_iff hfits hp, Nat.zero_add]
  case recovered =>
    intro i p hp
    have hlast := h.recovered hfits hfinite hp
    rw [Nat.zero_add, heightAt, List.getLastD_eq_getLast?, List.getLast?_map] at hlast
    cases hs : (upTo samples i).getLast? with
    | none =>
      rw [hs, Option.map_none, Option.getD_none, Binary64.nan_sameValue] at hlast
      cases hlast
    | some s =>
      rw [hs] at hlast
      exact ⟨s, rfl, hlast⟩

/-- The profile of points with finite heights loses nothing of the heights, and it is the profile
that an answer with these points gives. -/
theorem lossless_reduce (points : List (Binary64 × Binary64))
    (hlength : points.length < UInt32.size) (hfinite : ∀ p ∈ points, p.2.isFinite = true) :
    Lossless points (reduce points) ∧
      ∀ body, Heights.parse? body = some points → Heights.profile body = .ok (reduce points) := by
  refine ⟨(thins_reduce points).lossless hlength hfinite, fun body hbody => ?_⟩
  unfold Heights.profile
  rw [hbody]

/-- A plateau, a hill and the way back to the height at the start. -/
def hill : List (Binary64 × Binary64) :=
  [(.ofNat 0, .ofNat 12), (.ofNat 10, .ofNat 12), (.ofNat 25, .ofNat 14), (.ofNat 40, .ofNat 14),
    (.ofNat 52, .ofNat 12)]

/-- What the elevation service answers about the hill. -/
def hillBody : String :=
  "\x7b\"shape\":[],\"range_height\":[[0,12],[10,12],[25,14],[40,14],[52,12]]\x7d"

/-- Kept are the start, the way up and the way down, also when they are read from an answer. -/
theorem lossless_hill :
    hill.length < UInt32.size ∧ (∀ p ∈ hill, p.2.isFinite = true) ∧
      Heights.parse? hillBody = some hill ∧
      Heights.profile hillBody =
        .ok [⟨.ofNat 0, .ofNat 12, 0⟩, ⟨.ofNat 25, .ofNat 14, 2⟩, ⟨.ofNat 52, .ofNat 12, 4⟩] ∧
      Lossless hill (reduce hill) := by
  have hlength : hill.length < UInt32.size := by decide
  have hfinite : ∀ p ∈ hill, p.2.isFinite = true := by decide +kernel
  have hbody : Heights.parse? hillBody = some hill := by decide +kernel
  obtain ⟨hlossless, hprofile⟩ := lossless_reduce hill hlength hfinite
  have hreduce : reduce hill =
      [⟨.ofNat 0, .ofNat 12, 0⟩, ⟨.ofNat 25, .ofNat 14, 2⟩, ⟨.ofNat 52, .ofNat 12, 4⟩] := by
    decide +kernel
  exact ⟨hlength, hfinite, hbody, hreduce ▸ hprofile hillBody hbody, hlossless⟩

end ElevationSample

end Wayfinding
