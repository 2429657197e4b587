import Mathlib.Data.List.Nodup
import Wayfinding.Proofs.Wire.Records
import Wayfinding.Wire.Schema

/-!
# Fields are read back

A message is read by adding its records to the blank message, field by field. A field of any
presence thereby passes on what it holds: an optional value, a nested message or a list arrives as
it was, and a plain value arrives unless it was left out, in which case the blank value stands for
it. So a schema whose tags differ reads every message back.

Main definitions:
* `Scalar.Faithful`: how values arrive.
* `Passes`: some fields pass what they hold on to a message that is being read.
* `Schema.Survives`: messages of a schema arrive.

Main statement: `Schema.Survives.of_passes`.
-/

namespace Wayfinding

namespace Utf8

/-- A text is read back. -/
lemma decode?_encode (s : String) : decode? (encode s) = some s := by
  simp only [decode?, encode, Array.toArray_toList]
  exact dif_pos s.isValidUTF8

end Utf8

namespace Binary64

/-- The number as a plain field carries it: a zero loses its sign. -/
def plainZero (x : Binary64) : Binary64 := if x = -0 then 0 else x

/-- The numbers without magnitude are the two zeros. -/
lemma magnitude_eq_zero_iff {x : Binary64} : x.magnitude = 0 ↔ x = 0 ∨ x = -0 := by
  have hlt := x.bits.toNat_lt
  have hzero : x = 0 ↔ x.bits.toNat = 0 := by
    rw [← UInt64.toNat_zero, UInt64.toNat_inj]
    exact ⟨fun h => congrArg bits h, fun h => congrArg mk h⟩
  have hminus : x = -0 ↔ x.bits.toNat = signWord := by
    have hbits : (-0 : Binary64).bits.toNat = signWord := rfl
    rw [← hbits, UInt64.toNat_inj]
    exact ⟨fun h => congrArg bits h, fun h => congrArg mk h⟩
  rw [hzero, hminus, magnitude, signWord]
  omega

end Binary64

namespace Wire

variable {M S α : Type}

/-! ### Scalars -/

namespace Scalar

/-- A kind of value arrives as `arrive` says: what is put into a payload is taken from it, and a
value that a plain field leaves out arrives as the blank one. -/
structure Faithful (kind : Scalar α) (arrive : α → α) : Prop where
  ungrouped : ∀ a, kind.put a ≠ .group
  take_put : ∀ a, kind.take? (kind.put a) = some a
  left_out : ∀ a, kind.isBlank a = true → arrive a = kind.blank
  written : ∀ a, kind.isBlank a = false → arrive a = a

namespace Faithful

/-- A double arrives as it was sent, but for a negative zero. -/
lemma double : Faithful Scalar.double Binary64.plainZero where
  ungrouped _ := nofun
  take_put _ := rfl
  left_out x h := by
    obtain rfl | rfl := Binary64.magnitude_eq_zero_iff.1 (of_decide_eq_true h)
    · rfl
    · rfl
  written x h := if_neg fun hx =>
    of_decide_eq_false h (Binary64.magnitude_eq_zero_iff.2 (.inr hx))

/-- Single-precision numbers arrive as doubles do, but no plain field holds one. -/
lemma single : Faithful Scalar.single fun x => if Scalar.single.isBlank x then ⟨0⟩ else x where
  ungrouped _ := nofun
  take_put _ := rfl
  left_out _ h := if_pos h
  written _ h := if_neg (by simp [h])

/-- A text arrives as it was sent. -/
lemma text : Faithful Scalar.text id where
  ungrouped _ := nofun
  take_put := Utf8.decode?_encode
  left_out _ h := of_decide_eq_true h
  written _ _ := rfl

/-- A signed number of 32 bits arrives as it was sent. -/
lemma int32 : Faithful Scalar.int32 id where
  ungrouped _ := nofun
  take_put n := by
    -- the upper half holds copies of the sign, and reading drops it
    have h := congrArg Int32.toBitVec (Int32.toInt32_toInt64 n)
    rw [Int64.toBitVec_toInt32, BitVec.signExtend_eq_setWidth_of_le _ (by decide)] at h
    exact congrArg some (Int32.toBitVec_inj.1 h)
  left_out _ h := of_decide_eq_true h
  written _ _ := rfl

/-- The number of an enumeration arrives as it was sent. -/
lemma enumeration : Faithful Scalar.enumeration id := int32

/-- An unsigned number of 32 bits arrives as it was sent. -/
lemma uint32 : Faithful Scalar.uint32 id where
  ungrouped _ := nofun
  take_put n := by simp [Scalar.uint32]
  left_out _ h := of_decide_eq_true h
  written _ _ := rfl

/-- An unsigned number of 64 bits arrives as it was sent. -/
lemma uint64 : Faithful Scalar.uint64 id where
  ungrouped _ := nofun
  take_put _ := rfl
  left_out _ h := of_decide_eq_true h
  written _ _ := rfl

/-- A truth value arrives as it was sent. -/
lemma bool : Faithful Scalar.bool id where
  ungrouped _ := nofun
  take_put b := by cases b <;> rfl
  left_out b h := by simpa [Scalar.bool] using h
  written _ _ := rfl

end Faithful

end Scalar

/-! ### Fields -/

/-- A schema reads every message of at most the largest size, and it arrives as `arrive` says. -/
def Schema.Survives (s : Schema M) (arrive : M → M) : Prop :=
  ∀ m depth, (s.encode m).length < UInt64.size →
    s.mergeBytes depth s.blank (s.encode m) = some (arrive m)

/-- A list of the message `acc` holds nothing yet, and takes whatever is put into it. -/
structure Appends (get : M → List S) (set : List S → M → M) (acc : M) : Prop where
  blank : set [] acc = acc
  get_set : ∀ xs, get (set xs acc) = xs
  set_set : ∀ xs ys, set ys (set xs acc) = set ys acc

/-- A field passes what the message `m` holds in it on to the message `acc`, which becomes
`acc'`. -/
structure Field.Moves (f : Field M) (m acc acc' : M) : Prop where
  ungrouped : ∀ p ∈ f.put m, p ≠ .group
  merged : ∀ depth, (∀ p ∈ f.put m, p.Sized) →
    (f.put m).foldlM (fun acc p => f.merge depth p acc) acc = some acc'

namespace Field.Moves

variable {name : String} {tag : Nat} {kind : Scalar α} {arrive : α → α} {get : M → α}
  {set : α → M → M} {m acc : M}

/-- A plain field passes its value on as it arrives. -/
lemma plain (hk : kind.Faithful arrive) (hacc : set kind.blank acc = acc) :
    (Field.plain name tag kind get set).Moves m acc (set (arrive (get m)) acc) := by
  cases hb : kind.isBlank (get m) with
  | true =>
    have hput : (Field.plain name tag kind get set).put m = [] := if_pos hb
    -- nothing is written, and the blank value is there already
    have hsame : set (arrive (get m)) acc = acc := by rw [hk.left_out _ hb, hacc]
    refine ⟨by simp [hput], fun depth _ => ?_⟩
    rw [hput, hsame]
    rfl
  | false =>
    have hput : (Field.plain name tag kind get set).put m = [kind.put (get m)] :=
      if_neg (by simp [hb])
    refine ⟨by simp [hput, hk.ungrouped], fun depth _ => ?_⟩
    rw [hput, hk.written _ hb]
    simp [Field.plain, hk.take_put]

variable {getOption : M → Option α} {setOption : Option α → M → M}

/-- An optional field passes its value on, or that it has none. -/
lemma optional (hp : ∀ a, kind.put a ≠ .group) (ht : ∀ a, kind.take? (kind.put a) = some a)
    (hacc : setOption none acc = acc) :
    (Field.optional name tag kind getOption setOption).Moves m acc
      (setOption (getOption m) acc) := by
  cases hg : getOption m with
  | none =>
    refine ⟨by simp [Field.optional, hg], fun depth _ => ?_⟩
    simp [Field.optional, hg, hacc]
  | some a =>
    refine ⟨by simp [Field.optional, hg, hp], fun depth _ => ?_⟩
    simp [Field.optional, hg, ht]

variable {schema : Schema S} {arriveNested : S → S} {getNested : M → Option S}
  {setNested : Option S → M → M}

/-- A nested message that is written is read back. -/
lemma mergeNested_encode (hs : schema.Survives arriveNested) (depth : Nat) {s : S}
    (hsize : (Payload.bytes (schema.encode s)).Sized) :
    mergeNested schema depth schema.blank (.bytes (schema.encode s)) = some (arriveNested s) :=
  hs s _ hsize.bytes

/-- A field of a message passes it on, or that there is none. -/
lemma message (hs : schema.Survives arriveNested) (hnone : getNested acc = none)
    (hacc : setNested none acc = acc) :
    (Field.message name tag schema getNested setNested).Moves m acc
      (setNested ((getNested m).map arriveNested) acc) := by
  cases hg : getNested m with
  | none =>
    refine ⟨by simp [Field.message, hg], fun depth _ => ?_⟩
    simp [Field.message, hg, hacc]
  | some s =>
    have hput : (Field.message name tag schema getNested setNested).put m =
        [.bytes (schema.encode s)] := by simp [Field.message, hg]
    refine ⟨by simp [hput], fun depth hsize => ?_⟩
    rw [hput] at hsize ⊢
    have hread := mergeNested_encode hs depth (hsize _ List.mem_cons_self)
    simp [Field.message, hnone, hread]

variable {getList : M → List S} {setList : List S → M → M}

/-- A field of a list passes on its messages behind those that are there already. -/
lemma foldlM_repeated (hs : schema.Survives arriveNested) (ha : Appends getList setList acc)
    (depth : Nat) (ys : List S) {xs : List S}
    (hsize : ∀ s ∈ xs, (Payload.bytes (schema.encode s)).Sized) :
    (xs.map fun s => Payload.bytes (schema.encode s)).foldlM
        (fun acc p => (Field.repeated name tag schema getList setList).merge depth p acc)
        (setList ys acc) =
      some (setList (ys ++ xs.map arriveNested) acc) := by
  induction xs generalizing ys with
  | nil => simp
  | cons s xs ih =>
    obtain ⟨hsized, hrest⟩ := List.forall_mem_cons.1 hsize
    have hread := mergeNested_encode hs depth hsized
    have hmerge : (Field.repeated name tag schema getList setList).merge depth
        (.bytes (schema.encode s)) (setList ys acc) =
          some (setList (ys ++ [arriveNested s]) acc) := by
      simp [Field.repeated, hread, ha.get_set, ha.set_set]
    have hnext := ih (ys ++ [arriveNested s]) hrest
    rw [List.append_assoc] at hnext
    rw [List.map_cons, List.foldlM_cons, hmerge]
    exact hnext

/-- Repeated messages arrive one after the other. -/
lemma repeated (hs : schema.Survives arriveNested) (ha : Appends getList setList acc) :
    (Field.repeated name tag schema getList setList).Moves m acc
      (setList ((getList m).map arriveNested) acc) := by
  refine ⟨by simp [Field.repeated], fun depth hsize => ?_⟩
  have hfold : ((Field.repeated name tag schema getList setList).put m).foldlM
      (fun acc p => (Field.repeated name tag schema getList setList).merge depth p acc)
      (setList [] acc) = some (setList ((getList m).map arriveNested) acc) :=
    foldlM_repeated hs ha depth [] fun s h => hsize _ (List.mem_map_of_mem h)
  rwa [ha.blank] at hfold

end Field.Moves

/-! ### Schemas -/

/-- The fields of a schema are told apart by their tags, and all tags fit into keys. -/
def Schema.Sound (s : Schema M) : Prop :=
  (s.fields.map Field.tag).Nodup ∧
    ∀ t ∈ s.fields.map Field.tag, 1 ≤ t ∧ 8 * t + 5 < UInt32.size

instance (s : Schema M) : Decidable s.Sound := by
  unfold Schema.Sound
  infer_instance

/-- Some fields, one after the other, pass what the message `m` holds in them on to the message
`acc`, which becomes `acc'`. -/
inductive Passes (m : M) : List (Field M) → M → M → Prop where
  | nil {acc : M} : Passes m [] acc acc
  | cons {f : Field M} {fs : List (Field M)} {acc mid acc' : M} :
    f.Moves m acc mid →
    Passes m fs mid acc' →
    Passes m (f :: fs) acc acc'

namespace Passes

variable {s : Schema M} {m acc acc' : M} {fs : List (Field M)}

/-! The steps for fields of each presence. That a component is blank at first is seen by computing
both sides. -/

section Steps

variable {name : String} {tag : Nat} {kind : Scalar α}

/-- A scalar passes if the fields after it do. -/
lemma plain {arrive : α → α} {get : M → α} {set : α → M → M} (hk : kind.Faithful arrive)
    (hacc : set kind.blank acc = acc) (h : Passes m fs (set (arrive (get m)) acc) acc') :
    Passes m (.plain name tag kind get set :: fs) acc acc' :=
  .cons (.plain hk hacc) h

/-- A scalar that may be absent passes if the fields after it do. -/
lemma optional {arrive : α → α} {get : M → Option α} {set : Option α → M → M}
    (hk : kind.Faithful arrive) (hacc : set none acc = acc)
    (h : Passes m fs (set (get m) acc) acc') :
    Passes m (.optional name tag kind get set :: fs) acc acc' :=
  .cons (.optional hk.ungrouped hk.take_put hacc) h

variable {schema : Schema S} {arrive : S → S}

/-- A message that may be absent passes if the fields after it do. -/
lemma message {get : M → Option S} {set : Option S → M → M} (hs : schema.Survives arrive)
    (hnone : get acc = none) (hacc : set none acc = acc)
    (h : Passes m fs (set ((get m).map arrive) acc) acc') :
    Passes m (.message name tag schema get set :: fs) acc acc' :=
  .cons (.message hs hnone hacc) h

/-- Repeated messages pass if the fields after them do. -/
lemma repeated {get : M → List S} {set : List S → M → M} (hs : schema.Survives arrive)
    (ha : Appends get set acc) (h : Passes m fs (set ((get m).map arrive) acc) acc') :
    Passes m (.repeated name tag schema get set :: fs) acc acc' :=
  .cons (.repeated hs ha) h

/-- A nested message that arrives as it is. -/
lemma messageAsIs {get : M → Option S} {set : Option S → M → M} (hs : schema.Survives id)
    (hnone : get acc = none) (hacc : set none acc = acc)
    (h : Passes m fs (set (get m) acc) acc') :
    Passes m (.message name tag schema get set :: fs) acc acc' :=
  .message hs hnone hacc (by rwa [Option.map_id_fun, id])

/-- A list of messages that arrive as they are. -/
lemma repeatedAsIs {get : M → List S} {set : List S → M → M} (hs : schema.Survives id)
    (ha : Appends get set acc) (h : Passes m fs (set (get m) acc) acc') :
    Passes m (.repeated name tag schema get set :: fs) acc acc' :=
  .repeated hs ha (by rwa [List.map_id_fun, id])

end Steps

/-- Fields that pass on what they hold put no groups. -/
lemma ungrouped (h : Passes m fs acc acc') : ∀ f ∈ fs, ∀ p ∈ f.put m, p ≠ .group := by
  induction h with
  | nil => simp
  | cons hf _ ih => exact List.forall_mem_cons.2 ⟨hf.ungrouped, ih⟩

/-- A field is found by its tag. -/
lemma find?_tag (hs : s.Sound) {f : Field M} (hf : f ∈ s.fields) :
    s.fields.find? (fun g => g.tag = f.tag) = some f := by
  obtain ⟨g, hg⟩ : ∃ g, s.fields.find? (fun g => g.tag = f.tag) = some g :=
    Option.isSome_iff_exists.1 (List.find?_isSome.2 ⟨f, hf, by simp⟩)
  have htag : g.tag = f.tag := by simpa using List.find?_some hg
  rw [hg, List.inj_on_of_nodup_map hs.1 (List.mem_of_find?_eq_some hg) hf htag]

/-- The records of fields that pass on what they hold are added to a message. -/
lemma mergeRecords (h : Passes m fs acc acc') (hs : s.Sound) (hsub : fs ⊆ s.fields) (depth : Nat)
    (hsize : ∀ f ∈ fs, ∀ p ∈ f.put m, p.Sized) :
    s.mergeRecords depth acc (fs.flatMap fun f => (f.put m).map fun p => ⟨f.tag, p⟩) =
      some acc' := by
  induction h with
  | nil => rfl
  | @cons f fs acc mid acc' hf _ ih =>
    obtain ⟨hfield, hrest⟩ := List.forall_mem_cons.1 hsize
    have hfind := find?_tag hs (hsub List.mem_cons_self)
    have hmerged := hf.merged depth hfield
    have hnext := ih (List.subset_of_cons_subset hsub) hrest
    simp only [Schema.mergeRecords] at hnext ⊢
    rw [List.flatMap_cons, List.foldlM_append, List.foldlM_map]
    simp only [Schema.mergeRecord, hfind, hmerged, Option.bind_eq_bind, Option.bind_some]
    exact hnext

end Passes

/-- A schema reads its messages back if its fields pass on what a message holds, up to the message
that is to arrive. -/
theorem Schema.Survives.of_passes {s : Schema M} {arrive : M → M} (hs : s.Sound)
    (h : ∀ m, Passes m s.fields s.blank (arrive m)) : s.Survives arrive := by
  intro m depth hsize
  have hrecord : ∀ f ∈ s.fields, ∀ p ∈ f.put m, (⟨f.tag, p⟩ : Record) ∈ s.records m := by
    intro f hf p hp
    exact List.mem_flatMap.2 ⟨f, hf, List.mem_map_of_mem hp⟩
  have hsized : ∀ f ∈ s.fields, ∀ p ∈ f.put m, p.Sized := by
    intro f hf p hp
    have hle := Record.length_encode_le (hrecord f hf p hp)
    have hpayload := Record.length_payload_le ⟨f.tag, p⟩
    exact Nat.lt_of_le_of_lt (Nat.le_trans hpayload hle) hsize
  have hplain : ∀ r ∈ s.records m, r.Plain := by
    intro r hr
    obtain ⟨f, hf, hr⟩ := List.mem_flatMap.1 hr
    obtain ⟨p, hp, rfl⟩ := List.mem_map.1 hr
    obtain ⟨hpos, hlt⟩ := hs.2 _ (List.mem_map_of_mem hf)
    exact ⟨hpos, hlt, (h m).ungrouped f hf p hp, hsized f hf p hp⟩
  rw [Schema.mergeBytes, Schema.encode, Record.scan_encodeAll hplain]
  exact (h m).mergeRecords hs (List.Subset.refl _) depth hsized

end Wire

end Wayfinding
