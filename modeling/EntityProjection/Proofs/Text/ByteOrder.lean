import Mathlib.Data.String.Basic

/-!
# The order of bytes

Texts are compared character by character.  File systems compare the bytes of names instead, which
comes to the same: the encoding of characters keeps their order, already in the first byte in which two
of them differ.

* `nameBytes`, `placeBytes`: the bytes of a name, and those of the names of a place;
* `placeBytes_lt`: places keep their order as bytes.
-/

namespace EntityProjection

/-- The bytes of a name. -/
def nameBytes (name : String) : List UInt8 :=
  name.toUTF8.data.toList

/-- The bytes of the names of a place. -/
def placeBytes (place : List String) : List (List UInt8) :=
  place.map nameBytes

theorem nameBytes_eq (name : String) :
    nameBytes name = name.toList.flatMap String.utf8EncodeChar := by
  rw [nameBytes, String.toUTF8_eq_toByteArray, ← String.utf8Encode_toList, List.utf8Encode,
    List.toList_data_toByteArray]

theorem ofNat_cons_lt_iff {a b : ℕ} (ha : a < 256) (hb : b < 256) {xs ys : List UInt8} :
    UInt8.ofNat a :: xs < UInt8.ofNat b :: ys ↔ a < b ∨ a = b ∧ xs < ys := by
  rw [List.cons_lt_cons_iff, UInt8.lt_iff_toNat_lt, ← UInt8.toNat_inj, UInt8.toNat_ofNat_of_lt' ha,
    UInt8.toNat_ofNat_of_lt' hb]

/-- **A character keeps its place as bytes,** whatever follows it. -/
theorem utf8EncodeChar_append_lt {c d : Char} (h : c < d) (xs ys : List UInt8) :
    String.utf8EncodeChar c ++ xs < String.utf8EncodeChar d ++ ys := by
  have hlt : c.val.toNat < d.val.toNat := UInt32.lt_iff_toNat_lt.mp (Char.lt_def.mp h)
  have hbound : d.val.toNat < 0x110000 := by
    obtain hlow | ⟨-, hhigh⟩ := d.valid
    · exact hlow.trans (by decide)
    · exact hhigh
  unfold String.utf8EncodeChar
  dsimp only
  generalize c.val.toNat = v at *
  generalize d.val.toNat = w at *
  -- The bytes hold the digits in base 64, so that the first digit that differs decides.
  have digits : ∀ v : ℕ, v / 64 / 64 = v / 4096 ∧ v / 4096 / 64 = v / 262144 := fun v =>
    ⟨Nat.div_div_eq_div_mul v 64 64, Nat.div_div_eq_div_mul v 4096 64⟩
  have top : ∀ v < 0x110000, v / 262144 % 8 = v / 262144 := fun v hv => by omega
  obtain ⟨hv, hv'⟩ := digits v
  obtain ⟨hw, hw'⟩ := digits w
  have hvtop := top v (hlt.trans hbound)
  have hwtop := top w hbound
  split_ifs <;> try omega
  all_goals simp (disch := omega) only [List.cons_append, ofNat_cons_lt_iff]
  all_goals omega

theorem flatMap_utf8EncodeChar_lt {cs ds : List Char} (h : cs < ds) :
    cs.flatMap String.utf8EncodeChar < ds.flatMap String.utf8EncodeChar := by
  induction h with
  | nil =>
    rw [List.flatMap_nil, List.flatMap_cons]
    obtain ⟨b, bs, hbs⟩ := List.exists_cons_of_ne_nil String.utf8EncodeChar_ne_nil
    rw [hbs]
    exact List.nil_lt_cons _ _
  | rel h => exact utf8EncodeChar_append_lt h _ _
  | cons _ ih => exact List.append_left_lt ih

/-- Names keep their order as bytes. -/
theorem nameBytes_lt {name name' : String} (h : name < name') : nameBytes name < nameBytes name' := by
  rw [nameBytes_eq, nameBytes_eq]
  exact flatMap_utf8EncodeChar_lt (String.lt_iff_toList_lt.mp h)

theorem nameBytes_lt_iff {name name' : String} : nameBytes name < nameBytes name' ↔ name < name' := by
  refine ⟨fun h => ?_, nameBytes_lt⟩
  obtain hlt | rfl | hgt := lt_trichotomy name name'
  · exact hlt
  · exact absurd h (List.lt_irrefl _)
  · exact absurd (nameBytes_lt hgt) (List.lt_asymm h)

/-- **Places keep their order as bytes.** -/
theorem placeBytes_lt {place place' : List String} (h : place < place') :
    placeBytes place < placeBytes place' := by
  induction h with
  | nil => exact List.nil_lt_cons _ _
  | rel h => exact List.cons_lt_cons_iff.mpr (.inl (nameBytes_lt h))
  | cons _ ih => exact List.cons_lt_cons_iff.mpr (.inr ⟨rfl, ih⟩)

end EntityProjection
