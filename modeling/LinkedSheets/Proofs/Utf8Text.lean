import LinkedSheets.Text.Utf8
import Mathlib.Data.List.Basic

/-!
# The bytes of a text

The bytes of a text are those of its characters one after the other (`toList_toUTF8`), and both ways
of reading bytes undo this: as a text (`ofUtf8?_toUTF8`), and as characters among which there might
be stray bytes (`decode_toUTF8`). A character beyond the first 128 has none of their bytes
(`ne_of_mem_utf8EncodeChar`), so bytes can be looked at where such a character is looked for.
-/

namespace LinkedSheets.Text

theorem toList_loop_eq (bytes : ByteArray) (i : Nat) (r : List UInt8) :
    ByteArray.toList.loop bytes i r = r.reverse ++ bytes.data.toList.drop i := by
  fun_induction ByteArray.toList.loop bytes i r with
  | case1 i r h ih =>
    have hi : i < bytes.data.toList.length := by simpa using h
    rw [ih, List.drop_eq_getElem_cons hi]
    simp [ByteArray.get!, h]
  | case2 i r h =>
    rw [List.drop_eq_nil_of_le (by simpa using Nat.le_of_not_lt h), List.append_nil]

theorem toList_eq_data_toList (bytes : ByteArray) : bytes.toList = bytes.data.toList := by
  simp [ByteArray.toList, toList_loop_eq]

/-- The bytes of a text are those of its characters. -/
theorem toList_toUTF8_ofList (cs : List Char) :
    (String.ofList cs).toUTF8.toList = cs.flatMap String.utf8EncodeChar := by
  rw [toList_eq_data_toList, String.toUTF8_eq_toByteArray, String.toByteArray_ofList,
    List.utf8Encode, List.toList_data_toByteArray]

theorem toList_toUTF8 (s : String) :
    s.toUTF8.toList = s.toList.flatMap String.utf8EncodeChar := by
  rw [← toList_toUTF8_ofList, String.ofList_toList]

theorem ofUtf8?_toUTF8 (s : String) : ofUtf8? s.toUTF8.toList = some s := by
  rw [ofUtf8?, toList_eq_data_toList, Array.toArray_toList]
  exact dif_pos s.isValidUTF8

variable {c : Char}

theorem toNat_ofNat_of_lt {n : Nat} (h : n < 256) : (UInt8.ofNat n).toNat = n := by
  rw [UInt8.toNat_ofNat']
  omega

theorem utf8EncodeChar_of_lt (h : c.toNat < 0x80) : String.utf8EncodeChar c = [c.toUInt8] := by
  rw [String.utf8EncodeChar, show c.val.toNat = c.toNat from rfl, if_pos (Nat.le_of_lt_succ h)]
  rfl

theorem toNat_toUInt8 (h : c.toNat < 0x80) : c.toUInt8.toNat = c.toNat :=
  toNat_ofNat_of_lt (Nat.lt_trans h (by decide))

theorem toUInt8_inj {a : Char} (ha : a.toNat < 0x80) (h : c.toNat < 0x80) :
    a.toUInt8 = c.toUInt8 ↔ a = c := by
  rw [← UInt8.toNat_inj, toNat_toUInt8 ha, toNat_toUInt8 h, Char.toNat_inj]

theorem le_toNat_of_mem_utf8EncodeChar (h : 0x80 ≤ c.toNat) {b : UInt8}
    (hb : b ∈ String.utf8EncodeChar c) : 0x80 ≤ b.toNat := by
  have hofNat {n : Nat} (hn : 0x80 ≤ n) (hlt : n < 0x100) : 0x80 ≤ (UInt8.ofNat n).toNat := by
    rwa [toNat_ofNat_of_lt hlt]
  rw [String.utf8EncodeChar, show c.val.toNat = c.toNat from rfl, if_neg (by omega)] at hb
  split at hb
  · simp only [List.mem_cons, List.not_mem_nil, or_false] at hb
    rcases hb with rfl | rfl <;> exact hofNat (by omega) (by omega)
  split at hb
  · simp only [List.mem_cons, List.not_mem_nil, or_false] at hb
    rcases hb with rfl | rfl | rfl <;> exact hofNat (by omega) (by omega)
  · simp only [List.mem_cons, List.not_mem_nil, or_false] at hb
    rcases hb with rfl | rfl | rfl | rfl <;> exact hofNat (by omega) (by omega)

/-- No other character has the byte of one of the first 128. -/
theorem ne_of_mem_utf8EncodeChar {a : Char} (ha : a.toNat < 0x80) (hne : c ≠ a) {b : UInt8}
    (hb : b ∈ String.utf8EncodeChar c) : b ≠ a.toUInt8 := by
  rintro rfl
  rcases Nat.lt_or_ge c.toNat 0x80 with hc | hc
  · rw [utf8EncodeChar_of_lt hc, List.mem_singleton] at hb
    exact hne ((toUInt8_inj ha hc).1 hb).symm
  · have hle := le_toNat_of_mem_utf8EncodeChar hc hb
    rw [toNat_toUInt8 ha] at hle
    omega

theorem scalar?_toNat {least : Nat} (h : least ≤ c.toNat) : scalar? least c.toNat = some c := by
  rw [scalar?, dif_pos ⟨c.valid, h⟩]
  rfl

theorem continuation?_ofNat (n : Nat) :
    continuation? (UInt8.ofNat (n % 64 + 128)) = some (n % 64) := by
  have h := toNat_ofNat_of_lt (n := n % 64 + 128) (by omega)
  simp only [continuation?, UInt8.le_iff_toNat_le, UInt8.lt_iff_toNat_lt, h]
  simp
  omega

theorem toNat_lt (c : Char) : c.toNat < 0x110000 := by
  have := c.valid
  simp only [UInt32.isValidChar, Nat.isValidChar] at this
  have : c.toNat = c.val.toNat := rfl
  omega

theorem leading?_utf8EncodeChar (rest : List UInt8) :
    leading? (String.utf8EncodeChar c ++ rest)
      = some (c, (String.utf8EncodeChar c).length - 1) := by
  have hlt := toNat_lt c
  rw [String.utf8EncodeChar, show c.val.toNat = c.toNat from rfl]
  split
  · have hlead := toNat_ofNat_of_lt (n := c.toNat) (by omega)
    simp (disch := omega) only [List.cons_append, List.nil_append, leading?,
      UInt8.lt_iff_toNat_lt, hlead, UInt8.reduceToNat, if_pos, scalar?_toNat]
    rfl
  split
  · have hlead := toNat_ofNat_of_lt (n := c.toNat / 64 % 32 + 192) (by omega)
    have hsum : (c.toNat / 64 % 32 + 192 - 192) * 64 + c.toNat % 64 = c.toNat := by omega
    simp (disch := omega) only [List.cons_append, List.nil_append, leading?,
      UInt8.lt_iff_toNat_lt, hlead, UInt8.reduceToNat, if_pos, if_neg, continuation?_ofNat,
      Option.bind_eq_bind, Option.bind_some, hsum, scalar?_toNat]
    rfl
  split
  · have hlead := toNat_ofNat_of_lt (n := c.toNat / 4096 % 16 + 224) (by omega)
    have hsum : ((c.toNat / 4096 % 16 + 224 - 224) * 64 + c.toNat / 64 % 64) * 64
        + c.toNat % 64 = c.toNat := by omega
    simp (disch := omega) only [List.cons_append, List.nil_append, leading?,
      UInt8.lt_iff_toNat_lt, hlead, UInt8.reduceToNat, if_pos, if_neg, continuation?_ofNat,
      Option.bind_eq_bind, Option.bind_some, hsum, scalar?_toNat]
    rfl
  · have hlead := toNat_ofNat_of_lt (n := c.toNat / 262144 % 8 + 240) (by omega)
    have hsum : (((c.toNat / 262144 % 8 + 240 - 240) * 64 + c.toNat / 4096 % 64) * 64
        + c.toNat / 64 % 64) * 64 + c.toNat % 64 = c.toNat := by omega
    simp (disch := omega) only [List.cons_append, List.nil_append, leading?,
      UInt8.lt_iff_toNat_lt, hlead, UInt8.reduceToNat, if_pos, if_neg, continuation?_ofNat,
      Option.bind_eq_bind, Option.bind_some, hsum, scalar?_toNat]
    rfl

theorem decodeAfter_length_append (taken rest : List UInt8) :
    decodeAfter taken.length (taken ++ rest) = decodeAfter 0 rest := by
  induction taken with
  | nil => rfl
  | cons b taken ih => exact ih

/-- The text comes back from its bytes. -/
theorem decode_toUTF8 (s : String) : decode s.toUTF8.toList = s.toList.map some := by
  rw [decode, toList_toUTF8]
  induction s.toList with
  | nil => rfl
  | cons c cs ih =>
    have hlead := leading?_utf8EncodeChar (c := c) (cs.flatMap String.utf8EncodeChar)
    rw [List.flatMap_cons]
    rcases hbytes : String.utf8EncodeChar c with _ | ⟨b, more⟩
    · exact absurd hbytes (by simp)
    · rw [hbytes, List.cons_append] at hlead
      rw [List.cons_append, decodeAfter, hlead]
      simp [decodeAfter_length_append, ih]

end LinkedSheets.Text
