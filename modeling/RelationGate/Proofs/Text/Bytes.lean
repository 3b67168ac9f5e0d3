/-!
# The bytes of a text

A text is sent as the bytes of its characters in UTF-8 (`bytesOf`, `toUTF8_toList`), and these give
the text back (`fromUTF8?_bytesOf`). A character below U+0080 is its own single byte, and all bytes
of any other one are 128 or more. So a byte below 128 stands for itself wherever it stands among the
bytes of a text (`mem_bytesOf_iff`), and to cut the bytes at it is to cut the text there.
-/

namespace RelationGate.Text

/-- The bytes of some characters. -/
def bytesOf (cs : List Char) : List UInt8 := cs.flatMap String.utf8EncodeChar

variable {c x : Char} {cs cs' : List Char} {b : UInt8}

@[simp] theorem bytesOf_nil : bytesOf [] = [] := rfl

@[simp] theorem bytesOf_cons : bytesOf (c :: cs) = String.utf8EncodeChar c ++ bytesOf cs := rfl

@[simp] theorem bytesOf_append : bytesOf (cs ++ cs') = bytesOf cs ++ bytesOf cs' :=
  List.flatMap_append

theorem length_le_bytesOf (cs : List Char) : cs.length ≤ (bytesOf cs).length := by
  induction cs with
  | nil => exact Nat.le_refl _
  | cons c cs ih =>
    have hc : 0 < (String.utf8EncodeChar c).length :=
      List.length_pos_iff.2 String.utf8EncodeChar_ne_nil
    rw [bytesOf_cons, List.length_append, List.length_cons]
    omega

/-! ## From a text to its bytes and back -/

theorem toList_loop (bytes : ByteArray) (i : Nat) (read : List UInt8) :
    ByteArray.toList.loop bytes i read = read.reverse ++ bytes.data.toList.drop i := by
  fun_induction ByteArray.toList.loop bytes i read with
  | case1 i read h ih =>
    have hi : i < bytes.data.toList.length := by simpa using h
    rw [ih, List.drop_eq_getElem_cons hi]
    simp [ByteArray.get!, h]
  | case2 i read h =>
    rw [List.drop_eq_nil_of_le (by simpa using Nat.le_of_not_lt h)]
    simp

theorem toUTF8_toList (s : String) : s.toUTF8.toList = bytesOf s.toList := by
  rw [String.toUTF8_eq_toByteArray, ← String.utf8Encode_toList, ByteArray.toList, toList_loop]
  exact List.toList_data_toByteArray

theorem fromUTF8?_bytesOf (cs : List Char) :
    String.fromUTF8? ⟨(bytesOf cs).toArray⟩ = some (String.ofList cs) := by
  have hbytes : (⟨(bytesOf cs).toArray⟩ : ByteArray) = cs.utf8Encode :=
    ByteArray.ext (Array.toList_inj.1 List.toList_data_toByteArray.symm)
  have hvalid : cs.utf8Encode.IsValidUTF8 := ByteArray.isValidUTF8_utf8Encode
  rw [hbytes, String.fromUTF8?, dif_pos hvalid]
  rfl

/-! ## Characters below U+0080 -/

theorem utf8EncodeChar_of_lt (h : c.toNat < 128) : String.utf8EncodeChar c = [c.toUInt8] := by
  have hsmall : c.val.toNat ≤ 127 := Nat.le_of_lt_succ h
  rw [String.utf8EncodeChar, if_pos hsmall]
  rfl

/-- All bytes of a character from U+0080 on are 128 or more. -/
theorem le_of_mem_utf8EncodeChar (h : 128 ≤ c.toNat) (hb : b ∈ String.utf8EncodeChar c) :
    128 ≤ b.toNat := by
  have hlarge : ¬c.val.toNat ≤ 127 := Nat.not_le.2 h
  rw [String.utf8EncodeChar, if_neg hlarge] at hb
  split at hb
  · simp only [List.mem_cons, List.not_mem_nil, or_false] at hb
    rcases hb with rfl | rfl <;> rw [UInt8.toNat_ofNat'] <;> omega
  · split at hb
    · simp only [List.mem_cons, List.not_mem_nil, or_false] at hb
      rcases hb with rfl | rfl | rfl <;> rw [UInt8.toNat_ofNat'] <;> omega
    · simp only [List.mem_cons, List.not_mem_nil, or_false] at hb
      rcases hb with rfl | rfl | rfl | rfl <;> rw [UInt8.toNat_ofNat'] <;> omega

theorem toUInt8_toNat_of_lt (h : c.toNat < 128) : c.toUInt8.toNat = c.toNat :=
  Nat.mod_eq_of_lt (Nat.lt_trans h (by decide))

/-- **A character below U+0080 is where its byte is.** -/
theorem mem_bytesOf_iff (hx : x.toNat < 128) : x.toUInt8 ∈ bytesOf cs ↔ x ∈ cs := by
  rw [bytesOf, List.mem_flatMap]
  constructor
  · rintro ⟨c, hc, hbyte⟩
    by_cases hsmall : c.toNat < 128
    · rw [utf8EncodeChar_of_lt hsmall, List.mem_singleton] at hbyte
      have hsame : x.toNat = c.toNat := by
        rw [← toUInt8_toNat_of_lt hx, hbyte, toUInt8_toNat_of_lt hsmall]
      rwa [Char.toNat_inj.1 hsame]
    · have hlarge := le_of_mem_utf8EncodeChar (Nat.not_lt.1 hsmall) hbyte
      rw [toUInt8_toNat_of_lt hx] at hlarge
      omega
  · intro hmem
    exact ⟨x, hmem, by rw [utf8EncodeChar_of_lt hx]; exact List.mem_singleton_self _⟩

end RelationGate.Text
