/-!
# The bytes of a text

Patterns are matched against the bytes of a path. A text and its bytes determine each other, and the bytes are those of the characters one after another.
-/

namespace GuardedPlan

theorem byteArray_loop_eq_append_drop (bytes : ByteArray) (index : Nat) (before : List UInt8) :
    ByteArray.toList.loop bytes index before = before.reverse ++ bytes.data.toList.drop index := by
  fun_induction ByteArray.toList.loop bytes index before with
  | case1 index before hindex ih =>
    have hsize : index < bytes.data.toList.length := hindex
    rw [ih, List.drop_eq_getElem_cons hsize, List.reverse_cons, List.append_assoc, List.singleton_append]
    congr 2
    simp [ByteArray.get!, hindex]
  | case2 index before hindex =>
    have hsize : bytes.data.toList.length ≤ index := Nat.le_of_not_lt hindex
    rw [List.drop_eq_nil_of_le hsize, List.append_nil]

theorem byteArray_toList (bytes : ByteArray) : bytes.toList = bytes.data.toList := by
  rw [ByteArray.toList, byteArray_loop_eq_append_drop]
  rfl

theorem toUTF8_toList (text : String) : text.toUTF8.toList = text.toList.flatMap String.utf8EncodeChar := by
  conv => lhs; rw [← String.ofList_toList (s := text)]
  rw [byteArray_toList, String.toUTF8_eq_toByteArray, String.toByteArray_ofList, List.utf8Encode,
    List.toList_data_toByteArray]

theorem toUTF8_toList_inj {first second : String} : first.toUTF8.toList = second.toUTF8.toList ↔ first = second := by
  constructor
  · intro h
    rw [byteArray_toList, byteArray_toList, Array.toList_inj] at h
    exact String.toByteArray_inj.1 (ByteArray.ext h)
  · rintro rfl
    rfl

/-- The byte of a slash belongs to no other character, since every byte of a longer encoding has its highest bit set. -/
theorem eq_slash_of_mem_utf8EncodeChar {c : Char} (h : 0x2F ∈ String.utf8EncodeChar c) : c = '/' := by
  have hbyte : ∀ n : Nat, (0x2F : UInt8) = UInt8.ofNat n → n % 256 = 47 := by
    intro n hn
    have hsame := congrArg UInt8.toNat hn
    rw [UInt8.toNat_ofNat'] at hsame
    exact hsame.symm
  have hhigh : ∀ {n : Nat}, (0x2F : UInt8) = UInt8.ofNat (n + 128) → n < 128 → False := by
    intro n hn hbound
    have hcode := hbyte _ hn
    omega
  rw [String.utf8EncodeChar] at h
  split at h
  next hascii =>
    have hcode := hbyte _ (List.mem_singleton.1 h)
    have hslash : c.val.toNat = 47 := by omega
    exact Char.ext (UInt32.toNat_inj.1 hslash)
  next =>
    exfalso
    repeat' split at h
    all_goals
      simp only [List.mem_cons, List.not_mem_nil, or_false] at h
    · rcases h with h | h <;> exact hhigh h (by omega)
    · rcases h with h | h | h <;> exact hhigh h (by omega)
    · rcases h with h | h | h | h <;> exact hhigh h (by omega)

theorem text_of_its_bytes (text : String) : String.fromUTF8? text.toUTF8 = some text := by
  rw [String.toUTF8_eq_toByteArray, String.fromUTF8?, dif_pos text.isValidUTF8]
  rfl

theorem bytes_of_its_text {bytes : ByteArray} {text : String} (h : String.fromUTF8? bytes = some text) :
    text.toUTF8 = bytes := by
  rw [String.fromUTF8?] at h
  split at h
  · cases h
    rfl
  · cases h

end GuardedPlan
