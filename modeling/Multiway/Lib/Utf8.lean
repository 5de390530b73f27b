import Mathlib

/-!
# UTF-8 bytes

`str::from_utf8` on a list of bytes. An ASCII byte of a valid text is one of its
characters (`encodeUtf8_eq_append_cons`), so a valid text may be cut behind it.
A text may not be cut just anywhere: every prefix of some bytes is valid only if
all of them are ASCII (`forall_take_isSome_iff`). Looking for an ASCII word and
splitting at an ASCII character come to the same on bytes and on characters.
-/

namespace Multiway.Lib.Text

def encodeUtf8 (text : List Char) : List UInt8 := text.flatMap String.utf8EncodeChar

/-- `str::from_utf8`. -/
def fromUtf8 (bytes : List UInt8) : Option (List Char) :=
  bytes.toByteArray.utf8Decode?.map Array.toList

@[simp]
theorem encodeUtf8_nil : encodeUtf8 [] = [] := rfl

@[simp]
theorem encodeUtf8_append (a b : List Char) :
    encodeUtf8 (a ++ b) = encodeUtf8 a ++ encodeUtf8 b := List.flatMap_append

@[simp]
theorem encodeUtf8_cons (c : Char) (text : List Char) :
    encodeUtf8 (c :: text) = String.utf8EncodeChar c ++ encodeUtf8 text := rfl

theorem length_encodeUtf8_le (text : List Char) : (encodeUtf8 text).length ≤ 4 * text.length := by
  induction text with
  | nil => exact Nat.zero_le _
  | cons c text ih =>
    have hsize := Char.utf8Size_le_four c
    rw [encodeUtf8_cons, List.length_append, String.length_utf8EncodeChar, List.length_cons]
    omega

@[simp]
theorem fromUtf8_encodeUtf8 (text : List Char) : fromUtf8 (encodeUtf8 text) = some text := by
  have h : (encodeUtf8 text).toByteArray = text.utf8Encode := rfl
  simp [fromUtf8, h]

theorem fromUtf8_eq_some {bytes : List UInt8} {text : List Char} :
    fromUtf8 bytes = some text ↔ encodeUtf8 text = bytes := by
  constructor
  · intro h
    obtain ⟨chars, hdecode, rfl⟩ := Option.map_eq_some_iff.mp h
    have hsome : bytes.toByteArray.utf8Decode?.isSome = true := by rw [hdecode]; rfl
    have hget : bytes.toByteArray.utf8Decode?.get hsome = chars := by simp [hdecode]
    have hencode := ByteArray.utf8Encode_get_utf8Decode? (h := hsome)
    rw [hget] at hencode
    exact List.toByteArray_inj.mp hencode
  · rintro rfl
    exact fromUtf8_encodeUtf8 text

theorem isSome_fromUtf8_iff {bytes : List UInt8} :
    (fromUtf8 bytes).isSome = true ↔ ∃ text, encodeUtf8 text = bytes := by
  rw [Option.isSome_iff_exists]
  exact exists_congr fun text => fromUtf8_eq_some

/-! ## ASCII -/

theorem encodeChar_of_lt {c : Char} (h : c.toNat < 128) :
    String.utf8EncodeChar c = [UInt8.ofNat c.toNat] := by
  unfold String.utf8EncodeChar
  exact if_pos (by omega : c.toNat ≤ 0x7f)

/-- A byte below 128 stands for itself. -/
theorem encodeChar_of_mem {c : Char} {b : UInt8} (h : b ∈ String.utf8EncodeChar c)
    (hb : b < 128) : c.toNat < 128 ∧ String.utf8EncodeChar c = [b] := by
  have hsmall : c.toNat < 128 := by
    by_contra hlarge
    rw [UInt8.lt_iff_toNat_lt] at hb
    unfold String.utf8EncodeChar at h
    have hlarge' : ¬ c.val.toNat ≤ 0x7f := by
      change ¬ c.toNat ≤ 0x7f
      omega
    simp only [hlarge', if_false] at h
    split at h
    · simp only [List.mem_cons, List.not_mem_nil, or_false] at h
      rcases h with rfl | rfl <;> simp [UInt8.toNat_ofNat'] at hb <;> omega
    · split at h
      · simp only [List.mem_cons, List.not_mem_nil, or_false] at h
        rcases h with rfl | rfl | rfl <;> simp [UInt8.toNat_ofNat'] at hb <;> omega
      · simp only [List.mem_cons, List.not_mem_nil, or_false] at h
        rcases h with rfl | rfl | rfl | rfl <;> simp [UInt8.toNat_ofNat'] at hb <;> omega
  rw [encodeChar_of_lt hsmall] at h ⊢
  exact ⟨hsmall, by rw [List.mem_singleton.mp h]⟩

/-- An ASCII byte is the whole of the character it is in. -/
theorem encodeChar_eq_append_cons {c d : Char} (hc : c.toNat < 128) {before more : List UInt8}
    (h : String.utf8EncodeChar d = before ++ UInt8.ofNat c.toNat :: more) :
    d = c ∧ before = [] ∧ more = [] := by
  have hascii : UInt8.ofNat c.toNat < 128 := by
    rw [UInt8.lt_iff_toNat_lt, UInt8.toNat_ofNat']
    simp only [UInt8.reduceToNat]
    omega
  have hmem : UInt8.ofNat c.toNat ∈ String.utf8EncodeChar d := by
    rw [h]
    exact List.mem_append_right _ List.mem_cons_self
  obtain ⟨hsmall, hencode⟩ := encodeChar_of_mem hmem hascii
  have hdc : d = c := by
    have hsame := (encodeChar_of_lt hsmall).symm.trans hencode
    have hnat := congrArg UInt8.toNat (List.singleton_inj.mp hsame)
    rw [UInt8.toNat_ofNat', UInt8.toNat_ofNat'] at hnat
    exact Char.toNat_inj.mp (by omega)
  have hlen := congrArg List.length (hencode.symm.trans h)
  simp only [List.length_cons, List.length_nil, List.length_append] at hlen
  exact ⟨hdc, List.length_eq_zero_iff.mp (by omega), List.length_eq_zero_iff.mp (by omega)⟩

/-- An ASCII byte of an encoded text is a character of it, and the text falls
into what is before it and what is behind. -/
theorem encodeUtf8_eq_append_cons {c : Char} (hc : c.toNat < 128) {text : List Char}
    {before after : List UInt8} (h : encodeUtf8 text = before ++ UInt8.ofNat c.toNat :: after) :
    ∃ front back, text = front ++ c :: back ∧ encodeUtf8 front = before ∧
      encodeUtf8 back = after := by
  induction text generalizing before with
  | nil => simp at h
  | cons d text ih =>
    rw [encodeUtf8_cons] at h
    rcases List.append_eq_append_iff.mp h with ⟨more, hbefore, hrest⟩ | ⟨more, hd, hrest⟩
    · obtain ⟨front, back, rfl, hfront, hback⟩ := ih hrest
      exact ⟨d :: front, back, rfl, by rw [encodeUtf8_cons, hfront, hbefore], hback⟩
    · rcases more with _ | ⟨b, more⟩
      · -- the byte comes right behind `d`
        obtain ⟨front, back, rfl, hfront, hback⟩ := @ih [] hrest.symm
        refine ⟨d :: front, back, rfl, ?_, hback⟩
        rw [encodeUtf8_cons, hfront, hd]
        simp
      · -- the byte is in `d`, so it is `d`
        rw [List.cons_append, List.cons.injEq] at hrest
        obtain ⟨rfl, hrest⟩ := hrest
        obtain ⟨rfl, rfl, rfl⟩ := encodeChar_eq_append_cons hc hd
        exact ⟨[], text, rfl, rfl, hrest.symm⟩

/-- Bytes below 128 are a text, one character each. -/
theorem encodeUtf8_ascii {bytes : List UInt8} (h : ∀ b ∈ bytes, b < 128) :
    encodeUtf8 (bytes.map fun b => Char.ofNat b.toNat) = bytes := by
  induction bytes with
  | nil => rfl
  | cons b bytes ih =>
    have hb : b.toNat < 128 := UInt8.lt_iff_toNat_lt.mp (h b List.mem_cons_self)
    have hchar : (Char.ofNat b.toNat).toNat = b.toNat := by
      rw [Char.toNat_ofNat, if_pos (.inl (by omega))]
    rw [List.map_cons, encodeUtf8_cons, ih fun x hx => h x (List.mem_cons_of_mem b hx),
      encodeChar_of_lt (by omega), hchar]
    simp

/-- Valid bytes in front do not change whether the bytes behind are valid. -/
theorem fromUtf8_append (text : List Char) (rest : List UInt8) :
    fromUtf8 (encodeUtf8 text ++ rest) = (fromUtf8 rest).map (text ++ ·) := by
  induction text with
  | nil => simp
  | cons c text ih =>
    have hstep : (encodeUtf8 (c :: text) ++ rest).toByteArray =
        [c].utf8Encode ++ (encodeUtf8 text ++ rest).toByteArray := by
      rw [encodeUtf8_cons, List.append_assoc, List.toByteArray_append, List.utf8Encode_singleton]
    rw [fromUtf8, hstep, ByteArray.utf8Decode?_utf8Encode_singleton_append, Option.map_map]
    have hmap : Option.map (Array.toList ∘ (#[c] ++ ·))
        (encodeUtf8 text ++ rest).toByteArray.utf8Decode? =
        (fromUtf8 (encodeUtf8 text ++ rest)).map (c :: ·) := by
      rw [fromUtf8, Option.map_map]
      congr 1
      funext chars
      simp
    rw [hmap, ih, Option.map_map]
    rfl

/-- A byte alone is a text when it is ASCII. -/
theorem isSome_fromUtf8_singleton {b : UInt8} : (fromUtf8 [b]).isSome = true ↔ b < 128 := by
  constructor
  · intro h
    obtain ⟨text, htext⟩ := isSome_fromUtf8_iff.mp h
    rcases text with _ | ⟨c, text⟩
    · exact absurd htext (by simp)
    · rw [encodeUtf8_cons] at htext
      have hlen := congrArg List.length htext
      rw [List.length_append, String.length_utf8EncodeChar, List.length_singleton] at hlen
      have hsize := Char.utf8Size_pos c
      have hone : c.utf8Size = 1 := by omega
      have hc : c.toNat < 128 := by
        have := Char.utf8Size_eq_one_iff.mp hone
        rw [UInt32.le_iff_toNat_le] at this
        exact Nat.lt_succ_of_le this
      rw [encodeChar_of_lt hc, List.singleton_append, List.cons.injEq] at htext
      rw [← htext.1, UInt8.lt_iff_toNat_lt, UInt8.toNat_ofNat']
      simp only [UInt8.reduceToNat]
      omega
  · intro h
    rw [isSome_fromUtf8_iff]
    exact ⟨_, encodeUtf8_ascii (by simpa using h)⟩

/-- Bytes may be cut anywhere only if all of them are ASCII. -/
theorem forall_take_isSome_iff (bytes : List UInt8) :
    (∀ n, (fromUtf8 (bytes.take n)).isSome = true) ↔ ∀ b ∈ bytes, b < 128 := by
  constructor
  · intro h
    induction bytes with
    | nil => simp
    | cons b bytes ih =>
      have hb : b < 128 := isSome_fromUtf8_singleton.mp (h 1)
      obtain ⟨text, htext⟩ := isSome_fromUtf8_iff.mp (h 1)
      refine List.forall_mem_cons.mpr ⟨hb, ih fun n => ?_⟩
      have hnext := h (n + 1)
      have hsplit : (b :: bytes).take (n + 1) = encodeUtf8 text ++ bytes.take n := by
        rw [htext]
        rfl
      rwa [hsplit, fromUtf8_append, Option.isSome_map] at hnext
  · intro h n
    rw [isSome_fromUtf8_iff]
    exact ⟨_, encodeUtf8_ascii fun b hb => h b (List.mem_of_mem_take hb)⟩

/-! ## Cutting at an ASCII character -/

theorem encodeUtf8_injective : Function.Injective encodeUtf8 := by
  intro a b h
  have hdecoded := congrArg fromUtf8 h
  simpa using hdecoded

theorem encodeUtf8_eq_nil {text : List Char} : encodeUtf8 text = [] ↔ text = [] := by
  rw [← encodeUtf8_nil]
  exact encodeUtf8_injective.eq_iff

theorem encodeUtf8_append_cons {c : Char} (hc : c.toNat < 128) (front back : List Char) :
    encodeUtf8 (front ++ c :: back) =
      encodeUtf8 front ++ UInt8.ofNat c.toNat :: encodeUtf8 back := by
  rw [encodeUtf8_append, encodeUtf8_cons, encodeChar_of_lt hc]
  rfl

theorem mem_encodeUtf8_iff {c : Char} (hc : c.toNat < 128) {text : List Char} :
    UInt8.ofNat c.toNat ∈ encodeUtf8 text ↔ c ∈ text := by
  constructor
  · intro h
    obtain ⟨before, after, hsplit⟩ := List.append_of_mem h
    obtain ⟨front, back, rfl, -, -⟩ := encodeUtf8_eq_append_cons hc hsplit
    simp
  · intro h
    obtain ⟨front, back, rfl⟩ := List.append_of_mem h
    rw [encodeUtf8_append_cons hc]
    simp

/-- Bytes with an ASCII byte among them are a text when those on either side of
it are. -/
theorem isSome_fromUtf8_append_cons {c : Char} (hc : c.toNat < 128) {before after : List UInt8} :
    (fromUtf8 (before ++ UInt8.ofNat c.toNat :: after)).isSome = true ↔
      (fromUtf8 before).isSome = true ∧ (fromUtf8 after).isSome = true := by
  simp only [isSome_fromUtf8_iff]
  constructor
  · intro h
    obtain ⟨text, htext⟩ := h
    obtain ⟨front, back, -, hfront, hback⟩ := encodeUtf8_eq_append_cons hc htext
    exact ⟨⟨front, hfront⟩, back, hback⟩
  · intro h
    obtain ⟨⟨front, rfl⟩, back, rfl⟩ := h
    exact ⟨front ++ c :: back, encodeUtf8_append_cons hc front back⟩

/-- The bytes of a text are cut where its characters are. -/
theorem splitOn_encodeUtf8 {c : Char} (hc : c.toNat < 128) (text : List Char) :
    (encodeUtf8 text).splitOn (UInt8.ofNat c.toNat) = (text.splitOn c).map encodeUtf8 := by
  induction hn : text.length using Nat.strong_induction_on generalizing text with
  | _ n ih =>
    by_cases hmem : c ∈ text
    · obtain ⟨front, back, rfl, hfront⟩ := List.eq_append_cons_of_mem hmem
      have hbytes : UInt8.ofNat c.toNat ∉ encodeUtf8 front := fun h =>
        hfront ((mem_encodeUtf8_iff hc).mp h)
      have hback := ih back.length (by simp at hn; omega) back rfl
      rw [encodeUtf8_append_cons hc, List.splitOn_append_cons_self, hback,
        List.splitOn_append_cons_self, List.splitOn_eq_singleton hbytes,
        List.splitOn_eq_singleton hfront]
      rfl
    · have hbytes : UInt8.ofNat c.toNat ∉ encodeUtf8 text := fun h =>
        hmem ((mem_encodeUtf8_iff hc).mp h)
      rw [List.splitOn_eq_singleton hbytes, List.splitOn_eq_singleton hmem]
      rfl

/-- A text that starts with ASCII characters starts so in bytes, and only then. -/
theorem exists_append_of_encodeUtf8 {word : List Char} (hword : ∀ c ∈ word, c.toNat < 128)
    {text : List Char} {after : List UInt8} (h : encodeUtf8 text = encodeUtf8 word ++ after) :
    ∃ rest, text = word ++ rest ∧ encodeUtf8 rest = after := by
  induction word generalizing text with
  | nil => exact ⟨text, rfl, h⟩
  | cons c word ih =>
    obtain ⟨hc, hword⟩ := List.forall_mem_cons.mp hword
    rw [encodeUtf8_cons, encodeChar_of_lt hc, List.singleton_append, List.cons_append] at h
    obtain ⟨front, back, rfl, hfront, hback⟩ := @encodeUtf8_eq_append_cons c hc text [] _ h
    obtain rfl := encodeUtf8_eq_nil.mp hfront
    obtain ⟨rest, rfl, hrest⟩ := ih hword hback
    exact ⟨rest, rfl, hrest⟩

theorem infix_encodeUtf8_iff {word : List Char} (hne : word ≠ [])
    (hword : ∀ c ∈ word, c.toNat < 128) {text : List Char} :
    encodeUtf8 word <:+: encodeUtf8 text ↔ word <:+: text := by
  constructor
  · intro h
    obtain ⟨before, after, hsplit⟩ := h
    obtain ⟨c, word, rfl⟩ := List.exists_cons_of_ne_nil hne
    obtain ⟨hc, hword⟩ := List.forall_mem_cons.mp hword
    rw [encodeUtf8_cons, encodeChar_of_lt hc, List.singleton_append, List.append_assoc,
      List.cons_append] at hsplit
    obtain ⟨front, back, rfl, -, hback⟩ := encodeUtf8_eq_append_cons hc hsplit.symm
    obtain ⟨rest, rfl, -⟩ := exists_append_of_encodeUtf8 hword hback
    exact ⟨front, rest, by simp⟩
  · intro h
    obtain ⟨front, back, rfl⟩ := h
    exact ⟨encodeUtf8 front, encodeUtf8 back, by simp⟩

end Multiway.Lib.Text
