import Mathlib.Tactic.IntervalCases
import CodeIndex.Text.Percent

set_option relaxedAutoImplicit false
set_option autoImplicit false

/-!
# Texts that are read back

A text that was encoded as bytes is read back as it was, and so are bytes that were escaped so that
they can stand in an identifier. In particular bytes with the same escaped form are the same.

## Main results

* `Text.readUtf8_encodeChar_append` — the bytes of a character are read as that character, whatever
  follows.
* `Text.decodeUtf8?_eq_some_iff` — the bytes that spell a text are those of the text.
* `Text.percentDecode_percentEncode` — escaped bytes decode to themselves.
* `Text.percentEncode_injective` — escaping loses nothing.
-/

namespace CodeIndex

namespace Text

/-! ## UTF-8 -/

/-- The byte with a number below 256 has that number. -/
lemma toNat_ofNat_of_lt {n : Nat} (h : n < 256) : (UInt8.ofNat n).toNat = n :=
  UInt8.toNat_ofNat_of_lt' h

/-- The character with a valid number has that number. -/
lemma toNat_ofNat_of_valid {n : Nat} (h : n.isValidChar) : (Char.ofNat n).toNat = n := by
  rw [Char.ofNat, dif_pos h]
  exact UInt32.toNat_ofNatLT

/-- A character is no surrogate and not beyond the last plane. -/
lemma toNat_valid (c : Char) : c.toNat < 0xD800 ∨ 0xDFFF < c.toNat ∧ c.toNat < 0x110000 := c.valid

lemma charLength_ofNat {n : Nat} (h : n < 256) :
    charLength (UInt8.ofNat n) =
      if n < 0x80 then 1 else if n < 0xC2 then 0 else if n < 0xE0 then 2
      else if n < 0xF0 then 3 else if n < 0xF5 then 4 else 0 := by
  simp only [charLength, UInt8.lt_iff_toNat_lt, toNat_ofNat_of_lt h]
  rfl

lemma isTail_ofNat {n : Nat} (h : 0x80 ≤ n) (h' : n ≤ 0xBF) : isTail (UInt8.ofNat n) = true := by
  simp only [isTail, UInt8.le_iff_toNat_le, toNat_ofNat_of_lt (show n < 256 by omega),
    Bool.and_eq_true, decide_eq_true_eq]
  exact ⟨h, h'⟩

/-- The second byte of a character is a continuing one, which four leads restrict further. -/
lemma isSecond_ofNat {m n : Nat} (hm : m < 256) (hn : 0x80 ≤ n) (hn' : n ≤ 0xBF)
    (he0 : m = 0xE0 → 0xA0 ≤ n) (hed : m = 0xED → n ≤ 0x9F) (hf0 : m = 0xF0 → 0x90 ≤ n)
    (hf4 : m = 0xF4 → n ≤ 0x8F) : isSecond (UInt8.ofNat m) (UInt8.ofNat n) = true := by
  have hlead : ∀ k : UInt8, UInt8.ofNat m = k ↔ m = k.toNat := by
    intro k
    rw [← UInt8.toNat_inj, toNat_ofNat_of_lt hm]
  have htail := isTail_ofNat hn hn'
  simp only [isSecond, hlead, UInt8.le_iff_toNat_le, toNat_ofNat_of_lt (show n < 256 by omega)]
  split_ifs with h1 h2 h3 h4
  · exact Bool.and_eq_true_iff.2 ⟨decide_eq_true (he0 h1), decide_eq_true hn'⟩
  · exact Bool.and_eq_true_iff.2 ⟨decide_eq_true hn, decide_eq_true (hed h2)⟩
  · exact Bool.and_eq_true_iff.2 ⟨decide_eq_true (hf0 h3), decide_eq_true hn'⟩
  · exact Bool.and_eq_true_iff.2 ⟨decide_eq_true hn, decide_eq_true (hf4 h4)⟩
  · exact htail

section Reading

variable {a b c d : UInt8} (bs : List UInt8)

lemma readUtf8_one (hlen : charLength a = 1) :
    readUtf8 (a :: bs) = some (Char.ofNat a.toNat) :: readUtf8 bs := by
  rw [readUtf8]
  exact hlen

lemma readUtf8_two (hlen : charLength a = 2) (hb : isSecond a b = true) :
    readUtf8 (a :: b :: bs) =
      some (Char.ofNat (a.toNat % 32 * 64 + payload b)) :: readUtf8 bs := by
  conv_lhs => unfold readUtf8
  rw [hlen]
  exact if_pos hb

lemma readUtf8_three (hlen : charLength a = 3) (hb : isSecond a b = true) (hc : isTail c = true) :
    readUtf8 (a :: b :: c :: bs) =
      some (Char.ofNat (a.toNat % 16 * 0x1000 + payload b * 64 + payload c)) :: readUtf8 bs := by
  conv_lhs => unfold readUtf8
  rw [hlen]
  exact (if_pos hb).trans (if_pos hc)

lemma readUtf8_four (hlen : charLength a = 4) (hb : isSecond a b = true) (hc : isTail c = true)
    (hd : isTail d = true) :
    readUtf8 (a :: b :: c :: d :: bs) =
      some (Char.ofNat
        (a.toNat % 8 * 0x40000 + payload b * 0x1000 + payload c * 64 + payload d)) ::
          readUtf8 bs := by
  conv_lhs => unfold readUtf8
  rw [hlen]
  exact (if_pos hb).trans ((if_pos hc).trans (if_pos hd))

end Reading

/-- A character is what its number says, however the number is written. -/
lemma ofNat_eq_of_toNat_eq {c : Char} {n : Nat} (h : n = c.toNat) : Char.ofNat n = c := by
  rw [h, Char.ofNat_toNat]

/-- The bytes of a character are read as that character, whatever follows. -/
lemma readUtf8_encodeChar_append (c : Char) (bs : List UInt8) :
    readUtf8 (encodeChar c ++ bs) = some c :: readUtf8 bs := by
  have hvalid := toNat_valid c
  have hpow : Nat.pow 64 0 = 1 ∧ Nat.pow 64 1 = 64 ∧ Nat.pow 64 2 = 0x1000 := ⟨rfl, rfl, rfl⟩
  -- one case for each length; in each, lead and tails are in the ranges that reading asks for
  unfold encodeChar
  simp only [hpow, Nat.div_one]
  split_ifs with h1 h2 h3
  · have hlen : charLength (UInt8.ofNat c.toNat) = 1 := by
      rw [charLength_ofNat (by omega), if_pos h1]
    refine (readUtf8_one _ hlen).trans (congrArg (some · :: _) (ofNat_eq_of_toNat_eq ?_))
    exact toNat_ofNat_of_lt (by omega)
  · have hlen : charLength (UInt8.ofNat (0xC0 + c.toNat / 64)) = 2 := by
      rw [charLength_ofNat (by omega)]
      split_ifs <;> omega
    have hsecond : isSecond (UInt8.ofNat (0xC0 + c.toNat / 64))
        (UInt8.ofNat (0x80 + c.toNat % 64)) = true := by
      apply isSecond_ofNat <;> omega
    refine (readUtf8_two _ hlen hsecond).trans (congrArg (some · :: _) (ofNat_eq_of_toNat_eq ?_))
    rw [payload, toNat_ofNat_of_lt (by omega), toNat_ofNat_of_lt (by omega)]
    omega
  · have hlen : charLength (UInt8.ofNat (0xE0 + c.toNat / 0x1000)) = 3 := by
      rw [charLength_ofNat (by omega)]
      split_ifs <;> omega
    have hsecond : isSecond (UInt8.ofNat (0xE0 + c.toNat / 0x1000))
        (UInt8.ofNat (0x80 + c.toNat / 64 % 64)) = true := by
      apply isSecond_ofNat <;> omega
    have htail : isTail (UInt8.ofNat (0x80 + c.toNat % 64)) = true := by
      apply isTail_ofNat <;> omega
    refine (readUtf8_three _ hlen hsecond htail).trans
      (congrArg (some · :: _) (ofNat_eq_of_toNat_eq ?_))
    rw [payload, payload, toNat_ofNat_of_lt (by omega), toNat_ofNat_of_lt (by omega),
      toNat_ofNat_of_lt (by omega)]
    omega
  · have hlen : charLength (UInt8.ofNat (0xF0 + c.toNat / 0x40000)) = 4 := by
      rw [charLength_ofNat (by omega)]
      split_ifs <;> omega
    have hsecond : isSecond (UInt8.ofNat (0xF0 + c.toNat / 0x40000))
        (UInt8.ofNat (0x80 + c.toNat / 0x1000 % 64)) = true := by
      apply isSecond_ofNat <;> omega
    have hthird : isTail (UInt8.ofNat (0x80 + c.toNat / 64 % 64)) = true := by
      apply isTail_ofNat <;> omega
    have hfourth : isTail (UInt8.ofNat (0x80 + c.toNat % 64)) = true := by
      apply isTail_ofNat <;> omega
    refine (readUtf8_four _ hlen hsecond hthird hfourth).trans
      (congrArg (some · :: _) (ofNat_eq_of_toNat_eq ?_))
    rw [payload, payload, payload, toNat_ofNat_of_lt (by omega), toNat_ofNat_of_lt (by omega),
      toNat_ofNat_of_lt (by omega), toNat_ofNat_of_lt (by omega)]
    omega

/-- The bytes of a text are well-formed and spell that text. -/
lemma decodeUtf8?_encodeUtf8 (cs : List Char) : decodeUtf8? (encodeUtf8 cs) = some cs := by
  have hread : readUtf8 (encodeUtf8 cs) = cs.map some := by
    induction cs with
    | nil => simp [encodeUtf8, readUtf8]
    | cons c cs ih =>
      rw [encodeUtf8, List.flatMap_cons, readUtf8_encodeChar_append, List.map_cons]
      exact congrArg (some c :: ·) ih
  rw [decodeUtf8?, hread, List.mapM_map]
  exact List.mapM_pure.trans (congrArg some (List.map_id cs))

section Writing

variable {a b c d : UInt8}

/-- The lead of a character with several bytes is in the range of its length. -/
lemma le_of_charLength {n : Nat} (h : charLength a = n) :
    (n = 1 → a.toNat < 0x80) ∧ (n = 2 → 0xC2 ≤ a.toNat ∧ a.toNat < 0xE0) ∧
      (n = 3 → 0xE0 ≤ a.toNat ∧ a.toNat < 0xF0) ∧ (n = 4 → 0xF0 ≤ a.toNat ∧ a.toNat < 0xF5) := by
  have hlength := charLength_ofNat a.toNat_lt
  rw [UInt8.ofNat_toNat, h] at hlength
  split_ifs at hlength <;> omega

lemma le_of_isTail (h : isTail b = true) : 0x80 ≤ b.toNat ∧ b.toNat ≤ 0xBF := by
  rw [isTail, Bool.and_eq_true, decide_eq_true_eq, decide_eq_true_eq, UInt8.le_iff_toNat_le,
    UInt8.le_iff_toNat_le] at h
  exact h

lemma le_of_isSecond (h : isSecond a b = true) :
    (0x80 ≤ b.toNat ∧ b.toNat ≤ 0xBF) ∧ (a.toNat = 0xE0 → 0xA0 ≤ b.toNat) ∧
      (a.toNat = 0xED → b.toNat ≤ 0x9F) ∧ (a.toNat = 0xF0 → 0x90 ≤ b.toNat) ∧
      (a.toNat = 0xF4 → b.toNat ≤ 0x8F) := by
  have hlead : ∀ k : UInt8, a = k ↔ a.toNat = k.toNat := fun k => UInt8.toNat_inj.symm
  simp only [isSecond, isTail, hlead, UInt8.le_iff_toNat_le] at h
  split_ifs at h with h1 h2 h3 h4 <;>
    simp only [Bool.and_eq_true, decide_eq_true_eq, UInt8.reduceToNat] at * <;> omega

/-- A byte is given by its number. -/
lemma ofNat_eq_of_eq_toNat {n : Nat} (h : n = a.toNat) : UInt8.ofNat n = a := by
  rw [h, UInt8.ofNat_toNat]

/-- The bytes that are read as one character are the bytes of that character; so in the three lemmas
that follow. -/
lemma encodeChar_one (hlen : charLength a = 1) : encodeChar (Char.ofNat a.toNat) = [a] := by
  have ha := (le_of_charLength hlen).1 rfl
  rw [encodeChar, toNat_ofNat_of_valid (.inl (by omega)), if_pos ha, UInt8.ofNat_toNat]

lemma encodeChar_two (hlen : charLength a = 2) (hb : isSecond a b = true) :
    encodeChar (Char.ofNat (a.toNat % 32 * 64 + payload b)) = [a, b] := by
  have ha := (le_of_charLength hlen).2.1 rfl
  have hb := (le_of_isSecond hb).1
  unfold payload
  rw [encodeChar, toNat_ofNat_of_valid (.inl (by omega)), if_neg (by omega), if_pos (by omega)]
  simp only [Nat.pow_eq, List.cons.injEq, and_true]
  exact ⟨ofNat_eq_of_eq_toNat (by omega), ofNat_eq_of_eq_toNat (by omega)⟩

lemma encodeChar_three (hlen : charLength a = 3) (hb : isSecond a b = true)
    (hc : isTail c = true) :
    encodeChar (Char.ofNat (a.toNat % 16 * 0x1000 + payload b * 64 + payload c)) = [a, b, c] := by
  have ha := (le_of_charLength hlen).2.2.1 rfl
  obtain ⟨hb, he0, hed, -⟩ := le_of_isSecond hb
  have hc := le_of_isTail hc
  have hvalid : (a.toNat % 16 * 0x1000 + b.toNat % 64 * 64 + c.toNat % 64).isValidChar := by
    unfold Nat.isValidChar
    omega
  unfold payload
  rw [encodeChar, toNat_ofNat_of_valid hvalid, if_neg (by omega), if_neg (by omega),
    if_pos (by omega)]
  simp only [Nat.pow_eq, List.cons.injEq, and_true]
  exact ⟨ofNat_eq_of_eq_toNat (by omega), ofNat_eq_of_eq_toNat (by omega),
    ofNat_eq_of_eq_toNat (by omega)⟩

lemma encodeChar_four (hlen : charLength a = 4) (hb : isSecond a b = true) (hc : isTail c = true)
    (hd : isTail d = true) :
    encodeChar (Char.ofNat
      (a.toNat % 8 * 0x40000 + payload b * 0x1000 + payload c * 64 + payload d)) =
        [a, b, c, d] := by
  have ha := (le_of_charLength hlen).2.2.2 rfl
  obtain ⟨hb, -, -, hf0, hf4⟩ := le_of_isSecond hb
  have hc := le_of_isTail hc
  have hd := le_of_isTail hd
  have hvalid : (a.toNat % 8 * 0x40000 + b.toNat % 64 * 0x1000 + c.toNat % 64 * 64 +
      d.toNat % 64).isValidChar := by
    unfold Nat.isValidChar
    omega
  unfold payload
  rw [encodeChar, toNat_ofNat_of_valid hvalid, if_neg (by omega), if_neg (by omega),
    if_neg (by omega)]
  simp only [Nat.pow_eq, List.cons.injEq, and_true]
  exact ⟨ofNat_eq_of_eq_toNat (by omega), ofNat_eq_of_eq_toNat (by omega),
    ofNat_eq_of_eq_toNat (by omega), ofNat_eq_of_eq_toNat (by omega)⟩

end Writing

/-- What was read spells a text if each piece was read as a character. -/
lemma mapM_id_cons_some {c : Char} {read : List (Option Char)} {cs : List Char}
    (h : (some c :: read).mapM id = some cs) :
    ∃ rest, read.mapM id = some rest ∧ cs = c :: rest := by
  rw [List.mapM_cons, id_eq, Option.bind_eq_bind, Option.bind_some] at h
  obtain ⟨rest, hrest, heq⟩ := Option.bind_eq_some_iff.1 h
  exact ⟨rest, hrest, (Option.some.inj heq).symm⟩

/-- Bytes that spell a text are the bytes of that text.

**Proof sketch.** Induction on the reading. Whatever is read as a character are the bytes of that
character, and nothing else may be read. -/
lemma encodeUtf8_of_decodeUtf8? {bs : List UInt8} {cs : List Char} (h : decodeUtf8? bs = some cs) :
    encodeUtf8 cs = bs := by
  have hcons : ∀ {c : Char} {front bs : List UInt8} {cs : List Char}, encodeChar c = front →
      (∀ {cs}, (readUtf8 bs).mapM id = some cs → encodeUtf8 cs = bs) →
        (some c :: readUtf8 bs).mapM id = some cs → encodeUtf8 cs = front ++ bs := by
    rintro c front bs cs rfl ih hread
    obtain ⟨rest, hrest, rfl⟩ := mapM_id_cons_some hread
    rw [← ih hrest]
    rfl
  unfold decodeUtf8? at h
  fun_induction readUtf8 bs generalizing cs with
  | case1 =>
    obtain rfl := Option.some.inj h
    rfl
  | case2 a bs hlen ih => exact hcons (encodeChar_one hlen) ih h
  | case3 a b bs hlen hb ih => exact hcons (encodeChar_two hlen hb) ih h
  | case6 a b c bs hlen hb hc ih => exact hcons (encodeChar_three hlen hb hc) ih h
  | case12 a b c d bs hlen hb hc hd ih => exact hcons (encodeChar_four hlen hb hc hd) ih h
  | _ =>
    rw [List.mapM_cons] at h
    cases h

/-- The bytes that spell a text are those of the text. -/
lemma decodeUtf8?_eq_some_iff {bs : List UInt8} {cs : List Char} :
    decodeUtf8? bs = some cs ↔ bs = encodeUtf8 cs := by
  constructor
  · exact fun h => (encodeUtf8_of_decodeUtf8? h).symm
  · rintro rfl
    exact decodeUtf8?_encodeUtf8 cs

/-- An ASCII character occurs in a text whose bytes hold its number. -/
lemma mem_of_mem_encodeUtf8 {b : UInt8} (hb : b < 0x80) {cs : List Char} (h : b ∈ encodeUtf8 cs) :
    Char.ofNat b.toNat ∈ cs := by
  obtain ⟨c, hc, hmem⟩ := List.mem_flatMap.1 h
  have hvalid := toNat_valid c
  have hlt : b.toNat < 0x80 := UInt8.lt_iff_toNat_lt.1 hb
  have hnumber : ∀ {n : Nat}, n < 256 → b = UInt8.ofNat n → b.toNat = n := by
    rintro n hn rfl
    exact toNat_ofNat_of_lt hn
  -- all bytes of a longer character are too large
  unfold encodeChar at hmem
  simp only [Nat.pow_eq] at hmem
  split_ifs at hmem with h1 h2 h3 <;> simp only [List.mem_cons, List.not_mem_nil, or_false] at hmem
  · rwa [hnumber (by omega) hmem, Char.ofNat_toNat]
  · rcases hmem with hmem | hmem
    all_goals have := hnumber (by omega) hmem; omega
  · rcases hmem with hmem | hmem | hmem
    all_goals have := hnumber (by omega) hmem; omega
  · rcases hmem with hmem | hmem | hmem | hmem
    all_goals have := hnumber (by omega) hmem; omega

/-! ## Percent escapes -/

lemma hexValue?_upperHex {n : Nat} (h : n < 16) : hexValue? (upperHex n) = some n := by
  interval_cases n <;> decide

/-- The escape of a byte decodes to that byte, whatever follows. -/
lemma percentDecode_percentByte_append (b : UInt8) (cs : List Char) :
    percentDecode (percentByte b ++ cs) = b :: percentDecode cs := by
  have hb : b.toNat < 256 := b.toNat_lt
  show percentDecode ('%' :: upperHex (b.toNat / 16) :: upperHex (b.toNat % 16) :: cs) = _
  rw [percentDecode, hexValue?_upperHex (by omega), hexValue?_upperHex (by omega)]
  dsimp only
  rw [Nat.div_add_mod', UInt8.ofNat_toNat]

/-- A character that opens no escape stands for itself. -/
lemma percentDecode_cons_of_ne {c : Char} (h : c ≠ '%') (cs : List Char) :
    percentDecode (c :: cs) = encodeChar c ++ percentDecode cs := by
  rw [percentDecode]
  intro a b rest hpercent
  exact absurd hpercent h

/-- What is kept of some bytes is decoded to them, and so is what is escaped, whatever follows,
provided that percent signs are escaped as well. -/
lemma percentDecode_percentEncode_append {keep : Char → Bool} (hkeep : keep '%' = false)
    (bs : List UInt8) (rest : List Char) :
    percentDecode (percentEncode keep bs ++ rest) = bs ++ percentDecode rest := by
  induction bs with
  | nil => rfl
  | cons b bs ih =>
    rw [percentEncode, List.flatMap_cons, List.append_assoc, List.cons_append]
    rw [percentEncode] at ih
    split
    · next hkept =>
      rw [Bool.and_eq_true, Bool.and_eq_true, decide_eq_true_eq, decide_eq_true_eq] at hkept
      have hc : Char.ofNat b.toNat ≠ '%' := by
        intro hpercent
        rw [hpercent, hkeep] at hkept
        exact absurd hkept.2 Bool.false_ne_true
      have hlen : charLength b = 1 := if_pos (UInt8.lt_trans hkept.1.2 (by decide))
      rw [List.singleton_append, percentDecode_cons_of_ne hc, ih, encodeChar_one hlen,
        List.singleton_append]
    · rw [percentDecode_percentByte_append, ih]

/-- Escaped bytes decode to themselves. -/
lemma percentDecode_percentEncode {keep : Char → Bool} (hkeep : keep '%' = false)
    (bs : List UInt8) : percentDecode (percentEncode keep bs) = bs := by
  simpa [percentDecode] using percentDecode_percentEncode_append hkeep bs []

/-- Escaping loses nothing. -/
lemma percentEncode_injective {keep : Char → Bool} (hkeep : keep '%' = false) :
    Function.Injective (percentEncode keep) := by
  intro bs bs' h
  rw [← percentDecode_percentEncode hkeep bs, h, percentDecode_percentEncode hkeep]

/-- A character that is not kept does not occur in what is escaped, unless escapes are made of
it. -/
lemma notMem_percentEncode {keep : Char → Bool} {d : Char} (hkeep : keep d = false)
    (hpercent : d ≠ '%') (hhex : ∀ n < 16, d ≠ upperHex n) (bs : List UInt8) :
    d ∉ percentEncode keep bs := by
  intro hmem
  obtain ⟨b, -, hb⟩ := List.mem_flatMap.1 hmem
  split at hb
  · next hkept =>
    obtain rfl := List.mem_singleton.1 hb
    simp [hkeep] at hkept
  · have hlt : b.toNat < 256 := b.toNat_lt
    simp only [percentByte, List.mem_cons, List.not_mem_nil, or_false] at hb
    rcases hb with hb | hb | hb
    · exact hpercent hb
    · exact hhex _ (by omega) hb
    · exact hhex _ (by omega) hb

end Text

end CodeIndex
