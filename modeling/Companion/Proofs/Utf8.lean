import Companion.Utf8
import Mathlib.Tactic.Lemma

/-!
# Text through bytes

The decoder reads back what the encoder writes, and it accepts nothing else: these are the bytes that
are valid UTF-8. A character's first byte settles how many bytes follow it and the range of the
second; the bytes after that carry six bits each.
-/

namespace Companion.Utf8

lemma toNat_ofNat_of_lt {b : Nat} (h : b < 256) : (UInt8.ofNat b).toNat = b := by
  rw [UInt8.toNat_ofNat']
  omega

lemma decodeFrom_first {b : Nat} {p : Begun} (hb : 0x80 ≤ b) (hb' : b < 256)
    (hp : begin? b = some p) (index : Nat) (bs : Bytes) :
    decodeFrom index none (.ofNat b :: bs) = decodeFrom index (some p) bs := by
  rw [decodeFrom, toNat_ofNat_of_lt hb', if_neg (by omega), hp]

lemma decodeFrom_more {b : Nat} {p : Begun} (hb : p.low ≤ b ∧ b ≤ p.high) (hb' : b < 256)
    (ho : 1 < p.owed) (index : Nat) (bs : Bytes) :
    decodeFrom index (some p) (.ofNat b :: bs) =
      decodeFrom index
        (some ⟨p.value * 0x40 + (b - 0x80), p.taken + 1, p.owed - 1, 0x80, 0xBF⟩) bs := by
  rw [decodeFrom, toNat_ofNat_of_lt hb', if_pos hb]
  exact if_neg (by omega)

lemma decodeFrom_last {b : Nat} {p : Begun} (hb : p.low ≤ b ∧ b ≤ p.high) (hb' : b < 256)
    (ho : p.owed ≤ 1) (index : Nat) (bs : Bytes) :
    decodeFrom index (some p) (.ofNat b :: bs) =
      (decodeFrom (index + p.taken + 1) none bs).map
        (Char.ofNat (p.value * 0x40 + (b - 0x80)) :: ·) := by
  rw [decodeFrom, toNat_ofNat_of_lt hb', if_pos hb]
  exact if_pos ho

lemma begin?_of_two {b : Nat} (h : 0xC2 ≤ b ∧ b ≤ 0xDF) :
    begin? b = some ⟨b - 0xC0, 1, 1, 0x80, 0xBF⟩ :=
  if_pos h

/-- The first of three bytes leaves room for the second one to tell surrogates and numbers that
would fit into two bytes. -/
lemma begin?_of_three {b : Nat} (h : 0xE0 ≤ b ∧ b ≤ 0xEF) :
    begin? b = some ⟨b - 0xE0, 1, 2, if b = 0xE0 then 0xA0 else 0x80,
      if b = 0xED then 0x9F else 0xBF⟩ := by
  by_cases h0 : b = 0xE0
  · subst h0; rfl
  · by_cases hd : b = 0xED
    · subst hd; rfl
    · rw [begin?, if_neg (by omega), if_neg h0, if_neg hd, if_pos (by omega), if_neg h0, if_neg hd]

lemma begin?_of_four {b : Nat} (h : 0xF0 ≤ b ∧ b ≤ 0xF4) :
    begin? b = some ⟨b - 0xF0, 1, 3, if b = 0xF0 then 0x90 else 0x80,
      if b = 0xF4 then 0x8F else 0xBF⟩ := by
  by_cases h0 : b = 0xF0
  · subst h0; rfl
  · by_cases h4 : b = 0xF4
    · subst h4; rfl
    · rw [begin?, if_neg (by omega), if_neg (by omega), if_neg (by omega), if_neg (by omega),
        if_neg h0, if_pos (by omega), if_neg h0, if_neg h4]

lemma char_bounds (c : Char) : c.toNat < 0xD800 ∨ 0xDFFF < c.toNat ∧ c.toNat < 0x110000 :=
  c.valid

/-- The bytes of a character are decoded to it, and decoding goes on after them. -/
lemma decodeFrom_encodeChar (c : Char) (index : Nat) (bs : Bytes) :
    ∃ next, decodeFrom index none (encodeChar c ++ bs) =
      (decodeFrom next none bs).map (c :: ·) := by
  have hc := char_bounds c
  have hback : Char.ofNat c.toNat = c := Char.ofNat_toNat c
  rw [encodeChar]
  generalize c.toNat = n at hc hback
  by_cases h1 : n < 0x80
  · refine ⟨index + 1, ?_⟩
    rw [if_pos h1, List.singleton_append, decodeFrom, toNat_ofNat_of_lt (by omega), if_pos h1,
      hback]
  by_cases h2 : n < 0x800
  · refine ⟨index + 2, ?_⟩
    rw [if_neg h1, if_pos h2, List.cons_append, List.singleton_append,
      decodeFrom_first (by omega) (by omega) (begin?_of_two (by omega)),
      decodeFrom_last (by constructor <;> simp only <;> omega) (by omega) (by simp only; omega)]
    have hvalue : (0xC0 + n / 0x40 - 0xC0) * 0x40 + (0x80 + n % 0x40 - 0x80) = n := by omega
    simp only [hvalue, hback]
  by_cases h3 : n < 0x10000
  · refine ⟨index + 3, ?_⟩
    rw [if_neg h1, if_neg h2, if_pos h3]
    simp only [List.cons_append, List.nil_append]
    rw [decodeFrom_first (by omega) (by omega) (begin?_of_three (by omega)),
      decodeFrom_more (by constructor <;> simp only <;> split <;> omega) (by omega)
        (by simp only; omega),
      decodeFrom_last (by constructor <;> simp only <;> omega) (by omega) (by simp only; omega)]
    have hvalue : ((0xE0 + n / 0x1000 - 0xE0) * 0x40 + (0x80 + n / 0x40 % 0x40 - 0x80)) * 0x40 +
        (0x80 + n % 0x40 - 0x80) = n := by omega
    simp only [hvalue, hback]
  · refine ⟨index + 4, ?_⟩
    rw [if_neg h1, if_neg h2, if_neg h3]
    simp only [List.cons_append, List.nil_append]
    rw [decodeFrom_first (by omega) (by omega) (begin?_of_four (by omega)),
      decodeFrom_more (by constructor <;> simp only <;> split <;> omega) (by omega)
        (by simp only; omega),
      decodeFrom_more (by constructor <;> simp only <;> omega) (by omega) (by simp only; omega),
      decodeFrom_last (by constructor <;> simp only <;> omega) (by omega) (by simp only; omega)]
    have hvalue : (((0xF0 + n / 0x40000 - 0xF0) * 0x40 + (0x80 + n / 0x1000 % 0x40 - 0x80)) *
        0x40 + (0x80 + n / 0x40 % 0x40 - 0x80)) * 0x40 + (0x80 + n % 0x40 - 0x80) = n := by
      omega
    simp only [hvalue, hback]

lemma decodeFrom_encode (t : Text) (index : Nat) : decodeFrom index none (encode t) = .ok t := by
  induction t generalizing index with
  | nil => rfl
  | cons c cs ih =>
    obtain ⟨next, hnext⟩ := decodeFrom_encodeChar c index (encode cs)
    rw [encode, List.flatMap_cons]
    exact hnext.trans (by rw [ih next]; rfl)

/-- Decoding is left inverse to encoding. -/
lemma decode_encode (t : Text) : decode (encode t) = .ok t :=
  decodeFrom_encode t 0

/-- The first byte of a character tells how many bytes it has. -/
lemma begin?_cases {b : Nat} {p : Begun} (h : begin? b = some p) :
    (0xC2 ≤ b ∧ b ≤ 0xDF ∧ p = ⟨b - 0xC0, 1, 1, 0x80, 0xBF⟩) ∨
      (0xE0 ≤ b ∧ b ≤ 0xEF ∧ p = ⟨b - 0xE0, 1, 2, if b = 0xE0 then 0xA0 else 0x80,
        if b = 0xED then 0x9F else 0xBF⟩) ∨
      (0xF0 ≤ b ∧ b ≤ 0xF4 ∧ p = ⟨b - 0xF0, 1, 3, if b = 0xF0 then 0x90 else 0x80,
        if b = 0xF4 then 0x8F else 0xBF⟩) := by
  by_cases h2 : 0xC2 ≤ b ∧ b ≤ 0xDF
  · rw [begin?_of_two h2] at h
    exact Or.inl ⟨h2.1, h2.2, (Option.some.inj h).symm⟩
  by_cases h3 : 0xE0 ≤ b ∧ b ≤ 0xEF
  · rw [begin?_of_three h3] at h
    exact Or.inr (Or.inl ⟨h3.1, h3.2, (Option.some.inj h).symm⟩)
  by_cases h4 : 0xF0 ≤ b ∧ b ≤ 0xF4
  · rw [begin?_of_four h4] at h
    exact Or.inr (Or.inr ⟨h4.1, h4.2, (Option.some.inj h).symm⟩)
  · rw [begin?, if_neg h2, if_neg (by omega), if_neg (by omega), if_neg (by omega),
      if_neg (by omega), if_neg (by omega), if_neg (by omega)] at h
    cases h

/-- The number of a character is the one that its bytes are made from. -/
lemma encodeChar_ofNat {n : Nat} (h : n < 0xD800 ∨ 0xDFFF < n ∧ n < 0x110000) :
    encodeChar (Char.ofNat n) =
      if n < 0x80 then [.ofNat n]
      else if n < 0x800 then [.ofNat (0xC0 + n / 0x40), .ofNat (0x80 + n % 0x40)]
      else if n < 0x10000 then
        [.ofNat (0xE0 + n / 0x1000), .ofNat (0x80 + n / 0x40 % 0x40), .ofNat (0x80 + n % 0x40)]
      else
        [.ofNat (0xF0 + n / 0x40000), .ofNat (0x80 + n / 0x1000 % 0x40),
          .ofNat (0x80 + n / 0x40 % 0x40), .ofNat (0x80 + n % 0x40)] := by
  have hn : (Char.ofNat n).toNat = n := by
    rw [Char.ofNat, dif_pos h]
    rfl
  rw [encodeChar, hn]

/-- The bytes of a character are the standard ones. -/
lemma encodeChar_eq (c : Char) : encodeChar c = String.utf8EncodeChar c := by
  have hc := char_bounds c
  have hval : c.val.toNat = c.toNat := rfl
  rw [encodeChar, String.utf8EncodeChar, hval]
  generalize c.toNat = n at hc
  by_cases h1 : n < 0x80
  · rw [if_pos h1, if_pos (by omega)]
  by_cases h2 : n < 0x800
  · have hfirst : 0xC0 + n / 0x40 = n / 0x40 % 0x20 + 0xC0 := by omega
    rw [if_neg h1, if_pos h2, if_neg (by omega), if_pos (by omega), hfirst, Nat.add_comm 0x80]
  by_cases h3 : n < 0x10000
  · have hfirst : 0xE0 + n / 0x1000 = n / 0x1000 % 0x10 + 0xE0 := by omega
    rw [if_neg h1, if_neg h2, if_pos h3, if_neg (by omega), if_neg (by omega), if_pos (by omega),
      hfirst, Nat.add_comm 0x80, Nat.add_comm 0x80]
  · have hfirst : 0xF0 + n / 0x40000 = n / 0x40000 % 0x08 + 0xF0 := by omega
    rw [if_neg h1, if_neg h2, if_neg h3, if_neg (by omega), if_neg (by omega), if_neg (by omega),
      hfirst, Nat.add_comm 0x80, Nat.add_comm 0x80, Nat.add_comm 0x80]

lemma toByteArray_encode (t : Text) : (encode t).toByteArray = t.utf8Encode := by
  have h : encodeChar = String.utf8EncodeChar := funext encodeChar_eq
  rw [encode, h, List.utf8Encode]

lemma ofNat_eq_of_eq_toNat {n : Nat} {b : UInt8} (h : n = b.toNat) : UInt8.ofNat n = b := by
  rw [h, UInt8.ofNat_toNat]

lemma exists_of_map_eq_ok {α β : Type} {f : α → β} {x : Except Fault α} {y : β}
    (h : x.map f = .ok y) : ∃ a, x = .ok a ∧ f a = y := by
  cases x with
  | error fault => cases h
  | ok a => exact ⟨a, rfl, Except.ok.inj h⟩

/-- Inside a character a byte follows, in the range for it. -/
lemma exists_of_decodeFrom_begun {index : Nat} {p : Begun} {bytes : Bytes} {t : Text}
    (h : decodeFrom index (some p) bytes = .ok t) :
    ∃ b rest, bytes = b :: rest ∧ p.low ≤ b.toNat ∧ b.toNat ≤ p.high ∧
      (p.owed ≤ 1 → ∃ t' next, t = Char.ofNat (p.value * 0x40 + (b.toNat - 0x80)) :: t' ∧
        decodeFrom next none rest = .ok t') ∧
      (1 < p.owed → decodeFrom index (some ⟨p.value * 0x40 + (b.toNat - 0x80), p.taken + 1,
        p.owed - 1, 0x80, 0xBF⟩) rest = .ok t) := by
  cases bytes with
  | nil => cases h
  | cons b rest =>
    rw [decodeFrom] at h
    split at h
    next hrange =>
      refine ⟨b, rest, rfl, hrange.1, hrange.2, ?_, ?_⟩
      · intro hlast
        dsimp only at h
        rw [if_pos hlast] at h
        obtain ⟨t', ht', rfl⟩ := exists_of_map_eq_ok h
        exact ⟨t', _, rfl, ht'⟩
      · intro hmore
        dsimp only at h
        rw [if_neg (by omega)] at h
        exact h
    next => cases h

/-- Whether a byte carries six bits of a character. -/
def IsTail (b : UInt8) : Prop :=
  0x80 ≤ b.toNat ∧ b.toNat ≤ 0xBF

lemma encodeChar_of_two {b b₁ : UInt8} (hb : 0xC2 ≤ b.toNat ∧ b.toNat ≤ 0xDF) (hb₁ : IsTail b₁) :
    encodeChar (Char.ofNat ((b.toNat - 0xC0) * 0x40 + (b₁.toNat - 0x80))) = [b, b₁] := by
  obtain ⟨hlow₁, hhigh₁⟩ := hb₁
  rw [encodeChar_ofNat (by omega), if_neg (by omega), if_pos (by omega),
    ofNat_eq_of_eq_toNat (b := b) (by omega), ofNat_eq_of_eq_toNat (b := b₁) (by omega)]

/-- The second of three bytes has a range of its own, so that the number needs three bytes and is no
surrogate. -/
lemma encodeChar_of_three {b b₁ b₂ : UInt8} (hb : 0xE0 ≤ b.toNat ∧ b.toNat ≤ 0xEF)
    (hb₁ : IsTail b₁) (hlow : b.toNat = 0xE0 → 0xA0 ≤ b₁.toNat)
    (hhigh : b.toNat = 0xED → b₁.toNat ≤ 0x9F) (hb₂ : IsTail b₂) :
    encodeChar (Char.ofNat (((b.toNat - 0xE0) * 0x40 + (b₁.toNat - 0x80)) * 0x40 +
      (b₂.toNat - 0x80))) = [b, b₁, b₂] := by
  obtain ⟨hlow₁, hhigh₁⟩ := hb₁
  obtain ⟨hlow₂, hhigh₂⟩ := hb₂
  rw [encodeChar_ofNat (by omega), if_neg (by omega), if_neg (by omega), if_pos (by omega),
    ofNat_eq_of_eq_toNat (b := b) (by omega), ofNat_eq_of_eq_toNat (b := b₁) (by omega),
    ofNat_eq_of_eq_toNat (b := b₂) (by omega)]

lemma encodeChar_of_four {b b₁ b₂ b₃ : UInt8} (hb : 0xF0 ≤ b.toNat ∧ b.toNat ≤ 0xF4)
    (hb₁ : IsTail b₁) (hlow : b.toNat = 0xF0 → 0x90 ≤ b₁.toNat)
    (hhigh : b.toNat = 0xF4 → b₁.toNat ≤ 0x8F) (hb₂ : IsTail b₂) (hb₃ : IsTail b₃) :
    encodeChar (Char.ofNat ((((b.toNat - 0xF0) * 0x40 + (b₁.toNat - 0x80)) * 0x40 +
      (b₂.toNat - 0x80)) * 0x40 + (b₃.toNat - 0x80))) = [b, b₁, b₂, b₃] := by
  obtain ⟨hlow₁, hhigh₁⟩ := hb₁
  obtain ⟨hlow₂, hhigh₂⟩ := hb₂
  obtain ⟨hlow₃, hhigh₃⟩ := hb₃
  rw [encodeChar_ofNat (by omega), if_neg (by omega), if_neg (by omega), if_neg (by omega),
    ofNat_eq_of_eq_toNat (b := b) (by omega), ofNat_eq_of_eq_toNat (b := b₁) (by omega),
    ofNat_eq_of_eq_toNat (b := b₂) (by omega), ofNat_eq_of_eq_toNat (b := b₃) (by omega)]

/-- A character that was begun ends with bytes that it is the character of. -/
lemma exists_of_decodeFrom_begin {index : Nat} {b : UInt8} {p : Begun} {bytes : Bytes} {t : Text}
    (hp : begin? b.toNat = some p) (h : decodeFrom index (some p) bytes = .ok t) :
    ∃ c t' rest next, t = c :: t' ∧ b :: bytes = encodeChar c ++ rest ∧
      decodeFrom next none rest = .ok t' := by
  obtain ⟨b₁, bs₁, rfl, hlow₁, hhigh₁, hlast₁, hmore₁⟩ := exists_of_decodeFrom_begun h
  rcases begin?_cases hp with ⟨hlow, hhigh, rfl⟩ | ⟨hlow, hhigh, rfl⟩ | ⟨hlow, hhigh, rfl⟩
  · obtain ⟨t', next, rfl, ht'⟩ := hlast₁ (Nat.le_refl 1)
    refine ⟨_, t', bs₁, next, rfl, ?_, ht'⟩
    rw [encodeChar_of_two ⟨hlow, hhigh⟩ ⟨hlow₁, hhigh₁⟩]
    rfl
  · obtain ⟨b₂, bs₂, rfl, hlow₂, hhigh₂, hlast₂, -⟩ := exists_of_decodeFrom_begun (hmore₁ (by simp))
    obtain ⟨t', next, rfl, ht'⟩ := hlast₂ (Nat.le_refl 1)
    refine ⟨_, t', bs₂, next, rfl, ?_, ht'⟩
    dsimp only at hlow₁ hhigh₁ ⊢
    rw [encodeChar_of_three ⟨hlow, hhigh⟩ ?_ ?_ ?_ ⟨hlow₂, hhigh₂⟩]
    · rfl
    · constructor
      · split at hlow₁ <;> omega
      · split at hhigh₁ <;> omega
    · intro hb
      rwa [if_pos hb] at hlow₁
    · intro hb
      rwa [if_pos hb] at hhigh₁
  · obtain ⟨b₂, bs₂, rfl, hlow₂, hhigh₂, -, hmore₂⟩ := exists_of_decodeFrom_begun (hmore₁ (by simp))
    obtain ⟨b₃, bs₃, rfl, hlow₃, hhigh₃, hlast₃, -⟩ := exists_of_decodeFrom_begun (hmore₂ (by simp))
    obtain ⟨t', next, rfl, ht'⟩ := hlast₃ (Nat.le_refl 1)
    refine ⟨_, t', bs₃, next, rfl, ?_, ht'⟩
    dsimp only at hlow₁ hhigh₁ ⊢
    rw [encodeChar_of_four ⟨hlow, hhigh⟩ ?_ ?_ ?_ ⟨hlow₂, hhigh₂⟩ ⟨hlow₃, hhigh₃⟩]
    · rfl
    · constructor
      · split at hlow₁ <;> omega
      · split at hhigh₁ <;> omega
    · intro hb
      rwa [if_pos hb] at hlow₁
    · intro hb
      rwa [if_pos hb] at hhigh₁

lemma encode_of_decodeFrom {index : Nat} {bytes : Bytes} {t : Text}
    (h : decodeFrom index none bytes = .ok t) : encode t = bytes := by
  induction hk : bytes.length using Nat.strongRecOn generalizing index bytes t with
  | ind k ih =>
    have hstep : (bytes = [] ∧ t = []) ∨ ∃ c t' rest next, t = c :: t' ∧
        bytes = encodeChar c ++ rest ∧ decodeFrom next none rest = .ok t' := by
      cases bytes with
      | nil => exact Or.inl ⟨rfl, (Except.ok.inj h).symm⟩
      | cons b bs =>
        refine Or.inr ?_
        rw [decodeFrom] at h
        split at h
        next hone =>
          obtain ⟨t', ht', rfl⟩ := exists_of_map_eq_ok h
          refine ⟨_, t', bs, _, rfl, ?_, ht'⟩
          rw [encodeChar_ofNat (by omega), if_pos hone, UInt8.ofNat_toNat]
          rfl
        next =>
          split at h
          next p hp => exact exists_of_decodeFrom_begin hp h
          next => cases h
    rcases hstep with ⟨rfl, rfl⟩ | ⟨c, t', rest, next, rfl, rfl, hrest⟩
    · rfl
    · have hpos : 0 < (encodeChar c).length := by
        rw [encodeChar_eq]
        exact List.length_pos_iff.mpr String.utf8EncodeChar_ne_nil
      have hlt : rest.length < k := by
        rw [← hk, List.length_append]
        omega
      rw [encode, List.flatMap_cons]
      exact congrArg _ (ih _ hlt hrest rfl)

/-- Bytes are decoded to the text whose bytes they are. -/
lemma decode_eq_ok_iff {bytes : Bytes} {t : Text} : decode bytes = .ok t ↔ encode t = bytes := by
  constructor
  · exact encode_of_decodeFrom
  · rintro rfl
    exact decode_encode t

/-- The bytes that are decoded are those that are valid. -/
lemma exists_decode_eq_ok_iff {bytes : Bytes} :
    (∃ t, decode bytes = .ok t) ↔ bytes.toByteArray.IsValidUTF8 := by
  constructor
  · rintro ⟨t, ht⟩
    refine .intro t ?_
    rw [← decode_eq_ok_iff.mp ht, toByteArray_encode]
  · rintro ⟨t, ht⟩
    refine ⟨t, decode_eq_ok_iff.mpr ?_⟩
    rw [← toByteArray_encode] at ht
    exact (List.toByteArray_inj.mp ht).symm

end Companion.Utf8
