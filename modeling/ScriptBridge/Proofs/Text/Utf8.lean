/-
  ScriptBridge/Proofs/Text/Utf8.lean
  ==================================
  **A text is what its octets decode to.**

  The octets of a character are its bits in groups of six, with the length of the
  sequence in the first octet.  Reading them one by one puts the groups together
  again.  The bounds that the decoder puts on the second octet leave out the
  overlong sequences, the surrogates and what lies beyond Unicode, and no
  character needs one of these.
-/
import ScriptBridge.Text.Utf8
import Mathlib.Data.List.Basic

namespace ScriptBridge.Utf8

theorem toNat_ofNat_of_lt {n : Nat} (h : n < 256) : (UInt8.ofNat n).toNat = n := by
  simp [UInt8.toNat_ofNat', Nat.mod_eq_of_lt h]

/-! ### One octet -/

/-- A further octet adds its six bits. -/
theorem next_more (u : Unfinished) (bits : Nat) (howed : 1 < u.owed) (hbits : bits < 64)
    (hlow : u.low ≤ bits + 128) (hhigh : bits + 128 ≤ u.high) :
    next u (UInt8.ofNat (bits + 128)) =
      .more ⟨u.code * 64 + bits, u.owed - 1, 0x80, 0xBF, u.seen + 1⟩ := by
  have hoctet : (UInt8.ofNat (bits + 128)).toNat = bits + 128 := toNat_ofNat_of_lt (by omega)
  simp only [next, hoctet, hlow, hhigh, and_self, if_true, Nat.add_sub_cancel]
  exact if_neg (by omega)

/-- The last octet ends the character. -/
theorem next_last (code seen bits : Nat) (hbits : bits < 64) :
    next ⟨code, 1, 0x80, 0xBF, seen⟩ (UInt8.ofNat (bits + 128)) = .char (Char.ofNat (code * 64 + bits)) := by
  have hoctet : (UInt8.ofNat (bits + 128)).toNat = bits + 128 := toNat_ofNat_of_lt (by omega)
  have hwithin : 0x80 ≤ bits + 128 ∧ bits + 128 ≤ 0xBF := by omega
  simp only [next, hoctet, hwithin, and_self, if_true, Nat.add_sub_cancel, Nat.le_refl]

theorem first_of_two (bits : Nat) (hlow : 2 ≤ bits) (hhigh : bits < 32) :
    first (UInt8.ofNat (bits + 192)) = .more ⟨bits, 1, 0x80, 0xBF, 1⟩ := by
  have hoctet : (UInt8.ofNat (bits + 192)).toNat = bits + 192 := toNat_ofNat_of_lt (by omega)
  simp only [first, hoctet]
  rw [if_neg (by omega), if_neg (by omega), if_pos (by omega), Nat.add_sub_cancel]

theorem first_of_three (bits : Nat) (hhigh : bits < 16) :
    first (UInt8.ofNat (bits + 224)) =
      .more ⟨bits, 2, if bits = 0 then 0xA0 else 0x80, if bits = 13 then 0x9F else 0xBF, 1⟩ := by
  have hoctet : (UInt8.ofNat (bits + 224)).toNat = bits + 224 := toNat_ofNat_of_lt (by omega)
  have hzero : bits + 224 = 0xE0 ↔ bits = 0 := by omega
  have hthirteen : bits + 224 = 0xED ↔ bits = 13 := by omega
  simp only [first, hoctet]
  rw [if_neg (by omega), if_neg (by omega), if_neg (by omega), if_pos (by omega), Nat.add_sub_cancel]
  simp only [hzero, hthirteen]

theorem first_of_four (bits : Nat) (hhigh : bits < 5) :
    first (UInt8.ofNat (bits + 240)) =
      .more ⟨bits, 3, if bits = 0 then 0x90 else 0x80, if bits = 4 then 0x8F else 0xBF, 1⟩ := by
  have hoctet : (UInt8.ofNat (bits + 240)).toNat = bits + 240 := toNat_ofNat_of_lt (by omega)
  have hzero : bits + 240 = 0xF0 ↔ bits = 0 := by omega
  have hfour : bits + 240 = 0xF4 ↔ bits = 4 := by omega
  simp only [first, hoctet]
  rw [if_neg (by omega), if_neg (by omega), if_neg (by omega), if_neg (by omega), if_pos (by omega),
    Nat.add_sub_cancel]
  simp only [hzero, hfour]

/-! ### One character -/

theorem decodeFrom_one {v : Nat} (h : v ≤ 127) (rest : List UInt8) :
    decodeFrom none (UInt8.ofNat v :: rest) = prepend (Char.ofNat v) (decodeFrom none rest) := by
  have hoctet : (UInt8.ofNat v).toNat = v := toNat_ofNat_of_lt (by omega)
  simp only [decodeFrom, first, hoctet, h, if_true]

theorem decodeFrom_two {v : Nat} (hlow : 127 < v) (hhigh : v ≤ 2047) (rest : List UInt8) :
    decodeFrom none (UInt8.ofNat (v / 64 % 32 + 192) :: UInt8.ofNat (v % 64 + 128) :: rest) =
      prepend (Char.ofNat v) (decodeFrom none rest) := by
  have hfirst := first_of_two (v / 64 % 32) (by omega) (by omega)
  have hlast := next_last (v / 64 % 32) 1 (v % 64) (by omega)
  have hcode : v / 64 % 32 * 64 + v % 64 = v := by omega
  rw [hcode] at hlast
  simp only [decodeFrom, hfirst, hlast]

theorem decodeFrom_three {v : Nat} (hlow : 2047 < v) (hhigh : v ≤ 65535)
    (hvalid : v < 0xD800 ∨ 0xDFFF < v) (rest : List UInt8) :
    decodeFrom none (UInt8.ofNat (v / 4096 % 16 + 224) :: UInt8.ofNat (v / 64 % 64 + 128) ::
      UInt8.ofNat (v % 64 + 128) :: rest) = prepend (Char.ofNat v) (decodeFrom none rest) := by
  have hfirst := first_of_three (v / 4096 % 16) (by omega)
  have hsecond := next_more
    ⟨v / 4096 % 16, 2, if v / 4096 % 16 = 0 then 0xA0 else 0x80,
      if v / 4096 % 16 = 13 then 0x9F else 0xBF, 1⟩
    (v / 64 % 64) (by simp) (by omega) (by simp only; split <;> omega) (by simp only; split <;> omega)
  have hlast := next_last (v / 4096 % 16 * 64 + v / 64 % 64) 2 (v % 64) (by omega)
  have hcode : (v / 4096 % 16 * 64 + v / 64 % 64) * 64 + v % 64 = v := by omega
  rw [hcode] at hlast
  simp only [decodeFrom, hfirst, hsecond, hlast]

theorem decodeFrom_four {v : Nat} (hlow : 65535 < v) (hhigh : v < 0x110000) (rest : List UInt8) :
    decodeFrom none (UInt8.ofNat (v / 262144 % 8 + 240) :: UInt8.ofNat (v / 4096 % 64 + 128) ::
      UInt8.ofNat (v / 64 % 64 + 128) :: UInt8.ofNat (v % 64 + 128) :: rest) =
      prepend (Char.ofNat v) (decodeFrom none rest) := by
  have hfirst := first_of_four (v / 262144 % 8) (by omega)
  have hsecond := next_more
    ⟨v / 262144 % 8, 3, if v / 262144 % 8 = 0 then 0x90 else 0x80,
      if v / 262144 % 8 = 4 then 0x8F else 0xBF, 1⟩
    (v / 4096 % 64) (by simp) (by omega) (by simp only; split <;> omega) (by simp only; split <;> omega)
  have hthird := next_more ⟨v / 262144 % 8 * 64 + v / 4096 % 64, 2, 0x80, 0xBF, 2⟩ (v / 64 % 64)
    (by simp) (by omega) (by simp only; omega) (by simp only; omega)
  have hlast := next_last ((v / 262144 % 8 * 64 + v / 4096 % 64) * 64 + v / 64 % 64) 3 (v % 64) (by omega)
  have hcode : ((v / 262144 % 8 * 64 + v / 4096 % 64) * 64 + v / 64 % 64) * 64 + v % 64 = v := by omega
  rw [hcode] at hlast
  simp only [decodeFrom, hfirst, hsecond, hthird, hlast]

theorem utf8EncodeChar_eq (c : Char) : String.utf8EncodeChar c =
    if c.toNat ≤ 127 then [UInt8.ofNat c.toNat]
    else if c.toNat ≤ 2047 then
      [UInt8.ofNat (c.toNat / 64 % 32 + 192), UInt8.ofNat (c.toNat % 64 + 128)]
    else if c.toNat ≤ 65535 then
      [UInt8.ofNat (c.toNat / 4096 % 16 + 224), UInt8.ofNat (c.toNat / 64 % 64 + 128),
        UInt8.ofNat (c.toNat % 64 + 128)]
    else
      [UInt8.ofNat (c.toNat / 262144 % 8 + 240), UInt8.ofNat (c.toNat / 4096 % 64 + 128),
        UInt8.ofNat (c.toNat / 64 % 64 + 128), UInt8.ofNat (c.toNat % 64 + 128)] := rfl

theorem decodeFrom_utf8EncodeChar (c : Char) (rest : List UInt8) :
    decodeFrom none (String.utf8EncodeChar c ++ rest) = prepend c (decodeFrom none rest) := by
  have hvalid : c.toNat < 0xD800 ∨ (0xDFFF < c.toNat ∧ c.toNat < 0x110000) := c.valid
  rw [utf8EncodeChar_eq]
  -- The right side speaks of the character by its code point, as the four lemmas do.
  conv_rhs => rw [← Char.ofNat_toNat c]
  by_cases hone : c.toNat ≤ 127
  · rw [if_pos hone]
    exact decodeFrom_one hone rest
  · by_cases htwo : c.toNat ≤ 2047
    · rw [if_neg hone, if_pos htwo]
      exact decodeFrom_two (by omega) htwo rest
    · by_cases hthree : c.toNat ≤ 65535
      · rw [if_neg hone, if_neg htwo, if_pos hthree]
        exact decodeFrom_three (by omega) hthree (by omega) rest
      · rw [if_neg hone, if_neg htwo, if_neg hthree]
        exact decodeFrom_four (by omega) (by omega) rest

/-! ### A text -/

theorem decode_encode (cs : List Char) : decode (encode cs) = .ok cs := by
  unfold decode encode
  induction cs with
  | nil => rfl
  | cons c cs ih =>
    rw [List.flatMap_cons, decodeFrom_utf8EncodeChar, ih]
    rfl

theorem decode_octets (s : String) : decode (octets s) = .ok s.toList := decode_encode s.toList

/-- Only the empty text has no octets. -/
theorem octets_eq_nil_iff (s : String) : octets s = [] ↔ s = "" := by
  constructor
  · intro h
    have hchars := decode_octets s
    rw [h] at hchars
    simpa using (Except.ok.inj hchars).symm
  · rintro rfl
    rfl

end ScriptBridge.Utf8
