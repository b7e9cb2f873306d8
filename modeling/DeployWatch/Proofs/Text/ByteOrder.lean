import DeployWatch.Proofs.Text.Utf8

/-!
# The order of texts is that of their bytes

Texts are compared code point by code point. Their UTF-8 is compared byte by byte, and the outcome is the
same: the encoding of a smaller character is smaller, wherever the bytes go on from there.

* `ofNat_cons_lt`: comparing byte sequences by the numbers of their first bytes;
* `utf8EncodeChar_lt`: the encodings of two characters;
* **`encodeUtf8_lt_iff`**, `encodeUtf8_le_iff`: texts and their bytes.
-/

namespace DeployWatch.Text

theorem ofNat_cons_lt {m n : Nat} (hm : m < 256) (hn : n < 256) {xs ys : List UInt8} :
    UInt8.ofNat m :: xs < UInt8.ofNat n :: ys ↔ m < n ∨ m = n ∧ xs < ys := by
  rw [List.cons_lt_cons_iff, UInt8.lt_iff_toNat_lt, ← UInt8.toNat_inj, toNat_ofNat hm, toNat_ofNat hn]

theorem toNat_lt (c : Char) : c.val.toNat < 0x110000 := by
  have hvalid : c.val.toNat < 0xD800 ∨ 0xDFFF < c.val.toNat ∧ c.val.toNat < 0x110000 := c.valid
  omega

/-- A character with a smaller code point has the smaller encoding, whatever follows. -/
theorem utf8EncodeChar_lt {c d : Char} (h : c < d) (xs ys : List UInt8) :
    String.utf8EncodeChar c ++ xs < String.utf8EncodeChar d ++ ys := by
  have hlt : c.val.toNat < d.val.toNat := h
  have hc := toNat_lt c
  have hd := toNat_lt d
  unfold String.utf8EncodeChar
  generalize c.val.toNat = v at hlt hc
  generalize d.val.toNat = w at hlt hd
  dsimp only
  have hdigits : ∀ n < 0x110000, n / 262144 % 8 = n / 262144 ∧
      64 * (n / 262144) + n / 4096 % 64 = n / 4096 ∧ 64 * (n / 4096) + n / 64 % 64 = n / 64 :=
    fun n hn => by omega
  have hv := hdigits v hc
  have hw := hdigits w hd
  -- A longer sequence has the greater lead byte; in two of one length the first difference decides.
  repeat' split
  all_goals
    simp (disch := omega) only [List.cons_append, List.nil_append, ofNat_cons_lt]
    omega

theorem flatMap_utf8EncodeChar_lt {cs ds : List Char} (h : cs < ds) :
    cs.flatMap String.utf8EncodeChar < ds.flatMap String.utf8EncodeChar := by
  induction h with
  | @nil d ds =>
    obtain ⟨b, bs, hbytes, -⟩ := utf8Head_encode d []
    rw [List.flatMap_nil, List.flatMap_cons, hbytes]
    exact List.nil_lt_cons _ _
  | rel hlt => exact utf8EncodeChar_lt hlt _ _
  | cons _ ih => exact List.append_left_lt ih

theorem encodeUtf8_lt {s t : String} (h : s < t) : encodeUtf8 s < encodeUtf8 t := by
  rw [encodeUtf8_eq, encodeUtf8_eq]
  exact flatMap_utf8EncodeChar_lt h

/-- **The order of texts is the order of their bytes.** -/
theorem encodeUtf8_lt_iff {s t : String} : encodeUtf8 s < encodeUtf8 t ↔ s < t := by
  refine ⟨fun h => Decidable.byContradiction fun hnot => ?_, encodeUtf8_lt⟩
  by_cases hgt : t < s
  · exact List.lt_asymm h (encodeUtf8_lt hgt)
  · obtain rfl := String.le_antisymm (String.not_lt.mp hgt) (String.not_lt.mp hnot)
    exact List.lt_irrefl _ h

theorem encodeUtf8_le_iff {s t : String} : encodeUtf8 s ≤ encodeUtf8 t ↔ s ≤ t := by
  rw [← String.not_lt, ← encodeUtf8_lt_iff]
  exact List.not_lt.symm

end DeployWatch.Text
