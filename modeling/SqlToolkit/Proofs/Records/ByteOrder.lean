import Mathlib.Data.String.Basic
/-!
The order of texts. Comparing the characters of two texts one by one gives the same as comparing
their bytes in UTF-8.
-/

namespace SqlToolkit

namespace Text

/-- The bytes of a text in UTF-8. -/
def bytes (text : String) : List UInt8 :=
  text.toByteArray.data.toList

theorem bytes_eq (text : String) : bytes text = text.toList.flatMap String.utf8EncodeChar := by
  rw [bytes, ← text.ofList_toList, String.toByteArray_ofList, List.utf8Encode,
    List.toList_data_toByteArray, String.toList_ofList]

theorem ofNat_lt_iff {low high : Nat} (small : low < 256) (large : high < 256) :
    UInt8.ofNat low < UInt8.ofNat high ↔ low < high := by
  rw [UInt8.lt_iff_toNat_lt, UInt8.toNat_ofNat', UInt8.toNat_ofNat']
  omega

theorem ofNat_eq_iff {low high : Nat} (small : low < 256) (large : high < 256) :
    UInt8.ofNat low = UInt8.ofNat high ↔ low = high := by
  rw [← UInt8.toNat_inj, UInt8.toNat_ofNat', UInt8.toNat_ofNat']
  omega

theorem toNat_val_lt (c : Char) : c.val.toNat < 0x110000 := by
  rcases c.valid with small | ⟨-, large⟩
  · exact Nat.lt_trans small (by decide)
  · exact large

/-- The bytes of the smaller of two characters come first, whatever stands behind them. -/
theorem utf8EncodeChar_lt {small large : Char} (less : small < large) (behind others : List UInt8) :
    String.utf8EncodeChar small ++ behind < String.utf8EncodeChar large ++ others := by
  have below : small.val.toNat < large.val.toNat := less
  have limit := toNat_val_lt large
  unfold String.utf8EncodeChar
  generalize small.val.toNat = low at below
  generalize large.val.toNat = high at below limit
  dsimp only
  have digits (n : Nat) (bounded : n < 0x110000) : n / 64 / 64 = n / 4096 ∧
      n / 4096 / 64 = n / 262144 ∧ n / 262144 % 8 = n / 262144 := by
    omega
  have lowDigits := digits low (by omega)
  have highDigits := digits high limit
  -- The first byte tells how many there are; of equally many the first different one decides.
  split_ifs <;>
    simp (disch := omega) only [List.cons_append, List.nil_append, List.cons_lt_cons_iff,
      ofNat_lt_iff, ofNat_eq_iff] <;>
    omega

theorem flatMap_lt {left right : List Char} (less : left < right) :
    left.flatMap String.utf8EncodeChar < right.flatMap String.utf8EncodeChar := by
  induction left generalizing right with
  | nil =>
      cases right with
      | nil => exact absurd less (List.lt_irrefl _)
      | cons large others =>
          obtain ⟨first, rest, encoded⟩ :=
            List.exists_cons_of_ne_nil (@String.utf8EncodeChar_ne_nil large)
          rw [List.flatMap_nil, List.flatMap_cons, encoded]
          exact List.nil_lt_cons _ _
  | cons small behind ih =>
      cases right with
      | nil => exact absurd less (List.not_lt_nil _)
      | cons large others =>
          rw [List.flatMap_cons, List.flatMap_cons]
          rcases List.cons_lt_cons_iff.mp less with first | ⟨rfl, rest⟩
          · exact utf8EncodeChar_lt first _ _
          · exact List.append_left_lt (ih rest)

/-- Texts are ordered as their bytes are. -/
theorem bytes_lt_iff {left right : String} : bytes left < bytes right ↔ left < right := by
  have strict {one other : String} (less : one < other) : bytes one < bytes other := by
    rw [bytes_eq, bytes_eq]
    exact flatMap_lt (String.lt_iff_toList_lt.mp less)
  constructor
  · intro less
    rcases lt_trichotomy left right with before | rfl | after
    · exact before
    · exact absurd less (List.lt_irrefl _)
    · exact absurd (strict after) (List.lt_asymm less)
  · exact strict

end Text

end SqlToolkit
