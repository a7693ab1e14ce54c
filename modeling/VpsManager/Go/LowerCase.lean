import VpsManager.Go.Text

namespace VpsManager.Go

/-- A character that is changed becomes a small letter. -/
theorem lowerChar_cases (c : Char) :
    lowerChar c = c ∨ (isSpace c = false ∧ isLowerASCII (lowerChar c) = true) := by
  by_cases dotted : c.toNat = 0x130
  · right
    have code : c = Char.ofNat 0x130 := by rw [← dotted, Char.ofNat_toNat]
    subst code
    decide
  · by_cases kelvin : c.toNat = 0x212A
    · right
      have code : c = Char.ofNat 0x212A := by rw [← kelvin, Char.ofNat_toNat]
      subst code
      decide
    · have ascii : lowerChar c = c.toLower := by rw [lowerChar, if_neg dotted, if_neg kelvin]
      by_cases small : c.toNat < 128
      · have table : ∀ n < 128, lowerChar (Char.ofNat n) = Char.ofNat n ∨
            (isSpace (Char.ofNat n) = false ∧
              isLowerASCII (lowerChar (Char.ofNat n)) = true) := by decide +kernel
        have here := table c.toNat small
        rwa [Char.ofNat_toNat] at here
      · left
        rw [ascii]
        exact toLower_eq_self (by omega)

theorem lowerChar_of_isLowerASCII {c : Char} (letter : isLowerASCII c = true) :
    lowerChar c = c ∧ isSpace c = false := by
  have table : ∀ n < 128, isLowerASCII (Char.ofNat n) = true →
      lowerChar (Char.ofNat n) = Char.ofNat n ∧ isSpace (Char.ofNat n) = false := by decide +kernel
  have small := (isAlnumASCII_range (show isAlnumASCII c = true by simp [isAlnumASCII, letter])).2
  have here := table c.toNat (by omega)
  rw [Char.ofNat_toNat] at here
  exact here letter

@[simp] theorem lowerChar_lowerChar (c : Char) : lowerChar (lowerChar c) = lowerChar c := by
  rcases lowerChar_cases c with same | ⟨-, letter⟩
  · rw [same, same]
  · exact (lowerChar_of_isLowerASCII letter).1

@[simp] theorem isSpace_lowerChar (c : Char) : isSpace (lowerChar c) = isSpace c := by
  rcases lowerChar_cases c with same | ⟨visible, letter⟩
  · rw [same]
  · rw [visible, (lowerChar_of_isLowerASCII letter).2]

/-- Only a character that is no letter becomes one that is none. -/
theorem lowerChar_eq_iff {mark : Char} (other : isLowerASCII mark = false)
    (own : lowerChar mark = mark) (c : Char) : lowerChar c = mark ↔ c = mark := by
  constructor
  · intro became
    rcases lowerChar_cases c with same | ⟨-, letter⟩
    · rw [← same, became]
    · rw [became, other] at letter
      cases letter
  · rintro rfl
    exact own

@[simp] theorem toLower_toLower (text : String) : toLower (toLower text) = toLower text := by
  have twice : lowerChar ∘ lowerChar = lowerChar := funext lowerChar_lowerChar
  rw [toLower, toLower, String.toList_ofList, List.map_map, twice]

theorem trimSpace_toLower (text : String) :
    trimSpace (toLower text) = toLower (trimSpace text) := by
  have same : isSpace ∘ lowerChar = isSpace := funext isSpace_lowerChar
  simp only [trimSpace, toLower, String.toList_ofList, List.dropWhile_map, same,
    ← List.map_reverse]

/-- A letter without its case, where only letters of ASCII are told apart: the long s
and the Kelvin sign are the two others that fold to one. -/
def foldChar (c : Char) : Char :=
  if c.toNat = 0x17F then 's' else if c.toNat = 0x212A then 'k' else c.toLower

end VpsManager.Go
