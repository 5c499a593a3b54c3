/-! # Letter case

Keywords are compared and function names are written without regard to case, and
only the twenty-six letters of ASCII have a case here.  Other letters stand for
themselves: `ſ` (U+017F) is no `s` and the Kelvin sign is no `k`.
-/
namespace SqlBuilder
namespace Text

/-- Every letter `A` to `Z` replaced by its small form. -/
def lower (cs : List Char) : List Char :=
  cs.map Char.toLower

/-- Every letter `a` to `z` replaced by its capital form. -/
def upper (cs : List Char) : List Char :=
  cs.map Char.toUpper

/-- A character is one of the capitals of ASCII, or it is its own small form. -/
theorem toLower_cases (c : Char) :
    (65 ≤ c.toNat ∧ c.toNat ≤ 90 ∧ c.toLower.toNat = c.toNat + 32) ∨ c.toLower = c := by
  by_cases capital : c.val ≥ 'A'.val ∧ c.val ≤ 'Z'.val
  · left
    have small : c.toLower.val = c.val + ('a'.val - 'A'.val) := by
      rw [show c.toLower = _ from dif_pos capital]
    have value := congrArg UInt32.toNat small
    obtain ⟨least, greatest⟩ := capital
    rw [ge_iff_le, UInt32.le_iff_toNat_le] at least
    rw [UInt32.le_iff_toNat_le] at greatest
    rw [UInt32.toNat_add] at value
    simp only [Char.toNat_val, Char.reduceVal, UInt32.reduceSub, UInt32.reduceToNat,
      Nat.reducePow] at value least greatest
    omega
  · exact .inr (dif_neg capital)

@[simp] theorem length_lower (cs : List Char) : (lower cs).length = cs.length := by
  simp [lower]

@[simp] theorem lower_nil : lower [] = [] := rfl

theorem lower_cons (c : Char) (cs : List Char) : lower (c :: cs) = c.toLower :: lower cs := rfl

@[simp] theorem lower_append (cs ds : List Char) : lower (cs ++ ds) = lower cs ++ lower ds := by
  simp [lower]

end Text
end SqlBuilder
