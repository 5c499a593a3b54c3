/-! # The order of texts

Texts are put in the order of their code points: at the first place where two texts
differ the smaller code point comes first, and a text comes before its continuations.
The bytes of the texts in UTF-8 have the same order.  `inOrder_total` and `inOrder_trans`
are what sorting asks of an order; by `inOrder_antisymm` sorted texts can stand in one way only.
-/
namespace SqlBuilder
namespace Text

/-- Whether the first text does not come after the second. -/
def inOrder : List Char → List Char → Bool
  | [], _ => true
  | _ :: _, [] => false
  | c :: cs, d :: ds => if c = d then inOrder cs ds else c.toNat < d.toNat

theorem inOrder_total (cs ds : List Char) : (inOrder cs ds || inOrder ds cs) = true := by
  induction cs generalizing ds with
  | nil => rfl
  | cons c cs ih =>
    cases ds with
    | nil => rfl
    | cons d ds =>
      by_cases same : c = d
      · subst same
        simpa [inOrder] using ih ds
      · have other : d ≠ c := fun h => same h.symm
        have differ : c.toNat ≠ d.toNat := fun h => same (Char.toNat_inj.mp h)
        simp only [inOrder, if_neg same, if_neg other, Bool.or_eq_true, decide_eq_true_eq]
        exact Nat.lt_or_gt_of_ne differ

theorem inOrder_antisymm {cs ds : List Char} (first : inOrder cs ds = true)
    (second : inOrder ds cs = true) : cs = ds := by
  induction cs generalizing ds with
  | nil =>
    cases ds with
    | nil => rfl
    | cons d ds => cases second
  | cons c cs ih =>
    cases ds with
    | nil => cases first
    | cons d ds =>
      simp only [inOrder] at first second
      by_cases same : c = d
      · subst same
        rw [if_pos rfl] at first second
        rw [ih first second]
      · rw [if_neg same, decide_eq_true_eq] at first
        rw [if_neg (Ne.symm same), decide_eq_true_eq] at second
        omega

theorem inOrder_trans {cs ds es : List Char} (first : inOrder cs ds = true)
    (second : inOrder ds es = true) : inOrder cs es = true := by
  induction cs generalizing ds es with
  | nil => rfl
  | cons c cs ih =>
    obtain _ | ⟨d, ds⟩ := ds
    · cases first
    obtain _ | ⟨e, es⟩ := es
    · cases second
    simp only [inOrder] at first second ⊢
    by_cases same : c = d
    · subst same
      rw [if_pos rfl] at first
      by_cases still : c = e
      · rw [if_pos still] at second ⊢
        exact ih first second
      · rw [if_neg still] at second ⊢
        exact second
    · rw [if_neg same, decide_eq_true_eq] at first
      have smaller : c.toNat < e.toNat := by
        by_cases still : d = e
        · exact still ▸ first
        · rw [if_neg still, decide_eq_true_eq] at second
          omega
      have other : c ≠ e := fun h => Nat.lt_irrefl _ (h ▸ smaller)
      rw [if_neg other]
      exact decide_eq_true smaller

end Text
end SqlBuilder
