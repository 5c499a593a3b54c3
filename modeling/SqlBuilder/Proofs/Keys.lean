import SqlBuilder.Proofs.Numerals
import SqlBuilder.Proofs.Saturation
import SqlBuilder.Result.Key

/-! # Keys of texts and of whole numbers

A result that is keyed keeps one row for each key, so that two values with one key cost a row.

The key of a text loses nothing: it shows the text again, and it is an integer for the canonical
decimal forms of the integers of 64 bits and for no other text (`Key.ofText_lossless`).

A whole number may be reported as a number of a document, as a text of a document or as a text
(`WholeForm`).  What fits in 64 bits with a sign has one and the same key in every form.  What is
larger has the key of its text where it is a text, but as a number it has the largest integer as
its key, like every other number of that size (`Key.whole_numbers`).
-/
namespace SqlBuilder

theorem Value.int64?_toInt (n : Int64) : Value.int64? n.toInt = some n := by
  have lower : -9223372036854775808 ≤ n.toInt := n.le_toInt
  have upper : n.toInt < 9223372036854775808 := n.toInt_lt
  rw [Value.int64?, if_pos ⟨lower, upper⟩, Int64.ofInt_toInt]

namespace Key

/-! ### Texts -/

/-- A text has an integer as its key exactly if the integer is shown as the text. -/
theorem ofText_eq_int_iff (s : String) (n : Int64) :
    ofText s = .int n ↔ s.toList = Text.showInt n.toInt := by
  constructor
  · intro key
    rw [ofText] at key
    split at key
    · split at key
      · next shown =>
        cases key
        exact shown.symm
      · cases key
    · cases key
  · intro shown
    have read : (Text.readInt? s.toList).bind Value.int64? = some n := by
      rw [shown, Text.readInt?_showInt, Option.bind_some, Value.int64?_toInt]
    rw [ofText, read]
    exact if_pos shown.symm

/-- Every other text is its own key. -/
theorem ofText_cases (s : String) : (∃ n : Int64, ofText s = .int n) ∨ ofText s = .text s := by
  rw [ofText]
  split
  · next n _ =>
    split
    · exact .inl ⟨n, rfl⟩
    · exact .inr rfl
  · exact .inr rfl

theorem display_ofText (s : String) : (ofText s).display = s := by
  rcases ofText_cases s with ⟨n, key⟩ | key
  · have shown := (ofText_eq_int_iff s n).mp key
    rw [key, display, ← shown, String.ofList_toList]
  · rw [key, display]

theorem ofText_showInt (n : Int64) : ofText (String.ofList (Text.showInt n.toInt)) = .int n :=
  (ofText_eq_int_iff _ n).mpr (String.toList_ofList)

/-- **The key of a text loses nothing.**  It shows the text again, so that different texts have
different keys.  It is an integer exactly for the canonical decimal form of that integer, and the
text itself exactly for a text that is the canonical form of no integer of 64 bits. -/
theorem ofText_lossless :
    (∀ s, (ofText s).display = s) ∧
    (∀ s t, ofText s = ofText t ↔ s = t) ∧
    (∀ s (n : Int64), ofText s = .int n ↔ Text.IsCanonical n.toInt s.toList) ∧
    (∀ s, ofText s = .text s ↔ ¬ ∃ n : Int64, Text.IsCanonical n.toInt s.toList) ∧
    ∀ n : Int64, ofText (String.ofList (Text.showInt n.toInt)) = .int n := by
  have canonical : ∀ s (n : Int64), ofText s = .int n ↔ Text.IsCanonical n.toInt s.toList := by
    intro s n
    rw [ofText_eq_int_iff, Text.isCanonical_iff]
  refine ⟨display_ofText, fun s t => ⟨fun same => ?_, congrArg ofText⟩, canonical, fun s => ?_,
    ofText_showInt⟩
  · have shown := congrArg display same
    rwa [display_ofText, display_ofText] at shown
  · constructor
    · rintro text ⟨n, form⟩
      rw [(canonical s n).mpr form] at text
      cases text
    · intro other
      rcases ofText_cases s with ⟨n, key⟩ | key
      · exact absurd ⟨n, (canonical s n).mp key⟩ other
      · exact key

end Key

/-! ### Whole numbers -/

/-- The forms in which a whole number is reported that may be too large for 64 bits with a sign. -/
inductive WholeForm where
  /-- A number of a document. -/
  | number
  /-- A text of a document. -/
  | string
  | text
  deriving DecidableEq

/-- The decimal form of a whole number. -/
def WideInt.shown (n : WideInt) : String :=
  String.ofList (Text.showInt n.val)

/-- The value by which a whole number is reported. -/
def WholeForm.report (n : WideInt) : WholeForm → Value
  | .number => .json (.number (.integer n))
  | .string => .json (.string n.shown)
  | .text => .text n.shown

namespace Key

variable {n m : WideInt} {form other : WholeForm}

/-- The key of a whole number from its size and its form alone. -/
def ofWhole (n : WideInt) (form : WholeForm) : Key :=
  if n.val < 9223372036854775808 then .int (Int64.ofInt n.val)
  else if form = .number then .int Int64.maxValue
  else .text n.shown

/-- The integer of 64 bits that a whole number is, when it fits. -/
theorem toInt_ofInt_whole (fits : n.val < 9223372036854775808) :
    (Int64.ofInt n.val).toInt = n.val :=
  Int64.toInt_ofInt_of_le n.lower fits

theorem ofText_shown (form : WholeForm) (written : form ≠ .number) :
    ofText n.shown = ofWhole n form := by
  rw [ofWhole]
  by_cases fits : n.val < 9223372036854775808
  · have shown : n.shown = String.ofList (Text.showInt (Int64.ofInt n.val).toInt) := by
      rw [toInt_ofInt_whole fits, WideInt.shown]
    rw [if_pos fits, shown, ofText_showInt]
  · rw [if_neg fits, if_neg written]
    rcases ofText_cases n.shown with ⟨k, key⟩ | key
    · -- an integer of 64 bits is not shown as a larger number
      have shown := (ofText_eq_int_iff _ k).mp key
      rw [WideInt.shown, String.toList_ofList] at shown
      have same : n.val = k.toInt := Text.showInt_inj shown
      have small : k.toInt < 9223372036854775808 := k.toInt_lt
      omega
    · exact key

/-- A whole number has the key of its size and form. -/
theorem ofValue_report (n : WideInt) (form : WholeForm) :
    ofValue (form.report n) = .ok (ofWhole n form) := by
  cases form with
  | number =>
    have clamped : ofValue (WholeForm.number.report n) = .ok (.int (Int64.ofIntClamp n.val)) :=
      congrArg (fun k => Except.ok (Key.int k)) (JsonNumber.truncate_integer n)
    rw [clamped, ofWhole]
    by_cases fits : n.val < 9223372036854775808
    · rw [if_pos fits, ofIntClamp_of_fits n.lower fits]
    · rw [if_neg fits, if_pos rfl, ofIntClamp_of_large (by omega)]
  | string => exact congrArg Except.ok (ofText_shown .string (by decide))
  | text => exact congrArg Except.ok (ofText_shown .text (by decide))

/-- A whole number has the largest integer as its key. -/
def IsLargest (n : WideInt) (form : WholeForm) : Prop :=
  9223372036854775807 ≤ n.val ∧ (form = .number ∨ n.val = 9223372036854775807)

/-- Only what is the largest integer, or a number beyond it, has the largest integer as its key. -/
theorem ofWhole_eq_largest_iff : ofWhole n form = .int Int64.maxValue ↔ IsLargest n form := by
  rw [ofWhole, IsLargest]
  by_cases fits : n.val < 9223372036854775808
  · rw [if_pos fits]
    constructor
    · intro key
      have same : Int64.ofInt n.val = Int64.maxValue := Key.int.inj key
      have value := congrArg Int64.toInt same
      rw [toInt_ofInt_whole fits, int64_bounds.2] at value
      exact ⟨by omega, .inr value⟩
    · rintro ⟨large, -⟩
      have value : n.val = 9223372036854775807 := by omega
      rw [value]
      rfl
  · rw [if_neg fits]
    by_cases number : form = .number
    · rw [if_pos number]
      exact ⟨fun _ => ⟨by omega, .inl number⟩, fun _ => rfl⟩
    · rw [if_neg number]
      constructor
      · intro key
        cases key
      · rintro ⟨-, number' | value⟩
        · exact absurd number' number
        · omega

/-- A key shows the number it was made of, unless that is a number of a document beyond 64 bits. -/
theorem display_ofWhole (exact : n.val < 9223372036854775808 ∨ form ≠ .number) :
    (ofWhole n form).display = n.shown := by
  rw [ofWhole]
  by_cases fits : n.val < 9223372036854775808
  · rw [if_pos fits, display, toInt_ofInt_whole fits, WideInt.shown]
  · rw [if_neg fits, if_neg (exact.resolve_left fits), display]

/-- A key other than the largest integer shows the number it was made of. -/
theorem display_ofWhole_of_ne (smaller : ofWhole n form ≠ .int Int64.maxValue) :
    (ofWhole n form).display = n.shown := by
  apply display_ofWhole
  by_cases fits : n.val < 9223372036854775808
  · exact .inl fits
  · refine .inr fun number => smaller ?_
    rw [ofWhole, if_neg fits, if_pos number]

/-- Apart from the largest integer, different whole numbers have different keys. -/
theorem ofWhole_inj (same : ofWhole n form = ofWhole m other)
    (smaller : ofWhole n form ≠ .int Int64.maxValue) : n = m := by
  have shown : n.shown = m.shown := by
    rw [← display_ofWhole_of_ne smaller, same, display_ofWhole_of_ne (same ▸ smaller)]
  have digits := congrArg String.toList shown
  rw [WideInt.shown, WideInt.shown, String.toList_ofList, String.toList_ofList] at digits
  have value : n.val = m.val := Text.showInt_inj digits
  cases n
  cases m
  cases value
  rfl

/-- Different whole numbers have one key exactly if that is the largest integer for both. -/
theorem ofWhole_eq_iff (different : n ≠ m) :
    ofWhole n form = ofWhole m other ↔ IsLargest n form ∧ IsLargest m other := by
  rw [← ofWhole_eq_largest_iff, ← ofWhole_eq_largest_iff]
  constructor
  · intro same
    by_cases largest : ofWhole n form = .int Int64.maxValue
    · exact ⟨largest, same ▸ largest⟩
    · exact absurd (ofWhole_inj same largest) different
  · rintro ⟨first, second⟩
    rw [first, second]

/-- In two forms a whole number has one key exactly if it fits or the forms are alike. -/
theorem ofWhole_form_iff :
    ofWhole n form = ofWhole n other ↔
      n.val < 9223372036854775808 ∨ (form = .number ↔ other = .number) := by
  rw [ofWhole, ofWhole]
  by_cases fits : n.val < 9223372036854775808
  · rw [if_pos fits, if_pos fits]
    exact ⟨fun _ => .inl fits, fun _ => rfl⟩
  · rw [if_neg fits, if_neg fits]
    by_cases first : form = .number <;> by_cases second : other = .number <;>
      simp [first, second, fits]

theorem ofWhole_of_toInt {k : Int64} (whole : k.toInt = n.val) : ofWhole n form = .int k := by
  have fits : k.toInt < 9223372036854775808 := k.toInt_lt
  rw [ofWhole, ← whole, if_pos fits, Int64.ofInt_toInt]

/-- **The key of a whole number.**  What fits in 64 bits has the key of that integer, as a number
or a text of a document and as a text, and what fits in 32 bits the key of the integer of 32 bits.
A larger number has its digits as its key where it is a text, and the largest integer where it is a
number.  So two forms agree exactly on what fits or if they are alike, and a different number has
the same key exactly if each of the two is the largest integer, or beyond it and no text. -/
theorem whole_numbers (n : WideInt) (form : WholeForm) :
    (∀ k : Int64, k.toInt = n.val →
      ofValue (form.report n) = .ok (.int k) ∧ ofValue (.int64 k) = .ok (.int k)) ∧
    (∀ k : Int32, k.toInt = n.val → ofValue (form.report n) = ofValue (.int32 k)) ∧
    (9223372036854775808 ≤ n.val → ofValue (form.report n)
      = .ok (if form = .number then .int Int64.maxValue else .text n.shown)) ∧
    (∀ other : WholeForm, ofValue (form.report n) = ofValue (other.report n) ↔
      n.val < 9223372036854775808 ∨ (form = .number ↔ other = .number)) ∧
    ∀ (m : WideInt) (other : WholeForm), n ≠ m →
      (ofValue (form.report n) = ofValue (other.report m) ↔
        IsLargest n form ∧ IsLargest m other) := by
  have key : ∀ {m : WideInt} {other : WholeForm},
      ofValue (form.report n) = ofValue (other.report m) ↔ ofWhole n form = ofWhole m other := by
    intro m other
    rw [ofValue_report, ofValue_report]
    exact ⟨Except.ok.inj, congrArg Except.ok⟩
  refine ⟨fun k whole => ⟨?_, rfl⟩, fun k whole => ?_, fun large => ?_, fun other => ?_,
    fun m other different => ?_⟩
  · rw [ofValue_report, ofWhole_of_toInt whole]
  · have wide : k.toInt64.toInt = n.val := k.toInt_toInt64.trans whole
    rw [ofValue_report, ofWhole_of_toInt wide]
    rfl
  · have beyond : ¬ n.val < 9223372036854775808 := by omega
    rw [ofValue_report, ofWhole, if_neg beyond]
  · rw [key, ofWhole_form_iff]
  · rw [key, ofWhole_eq_iff different]

/-- The number behind the largest integer has its digits as its key where it is a text, which is
not the key of the largest integer, but where it is a number it has that one. -/
theorem whole_numbers_boundary :
    let largest : WideInt := ⟨9223372036854775807, by decide, by decide⟩
    let next : WideInt := ⟨9223372036854775808, by decide, by decide⟩
    ofValue (WholeForm.string.report largest) = .ok (.int Int64.maxValue) ∧
      ofValue (WholeForm.string.report next) = .ok (.text "9223372036854775808") ∧
      ofValue (WholeForm.text.report next) ≠ ofValue (WholeForm.number.report largest) ∧
      ofValue (WholeForm.number.report next) = ofValue (WholeForm.string.report largest) := by
  intro largest next
  have apart : next ≠ largest := by decide
  obtain ⟨fits, -⟩ := whole_numbers largest .string
  obtain ⟨-, -, beyond, -⟩ := whole_numbers next .string
  obtain ⟨-, -, -, -, asText⟩ := whole_numbers next .text
  obtain ⟨-, -, -, -, asNumber⟩ := whole_numbers next .number
  refine ⟨(fits Int64.maxValue rfl).1, beyond (by decide), fun same => ?_, ?_⟩
  · obtain ⟨⟨-, impossible⟩, -⟩ := (asText largest .number apart).mp same
    revert impossible
    decide
  · exact (asNumber largest .string apart).mpr ⟨⟨by decide, .inl rfl⟩, ⟨by decide, .inr rfl⟩⟩

/-- As numbers of a document, the largest integer and the next number have one key, and it is not
the key of the digits of the latter. -/
theorem whole_numbers_collide :
    let largest : WideInt := ⟨9223372036854775807, by decide, by decide⟩
    let next : WideInt := ⟨9223372036854775808, by decide, by decide⟩
    next ≠ largest ∧
      ofValue (.json (.number (.integer next))) = ofValue (.json (.number (.integer largest))) ∧
      ofValue (.json (.number (.integer next))) ≠ ofValue (.text "9223372036854775808") := by
  refine ⟨by decide, rfl, fun same => ?_⟩
  have text : ofValue (.text "9223372036854775808") = .ok (.text "9223372036854775808") := rfl
  rw [text] at same
  cases same

end Key
end SqlBuilder
