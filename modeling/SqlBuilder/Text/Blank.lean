/-! # Blank characters

Identifiers, keywords and lists are read loosely: white space around them does
not count, and inside an operator any run of it counts as one space.  What counts
as white space is the Unicode property `White_Space`, a closed set of
twenty-five characters.  This module states that set and the two operations
that depend on it: `trim`, which removes it at both ends, and `words`, which
cuts a text at every run of it.
-/
namespace SqlBuilder
namespace Text

/-- The characters with the Unicode property `White_Space`. -/
def isBlank (c : Char) : Bool :=
  let n := c.toNat
  (0x09 ≤ n && n ≤ 0x0D) || n == 0x20 || n == 0x85 || n == 0xA0 || n == 0x1680
    || (0x2000 ≤ n && n ≤ 0x200A) || n == 0x2028 || n == 0x2029 || n == 0x202F
    || n == 0x205F || n == 0x3000

/-- The text without the blanks it starts with. -/
def trimStart (cs : List Char) : List Char :=
  cs.dropWhile isBlank

/-- The text without the blanks it ends with. -/
def trimEnd (cs : List Char) : List Char :=
  (cs.reverse.dropWhile isBlank).reverse

/-- The text without the blanks at either end. -/
def trim (cs : List Char) : List Char :=
  trimEnd (trimStart cs)

/-- The maximal runs of characters that are not blank, in order. -/
def words (cs : List Char) : List (List Char) :=
  (cs.splitOnP isBlank).filter fun word => !word.isEmpty

/-- `trim` on strings. -/
def trimmed (s : String) : String :=
  String.ofList (trim s.toList)

@[simp] theorem trim_nil : trim [] = [] := rfl

@[simp] theorem words_nil : words [] = [] := rfl

theorem mem_dropWhile_isBlank {cs : List Char} {c : Char} (hc : c ∈ cs)
    (shown : isBlank c = false) : c ∈ cs.dropWhile isBlank := by
  induction cs with
  | nil => exact hc
  | cons first cs ih =>
    rw [List.dropWhile_cons]
    split
    next blank =>
      rcases List.mem_cons.mp hc with rfl | hc
      · simp [shown] at blank
      · exact ih hc
    next => exact hc

/-- Trimming takes away nothing but blanks. -/
theorem mem_trim {cs : List Char} {c : Char} (hc : c ∈ cs) (shown : isBlank c = false) :
    c ∈ trim cs := by
  have started := mem_dropWhile_isBlank hc shown
  rw [trim, trimEnd, List.mem_reverse]
  exact mem_dropWhile_isBlank (List.mem_reverse.mpr started) shown

end Text
end SqlBuilder
