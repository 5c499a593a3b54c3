import SqlBuilder.Number.Decimal

/-! # Tokens of JSON text

`Token.scanAll` cuts a text into tokens and refuses what is no token: a control
character inside a string, an escape that JSON does not have, a number with a leading
zero or without digits behind its point.  A string is kept as a list of units, because
an escape may denote half of a character; whether the halves pair up is settled
later, where the string is needed.
-/
namespace SqlBuilder
namespace JsonText

/-- A unit of a string: a character, or half of one. -/
inductive StringUnit where
  | char (c : Char)
  | half (code : Nat)

/-- A token of JSON text. -/
inductive Token where
  | openArray
  | closeArray
  | openObject
  | closeObject
  | comma
  | colon
  | null
  | bool (b : Bool)
  | number (negative : Bool) (parts : DecimalText)
  | string (units : List StringUnit)

namespace StringUnit

/-- The unit that a code of sixteen bits denotes. -/
def ofCode (code : Nat) : StringUnit :=
  if 0xD800 ≤ code ∧ code ≤ 0xDFFF then .half code else .char (Char.ofNat code)

/-- The value of a hexadecimal digit. -/
def hexValue? (c : Char) : Option Nat :=
  if c.isDigit then some (c.toNat - '0'.toNat)
  else if 'a' ≤ c ∧ c ≤ 'f' then some (c.toNat - 'a'.toNat + 10)
  else if 'A' ≤ c ∧ c ≤ 'F' then some (c.toNat - 'A'.toNat + 10)
  else none

/-- The code that four hexadecimal digits denote. -/
def hexCode? (a b c d : Char) : Option Nat := do
  let a ← hexValue? a
  let b ← hexValue? b
  let c ← hexValue? c
  let d ← hexValue? d
  return ((a * 16 + b) * 16 + c) * 16 + d

/-- The character that a backslash and a letter denote. -/
def escaped? : Char → Option Char
  | '"' => some '"'
  | '\\' => some '\\'
  | '/' => some '/'
  | 'b' => some '\x08'
  | 'f' => some '\x0c'
  | 'n' => some '\n'
  | 'r' => some '\r'
  | 't' => some '\t'
  | _ => none

/-- The units of a string behind its opening quote, and what follows the closing one. -/
def scanString : List Char → Option (List StringUnit × List Char)
  | [] => none
  | '"' :: rest => some ([], rest)
  | '\\' :: 'u' :: a :: b :: c :: d :: rest =>
    match hexCode? a b c d, scanString rest with
    | some code, some (units, rest) => some (ofCode code :: units, rest)
    | _, _ => none
  | '\\' :: e :: rest =>
    match escaped? e, scanString rest with
    | some c, some (units, rest) => some (.char c :: units, rest)
    | _, _ => none
  | c :: rest =>
    if c.toNat < 0x20 ∨ c = '\\' then none
    else
      match scanString rest with
      | some (units, rest) => some (.char c :: units, rest)
      | none => none

theorem length_scanString (cs : List Char) :
    ∀ {units rest}, scanString cs = some (units, rest) → rest.length < cs.length := by
  fun_induction scanString cs with
  | case1 => simp
  | case2 rest => grind
  | case3 _ _ _ _ _ _ _ _ found _ ih =>
    intro units rest h
    have shorter := ih found
    cases h
    simp only [List.length_cons]
    omega
  | case4 => simp
  | case5 _ _ _ _ _ _ found ih => grind
  | case6 => simp
  | case7 => simp
  | case8 _ _ _ _ _ _ _ _ found ih => grind
  | case9 => simp

end StringUnit

namespace Token

/-- Whether the parts of a number are as JSON wants them. -/
def isNumber (parts : DecimalText) : Bool :=
  !parts.whole.isEmpty && (parts.whole.length == 1 || parts.whole.head? != some '0')
    && parts.fraction != some [] && parts.hasExponentDigits

/-- A number at the head of the text behind its sign. -/
def scanNumber (negative : Bool) (cs : List Char) : Option (Token × List Char) :=
  let (parts, rest) := DecimalText.scan cs
  if isNumber parts then some (.number negative parts, rest) else none

/-- The token that starts with a given character. -/
def scan (c : Char) (cs : List Char) : Option (Token × List Char) :=
  match c, cs with
  | '[', cs => some (.openArray, cs)
  | ']', cs => some (.closeArray, cs)
  | '\x7b', cs => some (.openObject, cs)
  | '\x7d', cs => some (.closeObject, cs)
  | ',', cs => some (.comma, cs)
  | ':', cs => some (.colon, cs)
  | 'n', 'u' :: 'l' :: 'l' :: cs => some (.null, cs)
  | 't', 'r' :: 'u' :: 'e' :: cs => some (.bool true, cs)
  | 'f', 'a' :: 'l' :: 's' :: 'e' :: cs => some (.bool false, cs)
  | '"', cs => (StringUnit.scanString cs).map fun (units, rest) => (.string units, rest)
  | '-', cs => scanNumber true cs
  | c, cs => if c.isDigit then scanNumber false (c :: cs) else none

/-- The white space that may stand between tokens. -/
def isSpace (c : Char) : Bool :=
  c == ' ' || c == '\t' || c == '\n' || c == '\r'

theorem length_dropDigits (cs : List Char) :
    (cs.dropWhile Char.isDigit).length ≤ cs.length := by
  induction cs with
  | nil => simp
  | cons c cs ih =>
    rw [List.dropWhile_cons]
    split
    · exact Nat.le_succ_of_le ih
    · exact Nat.le_refl _

theorem length_scanFraction (cs : List Char) :
    (DecimalText.scanFraction cs).2.length ≤ cs.length := by
  unfold DecimalText.scanFraction
  split
  · exact Nat.le_succ_of_le (length_dropDigits _)
  · exact Nat.le_refl _

theorem length_scanSign (cs : List Char) : (DecimalText.scanSign cs).2.length ≤ cs.length := by
  unfold DecimalText.scanSign
  split <;> simp

theorem length_scanExponent (cs : List Char) :
    (DecimalText.scanExponent cs).2.length ≤ cs.length := by
  cases cs with
  | nil => simp [DecimalText.scanExponent]
  | cons c cs =>
    simp only [DecimalText.scanExponent]
    split
    · exact Nat.le_succ_of_le (Nat.le_trans (length_dropDigits _) (length_scanSign cs))
    · exact Nat.le_refl _

theorem length_scanDecimal (cs : List Char) :
    (DecimalText.scan cs).2.length ≤ (cs.dropWhile Char.isDigit).length :=
  Nat.le_trans (length_scanExponent _) (length_scanFraction _)

theorem length_scanNumber {negative : Bool} {cs rest : List Char} {token : Token}
    (h : scanNumber negative cs = some (token, rest)) :
    rest.length ≤ (cs.dropWhile Char.isDigit).length := by
  have bound := length_scanDecimal cs
  unfold scanNumber at h
  grind

theorem length_scan {c : Char} {cs rest : List Char} {token : Token}
    (h : scan c cs = some (token, rest)) : rest.length ≤ cs.length := by
  have bound := length_dropDigits cs
  unfold scan at h
  split at h
  all_goals first
    | (cases h; simp <;> omega)
    | skip
  · obtain ⟨⟨units, tail⟩, found, same⟩ := Option.map_eq_some_iff.mp h
    cases same
    exact Nat.le_of_lt (StringUnit.length_scanString _ found)
  · exact Nat.le_trans (length_scanNumber h) bound
  · split at h
    · rename_i digit
      have shorter := length_scanNumber h
      rw [List.dropWhile_cons_of_pos digit] at shorter
      exact Nat.le_trans shorter bound
    · cases h

/-- All tokens of a text. -/
def scanAll : List Char → Option (List Token)
  | [] => some []
  | c :: cs =>
    if isSpace c then scanAll cs
    else
      match _h : scan c cs with
      | none => none
      | some (token, rest) => (scanAll rest).map (token :: ·)
termination_by cs => cs.length
decreasing_by
  · simp
  · have := length_scan _h
    simp only [List.length_cons]
    omega

end Token
end JsonText
end SqlBuilder
