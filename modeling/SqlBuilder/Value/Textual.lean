import SqlBuilder.Value.Basic

/-! # Values that are bound as text

Identifiers of 128 bits, dates and decimal numbers have no type of their own among the
values.  They are bound as text in the form that databases read.
-/
namespace SqlBuilder
namespace Value

/-- A universally unique identifier: thirty-two hexadecimal digits with hyphens after
the eighth, twelfth, sixteenth and twentieth. -/
def ofUuid (n : BitVec 128) : Value :=
  let digits := Text.hexDigits 32 n.toNat
  let part (start length : Nat) := (digits.drop start).take length
  .text (String.ofList (['-'].intercalate
    [part 0 8, part 8 4, part 12 4, part 16 4, part 20 12]))

/-! ### Dates -/

/-- A day of the calendar. -/
structure Date where
  year : Int
  month : Nat
  day : Nat

/-- A time of a day. -/
structure Clock where
  hour : Nat
  minute : Nat
  second : Nat

/-- A year in four digits, with a sign where four digits without one do not do. -/
def showYear (year : Int) : List Char :=
  if 0 ≤ year ∧ year ≤ 9999 then Text.showPadded 4 year.toNat
  else (if year < 0 then '-' else '+') :: Text.showPadded 4 year.natAbs

/-- Year, month and day between hyphens. -/
def showDate (date : Date) : List Char :=
  ['-'].intercalate [showYear date.year, Text.showPadded 2 date.month, Text.showPadded 2 date.day]

/-- Hour, minute and second between colons. -/
def showClock (clock : Clock) : List Char :=
  [':'].intercalate
    [Text.showPadded 2 clock.hour, Text.showPadded 2 clock.minute, Text.showPadded 2 clock.second]

/-- A date. -/
def ofDate (date : Date) : Value :=
  .text (String.ofList (showDate date))

/-- A date and a time. -/
def ofDateTime (date : Date) (clock : Clock) : Value :=
  .text (String.ofList (showDate date ++ ' ' :: showClock clock))

/-! ### Decimal numbers -/

/-- `mantissa * 10 ^ -scale`, with exactly `scale` digits behind the point. -/
def ofDecimal (mantissa : Int) (scale : Nat) : Value :=
  let digits := Text.showPadded (scale + 1) mantissa.natAbs
  let whole := digits.take (digits.length - scale)
  let fraction := digits.drop (digits.length - scale)
  let magnitude := if scale = 0 then whole else whole ++ '.' :: fraction
  .text (String.ofList (if mantissa < 0 then '-' :: magnitude else magnitude))

end Value
end SqlBuilder
