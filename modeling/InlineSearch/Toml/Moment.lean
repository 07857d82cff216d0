/-
InlineSearch.Toml.Moment — dates and times of day.

What is read is the normal form of a moment: `T` stands between the date
and the time of day, `Z` for universal time, a part of a second has at
most nine digits and no needless zeros, and seconds that are left out
stay out.
-/
import InlineSearch.Text.Blank
import InlineSearch.Text.Reader

namespace InlineSearch.Toml

/-! ## Dates -/

/-- `n` decimal digits that write a number from `least` to `most`. -/
def digitsIn (n least most : Nat) : Reader Text := do
  let digits ← Reader.take n
  let value ← Text.toNat? digits
  guard (least ≤ value && value ≤ most)
  return digits

/-- Whether a year is a leap year. -/
def isLeapYear (year : Nat) : Bool := year % 4 == 0 && (year % 100 != 0 || year % 400 == 0)

/-- The number of days of a month. -/
def daysIn (year month : Nat) : Nat :=
  if month == 2 then if isLeapYear year then 29 else 28
  else if [4, 6, 9, 11].contains month then 30 else 31

/-- A date. -/
def date : Reader Text := do
  let year ← digitsIn 4 0 9999
  Reader.expect "-"
  let month ← digitsIn 2 1 12
  Reader.expect "-"
  let day ← digitsIn 2 1 (daysIn (← Text.toNat? year) (← Text.toNat? month))
  return year ++ "-" ++ month ++ "-" ++ day

/-! ## Times of day -/

/-- The digits of a part of a second in their normal form: at most nine,
and without zeros at their end, unless they are all zeros. -/
def partDigits (digits : Text) : Text :=
  let significant := Text.dropEndWhile (· == '0') (digits.take 9)
  if significant.isEmpty then ['0'] else significant

/-- The part of a second behind the point, if there is a point. -/
def secondPart : Reader Text := do
  if ← Reader.accept "." then return '.' :: partDigits (← Reader.run1 Char.isDigit)
  return []

/-- Seconds behind a time of day, if there are any. -/
def seconds : Reader Text := do
  if ← Reader.accept ":" then
    let whole ← digitsIn 2 0 60
    return ':' :: whole ++ (← secondPart)
  return []

/-- A time of day; seconds may be left out. -/
def time : Reader Text := do
  let hour ← digitsIn 2 0 23
  Reader.expect ":"
  let minute ← digitsIn 2 0 59
  return hour ++ ":" ++ minute ++ (← seconds)

/-- The distance from universal time. No distance has the sign `+`. -/
def offset : Reader Text :=
  (do discard (Reader.one fun c => c == 'Z' || c == 'z'); return "Z") <|> do
    let sign ← Reader.one fun c => c == '+' || c == '-'
    let hour ← digitsIn 2 0 23
    Reader.expect ":"
    let minute ← digitsIn 2 0 59
    let distance := hour ++ ":" ++ minute
    return (if distance = "00:00" then '+' else sign) :: distance

/-! ## Moments -/

/-- A date, a time of day, or both with or without an offset. -/
def moment : Reader Text :=
  time <|> do
    let day ← date
    (do
      discard (Reader.one fun c => c == 'T' || c == 't' || c == ' ')
      let hour ← time
      return day ++ "T" ++ hour ++ (← offset <|> pure [])) <|> pure day

end InlineSearch.Toml
