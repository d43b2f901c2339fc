import TwoPass.Text.Bytes

/-!
# Timestamps in YAML

A plain word can be a point in time: a date alone, a date and a time of day with a blank
between them, or a date and a time of day with the letter `T` between them and a zone
behind.  Months, days and the parts of a time of day have one or two digits.
-/

namespace TwoPass

namespace Yaml

namespace Timestamp

/-- A number of one or two digits at the start of a text. -/
def pair? (s : Bytes) : Option (Nat × Bytes) :=
  let value (b : UInt8) : Nat := (b - '0'.toUInt8).toNat
  match s with
  | a :: b :: rest =>
    if !Bytes.isDigit a then none
    else if Bytes.isDigit b then some (value a * 10 + value b, rest)
    else some (value a, b :: rest)
  | [a] => if Bytes.isDigit a then some (value a, []) else none
  | [] => none

/-- What stands behind a character. -/
def behind? (c : Char) (s : Bytes) : Option Bytes :=
  match s with
  | b :: rest => if b == c.toUInt8 then some rest else none
  | [] => none

/-- Whether a year has a 29th of February. -/
def isLeap (year : Nat) : Bool := year % 4 == 0 && (year % 100 != 0 || year % 400 == 0)

/-- How many days a month has. -/
def daysIn (year month : Nat) : Nat :=
  if month = 2 then if isLeap year then 29 else 28
  else if month = 4 || month = 6 || month = 9 || month = 11 then 30
  else 31

/-- What stands behind a date. -/
def date? (s : Bytes) : Option Bytes := do
  let year := s.takeWhile Bytes.isDigit
  guard (year.length = 4)
  let (month, rest) ← pair? (← behind? '-' (s.drop 4))
  let (day, rest) ← pair? (← behind? '-' rest)
  guard (1 ≤ month && month ≤ 12)
  guard (1 ≤ day && day ≤ daysIn (year.foldl (fun n b => n * 10 + (b - '0'.toUInt8).toNat) 0) month)
  return rest

/-- What stands behind a fraction of a second, if there is one. -/
def afterFraction (s : Bytes) : Bytes :=
  match s with
  | mark :: d :: rest =>
    if (mark == '.'.toUInt8 || mark == ','.toUInt8) && Bytes.isDigit d then
      rest.dropWhile Bytes.isDigit
    else s
  | _ => s

/-- What stands behind a time of day. -/
def clock? (s : Bytes) : Option Bytes := do
  let (hour, rest) ← pair? s
  let (minute, rest) ← pair? (← behind? ':' rest)
  let (second, rest) ← pair? (← behind? ':' rest)
  guard (hour < 24 && minute < 60 && second < 60)
  return afterFraction rest

/-- Whether a text is a zone: the letter `Z`, or a distance in hours and minutes. -/
def isZone (s : Bytes) : Bool :=
  match s with
  | [z] => z == 'Z'.toUInt8
  | [sign, a, b, colon, c, d] =>
    let value (x y : UInt8) : Nat := (x - '0'.toUInt8).toNat * 10 + (y - '0'.toUInt8).toNat
    (sign == '+'.toUInt8 || sign == '-'.toUInt8) && colon == ':'.toUInt8
      && [a, b, c, d].all Bytes.isDigit && value a b ≤ 24 && value c d ≤ 60
  | _ => false

/-- Whether a text is empty or a time of day behind its separator. -/
def isTimeOrNothing (s : Bytes) : Bool :=
  match s with
  | [] => true
  | b :: rest =>
    if b == 'T'.toUInt8 || b == 't'.toUInt8 then (clock? rest).any isZone
    else b == ' '.toUInt8 && (clock? (rest.dropWhile (· == ' '.toUInt8))).any List.isEmpty

end Timestamp

/-- Whether a plain word is a point in time. -/
def isTimestamp (s : Bytes) : Bool := (Timestamp.date? s).any Timestamp.isTimeOrNothing

end Yaml

end TwoPass
