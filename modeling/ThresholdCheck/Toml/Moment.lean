/-!
# TOML: dates and times

A moment is a date `YYYY-MM-DD`, a time `HH:MM` with or without seconds and a fraction of them, or
both with `T` or a space between them; only both together may be followed by an offset, `Z` or a
sign and `HH:MM`. A configuration has no use for moments, so that only whether a text is one is
told, and at a text that is none what was expected (`momentFault?`).
-/

namespace ThresholdCheck.Toml

/-! ## 1. Parts -/

/-- The message on a part of a moment. -/
def momentMessage (part expected : String) : String :=
  "invalid " ++ part ++ ", expected " ++ expected

/-- The digits at the head of a text, one at least, and the text after them. -/
def someDigits (part expected : String) (cs : List Char) :
    Except String (List Char × List Char) :=
  match cs.takeWhile Char.isDigit with
  | [] => .error (momentMessage part expected)
  | ds => .ok (ds, cs.dropWhile Char.isDigit)

/-- The text after a sign. -/
def afterSign (sign : Char) (part expected : String) : List Char → Except String (List Char)
  | [] => .error (momentMessage part expected)
  | c :: cs => if c = sign then .ok cs else .error (momentMessage part expected)

/-- Checks a condition on a part. -/
def demand (holds : Bool) (part expected : String) : Except String Unit :=
  if holds then .ok () else .error (momentMessage part expected)

/-- The value of decimal digits. -/
def decimalValue (ds : List Char) : Nat := Nat.ofDigitChars 10 ds 0

/-- The number of days of a month. -/
def daysOf (year month : Nat) : Nat :=
  if month = 2 then
    if year % 4 = 0 && (year % 100 != 0 || year % 400 = 0) then 29 else 28
  else if [4, 6, 9, 11].contains month then 30
  else 31

/-! ## 2. Dates, times and offsets -/

/-- The text after a date, of which the year was read. -/
def afterDate (year cs : List Char) : Except String (List Char) := do
  let cs ← afterSign '-' "date" "`-` (YYYY-MM)" cs
  let (month, cs) ← someDigits "date" "month" cs
  let cs ← afterSign '-' "date" "`-` (MM-DD)" cs
  let (day, cs) ← someDigits "date" "day" cs
  demand (year.length == 4) "date" "a four-digit year (YYYY)"
  demand (month.length == 2) "date" "a two-digit month (MM)"
  demand (day.length == 2) "date" "a two-digit day (DD)"
  let m := decimalValue month
  demand (1 ≤ m && m ≤ 12) "date" "month between 01 and 12"
  let last := daysOf (decimalValue year) m
  let d := decimalValue day
  demand (1 ≤ d && d ≤ last) "date" ("day between 01 and " ++ toString last)
  return cs

/-- The seconds, where a time has them, with the text after them and their fraction. -/
def afterMinute (cs : List Char) : Except String (Option (List Char) × List Char) :=
  match cs with
  | ':' :: cs => do
    let (second, cs) ← someDigits "time" "second" cs
    match cs with
    | '.' :: cs =>
      let (_, cs) ← someDigits "time" "nanosecond" cs
      return (some second, cs)
    | cs => return (some second, cs)
  | cs => .ok (none, cs)

/-- The text after a time. The second 60 is one that was put in. -/
def afterTime (cs : List Char) : Except String (List Char) := do
  let (hour, cs) ← someDigits "time" "hour" cs
  let cs ← afterSign ':' "time" "`:` (HH:MM)" cs
  let (minute, cs) ← someDigits "time" "minute" cs
  let (second, cs) ← afterMinute cs
  let second := second.getD ['0', '0']
  demand (hour.length == 2) "time" "a two-digit hour (HH)"
  demand (minute.length == 2) "time" "a two-digit minute (MM)"
  demand (second.length == 2) "time" "a two-digit second (SS)"
  demand (decimalValue hour ≤ 23) "time" "hour between 00 and 23"
  demand (decimalValue minute ≤ 59) "time" "minute between 00 and 59"
  demand (decimalValue second ≤ 60) "time" "second between 00 and 60"
  return cs

/-- The text after an offset, if there is one. -/
def afterOffset (cs : List Char) : Except String (List Char) :=
  match cs with
  | [] => .ok []
  | c :: cs =>
    if c = 'Z' || c = 'z' then .ok cs
    else if c = '+' || c = '-' then do
      let (hours, cs) ← someDigits "offset" "hour" cs
      let cs ← afterSign ':' "offset" "`:` (HH:MM)" cs
      let (minutes, cs) ← someDigits "offset" "minute" cs
      demand (hours.length == 2) "offset" "a two-digit hour (HH)"
      demand (minutes.length == 2) "offset" "a two-digit minute (MM)"
      demand (decimalValue hours ≤ 23) "offset" "hours between 00 and 23"
      demand (decimalValue minutes ≤ 59) "offset" "minutes between 00 and 59"
      return cs
    else .error (momentMessage "offset" "`Z`, +OFFSET, -OFFSET")

/-! ## 3. Moments -/

/-- The text after a date and what may follow it. -/
def afterDateTime (year cs : List Char) : Except String (List Char) := do
  let cs ← afterDate year cs
  match cs with
  | [] => return []
  | c :: cs =>
    demand (c == 'T' || c == 't' || c == ' ') "date-time" "`T` between date and time"
    let cs ← afterTime cs
    afterOffset cs

/-- The text after a moment. -/
def afterMoment (cs : List Char) : Except String (List Char) := do
  let (digits, rest) ← someDigits "datetime" "year or hour" cs
  match rest with
  | '-' :: _ => afterDateTime digits rest
  | ':' :: _ => afterTime cs
  | _ => throw (momentMessage "datetime" "`-` (YYYY-MM) or `:` (HH:MM)")

/-- What keeps a text from being a moment. -/
def momentFault? (cs : List Char) : Option String :=
  match afterMoment cs with
  | .error message => some message
  | .ok [] => none
  | .ok _ => some "invalid datetime"

end ThresholdCheck.Toml
