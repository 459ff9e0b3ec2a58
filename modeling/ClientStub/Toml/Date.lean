import ClientStub.Toml.Text

/-!
# TOML dates and times

Dates, times of day, and both together with or without an offset, read into their one standard text. Dates
are those of the Gregorian calendar; a minute may have a leap second.
-/

namespace ClientStub.Toml

/-- Reads a number of so many decimal digits. -/
def readCount? (digits : Nat) : Reader Nat := fun text =>
  let found := text.take digits
  if found.length = digits && found.all Char.isDigit then
    some (found.foldl (fun n c => n * 10 + (c.toNat - 48)) 0, text.drop digits)
  else none

/-- Reads a number of two digits between two bounds. -/
def readWithin? (least greatest : Nat) : Reader Nat := fun text => do
  let (n, rest) ← readCount? 2 text
  if least ≤ n && n ≤ greatest then pure (n, rest) else none

def readMark? (mark : Char) (text : List Char) : Option (List Char) :=
  match text with
  | c :: rest => if c = mark then some rest else none
  | [] => none

def isLeapYear (year : Nat) : Bool := year % 4 = 0 && (year % 100 ≠ 0 || year % 400 = 0)

def daysOfMonth (year month : Nat) : Nat :=
  if month = 2 then (if isLeapYear year then 29 else 28)
  else if [4, 6, 9, 11].contains month then 30
  else 31

/-- A number with leading zeros up to a width. -/
def padded (width n : Nat) : String :=
  let digits := toString n
  String.ofList (List.replicate (width - digits.length) '0') ++ digits

/-- Reads a date. -/
def readDate? : Reader String := fun text => do
  let (year, rest) ← readCount? 4 text
  let (month, rest) ← readWithin? 1 12 (← readMark? '-' rest)
  let (day, rest) ← readWithin? 1 31 (← readMark? '-' rest)
  if daysOfMonth year month < day then none
  else pure (padded 4 year ++ "-" ++ padded 2 month ++ "-" ++ padded 2 day, rest)

/-- The digits of a second's fraction: nine at most, without final zeros. -/
def fractionText (digits : List Char) : String :=
  let kept := ((digits.take 9).reverse.dropWhile (· = '0')).reverse
  if kept.isEmpty then "" else "." ++ String.ofList kept

/-- Reads the fraction of a second from its point on, if one is there. -/
def readSecondFraction? : Reader String := fun text =>
  match text with
  | '.' :: rest =>
    match rest.span Char.isDigit with
    | ([], _) => some ("", text)
    | (digits, rest) => some (fractionText digits, rest)
  | _ => some ("", text)

/-- Reads a time of day. -/
def readTime? : Reader String := fun text => do
  let (hour, rest) ← readWithin? 0 23 text
  let (minute, rest) ← readWithin? 0 59 (← readMark? ':' rest)
  let (second, rest) ← readWithin? 0 60 (← readMark? ':' rest)
  let (fraction, rest) ← readSecondFraction? rest
  pure (padded 2 hour ++ ":" ++ padded 2 minute ++ ":" ++ padded 2 second ++ fraction, rest)

/-- Reads an offset from universal time, if one is there. -/
def readOffset? : Reader String := fun text =>
  let signed (sign : Char) (rest : List Char) : Option (String × List Char) := do
    let (hour, rest) ← readWithin? 0 23 rest
    let (minute, rest) ← readWithin? 0 59 (← readMark? ':' rest)
    let sign := if hour = 0 && minute = 0 then '+' else sign
    pure (sign.toString ++ padded 2 hour ++ ":" ++ padded 2 minute, rest)
  match text with
  | 'Z' :: rest => some ("Z", rest)
  | 'z' :: rest => some ("Z", rest)
  | '+' :: rest => signed '+' rest
  | '-' :: rest => signed '-' rest
  | _ => some ("", text)

/-- Whether a text begins like a date: four digits and a dash. -/
def looksLikeDate (text : List Char) : Bool :=
  ((readCount? 4 text).bind fun (_, rest) => readMark? '-' rest).isSome

/-- Whether a text begins like a time: two digits and a colon. -/
def looksLikeTime (text : List Char) : Bool :=
  ((readWithin? 0 23 text).bind fun (_, rest) => readMark? ':' rest).isSome

/-- Reads a date, a time, or both with a letter or a space between them. -/
def readDatetime? : Reader String := fun text =>
  if looksLikeDate text then do
    let (date, rest) ← readDate? text
    match rest with
    | mark :: timeText =>
      if (mark = 'T' || mark = 't' || mark = ' ') && looksLikeTime timeText then do
        let (time, rest) ← readTime? timeText
        let (offset, rest) ← readOffset? rest
        pure (date ++ "T" ++ time ++ offset, rest)
      else pure (date, rest)
    | [] => pure (date, [])
  else readTime? text

end ClientStub.Toml
