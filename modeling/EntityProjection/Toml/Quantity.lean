/-!
# Numbers, dates and times of a TOML text

Whether a word without quotes is a number, a date or a time.  Numbers may have single underscores
between digits; dates have to exist, and times of a day end before the twenty-fourth hour, where a
minute may have a leap second.
-/

namespace EntityProjection.Toml

/-! ### Numbers -/

/-- Digits of some kind, with single underscores between them, to the end. -/
def areDigits (p : Char → Bool) : List Char → Bool
  | [] => false
  | [c] => p c
  | c :: '_' :: rest => p c && areDigits p rest
  | c :: rest => p c && areDigits p rest

/-- A word without its sign. -/
def withoutSign (cs : List Char) : List Char :=
  match cs with
  | '+' :: rest => rest
  | '-' :: rest => rest
  | cs => cs

/-- A whole number without sign. -/
def isWhole (cs : List Char) : Bool :=
  cs == ['0'] || (cs.head? != some '0' && areDigits Char.isDigit cs)

/-- A hexadecimal digit. -/
def isHexDigit (c : Char) : Bool :=
  c.isDigit || ('a' ≤ c && c ≤ 'f') || ('A' ≤ c && c ≤ 'F')

/-- A whole number. -/
def isInteger (cs : List Char) : Bool :=
  match cs with
  | '0' :: 'x' :: digits => areDigits isHexDigit digits
  | '0' :: 'o' :: digits => areDigits (fun c => '0' ≤ c && c ≤ '7') digits
  | '0' :: 'b' :: digits => areDigits (fun c => c == '0' || c == '1') digits
  | cs => isWhole (withoutSign cs)

/-- The part of a word before a character, and the part after it if it occurs. -/
def cutAt (p : Char → Bool) (cs : List Char) : List Char × Option (List Char) :=
  match cs.span (fun c => !p c) with
  | (before, []) => (before, none)
  | (before, _ :: after) => (before, some after)

/-- A number with a fraction, an exponent or both, or one that is not finite. -/
def isFraction (cs : List Char) : Bool :=
  let cs := withoutSign cs
  if cs == ['i', 'n', 'f'] || cs == ['n', 'a', 'n'] then true
  else
    let (mantissa, exponent) := cutAt (fun c => c == 'e' || c == 'E') cs
    let (whole, fraction) := cutAt (· == '.') mantissa
    (exponent.isSome || fraction.isSome) && isWhole whole &&
      fraction.all (areDigits Char.isDigit) &&
      exponent.all fun digits => areDigits Char.isDigit (withoutSign digits)

/-! ### Dates and times -/

/-- The number that decimal digits write. -/
def decimal (cs : List Char) : Nat :=
  cs.foldl (fun n c => n * 10 + (c.toNat - 48)) 0

/-- The number that so many digits at the start of a word write, and the rest of the word. -/
def number? (width : Nat) (cs : List Char) : Option (Nat × List Char) :=
  let digits := cs.take width
  if digits.length == width && digits.all Char.isDigit then some (decimal digits, cs.drop width)
  else none

/-- The word after a character at its start. -/
def after? (c : Char) : List Char → Option (List Char)
  | [] => none
  | d :: rest => if d == c then some rest else none

/-- The number of days of a month. -/
def daysOf (year month : Nat) : Nat :=
  if month == 2 then
    if year % 4 == 0 && (year % 100 != 0 || year % 400 == 0) then 29 else 28
  else if [4, 6, 9, 11].contains month then 30
  else 31

/-- The word after the date at its start. -/
def skipDate? (cs : List Char) : Option (List Char) := do
  let (year, cs) ← number? 4 cs
  let (month, cs) ← number? 2 (← after? '-' cs)
  let (day, cs) ← number? 2 (← after? '-' cs)
  if 1 ≤ month && month ≤ 12 && 1 ≤ day && day ≤ daysOf year month then some cs else none

/-- The word after the seconds at its start, which may have a fraction and may be missing. -/
def skipSeconds? (cs : List Char) : Option (List Char) :=
  match cs with
  | ':' :: cs => do
    let (second, cs) ← number? 2 cs
    if 60 < second then none
    else
      match cs with
      | '.' :: rest =>
        if rest.head?.any Char.isDigit then some (rest.dropWhile Char.isDigit) else none
      | cs => some cs
  | cs => some cs

/-- The word after the hours and minutes at its start. -/
def skipMinutes? (cs : List Char) : Option (List Char) := do
  let (hour, cs) ← number? 2 cs
  let (minute, cs) ← number? 2 (← after? ':' cs)
  if hour ≤ 23 && minute ≤ 59 then some cs else none

/-- The word after the time at its start. -/
def skipTime? (cs : List Char) : Option (List Char) := do
  skipSeconds? (← skipMinutes? cs)

/-- The word after the offset at its start. -/
def skipOffset? (cs : List Char) : Option (List Char) :=
  match cs with
  | 'Z' :: rest => some rest
  | 'z' :: rest => some rest
  | '+' :: rest => skipMinutes? rest
  | '-' :: rest => skipMinutes? rest
  | cs => some cs

/-- A date, a time of a day, or both with or without an offset. -/
def isMoment (cs : List Char) : Bool :=
  match skipDate? cs with
  | some [] => true
  | some (c :: rest) =>
    ['T', 't', ' '].contains c && ((skipTime? rest).bind skipOffset?) == some []
  | none => skipTime? cs == some []

/-- A number, a date or a time. -/
def isQuantity (cs : List Char) : Bool :=
  isInteger cs || isFraction cs || isMoment cs

end EntityProjection.Toml
