/-
  Reading instants from ISO 8601 text.

  A date is written `YYYY-MM-DD` or `YYYYMMDD`, or by week as `YYYY-Www-D` or `YYYYWwwD` with the
  day left out for a Monday.  Behind it may follow any one character and a time: hours, then
  minutes, then seconds, with colons throughout or without any, and a fraction of a second; and
  behind the time a `Z` or a signed offset in the same notation.

  A text outside this grammar is malformed as a whole.  A text inside it may still name a field
  out of range; of several such fields the offset is reported first, then year to second.
-/
import DatePattern.Calendar.Instant
import DatePattern.Text.Quotation

namespace DatePattern.Iso

open Text

/-- What can be wrong with the text of an instant. -/
inductive Fault where
  /-- The text is outside the grammar. -/
  | malformed (text : Text)
  /-- A field is out of range. -/
  | range (fault : CalendarFault)
  deriving DecidableEq, Repr

/-- The wording of a fault. -/
def Fault.message : Fault → Text
  | .malformed t => "Invalid isoformat string: ".toList ++ quoted t
  | .range fault => fault.message

/-! ## Dates -/

/-- A date as written: by month or by week. -/
inductive WrittenDate where
  | calendar (year month day : Nat)
  | week (year week day : Nat)
  deriving DecidableEq, Repr

/-- Whether a text begins with an ASCII digit. -/
def startsWithDigit : Text → Bool
  | c :: _ => (digit? c).isSome
  | [] => false

/-- How many ASCII digits a text begins with. -/
def countDigits (t : Text) : Nat := (t.takeWhile fun c => (digit? c).isSome).length

/-- A week and its day, read behind `YYYY-W`.  A hyphen and a digit behind the week are its day,
unless a second digit follows: then the hyphen separates the date from a time. -/
def takeHyphenWeek? (year : Nat) (t : Text) : Option (WrittenDate × Text) := do
  let (week, rest) ← takeDigits? 2 t
  match rest with
  | '-' :: a :: more =>
    if startsWithDigit more then return (.week year week 1, rest)
    else
      let day ← digit? a
      return (.week year week day, more)
  | ['-'] => none
  | _ => return (.week year week 1, rest)

/-- A week and its day, read behind `YYYYW`.  A single digit behind the week is its day.  In a
longer run of digits one separates the date from a time: the second one if their number is even,
so that the first is the day, and else the first. -/
def takePlainWeek? (year : Nat) (t : Text) : Option (WrittenDate × Text) := do
  let (week, rest) ← takeDigits? 2 t
  let digits := countDigits rest
  if digits = 1 ∨ (digits ≠ 0 ∧ digits % 2 = 0) then
    let (day, rest) ← takeDigits? 1 rest
    return (.week year week day, rest)
  else return (.week year week 1, rest)

/-- A month and a day with hyphens, read behind `YYYY-`. -/
def takeHyphenDay? (year : Nat) (t : Text) : Option (WrittenDate × Text) := do
  let (month, rest) ← takeDigits? 2 t
  match rest with
  | '-' :: rest =>
    let (day, rest) ← takeDigits? 2 rest
    return (.calendar year month day, rest)
  | _ => none

/-- A month and a day without hyphens, read behind `YYYY`. -/
def takePlainDay? (year : Nat) (t : Text) : Option (WrittenDate × Text) := do
  let (month, rest) ← takeDigits? 2 t
  let (day, rest) ← takeDigits? 2 rest
  return (.calendar year month day, rest)

/-- The date at the head of a text, and the rest, with a notation for weeks with hyphens and one
for weeks without them. -/
def takeDateBy? (takeHyphenWeek? takePlainWeek? : Nat → Text → Option (WrittenDate × Text))
    (t : Text) : Option (WrittenDate × Text) := do
  let (year, rest) ← takeDigits? 4 t
  match rest with
  | '-' :: 'W' :: rest => takeHyphenWeek? year rest
  | 'W' :: rest => takePlainWeek? year rest
  | '-' :: rest => takeHyphenDay? year rest
  | _ => takePlainDay? year rest

/-- The date at the head of the text of an instant, and the rest. -/
def takeDate? (t : Text) : Option (WrittenDate × Text) :=
  takeDateBy? takeHyphenWeek? takePlainWeek? t

/-- A week and its day, read behind `YYYY-W` where no time can follow: a Monday only at the end of
the text. -/
def takeLoneHyphenWeek? (year : Nat) (t : Text) : Option (WrittenDate × Text) := do
  let (week, rest) ← takeDigits? 2 t
  match rest with
  | [] => return (.week year week 1, [])
  | '-' :: rest =>
    let (day, rest) ← takeDigits? 1 rest
    return (.week year week day, rest)
  | _ => none

/-- A week and its day, read behind `YYYYW` where no time can follow: a Monday only at the end of
the text. -/
def takeLonePlainWeek? (year : Nat) (t : Text) : Option (WrittenDate × Text) := do
  let (week, rest) ← takeDigits? 2 t
  if rest.isEmpty then return (.week year week 1, [])
  else
    let (day, rest) ← takeDigits? 1 rest
    return (.week year week day, rest)

/-- The date at the head of a text that holds no time, and the rest. -/
def takeLoneDate? (t : Text) : Option (WrittenDate × Text) :=
  takeDateBy? takeLoneHyphenWeek? takeLonePlainWeek? t

/-- The date that is meant; none if there is no such week or day of the week. -/
def WrittenDate.resolve? : WrittenDate → Option (Except CalendarFault Date)
  | .calendar y m d => some (Date.check y m d)
  | .week y w d => Date.ofIsoWeek? y w d

/-! ## Times -/

/-- A time as written: hours, minutes, seconds and microseconds. -/
structure Clock where
  hour : Nat
  minute : Nat := 0
  second : Nat := 0
  microsecond : Nat := 0
  deriving DecidableEq, Repr

/-- What stands behind the fields of a time. -/
inductive ClockTail where
  /-- Nothing or a NUL, or else a single ASCII character too many. -/
  | ended (complete : Bool)
  /-- The digits of a fraction of a second, and whatever follows them. -/
  | fraction (digits : Text)
  deriving DecidableEq, Repr

/-- Read up to `count` fields of two digits.  The character behind the first of three fields
tells whether colons separate them.  A point or comma begins the fraction behind any field, and
what follows the last field is a fraction as well. -/
def takeFields? (colons : Bool) : Nat → Text → Option (List Nat × ClockTail)
  | 0, t => some ([], .fraction t)
  | count + 1, t =>
    match takeDigits? 2 t with
    | none => none
    | some (n, []) => some ([n], .ended true)
    | some (n, [c]) => if c.toNat < 128 then some ([n], .ended (c == '\x00')) else none
    | some (n, c :: rest) =>
      let colons := if count = 2 then c == ':' else colons
      if colons && c == ':' then
        (takeFields? colons count rest).map fun (ns, tail) => (n :: ns, tail)
      else if c == '.' || c == ',' then some ([n], .fraction rest)
      else if colons then none
      else (takeFields? colons count (c :: rest)).map fun (ns, tail) => (n :: ns, tail)

/-- Whether further digits are all there is, up to a NUL. -/
def onlyDigits : Text → Bool
  | [] => true
  | c :: rest => c == '\x00' || ((digit? c).isSome && onlyDigits rest)

/-- A fraction of a second in microseconds, and whether digits are all there is.  The first six
digits count; what follows them may be anything. -/
def fraction? (t : Text) : Option (Nat × Bool) :=
  let digits := t.take 6
  (toNat? digits).map fun n => (n * Nat.pow 10 (6 - digits.length), onlyDigits (t.drop 6))

/-- The time at the head of a text, and whether it is the whole text. -/
def clock? (t : Text) : Option (Clock × Bool) := do
  let (fields, tail) ← takeFields? false 3 t
  let (microsecond, complete) ← match tail with
    | .ended complete => some (0, complete)
    | .fraction digits => fraction? digits
  match fields with
  | [hour] => return ({ hour, microsecond }, complete)
  | [hour, minute] => return ({ hour, minute, microsecond }, complete)
  | [hour, minute, second] => return ({ hour, minute, second, microsecond }, complete)
  | _ => none

/-- The time that is the whole text. -/
def wholeClock? (t : Text) : Option Clock := do
  let (c, complete) ← clock? t
  if complete then return c else none

/-- The length of a written time in microseconds; less than a second counts as nothing. -/
def Clock.microseconds (c : Clock) : Int :=
  let seconds := c.hour * 3600 + c.minute * 60 + c.second
  if seconds = 0 then 0 else (seconds * 1000000 + c.microsecond : Nat)

/-- The offset that is the whole text, which ends at a NUL behind `Z`: `Z`, or a sign and a
time. -/
def offset? : Text → Option Int
  | ['Z'] => some 0
  | 'Z' :: '\x00' :: _ => some 0
  | '+' :: rest => (wholeClock? rest).map Clock.microseconds
  | '-' :: rest => (wholeClock? rest).map fun c => -c.microseconds
  | _ => none

/-- Whether a character begins an offset. -/
def beginsOffset (c : Char) : Bool := c == '+' || c == '-' || c == 'Z'

/-- The time and the offset that are the whole text.  In front of an offset the time may be
followed by further characters. -/
def clockAndOffset? (t : Text) : Option (Clock × Option Int) :=
  let body := t.takeWhile fun c => !beginsOffset c
  match t.drop body.length with
  | [] => (wholeClock? body).map fun c => (c, none)
  | rest => do
    let (c, _) ← clock? body
    let o ← offset? rest
    return (c, some o)

/-! ## Instants -/

/-- The parts of the instant that is the whole text. -/
def parts? (t : Text) : Option (Except CalendarFault Date × Clock × Option Int) := do
  let (written, rest) ← takeDate? t
  let date ← written.resolve?
  match rest with
  | [] => return (date, { hour := 0 }, none)
  | _ :: rest =>
    let (c, o) ← clockAndOffset? rest
    return (date, c, o)

/-- The instant made of the parts; the offset is checked before the date and the time. -/
def assemble (date : Except CalendarFault Date) (c : Clock) (o : Option Int) :
    Except CalendarFault Instant := do
  let offset ← match o with
    | none => pure none
    | some n => some <$> Offset.check n
  let date ← date
  let time ← TimeOfDay.check c.hour c.minute c.second c.microsecond
  return ⟨date, time, offset⟩

/-- The instant written as the given text. -/
def read (t : Text) : Except Fault Instant :=
  match parts? t with
  | none => .error (.malformed t)
  | some (date, c, o) => (assemble date c o).mapError .range

/-- How many bytes a text takes in UTF-8. -/
def byteCount (t : Text) : Nat := t.foldl (fun n c => n + c.utf8Size) 0

/-- The date written as the given text, which holds no time.  A text of a date takes seven, eight
or ten bytes, and what stands behind the date within these does not count. -/
def readDate (t : Text) : Except Fault Date :=
  if byteCount t ∉ [7, 8, 10] then .error (.malformed t)
  else
    match (takeLoneDate? t).bind fun (written, _) => written.resolve? with
    | some date => date.mapError .range
    | none => .error (.malformed t)

end DatePattern.Iso
