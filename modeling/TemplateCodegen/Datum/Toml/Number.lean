import TemplateCodegen.Datum.Basic
import TemplateCodegen.Datum.Toml.Lexical

/-!
# Numbers and times of TOML

Values that begin with a sign or a digit: dates and times first, then numbers with a fraction or an
exponent, then whole numbers of 64 bits. Underscores may stand between digits. Only the extent of
dates and fractions matters to records, so these are kept as written.
-/

namespace TemplateCodegen.Toml

/-- Read a digit and the digits behind it, each of which an underscore may precede. -/
def digitRun? (isDigit : Char → Bool) : List Char → Option (List Char × List Char)
  | [] => none
  | c :: rest => if isDigit c then some (c :: (more rest).1, (more rest).2) else none
where
  /-- The further digits. -/
  more : List Char → List Char × List Char
    | '_' :: c :: rest =>
      if isDigit c then (c :: (more rest).1, (more rest).2) else ([], '_' :: c :: rest)
    | c :: rest => if isDigit c then (c :: (more rest).1, (more rest).2) else ([], c :: rest)
    | [] => ([], [])

/-- The number that decimal digits write. -/
def decimalNumber (digits : List Char) : Nat :=
  digits.foldl (fun number c => number * 10 + (c.toNat - '0'.toNat)) 0

/-- A sign, whether it is a minus, and the text behind it. -/
def signOf : List Char → Bool × List Char
  | '+' :: rest => (false, rest)
  | '-' :: rest => (true, rest)
  | cs => (false, cs)

/-- The digits of a decimal number without superfluous zeros in front. -/
def decimalDigits? : List Char → Option (List Char × List Char)
  | '0' :: rest => some (['0'], rest)
  | cs => digitRun? Char.isDigit cs

/-- A whole number that fits into 64 bits. -/
def fitInteger (value : Int) (rest : List Char) : Option (Datum × List Char) :=
  if Int64.minValue.toInt ≤ value ∧ value ≤ Int64.maxValue.toInt then some (.integer value, rest)
  else none

/-- A whole number in another base, behind its mark. -/
def basedInteger? (isDigit : Char → Bool) (base : Nat) (cs : List Char) :
    Option (Datum × List Char) :=
  (digitRun? isDigit cs).bind fun (digits, rest) =>
    fitInteger (digits.foldl (fun number c => number * base + (hexDigit? c).getD 0) 0 : Nat) rest

/-- A whole number: hexadecimal, octal or binary under its mark, or decimal with a sign. -/
def integer? : List Char → Option (Datum × List Char)
  | '0' :: 'x' :: rest => basedInteger? (fun c => (hexDigit? c).isSome) 16 rest
  | '0' :: 'o' :: rest => basedInteger? (fun c => '0' ≤ c && c ≤ '7') 8 rest
  | '0' :: 'b' :: rest => basedInteger? (fun c => c == '0' || c == '1') 2 rest
  | cs =>
    let (isNegative, unsigned) := signOf cs
    (decimalDigits? unsigned).bind fun (digits, rest) =>
      let size : Int := decimalNumber digits
      fitInteger (if isNegative then -size else size) rest

/-- The exponent of a number and the text behind it. -/
def exponent? : List Char → Option (Int × List Char)
  | mark :: rest =>
    if mark = 'e' ∨ mark = 'E' then
      let (isNegative, unsigned) := signOf rest
      (digitRun? Char.isDigit unsigned).map fun (digits, rest) =>
        let size : Int := decimalNumber digits
        (if isNegative then -size else size, rest)
    else none
  | [] => none

/-- Whether a decimal number, given by its digits without the point and the exponent of the last of
them, is beyond the greatest double. Sizes that are far off are told apart by the place of the first
digit, so no great power is ever computed. -/
def isBeyondDouble (digits : List Char) (exponent : Int) : Bool :=
  let significant := digits.dropWhile (· == '0')
  let place := exponent + significant.length
  if significant = [] ∨ place < 309 then false
  else if 309 < place then true
  else
    let limit := Nat.pow 2 1024 - Nat.pow 2 970
    if 0 ≤ exponent then limit ≤ decimalNumber significant * Nat.pow 10 exponent.toNat
    else limit * Nat.pow 10 (-exponent).toNat ≤ decimalNumber significant

/-- A number with a fraction, an exponent or both; a positive one that is beyond the greatest double
is refused. Also the words for infinity and for what is no number. -/
def float? (cs : List Char) : Option (Datum × List Char) :=
  let (isNegative, unsigned) := signOf cs
  match unsigned with
  | 'i' :: 'n' :: 'f' :: rest => some (.float "inf", rest)
  | 'n' :: 'a' :: 'n' :: rest => some (.float "nan", rest)
  | _ =>
    (decimalDigits? unsigned).bind fun (whole, rest) =>
      let finish (fraction : List Char) (exponent : Int) (rest : List Char) :
          Option (Datum × List Char) :=
        if !isNegative && isBeyondDouble (whole ++ fraction) (exponent - fraction.length) then none
        else some (.float (String.ofList (cs.take (cs.length - rest.length))), rest)
      match rest with
      | '.' :: rest =>
        (digitRun? Char.isDigit rest).bind fun (fraction, rest) =>
          match exponent? rest with
          | some (exponent, rest) => finish fraction exponent rest
          | none => finish fraction 0 rest
      | _ => (exponent? rest).bind fun (exponent, rest) => finish [] exponent rest

/-- A number of exactly so many digits. -/
def fixedDigits? (count : Nat) (cs : List Char) : Option (Nat × List Char) :=
  let digits := cs.take count
  if digits.length = count ∧ digits.all Char.isDigit then some (decimalNumber digits, cs.drop count)
  else none

/-- A number of two digits within bounds. -/
def twoDigits? (least greatest : Nat) (cs : List Char) : Option (Nat × List Char) :=
  (fixedDigits? 2 cs).filter fun (number, _) => least ≤ number && number ≤ greatest

/-- The text behind a given character. -/
def expect? (expected : Char) : List Char → Option (List Char)
  | c :: rest => if c = expected then some rest else none
  | [] => none

/-- The number of days of a month. -/
def daysOfMonth (year month : Nat) : Nat :=
  if month = 2 then
    if year % 4 = 0 ∧ (year % 100 ≠ 0 ∨ year % 400 = 0) then 29 else 28
  else if month = 4 ∨ month = 6 ∨ month = 9 ∨ month = 11 then 30
  else 31

/-- The text behind a date of the calendar. -/
def date? (cs : List Char) : Option (List Char) := do
  let (year, rest) ← fixedDigits? 4 cs
  let rest ← expect? '-' rest
  let (month, rest) ← twoDigits? 1 12 rest
  let rest ← expect? '-' rest
  let (_, rest) ← twoDigits? 1 (daysOfMonth year month) rest
  return rest

/-- The text behind a time of the day; a leap second is a second. -/
def time? (cs : List Char) : Option (List Char) := do
  let (_, rest) ← twoDigits? 0 23 cs
  let rest ← expect? ':' rest
  let (_, rest) ← twoDigits? 0 59 rest
  let rest ← expect? ':' rest
  let (_, rest) ← twoDigits? 0 60 rest
  match rest with
  | '.' :: c :: fraction =>
    if c.isDigit then return fraction.dropWhile Char.isDigit else return rest
  | _ => return rest

/-- The text behind an offset from universal time, which may be missing. -/
def skipOffset (cs : List Char) : List Char :=
  match cs with
  | [] => []
  | c :: rest =>
    if c = 'Z' ∨ c = 'z' then rest
    else if c = '+' ∨ c = '-' then
      let offset? : Option (List Char) := do
        let (_, rest) ← twoDigits? 0 23 rest
        let rest ← expect? ':' rest
        let (_, rest) ← twoDigits? 0 59 rest
        return rest
      offset?.getD cs
    else cs

/-- The text behind a date, a time, or both. -/
def skipDatetime? (cs : List Char) : Option (List Char) :=
  match date? cs with
  | some rest =>
    match rest with
    | c :: time =>
      if c = 'T' ∨ c = 't' ∨ c = ' ' then
        match time? time with
        | some rest => some (skipOffset rest)
        | none => some rest
      else some rest
    | [] => some []
  | none => time? cs

/-- A date, a time, or both. -/
def datetime? (cs : List Char) : Option (Datum × List Char) :=
  (skipDatetime? cs).map fun rest =>
    (.datetime (String.ofList (cs.take (cs.length - rest.length))), rest)

/-- A value that begins with a sign or a digit: the first reading that succeeds. -/
def number? (cs : List Char) : Option (Datum × List Char) :=
  (datetime? cs).or ((float? cs).or (integer? cs))

end TemplateCodegen.Toml
