import TemplateCodegen.Datum.Basic
import TemplateCodegen.Datum.Toml.Number

/-!
# JSON texts

Reading of JSON: one value with blanks around it. Objects keep their entries in order; of several
entries of one name the last gives the value, at the place of the first. A number is whole when it
is written with digits alone; the negative zero is not. Values nest up to a fixed number of levels.
-/

namespace TemplateCodegen.Json

/-- A way to read a value from the beginning of a text. -/
abbrev ValueParser := List Char → Option (Datum × List Char)

/-- The blanks between the parts of a text. -/
def isBlank (c : Char) : Bool := c == ' ' || c == '\t' || c == '\n' || c == '\r'

/-- The text behind blanks. -/
def skipBlanks (cs : List Char) : List Char := cs.dropWhile isBlank

/-- The character that a letter behind a backslash stands for. -/
def escapedChar? (c : Char) : Option Char := if c = '/' then some '/' else Toml.escapedChar? c

/-- The code point that two units of sixteen bits stand for together. -/
def pairedPoint? (high low : Nat) : Option Char :=
  if 0xD800 ≤ high ∧ high < 0xDC00 ∧ 0xDC00 ≤ low ∧ low < 0xE000 then
    some (Char.ofNat (0x10000 + (high - 0xD800) * 0x400 + (low - 0xDC00)))
  else none

/-- The number that four digits write, and whether it is the first of two units. -/
def leadingUnit? (digits : List Char) : Option Nat :=
  (Toml.hexNumber? digits).filter fun unit => 0xD800 ≤ unit && unit < 0xDC00

/-- A string behind its opening quote. -/
def string? : List Char → Option (List Char × List Char)
  | [] => none
  | '"' :: rest => some ([], rest)
  | '\\' :: 'u' :: a :: b :: c :: d :: '\\' :: 'u' :: e :: f :: g :: h :: rest =>
    match leadingUnit? [a, b, c, d] with
    | some high =>
      ((Toml.hexNumber? [e, f, g, h]).bind (pairedPoint? high)).bind fun point =>
        Toml.consRead point (string? rest)
    | none =>
      (Toml.codePoint? [a, b, c, d]).bind fun point =>
        Toml.consRead point (string? ('\\' :: 'u' :: e :: f :: g :: h :: rest))
  | '\\' :: 'u' :: a :: b :: c :: d :: rest =>
    (Toml.codePoint? [a, b, c, d]).bind fun point => Toml.consRead point (string? rest)
  | '\\' :: letter :: rest => (escapedChar? letter).bind fun c => Toml.consRead c (string? rest)
  | c :: rest => if 0x20 ≤ c.toNat ∧ c ≠ '\\' then Toml.consRead c (string? rest) else none

/-- The characters that numbers are written with. -/
def isNumberChar (c : Char) : Bool :=
  c.isDigit || c == '-' || c == '+' || c == '.' || c == 'e' || c == 'E'

/-- Whether a text is digits, without a zero in front of others. -/
def isWhole : List Char → Bool
  | [] => false
  | '0' :: rest => rest.isEmpty
  | digits => digits.all Char.isDigit

/-- Whether a text is nothing or an exponent. -/
def isExponent : List Char → Bool
  | [] => true
  | mark :: rest =>
    let digits :=
      match rest with
      | '+' :: digits => digits
      | '-' :: digits => digits
      | digits => digits
    (mark == 'e' || mark == 'E') && !digits.isEmpty && digits.all Char.isDigit

/-- Whether a text is nothing, a fraction, an exponent, or both. -/
def isTail : List Char → Bool
  | '.' :: rest =>
    !(rest.takeWhile Char.isDigit).isEmpty && isExponent (rest.dropWhile Char.isDigit)
  | rest => isExponent rest

/-- The number that a text writes without its sign. -/
def unsigned? (isNegative : Bool) (written : List Char) : Option Datum :=
  let whole := written.takeWhile Char.isDigit
  let tail := written.dropWhile Char.isDigit
  let number := Toml.decimalNumber whole
  if !(isWhole whole && isTail tail) then none
  else if !tail.isEmpty || (isNegative && number == 0) then
    some (.float (String.ofList (if isNegative then '-' :: written else written)))
  else some (.integer (if isNegative then -(number : Int) else number))

/-- A number. -/
def number? (cs : List Char) : Option (Datum × List Char) :=
  let written := cs.takeWhile isNumberChar
  let rest := cs.dropWhile isNumberChar
  match written with
  | '-' :: written => (unsigned? true written).map fun datum => (datum, rest)
  | written => (unsigned? false written).map fun datum => (datum, rest)

/-- A value that holds no other values. -/
def scalar? : ValueParser
  | 't' :: 'r' :: 'u' :: 'e' :: rest => some (.bool true, rest)
  | 'f' :: 'a' :: 'l' :: 's' :: 'e' :: rest => some (.bool false, rest)
  | 'n' :: 'u' :: 'l' :: 'l' :: rest => some (.null, rest)
  | '"' :: rest => (string? rest).map fun (content, rest) => (.string (String.ofList content), rest)
  | cs => number? cs

/-- The items of an array up to its closing bracket, of which there is at least one. Every item
takes at least one character, so the number of rounds is bounded by the length of the text. -/
def items? (item : ValueParser) : Nat → List Char → Option (List Datum × List Char)
  | 0, _ => none
  | rounds + 1, cs =>
    match item (skipBlanks cs) with
    | none => none
    | some (datum, rest) =>
      match skipBlanks rest with
      | ',' :: rest => (items? item rounds rest).map fun (data, rest) => (datum :: data, rest)
      | ']' :: rest => some ([datum], rest)
      | _ => none

/-- A name with its value. -/
def entry? (value : ValueParser) (cs : List Char) : Option ((String × Datum) × List Char) :=
  match skipBlanks cs with
  | '"' :: rest =>
    match string? rest with
    | none => none
    | some (name, rest) =>
      match skipBlanks rest with
      | ':' :: rest =>
        (value (skipBlanks rest)).map fun (datum, rest) => ((String.ofList name, datum), rest)
      | _ => none
  | _ => none

/-- The entries of an object up to its closing brace, of which there is at least one. -/
def entries? (value : ValueParser) : Nat → List Char → Option (List (String × Datum) × List Char)
  | 0, _ => none
  | rounds + 1, cs =>
    match entry? value cs with
    | none => none
    | some (entry, rest) =>
      match skipBlanks rest with
      | ',' :: rest =>
        (entries? value rounds rest).map fun (entries, rest) => (entry :: entries, rest)
      | '}' :: rest => some ([entry], rest)
      | _ => none

/-- Enter a value under a name, in the place of an earlier one. -/
def enter (entries : List (String × Datum)) (entry : String × Datum) : List (String × Datum) :=
  if entries.any (·.1 == entry.1) then
    entries.map fun earlier => if earlier.1 == entry.1 then entry else earlier
  else entries ++ [entry]

/-- A value with at most so many levels of arrays and objects. -/
def value? : Nat → ValueParser
  | 0, cs => scalar? cs
  | levels + 1, cs =>
    match cs with
    | '[' :: rest =>
      match skipBlanks rest with
      | ']' :: rest => some (.array [], rest)
      | rest =>
        (items? (value? levels) rest.length rest).map fun (data, rest) => (.array data, rest)
    | '{' :: rest =>
      match skipBlanks rest with
      | '}' :: rest => some (.table [], rest)
      | rest =>
        (entries? (value? levels) rest.length rest).map fun (entries, rest) =>
          (.table (entries.foldl enter []), rest)
    | cs => scalar? cs

/-- The number of levels of arrays and objects that a text may have. -/
def nestingLimit : Nat := 127

/-- Read a text. None when it is not JSON. -/
def parse? (text : String) : Option Datum :=
  match value? nestingLimit (skipBlanks text.toList) with
  | some (datum, rest) => if (skipBlanks rest).isEmpty then some datum else none
  | none => none

end TemplateCodegen.Json
