/-!
# Lexical rules of TOML

Blanks, comments and line ends, and the four kinds of quoted text. Every function looks at the text
that is left and gives what it read with the remainder, or nothing where the rule does not hold.
-/

namespace TemplateCodegen.Toml

/-- Space and tab. -/
def isBlank (c : Char) : Bool := c == ' ' || c == '\t'

/-- Characters that may stand in comments and, up to the delimiters, in quoted text: all but the
control characters other than the tab. -/
def isPrintable (c : Char) : Bool := c == '\t' || (0x20 ≤ c.toNat && c.toNat != 0x7F)

/-- Characters of bare keys. -/
def isBareKeyChar (c : Char) : Bool := c.isAlphanum || c == '_' || c == '-'

/-- The text behind the blanks at its beginning. -/
def skipBlanks (cs : List Char) : List Char := cs.dropWhile isBlank

/-- The text behind a line feed, which a carriage return may precede. -/
def newline? : List Char → Option (List Char)
  | '\n' :: rest => some rest
  | '\r' :: '\n' :: rest => some rest
  | _ => none

/-- The text behind the comment at its beginning, if there is one. -/
def skipComment : List Char → List Char
  | '#' :: rest => rest.dropWhile isPrintable
  | cs => cs

/-- The text behind the rest of a line, which holds blanks and a comment only; the end of the text
ends the line as well. -/
def lineEnd? (cs : List Char) : Option (List Char) :=
  match skipComment (skipBlanks cs) with
  | [] => some []
  | rest => newline? rest

/-- The text behind blanks, comments and line ends. Every round drops at least one character, so as
many rounds as there are characters are enough. -/
def skipSpace (cs : List Char) : List Char := rounds cs.length cs
where
  /-- Drop a comment, a line end or blanks in each round. -/
  rounds : Nat → List Char → List Char
    | 0, cs => cs
    | left + 1, cs =>
      match cs with
      | '#' :: rest => rounds left (rest.dropWhile isPrintable)
      | c :: rest =>
        if isBlank c then rounds left (skipBlanks rest)
        else
          match newline? cs with
          | some rest => rounds left rest
          | none => cs
      | [] => []

/-- The value of a hexadecimal digit. -/
def hexDigit? (c : Char) : Option Nat :=
  if c.isDigit then some (c.toNat - '0'.toNat)
  else if 'a' ≤ c ∧ c ≤ 'f' then some (c.toNat - 'a'.toNat + 10)
  else if 'A' ≤ c ∧ c ≤ 'F' then some (c.toNat - 'A'.toNat + 10)
  else none

/-- The number that hexadecimal digits write. -/
def hexNumber? (digits : List Char) : Option Nat :=
  digits.foldlM (fun number c => (hexDigit? c).map fun digit => number * 16 + digit) 0

/-- The character with the code point that the digits write. -/
def codePoint? (digits : List Char) : Option Char :=
  (hexNumber? digits).bind fun point =>
    if point.isValidChar then some (Char.ofNat point) else none

/-- The character that a letter behind a backslash stands for. -/
def escapedChar? : Char → Option Char
  | 'b' => some '\x08'
  | 't' => some '\t'
  | 'n' => some '\n'
  | 'f' => some '\x0c'
  | 'r' => some '\r'
  | '"' => some '"'
  | '\\' => some '\\'
  | _ => none

/-- Put a character in front of what was read. -/
def consRead (c : Char) (read : Option (List Char × List Char)) : Option (List Char × List Char) :=
  read.map fun (content, rest) => (c :: content, rest)

/-- A basic string behind its opening quote. -/
def basicString? : List Char → Option (List Char × List Char)
  | [] => none
  | '"' :: rest => some ([], rest)
  | '\\' :: 'u' :: a :: b :: c :: d :: rest =>
    (codePoint? [a, b, c, d]).bind fun point => consRead point (basicString? rest)
  | '\\' :: 'U' :: a :: b :: c :: d :: e :: f :: g :: h :: rest =>
    (codePoint? [a, b, c, d, e, f, g, h]).bind fun point => consRead point (basicString? rest)
  | '\\' :: letter :: rest =>
    (escapedChar? letter).bind fun c => consRead c (basicString? rest)
  | c :: rest => if isPrintable c && c != '\\' then consRead c (basicString? rest) else none

/-- A literal string behind its opening quote. -/
def literalString? : List Char → Option (List Char × List Char)
  | [] => none
  | '\'' :: rest => some ([], rest)
  | c :: rest => if isPrintable c then consRead c (literalString? rest) else none

/-- The end of a text in triple quotes, behind three of them: up to two more belong to the content.
-/
def closingQuotes (quote : Char) : List Char → List Char × List Char
  | one :: two :: rest =>
    if one = quote ∧ two = quote then ([quote, quote], rest)
    else if one = quote then ([quote], two :: rest)
    else ([], one :: two :: rest)
  | [one] => if one = quote then ([quote], []) else ([], [one])
  | [] => ([], [])

/-- Whether a backslash in front of the text stands at the end of its line. -/
def endsLine (cs : List Char) : Bool := (newline? (skipBlanks cs)).isSome

/-- A basic string in triple quotes, behind the opening ones. A backslash at the end of a line drops
the line end and the blanks and line ends behind it; `dropping` says that this is under way. Line
ends are read as line feeds. -/
def multilineBasic? (dropping : Bool) : List Char → Option (List Char × List Char)
  | [] => none
  | '"' :: '"' :: '"' :: rest => some (closingQuotes '"' rest)
  | '\r' :: '\n' :: rest =>
    if dropping then multilineBasic? true rest else consRead '\n' (multilineBasic? false rest)
  | '\n' :: rest =>
    if dropping then multilineBasic? true rest else consRead '\n' (multilineBasic? false rest)
  | '\\' :: 'u' :: a :: b :: c :: d :: rest =>
    (codePoint? [a, b, c, d]).bind fun point => consRead point (multilineBasic? false rest)
  | '\\' :: 'U' :: a :: b :: c :: d :: e :: f :: g :: h :: rest =>
    (codePoint? [a, b, c, d, e, f, g, h]).bind fun point =>
      consRead point (multilineBasic? false rest)
  | '\\' :: letter :: rest =>
    match escapedChar? letter with
    | some c => consRead c (multilineBasic? false rest)
    | none => if endsLine (letter :: rest) then multilineBasic? true (letter :: rest) else none
  | c :: rest =>
    if dropping && isBlank c then multilineBasic? true rest
    else if isPrintable c && c != '\\' then consRead c (multilineBasic? false rest)
    else none

/-- A literal string in triple quotes, behind the opening ones. -/
def multilineLiteral? : List Char → Option (List Char × List Char)
  | [] => none
  | '\'' :: '\'' :: '\'' :: rest => some (closingQuotes '\'' rest)
  | '\r' :: '\n' :: rest => consRead '\n' (multilineLiteral? rest)
  | '\n' :: rest => consRead '\n' (multilineLiteral? rest)
  | c :: rest => if isPrintable c then consRead c (multilineLiteral? rest) else none

/-- A quoted text of any kind. A line end right behind triple quotes is dropped. -/
def quoted? : List Char → Option (List Char × List Char)
  | '"' :: '"' :: '"' :: rest => multilineBasic? false ((newline? rest).getD rest)
  | '"' :: rest => basicString? rest
  | '\'' :: '\'' :: '\'' :: rest => multilineLiteral? ((newline? rest).getD rest)
  | '\'' :: rest => literalString? rest
  | _ => none

/-- One part of a key: bare, or quoted on one line. -/
def keyPart? : List Char → Option (String × List Char)
  | '"' :: rest => (basicString? rest).map fun (content, rest) => (String.ofList content, rest)
  | '\'' :: rest => (literalString? rest).map fun (content, rest) => (String.ofList content, rest)
  | cs =>
    match cs.takeWhile isBareKeyChar with
    | [] => none
    | name => some (String.ofList name, cs.dropWhile isBareKeyChar)

/-- The greatest number of parts of a key and of levels of nested values. -/
def nestingLimit : Nat := 79

/-- A key: parts joined by dots, blanks around each, and no more parts than the number says. -/
def key? : Nat → List Char → Option (List String × List Char)
  | 0, _ => none
  | left + 1, cs =>
    match keyPart? (skipBlanks cs) with
    | none => none
    | some (part, rest) =>
      match skipBlanks rest with
      | '.' :: rest => (key? left rest).map fun (parts, rest) => (part :: parts, rest)
      | rest => some ([part], rest)

end TemplateCodegen.Toml
