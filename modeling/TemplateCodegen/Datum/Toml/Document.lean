import TemplateCodegen.Datum.Toml.Layout
import TemplateCodegen.Datum.Toml.Number

/-!
# TOML documents

Documents of TOML 1.0: lines of keys with values and of headers, with blanks, comments and empty
lines between them. Values nest, in sequences and inline tables, up to a fixed number of levels.
-/

namespace TemplateCodegen.Toml

/-- A way to read a value from the beginning of a text. -/
abbrev ValueParser := List Char → Option (Datum × List Char)

/-- The items of a sequence up to its closing bracket, with blanks, comments and line ends around
them and an optional comma behind the last. Every item takes at least one character, so the number
of rounds is bounded by the length of the text. -/
def arrayItems (item : ValueParser) : Nat → List Char → Option (List Datum × List Char)
  | 0, _ => none
  | rounds + 1, cs =>
    match skipSpace cs with
    | ']' :: rest => some ([], rest)
    | cs =>
      match item cs with
      | none => none
      | some (datum, rest) =>
        match skipSpace rest with
        | ',' :: rest => (arrayItems item rounds rest).map fun (data, rest) => (datum :: data, rest)
        | ']' :: rest => some ([datum], rest)
        | _ => none

/-- A key with its value. -/
def pair? (value : ValueParser) (cs : List Char) : Option (Pair × List Char) :=
  match key? nestingLimit cs with
  | none => none
  | some (parts, rest) =>
    match parts.getLast?, rest with
    | some key, '=' :: rest =>
      (value (skipBlanks rest)).map fun (datum, rest) => (⟨parts.dropLast, key, datum⟩, rest)
    | _, _ => none

/-- The pairs of an inline table up to its closing brace, of which there is at least one. -/
def inlinePairs (value : ValueParser) : Nat → List Char → Option (List Pair × List Char)
  | 0, _ => none
  | rounds + 1, cs =>
    match pair? value cs with
    | none => none
    | some (pair, rest) =>
      match skipBlanks rest with
      | ',' :: rest =>
        (inlinePairs value rounds rest).map fun (pairs, rest) => (pair :: pairs, rest)
      | '}' :: rest => some ([pair], rest)
      | _ => none

/-- An inline table behind its opening brace. -/
def inlineTable? (value : ValueParser) (cs : List Char) : Option (Datum × List Char) :=
  match skipBlanks cs with
  | '}' :: rest => some (.table [], rest)
  | cs =>
    match inlinePairs value cs.length cs with
    | none => none
    | some (pairs, rest) =>
      (enterPairs pairs []).map fun entries => (.table (datumEntries entries), rest)

/-- A value that holds no other values. -/
def scalar? : ValueParser
  | 't' :: 'r' :: 'u' :: 'e' :: rest => some (.bool true, rest)
  | 'f' :: 'a' :: 'l' :: 's' :: 'e' :: rest => some (.bool false, rest)
  | 'i' :: 'n' :: 'f' :: rest => some (.float "inf", rest)
  | 'n' :: 'a' :: 'n' :: rest => some (.float "nan", rest)
  | c :: rest =>
    if c = '"' ∨ c = '\'' then
      (quoted? (c :: rest)).map fun (content, rest) => (.string (String.ofList content), rest)
    else if c = '+' ∨ c = '-' ∨ c.isDigit then number? (c :: rest)
    else none
  | [] => none

/-- A value with at most so many levels of sequences and inline tables. -/
def value? : Nat → ValueParser
  | 0, cs => scalar? cs
  | levels + 1, cs =>
    match cs with
    | '[' :: rest =>
      (arrayItems (value? levels) (rest.length + 1) rest).map fun (data, rest) =>
        (.array data, rest)
    | '{' :: rest => inlineTable? (value? levels) rest
    | cs => scalar? cs

/-- A line of a document that is not empty. -/
inductive Line where
  | pair (pair : Pair)
  | header (isRepeated : Bool) (path : List String) (key : String)

/-- The header behind its opening brackets and the text behind the closing ones. -/
def header? (isRepeated : Bool) (cs : List Char) : Option (Line × List Char) :=
  match key? nestingLimit cs with
  | none => none
  | some (parts, rest) =>
    match parts.getLast?, isRepeated, rest with
    | some key, false, ']' :: rest => some (.header false parts.dropLast key, rest)
    | some key, true, ']' :: ']' :: rest => some (.header true parts.dropLast key, rest)
    | _, _, _ => none

/-- A header or a pair at the beginning of a text. -/
def line? : List Char → Option (Line × List Char)
  | '[' :: '[' :: rest => header? true rest
  | '[' :: rest => header? false rest
  | cs => (pair? (value? nestingLimit) cs).map fun (pair, rest) => (.pair pair, rest)

/-- The lines of a text. Every line takes at least one character, so the number of rounds is bounded
by the length of the text. -/
def lines? : Nat → List Char → Option (List Line)
  | 0, _ => none
  | rounds + 1, cs =>
    match skipBlanks cs with
    | [] => some []
    | '#' :: rest => (lineEnd? ('#' :: rest)).bind (lines? rounds)
    | cs =>
      match newline? cs with
      | some rest => lines? rounds rest
      | none =>
        match line? cs with
        | none => none
        | some (line, rest) =>
          match lineEnd? rest with
          | none => none
          | some rest => (lines? rounds rest).map (line :: ·)

/-- The pairs in front of the first header, and the blocks of the headers. -/
def groupLines : List Line → List Pair × List Block
  | [] => ([], [])
  | .pair pair :: rest => (pair :: (groupLines rest).1, (groupLines rest).2)
  | .header isRepeated path key :: rest =>
    ([], ⟨isRepeated, path, key, (groupLines rest).1⟩ :: (groupLines rest).2)

/-- Read a document; a byte order mark in front does not count. None when the text is not TOML. -/
def parse? (text : String) : Option Datum :=
  let cs :=
    match text.toList with
    | '\uFEFF' :: rest => rest
    | cs => cs
  (lines? (cs.length + 1) cs).bind fun lines =>
    let (pairs, blocks) := groupLines lines
    (assemble pairs blocks).map fun entries => .table (datumEntries entries)

end TemplateCodegen.Toml
