import SchemaDesign.Json.Basic

/-!
This module contains the reader of JSON documents. It takes what the format allows and nothing else: no
comments, no commas at the end of a list, no numbers with leading zeros.
-/

namespace SchemaDesign.Json

abbrev Read (α : Type) := Option (α × List Char)

def isSpace (c : Char) : Bool :=
  c == ' ' || c == '\n' || c == '\t' || c == '\r'

def skipSpace (cs : List Char) : List Char :=
  cs.dropWhile isSpace

def hexDigit? (c : Char) : Option Nat :=
  if c.isDigit then some (c.toNat - '0'.toNat)
  else if 'a' ≤ c && c ≤ 'f' then some (c.toNat - 'a'.toNat + 10)
  else if 'A' ≤ c && c ≤ 'F' then some (c.toNat - 'A'.toNat + 10)
  else none

def hexNumber? (cs : List Char) : Option Nat :=
  cs.foldlM (fun n c => (hexDigit? c).map (16 * n + ·)) 0

def escaped? : Char → Option Char
  | '"' => some '"'
  | '\\' => some '\\'
  | '/' => some '/'
  | 'b' => some '\x08'
  | 'f' => some '\x0c'
  | 'n' => some '\n'
  | 'r' => some '\r'
  | 't' => some '\t'
  | _ => none

def readParts : List Char → Read (List StringPart)
  | [] => none
  | '"' :: rest => some ([], rest)
  | '\\' :: 'u' :: a :: b :: c :: d :: rest =>
    match hexNumber? [a, b, c, d] with
    | some n => (readParts rest).map fun (ps, rest) => (.unit n :: ps, rest)
    | none => none
  | '\\' :: c :: rest =>
    match escaped? c with
    | some c => (readParts rest).map fun (ps, rest) => (.char c :: ps, rest)
    | none => none
  | c :: rest =>
    if c.toNat < 0x20 || c = '\\' then none
    else (readParts rest).map fun (ps, rest) => (.char c :: ps, rest)

def readString (cs : List Char) : Read (Option String) :=
  (readParts cs).map fun (ps, rest) => ((joinParts ps).map String.ofList, rest)

def readDigits (cs : List Char) : Read (List Char) :=
  match cs.takeWhile Char.isDigit with
  | [] => none
  | digits => some (digits, cs.dropWhile Char.isDigit)

def readWhole : List Char → Read (List Char)
  | '0' :: c :: rest => if c.isDigit then none else some (['0'], c :: rest)
  | cs => readDigits cs

def readFraction : List Char → Read (List Char)
  | '.' :: rest => (readDigits rest).map fun (digits, rest) => ('.' :: digits, rest)
  | cs => some ([], cs)

def readExponent : List Char → Read (List Char)
  | c :: rest =>
    if c = 'e' || c = 'E' then
      match rest with
      | '+' :: rest => (readDigits rest).map fun (digits, rest) => (c :: '+' :: digits, rest)
      | '-' :: rest => (readDigits rest).map fun (digits, rest) => (c :: '-' :: digits, rest)
      | _ => (readDigits rest).map fun (digits, rest) => (c :: digits, rest)
    else
      some ([], c :: rest)
  | [] => some ([], [])

def readNumber (cs : List Char) : Option (Json × List Char) := do
  let (sign, cs) := match cs with
    | '-' :: rest => (['-'], rest)
    | _ => ([], cs)
  let (whole, cs) ← readWhole cs
  let (fraction, cs) ← readFraction cs
  let (exponent, cs) ← readExponent cs
  return (.number (sign ++ whole ++ fraction ++ exponent), cs)

def readWord (word : String) (value : Json) (cs : List Char) : Read Json :=
  if word.toList.isPrefixOf cs then some (value, cs.drop word.toList.length) else none

mutual

def readValue : (depth : Nat) → List Char → Read Json
  | 0, _ => none
  | depth + 1, cs =>
    match skipSpace cs with
    | '"' :: rest => (readString rest).map fun (text, rest) => (.string text, rest)
    | '[' :: rest =>
      match skipSpace rest with
      | ']' :: rest => some (.array [], rest)
      | _ => (readElements depth rest).map fun (elements, rest) => (.array elements, rest)
    | '\x7b' :: rest =>
      match skipSpace rest with
      | '\x7d' :: rest => some (.object [], rest)
      | _ => (readMembers depth rest).map fun (members, rest) => (.object members, rest)
    | 't' :: rest => readWord "true" (.bool true) ('t' :: rest)
    | 'f' :: rest => readWord "false" (.bool false) ('f' :: rest)
    | 'n' :: rest => readWord "null" .null ('n' :: rest)
    | cs => readNumber cs

def readElements : (depth : Nat) → List Char → Read (List Json)
  | 0, _ => none
  | depth + 1, cs =>
    match readValue depth cs with
    | none => none
    | some (element, rest) =>
      match skipSpace rest with
      | ']' :: rest => some ([element], rest)
      | ',' :: rest =>
        (readElements depth rest).map fun (elements, rest) => (element :: elements, rest)
      | _ => none

def readMembers : (depth : Nat) → List Char → Read (List (Option String × Json))
  | 0, _ => none
  | depth + 1, cs =>
    match skipSpace cs with
    | '"' :: rest =>
      match readString rest with
      | none => none
      | some (name, rest) =>
        match skipSpace rest with
        | ':' :: rest =>
          match readValue depth rest with
          | none => none
          | some (value, rest) =>
            match skipSpace rest with
            | '\x7d' :: rest => some ([(name, value)], rest)
            | ',' :: rest =>
              (readMembers depth rest).map fun (members, rest) => ((name, value) :: members, rest)
            | _ => none
        | _ => none
    | _ => none

end

def read (text : String) : Option Json :=
  let cs := text.toList
  -- A character leads at most two steps deeper.
  match readValue (2 * cs.length + 2) cs with
  | some (value, rest) => if (skipSpace rest).isEmpty then some value else none
  | none => none

end SchemaDesign.Json
