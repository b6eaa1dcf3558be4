namespace SchemaDesign

/--
A JSON value. Strings whose escapes do not name characters are values without a text, and so are the names
of members. Numbers are kept as they are written.
-/
inductive Json where
  | null
  | bool (value : Bool)
  | number (digits : List Char)
  | string (text : Option String)
  | array (elements : List Json)
  | object (members : List (Option String × Json))

namespace Json

inductive StringPart where
  | char (c : Char)
  | unit (n : Nat)
deriving DecidableEq, Repr

def isHighHalf (n : Nat) : Bool := 0xD800 ≤ n && n < 0xDC00

def isLowHalf (n : Nat) : Bool := 0xDC00 ≤ n && n < 0xE000

def joinParts : List StringPart → Option (List Char)
  | [] => some []
  | .char c :: ps => (joinParts ps).map (c :: ·)
  | .unit n :: ps =>
    if isHighHalf n then
      match ps with
      | .unit m :: ps =>
        if isLowHalf m then
          (joinParts ps).map (Char.ofNat (0x10000 + (n - 0xD800) * 0x400 + (m - 0xDC00)) :: ·)
        else
          none
      | _ => none
    else if isLowHalf n then
      none
    else
      (joinParts ps).map (Char.ofNat n :: ·)

end Json

end SchemaDesign
