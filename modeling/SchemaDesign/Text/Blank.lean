namespace SchemaDesign.Text

/--
The characters of any script that separate words: spaces of all widths, tabs and line breaks.
The zero width space and the byte order mark are not among them.
-/
def blanks : List Char :=
  ['\t', '\n', '\x0b', '\x0c', '\r', ' ', '\u0085', '\u00a0', '\u1680', '\u2000', '\u2001', '\u2002',
   '\u2003', '\u2004', '\u2005', '\u2006', '\u2007', '\u2008', '\u2009', '\u200a', '\u2028', '\u2029',
   '\u202f', '\u205f', '\u3000']

def isBlank (c : Char) : Bool :=
  blanks.contains c

def trimStart (cs : List Char) : List Char :=
  cs.dropWhile isBlank

def trimEnd (cs : List Char) : List Char :=
  (cs.reverse.dropWhile isBlank).reverse

def trim (cs : List Char) : List Char :=
  trimEnd (trimStart cs)

def words (cs : List Char) : List (List Char) :=
  (cs.splitOnP isBlank).filter (!·.isEmpty)

def lines (cs : List Char) : List (List Char) :=
  -- A carriage return before the line break is a blank, and goes with the other ones.
  ((cs.splitOn '\n').map trim).filter (!·.isEmpty)

def cut (p : Char → Bool) : List Char → Option (List Char × List Char)
  | [] => none
  | c :: cs => if p c then some ([], cs) else (cut p cs).map fun (before, after) => (c :: before, after)

def dropLast? (c : Char) (cs : List Char) : Option (List Char) :=
  if cs.getLast? = some c then some cs.dropLast else none

def unwords (ws : List (List Char)) : List Char :=
  [' '].intercalate ws

def upcase (cs : List Char) : List Char :=
  cs.map Char.toUpper

def spells (cs : List Char) (keyword : String) : Bool :=
  upcase cs == keyword.toList

def occursIn (part : List Char) : List Char → Bool
  | [] => part.isEmpty
  | c :: cs => part.isPrefixOf (c :: cs) || occursIn part cs

end SchemaDesign.Text
