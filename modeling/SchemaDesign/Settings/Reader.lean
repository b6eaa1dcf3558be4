import SchemaDesign.Json.Reader
import SchemaDesign.Settings

namespace SchemaDesign

def Json.choice? {α : Type} (ofName : String → Option α) : Json → Option α
  | .string (some name) => ofName name
  | .object [(some name, .null)] => ofName name
  | _ => none

def Json.word? : Json → Option Nat
  | .number digits =>
    if digits.all Char.isDigit then
      let n := digits.foldl (fun n c => 10 * n + (c.toNat - '0'.toNat)) 0
      if n < 0x100000000 then some n else none
    else
      none
  | _ => none

namespace Settings

def one? {α : Type} (decode : Json → Option α) (standard : α) : List Json → Option α
  | [] => some standard
  | [value] => decode value
  | _ => none

def ofValues? (inheritance dialect textLength : List Json) : Option Settings := do
  let inheritance ←
    one? (Json.choice? InheritanceStrategy.ofExactName?) standard.inheritance inheritance
  let dialect ← one? (Json.choice? Dialect.ofExactName?) standard.dialect dialect
  let textLength ← one? Json.word? standard.textLength textLength
  return ⟨inheritance, dialect, textLength⟩

def ofJson? : Json → Option Settings
  | .object members =>
    if members.all (·.1.isSome) then
      let values name := (members.filter (·.1 = some name)).map (·.2)
      ofValues? (values "inheritance") (values "dialect") (values "text_length")
    else
      none
  | .array elements =>
    if elements.length ≤ 3 then
      ofValues? elements[0]?.toList elements[1]?.toList elements[2]?.toList
    else
      none
  | _ => none

/--
Read settings. They are an object whose members may be left out, stand in any order and be mixed with others, or
an array of their values in order, of which the last ones may be left out.
-/
def read (text : String) : Option Settings :=
  (Json.read text).bind ofJson?

end Settings

end SchemaDesign
