import SchemaDesign.Diagnostic
import SchemaDesign.Document.Item
import SchemaDesign.Logical.Basic

namespace SchemaDesign.Document

open Text

inductive Flag where
  | primaryKey
  | derived
  | foreignKey (reference : ForeignKey)
  | notNull
  | unique
  | check (expression : String)
  | other (text : String)
deriving DecidableEq, Repr

structure FlagReading where
  warnings : List Issue
  result : Except Issue Flag

def afterKeyword? (keyword : String) (text : List Char) : Option (List Char) :=
  let size := keyword.toList.length
  if spells (text.take size) keyword then
    let rest := text.drop size
    match rest with
    | [] => some rest
    | c :: _ => if isWordChar c then none else some rest
  else
    none

def isOn (word : List Char) : Bool :=
  spells word "ON"

/--
Read clauses `ON event action` into a reference, where the words of an action end before the next `ON`. An
unknown action is left unset with a warning. A clause of an unknown event, or one that is incomplete,
spoils the whole reference.
-/
def readClauses (reference : ForeignKey) (ws : List (List Char)) :
    List Issue × Option ForeignKey :=
  match ws with
  | [] => ([], some reference)
  | on :: event :: rest =>
    if isOn on then
      let actionWords := rest.takeWhile (!isOn ·)
      let action := ReferentialAction.ofText? (unwords actionWords)
      let warnings := match action with
        | some _ => []
        | none => [.unknownReferentialAction (String.ofList (unwords actionWords))]
      -- Clauses may be repeated, and then the last one counts.
      let (later, result) :=
        if spells event "DELETE" then
          readClauses { reference with onDelete := action } (rest.dropWhile (!isOn ·))
        else if spells event "UPDATE" then
          readClauses { reference with onUpdate := action } (rest.dropWhile (!isOn ·))
        else
          ([], none)
      (warnings ++ later, result)
    else
      ([], none)
  | _ => ([], none)
termination_by ws.length
decreasing_by
  all_goals
    have := (List.dropWhile_suffix (!isOn ·) (l := rest)).length_le
    simp only [List.length_cons]
    omega

def dropArrow : List Char → List Char
  | '-' :: '>' :: rest => rest
  | text => text

/--
Read `-> Table.column ON DELETE action ON UPDATE action` as a reference of `column`. The arrow may be left
out, and so may the clauses, which may also be repeated: the last one counts.
-/
def readReference (column : String) (text : List Char) : List Issue × Option ForeignKey :=
  match words (dropArrow text) with
  | [] => ([], none)
  | target :: clauses =>
    match cut (· = '.') target with
    | none => ([], none)
    | some (table, referenced) =>
      if isIdentifier table && isIdentifier referenced then
        readClauses (.plain column (String.ofList table) (String.ofList referenced)) clauses
      else
        ([], none)

def enclosed? : List Char → Option (List Char)
  | '(' :: rest => (dropLast? ')' rest).map trim |>.filter (!·.isEmpty)
  | _ => none

def readFlag (column : String) (text : List Char) : FlagReading :=
  let ws := (words text).map fun w => String.ofList (upcase w)
  if ws = ["PK"] then
    ⟨[], .ok .primaryKey⟩
  else if ws = ["DERIVED"] then
    ⟨[], .ok .derived⟩
  else if ws = ["UNIQUE"] then
    ⟨[], .ok .unique⟩
  else if ws = ["NOT", "NULL"] then
    ⟨[], .ok .notNull⟩
  else if let some rest := afterKeyword? "FK" text then
    let rest := trim rest
    match readReference column rest with
    | (warnings, some reference) => ⟨warnings, .ok (.foreignKey reference)⟩
    | (warnings, none) => ⟨warnings, .error (.malformedItem ("FK " ++ String.ofList rest))⟩
  else if let some rest := afterKeyword? "CHECK" text then
    match enclosed? (trim rest) with
    | some expression => ⟨[], .ok (.check (String.ofList expression))⟩
    | none => ⟨[], .error (.malformedItem (String.ofList text))⟩
  else
    ⟨[], .ok (.other (String.ofList text))⟩

end SchemaDesign.Document
