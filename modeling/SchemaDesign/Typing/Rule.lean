import SchemaDesign.Dialect
import SchemaDesign.Text.Blank
import SchemaDesign.Text.Uppercase

namespace SchemaDesign

inductive TypeKind where
  | serial
  | integer
  | reference
  | timestamp
  | date
  | money
  | float
  | boolean
  | longText
  | discriminator
  | text
deriving DecidableEq, Repr

def TypeKind.sql (kind : TypeKind) (dialect : Dialect) (textLength : Nat) : String :=
  match kind with
  | serial => "SERIAL"
  | integer => dialect.integerType
  | reference => "VARCHAR(20)"
  | timestamp => "TIMESTAMP"
  | date => "DATE"
  | money => "DECIMAL(10,2)"
  | float => "DOUBLE"
  | boolean => "BOOLEAN"
  | longText => "TEXT"
  | discriminator => "VARCHAR(50)"
  | text => "VARCHAR(" ++ toString textLength ++ ")"

structure ColumnFacts where
  name : List Char
  lower : List Char
  isKey : Bool
deriving DecidableEq, Repr

namespace ColumnFacts

def of (name : String) (isKey : Bool) : ColumnFacts :=
  ⟨name.toList, Text.lowercase name.toList, isKey⟩

def startsWith (c : ColumnFacts) (part : String) : Bool :=
  part.toList.isPrefixOf c.lower

def endsWith (c : ColumnFacts) (part : String) : Bool :=
  part.toList.isSuffixOf c.lower

def mentions (c : ColumnFacts) (part : String) : Bool :=
  Text.occursIn part.toList c.lower

/--
The name is `id` or has it as its first or last word, where `idClient` counts as two words.
-/
def isIdName (c : ColumnFacts) : Bool :=
  c.lower == "id".toList || c.startsWith "id_" || c.endsWith "_id" || isCamelCase c.name
where
  isCamelCase : List Char → Bool
    | 'i' :: 'd' :: next :: _ => Text.isUppercase next
    | _ => false

def hasStem (c : ColumnFacts) (stem : String) : Bool :=
  c.startsWith stem &&
    match c.name[stem.toList.length]? with
    | none => true
    | some next => next == '_' || Text.isUppercase next

end ColumnFacts

structure TypeRule where
  name : String
  applies : ColumnFacts → Bool
  kind : TypeKind

namespace TypeRule

def standard : List TypeRule :=
  [⟨"identifier key", fun c => c.isKey && c.isIdName, .serial⟩,
   ⟨"identifier", fun c => c.isIdName, .integer⟩,
   ⟨"reference", fun c => c.startsWith "ref_" || c.endsWith "_ref", .reference⟩,
   ⟨"timestamp", fun c =>
      c.mentions "time" || c.mentions "heure" || c.startsWith "horodatage" || c.endsWith "_at",
    .timestamp⟩,
   ⟨"date", fun c => c.startsWith "date" || c.endsWith "_date", .date⟩,
   ⟨"money", fun c =>
      ["prix", "montant", "cout", "coût", "tarif", "salaire", "price", "amount", "cost"].any c.hasStem,
    .money⟩,
   ⟨"quantity", fun c =>
      ["quantite", "quantité", "qte", "nb", "nombre", "quantity", "count"].any c.hasStem,
    .integer⟩,
   ⟨"ratio", fun c => ["taux", "ratio", "rate"].any c.hasStem, .float⟩,
   ⟨"flag", fun c => ["est_", "is_", "has_", "can_"].any c.startsWith, .boolean⟩,
   ⟨"long text", fun c =>
      ["description", "comment", "contenu", "content", "texte", "notes", "remarque"].any c.mentions,
    .longText⟩,
   ⟨"discriminator", fun c => c.lower == "type_discriminator".toList, .discriminator⟩]

end TypeRule

def TypeKind.infer (rules : List TypeRule) (c : ColumnFacts) : TypeKind :=
  match rules.find? (·.applies c) with
  | some rule => rule.kind
  | none => .text

end SchemaDesign
