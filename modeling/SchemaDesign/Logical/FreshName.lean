import SchemaDesign.Logical.Basic

namespace SchemaDesign

/--
The least number from `n` on that makes a free name when it is put behind `stem`. One more number than the
table has columns is enough to find it.
-/
def Table.freeNumber (t : Table) (stem : String) : (tries n : Nat) → Nat
  | 0, n => n
  | tries + 1, n =>
    if t.hasColumn (stem ++ "_" ++ toString n) then t.freeNumber stem tries (n + 1) else n

/--
A column name that is not taken in the table: `base`, or else `base` with the qualifier behind it unless it ends
with that already, or else the longer of them with a number behind it.
-/
def Table.freshName (t : Table) (base : String) (qualifier : Option String) : String :=
  if !t.hasColumn base then
    base
  else
    match qualifier with
    | some q =>
      if ("_" ++ q).toList.isSuffixOf base.toList then
        numbered base
      else if t.hasColumn (base ++ "_" ++ q) then
        numbered (base ++ "_" ++ q)
      else
        base ++ "_" ++ q
    | none => numbered base
where
  numbered (stem : String) : String :=
    stem ++ "_" ++ toString (t.freeNumber stem t.columns.length 2)

end SchemaDesign
