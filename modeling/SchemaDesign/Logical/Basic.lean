import SchemaDesign.Text.Blank

namespace SchemaDesign

inductive ReferentialAction where
  | cascade
  | setNull
  | setDefault
  | restrict
  | noAction
deriving DecidableEq, Repr

namespace ReferentialAction

def all : List ReferentialAction :=
  [cascade, setNull, setDefault, restrict, noAction]

def sql : ReferentialAction → String
  | cascade => "CASCADE"
  | setNull => "SET NULL"
  | setDefault => "SET DEFAULT"
  | restrict => "RESTRICT"
  | noAction => "NO ACTION"

def ofText? (text : List Char) : Option ReferentialAction :=
  all.find? fun action => action.sql.toList == Text.unwords (Text.words (Text.upcase text))

end ReferentialAction

structure ForeignKey where
  source : String
  table : String
  column : String
  onDelete : Option ReferentialAction
  onUpdate : Option ReferentialAction
deriving DecidableEq, Repr

def ForeignKey.plain (source table column : String) : ForeignKey :=
  ⟨source, table, column, none, none⟩

structure Column where
  name : String
  isKey : Bool
  reference : Option ForeignKey
deriving DecidableEq, Repr

namespace Column

def plain (name : String) : Column :=
  ⟨name, false, none⟩

def referring (name table column : String) : Column :=
  ⟨name, false, some (.plain name table column)⟩

def keyReferring (name table column : String) : Column :=
  ⟨name, true, some (.plain name table column)⟩

end Column

structure Table where
  name : String
  columns : List Column
deriving DecidableEq, Repr

namespace Table

def column? (t : Table) (name : String) : Option Column :=
  t.columns.find? (·.name = name)

def hasColumn (t : Table) (name : String) : Bool :=
  t.columns.any (·.name = name)

def keys (t : Table) : List Column :=
  t.columns.filter (·.isKey)

def references (t : Table) : List ForeignKey :=
  t.columns.filterMap (·.reference)

def append (t : Table) (c : Column) : Table :=
  { t with columns := t.columns ++ [c] }

end Table

structure LogicalModel where
  tables : List Table
deriving DecidableEq, Repr

namespace LogicalModel

def empty : LogicalModel := ⟨[]⟩

def table? (m : LogicalModel) (name : String) : Option Table :=
  m.tables.find? (·.name = name)

def hasTable (m : LogicalModel) (name : String) : Bool :=
  m.tables.any (·.name = name)

end LogicalModel

end SchemaDesign
