import SchemaDesign.Text.Lowercase

namespace SchemaDesign

inductive Dialect where
  | mysql
  | mariadb
  | postgresql
deriving DecidableEq, Repr

namespace Dialect

def name : Dialect → String
  | mysql => "mysql"
  | mariadb => "mariadb"
  | postgresql => "postgresql"

def ofExactName? : String → Option Dialect
  | "mysql" => some mysql
  | "mariadb" => some mariadb
  | "postgresql" => some postgresql
  | "postgres" => some postgresql
  | _ => none

def ofName? (name : String) : Option Dialect :=
  ofExactName? (String.ofList (Text.lowercase name.toList))

def title : Dialect → String
  | mysql => "MySQL"
  | mariadb => "MariaDB"
  | postgresql => "PostgreSQL"

def usesBackticks : Dialect → Bool
  | mysql | mariadb => true
  | postgresql => false

def quoteChar (d : Dialect) : Char :=
  if d.usesBackticks then '\x60' else '"'

def quote (d : Dialect) (name : String) : String :=
  let q := d.quoteChar
  String.ofList (q :: name.toList.flatMap (fun c => if c = q then [q, q] else [c]) ++ [q])

def integerType (d : Dialect) : String :=
  if d.usesBackticks then "INT" else "INTEGER"

def tableTrailer (d : Dialect) : String :=
  if d.usesBackticks then " ENGINE=InnoDB DEFAULT CHARSET=utf8mb4" else ""

end Dialect

end SchemaDesign
