import SchemaDesign.Dialect
import SchemaDesign.Text.Blank

namespace SchemaDesign

open Text

def isSerial (sqlType : String) : Bool :=
  spells (trim sqlType.toList) "SERIAL" || spells (trim sqlType.toList) "BIGSERIAL"

def serialBase (sqlType : String) (dialect : Dialect) : String :=
  if spells (trim sqlType.toList) "BIGSERIAL" then "BIGINT" else dialect.integerType

def plainType (sqlType : String) (dialect : Dialect) : String :=
  if isSerial sqlType then serialBase sqlType dialect else sqlType

end SchemaDesign
