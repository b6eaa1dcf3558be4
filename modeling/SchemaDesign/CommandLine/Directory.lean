import SchemaDesign.CommandLine.Run

/-!
This module contains a directory of text files as a value, on which the program can be run. A path is followed one
step after another, and it may leave the directory: nothing is known about what lies outside, apart from the
directories that lead there.
-/

namespace SchemaDesign.CommandLine

structure Directory where
  files : List (List String × String)
deriving DecidableEq, Repr

inductive Place where
  | inside (path : List String)
  | outside
deriving DecidableEq, Repr

namespace Place

def start (path : String) : Place :=
  if path.toList.head? = some '/' then outside else inside []

def parent : Place → Place
  | inside [] => outside
  | inside path => inside path.dropLast
  | outside => outside

end Place

namespace Directory

def steps (path : String) : List String :=
  ((path.toList.splitOn '/').map String.ofList).filter (· ≠ "")

def endsInSlash (path : String) : Bool :=
  path.toList.getLast? = some '/'

def ofFiles (files : List (String × String)) : Directory :=
  ⟨files.map fun (path, text) => (steps path, text)⟩

def isFile (d : Directory) (path : List String) : Bool :=
  d.files.any (·.1 = path)

def isDirectory (d : Directory) (path : List String) : Bool :=
  path.isEmpty || d.files.any fun (file, _) => path.isPrefixOf file && file ≠ path

def noSuchFile : String := "No such file or directory (os error 2)"

def notADirectory : String := "Not a directory (os error 20)"

def isADirectory : String := "Is a directory (os error 21)"

def nameTooLong : String := "File name too long (os error 36)"

def child (d : Directory) (name : String) : Place → Except String Place
  | .inside path =>
    if d.isFile (path ++ [name]) || d.isDirectory (path ++ [name]) then
      .ok (.inside (path ++ [name]))
    else
      .error noSuchFile
  | .outside => .error noSuchFile

def enter (d : Directory) : Place → Except String Unit
  | .inside path => if d.isDirectory path then .ok () else .error notADirectory
  | .outside => .ok ()

def checkName (name : String) : Except String Unit :=
  if name.utf8ByteSize ≤ 255 then .ok () else .error nameTooLong

def follow (d : Directory) (place : Place) (step : String) : Except String Place := do
  d.enter place
  match step with
  | "." => return place
  | ".." => return place.parent
  | name => do
    checkName name
    d.child name place

def walk (d : Directory) (path : String) (steps : List String) : Except String Place :=
  if path.utf8ByteSize < 4096 then steps.foldlM d.follow (.start path) else .error nameTooLong

def nullDevice : String := "/dev/null"

def read (d : Directory) (path : String) : Except String String := do
  if path = nullDevice then
    return ""
  match ← d.walk path (steps path ++ if endsInSlash path then ["."] else []) with
  | .outside => throw isADirectory
  | .inside file =>
    match d.files.lookup file with
    | some text => return text
    | none => throw isADirectory

def put (d : Directory) (file : List String) (text : String) : Directory :=
  if d.isFile file then ⟨d.files.map fun (f, old) => if f = file then (f, text) else (f, old)⟩
  else ⟨d.files ++ [(file, text)]⟩

def write (d : Directory) (path text : String) : Except String Directory := do
  if path = nullDevice then
    return d
  let place ← d.walk path (steps path).dropLast
  d.enter place
  match (steps path).getLast? with
  | none | some "." | some ".." => throw isADirectory
  | some name =>
    if endsInSlash path then
      throw isADirectory
    checkName name
    match place with
    -- What is written outside is not kept.
    | .outside => return d
    | .inside parent =>
      if d.isDirectory (parent ++ [name]) then throw isADirectory
      else return d.put (parent ++ [name]) text

def changes (d old : Directory) : List (String × String) :=
  (d.files.filter fun (file, text) => old.files.lookup file ≠ some text).map fun (file, text) =>
    ("/".intercalate file, text)

def host : Host (StateM Directory) where
  read path := return (← get).read path
  write path text := do
    match (← get).write path text with
    | .error reason => return .error reason
    | .ok d => do
      set d
      return .ok ()

end Directory

def runIn (d : Directory) (args : List String) : Ending × Directory :=
  (run Directory.host args).run d

end SchemaDesign.CommandLine
