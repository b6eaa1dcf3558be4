import SchemaDesign.CommandLine.Run

namespace SchemaDesign.CommandLine

def describe : IO.Error → String
  | .noFileOrDirectory _ code details
  | .inappropriateType _ code details
  | .invalidArgument _ code details
  | .permissionDenied _ code details
  | .resourceExhausted _ code details
  | .resourceBusy code details
  | .illegalOperation code details
  | .otherError code details => details ++ " (os error " ++ toString code ++ ")"
  | other => toString other

def attempt {α : Type} (action : IO α) : IO (Except String α) := do
  try
    return .ok (← action)
  catch failure =>
    return .error (describe failure)

def machine : Host IO where
  read file := attempt do
    let bytes ← (← IO.FS.Handle.mk file .read).readBinToEnd
    match String.fromUTF8? bytes with
    | some text => return text
    | none => throw (.userError "stream did not contain valid UTF-8")
  write file text := attempt (IO.FS.writeFile file text)

end SchemaDesign.CommandLine

def main (args : List String) : IO UInt32 := do
  let ending ← SchemaDesign.CommandLine.run SchemaDesign.CommandLine.machine args
  IO.eprint ending.stderr
  IO.print ending.stdout
  return ending.exitCode.toUInt32
