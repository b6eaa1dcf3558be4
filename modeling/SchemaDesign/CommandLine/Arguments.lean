import SchemaDesign.Level
import SchemaDesign.Settings

namespace SchemaDesign.CommandLine

inductive Target where
  | logical
  | physical
  | sql
  | check
deriving DecidableEq, Repr

namespace Target

def title : Target → String
  | logical => "Logical"
  | physical => "Physical"
  | sql => "Sql"
  | check => "Check"

def ofName? : String → Option Target
  | "logical" => some logical
  | "physical" => some physical
  | "sql" => some sql
  | "check" => some check
  | _ => none

end Target

inductive Key where
  | source
  | target
  | dialect
  | strategy
  | textLength
  | config
  | output
deriving DecidableEq, Repr

def Key.ofName? : String → Option Key
  | "from" => some source
  | "to" => some target
  | "dialect" => some dialect
  | "strategy" => some strategy
  | "text-length" => some textLength
  | "config" => some config
  | "output" => some output
  | _ => none

structure Arguments where
  input : Option String
  source : Option Level
  target : Option Target
  dialect : Option Dialect
  strategy : Option InheritanceStrategy
  textLength : Option Nat
  config : Option String
  output : Option String
  verbose : Bool
deriving DecidableEq, Repr

inductive Refusal where
  | help
  | usage
deriving DecidableEq, Repr

namespace Arguments

def empty : Arguments :=
  ⟨none, none, none, none, none, none, none, none, false⟩

def once {α : Type} (old : Option α) (value : Option α) : Except Refusal (Option α) :=
  match old, value with
  | none, some value => .ok (some value)
  | _, _ => .error .usage

def fileName? (text : String) : Option String :=
  if text = "" then none else some text

def length? (text : String) : Option Nat :=
  match text.toList with
  | '+' :: digits => number? digits
  | '-' :: digits => (number? digits).filter (· = 0)
  | digits => number? digits
where
  number? (digits : List Char) : Option Nat :=
    if digits.isEmpty || !digits.all Char.isDigit then
      none
    else
      let n := digits.foldl (fun n c => 10 * n + (c.toNat - '0'.toNat)) 0
      if n < 0x100000000 then some n else none

def setInput (a : Arguments) (text : String) : Except Refusal Arguments :=
  return { a with input := ← once a.input (fileName? text) }

def setVerbose (a : Arguments) : Except Refusal Arguments :=
  if a.verbose then .error .usage else .ok { a with verbose := true }

def set (a : Arguments) (key : Key) (text : String) : Except Refusal Arguments :=
  match key with
  | .source => return { a with source := ← once a.source (Level.ofName? text) }
  | .target => return { a with target := ← once a.target (Target.ofName? text) }
  | .dialect => return { a with dialect := ← once a.dialect (Dialect.ofName? text) }
  | .strategy => return { a with strategy := ← once a.strategy (InheritanceStrategy.ofName? text) }
  | .textLength => return { a with textLength := ← once a.textLength (length? text) }
  | .config => return { a with config := ← once a.config (fileName? text) }
  | .output => return { a with output := ← once a.output (fileName? text) }

def isOption (arg : List Char) : Bool :=
  match arg with
  | '-' :: _ :: _ => true
  | _ => false

def readLetters (a : Arguments) : List Char → Except Refusal (Arguments × Option Key)
  | [] => .ok (a, none)
  | 'v' :: letters => do readLetters (← a.setVerbose) letters
  | 'h' :: _ => .error .help
  | ['o'] => .ok (a, some .output)
  | 'o' :: '=' :: value => do return (← a.set .output (String.ofList value), none)
  | 'o' :: value => do return (← a.set .output (String.ofList value), none)
  | _ => .error .usage

def readLong (a : Arguments) (text : List Char) : Except Refusal (Arguments × Option Key) := do
  let name := String.ofList (text.takeWhile (· ≠ '='))
  match text.dropWhile (· ≠ '=') with
  | [] =>
    match name with
    | "verbose" => return (← a.setVerbose, none)
    | "help" => throw .help
    | _ =>
      match Key.ofName? name with
      | some key => return (a, some key)
      | none => throw .usage
  | _ :: value =>
    match Key.ofName? name with
    | some key => return (← a.set key (String.ofList value), none)
    | none => throw .usage

def readArgs (a : Arguments) (pending : Option Key) : List String → Except Refusal Arguments
  | [] => if pending.isSome then .error .usage else .ok a
  | arg :: args =>
    match pending with
    | some key =>
      if isOption arg.toList then .error .usage
      else do readArgs (← a.set key arg) none args
    | none =>
      match arg.toList with
      -- No options come after this.
      | ['-', '-'] => args.foldlM setInput a
      | '-' :: '-' :: name => do
        let (a, pending) ← a.readLong name
        readArgs a pending args
      | '-' :: letter :: letters => do
        let (a, pending) ← a.readLetters (letter :: letters)
        readArgs a pending args
      | _ => do readArgs (← a.setInput arg) none args

def read (args : List String) : Except Refusal (String × Arguments) := do
  let a ← empty.readArgs none args
  match a.input with
  | some input => return (input, a)
  | none => throw .usage

end Arguments

end SchemaDesign.CommandLine
