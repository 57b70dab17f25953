import ChunkGraph.Text.Search

/-!
# Arguments of a command line

An argument that begins with a dash and is longer than that is an option; all
others are operands. The value of an option is the rest of the argument, behind
an equals sign if the name is a long one, or else the next argument, whatever it
looks like. Short options may share one dash. Two dashes on their own make
operands of all arguments behind them.

## Main definitions

* `Flag` — an option that a command knows.
* `Parsed` — options and operands in the order in which they stand.
* `parse?` — the options and operands of arguments, if all options are known.
-/

namespace ChunkGraph.CommandLine

/-- An option. -/
structure Flag where
  /-- The name under which it is looked up. -/
  key : String
  /-- The long names, with their dashes. -/
  long : List String
  /-- The letters of the short names. -/
  short : List Char := []
  /-- A value follows. -/
  takesValue : Bool := true
  deriving DecidableEq, Repr

/-- What arguments say. -/
structure Parsed where
  /-- Options with their values. -/
  options : List (String × String) := []
  /-- Operands. -/
  operands : List String := []
  deriving DecidableEq, Repr

namespace Parsed

/-- The arguments with one more operand in front. -/
def withOperand (operand : String) (p : Parsed) : Parsed :=
  { p with operands := operand :: p.operands }

/-- The values of an option. -/
def values (p : Parsed) (key : String) : List String :=
  (p.options.filter (·.1 == key)).map (·.2)

/-- The value of an option that counts, the last one. -/
def value? (p : Parsed) (key : String) : Option String := (p.values key).getLast?

/-- The option is there. -/
def has (p : Parsed) (key : String) : Bool := p.options.any (·.1 == key)

end Parsed

/-- What an argument says about options. -/
inductive Reading where
  /-- Options with their values, all in this argument. -/
  | done (options : List (String × String))
  /-- Options of which the last takes the next argument as its value. -/
  | wants (options : List (String × String)) (key : String)
  /-- It is not understood. -/
  | unknown
  deriving DecidableEq, Repr

/-- The reading of an argument as a long option with or without a value. -/
def readLong (flag : Flag) (value : Option String) : Reading :=
  match flag.takesValue, value with
  | true, some value => .done [(flag.key, value)]
  | true, none => .wants [] flag.key
  | false, some _ => .unknown
  | false, none => .done [(flag.key, "")]

/-- The reading of the letters of short options. -/
def readShort (flags : List Flag) : List Char → Reading
  | [] => .done []
  | c :: rest =>
      match flags.find? (·.short.contains c) with
      | none => .unknown
      | some flag =>
          if flag.takesValue then
            if rest.isEmpty then .wants [] flag.key
            else .done [(flag.key, String.ofList rest)]
          else
            match readShort flags rest with
            | .done options => .done ((flag.key, "") :: options)
            | .wants options key => .wants ((flag.key, "") :: options) key
            | .unknown => .unknown

/-- The reading of an argument that is an option. -/
def readOption (flags : List Flag) (argument : String) : Reading :=
  let (name, value) := match Text.cutAtFirst '=' argument.toList with
    | some (name, value) => (String.ofList name, some (String.ofList value))
    | none => (argument, none)
  match flags.find? (·.long.contains name) with
  | some flag => readLong flag value
  | none =>
      match argument.toList with
      | '-' :: '-' :: _ => .unknown
      | _ :: letters => readShort flags letters
      | [] => .unknown

/-- The argument is an option. -/
def isOption (argument : String) : Bool :=
  argument.toList.head? == some '-' && argument != "-"

/-- The options and operands of arguments; without `mixed`, all arguments from the first operand on
are operands. -/
def parse? (flags : List Flag) (mixed : Bool) : List String → Option Parsed
  | [] => some {}
  | argument :: rest =>
      if argument == "--" then some { operands := rest }
      else if isOption argument then
        match readOption flags argument, rest with
        | .unknown, _ => none
        | .done options, rest =>
            (parse? flags mixed rest).map fun p => { p with options := options ++ p.options }
        | .wants _ _, [] => none
        | .wants options key, value :: rest =>
            (parse? flags mixed rest).map fun p =>
              { p with options := options ++ (key, value) :: p.options }
      else if mixed then (parse? flags mixed rest).map (·.withOperand argument)
      else some { operands := argument :: rest }

end ChunkGraph.CommandLine
