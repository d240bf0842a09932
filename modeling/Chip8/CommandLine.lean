/-!
# The command line

The arguments name a program and may choose the instruction frequency, a seed and the timer policy.
They are read from left to right. The value of an option may be attached to it or follow as the
next word; such a value is looked at only when the next option, the program or the end is reached,
so an unknown option behind it is reported first.
-/

namespace Chip8
namespace CommandLine

/-- What the arguments ask to run. -/
structure Options where
  program : String
  instructionHz : Nat
  seed : Option UInt64
  freezeTimers : Bool
  deriving DecidableEq

/-- An option that takes a value. -/
inductive Setting where
  | instructionHz
  | seed
  deriving DecidableEq

/-- What is wrong with the arguments. A value is invalid if it is no number in the range of its
setting, and surplus if its option takes none. -/
inductive Problem where
  | missingProgram
  | unknown (argument : String)
  | invalidValue (setting : Setting) (value : String)
  | missingValue (setting : Setting)
  | surplusValue (name : String)
  | repeated (name : String)
  deriving DecidableEq

/-- Why the arguments do not lead to a run. A question for help or for the version ends reading
as well. -/
inductive Stop where
  | help
  | version
  | problem (problem : Problem)
  deriving DecidableEq

/-! ## Numbers -/

/-- The number that decimal digits denote. There has to be one digit. -/
def digits? : List Char → Option Nat
  | [] => none
  | digits =>
      if digits.all Char.isDigit then
        some (digits.foldl (fun value digit => 10 * value + (digit.toNat - '0'.toNat)) 0)
      else none

/-- A frequency: a 32-bit number, which may have a sign. -/
def frequency? (text : String) : Option Nat :=
  match text.toList with
  | '-' :: rest => (digits? rest).filter (· = 0)
  | '+' :: rest => (digits? rest).filter (· < UInt32.size)
  | rest => (digits? rest).filter (· < UInt32.size)

/-- A seed: a 64-bit number, which may have a plus sign. -/
def seed? (text : String) : Option UInt64 :=
  let value? :=
    match text.toList with
    | '+' :: rest => digits? rest
    | rest => digits? rest
  (value?.filter (· < UInt64.size)).map UInt64.ofNat

/-! ## Words -/

/-- An argument as it looks before its meaning is known. Behind a separator all words are plain. -/
inductive Word where
  | separator
  | long (name : String) (value : Option String)
  | short (letters : List Char)
  | plain (text : String)
  deriving DecidableEq

/-- How an argument looks. A lone hyphen is a plain word. -/
def Word.ofText (text : String) : Word :=
  match text.toList with
  | ['-', '-'] => .separator
  | '-' :: '-' :: rest =>
      let name := String.ofList (rest.takeWhile (· != '='))
      match rest.dropWhile (· != '=') with
      | [] => .long name none
      | _ :: value => .long name (some (String.ofList value))
  | '-' :: letter :: rest => .short (letter :: rest)
  | _ => .plain text

/-! ## Reading -/

/-- What was read so far. -/
structure Draft where
  program : Option String
  instructionHz : Option Nat
  seed : Option UInt64
  freezeTimers : Bool
  /-- An option whose value is still missing, or was not looked at. -/
  pending : Option (Setting × Option String)
  deriving DecidableEq

abbrev Reading := Except Stop Draft

def refuse (problem : Problem) : Reading := .error (.problem problem)

namespace Setting

def name : Setting → String
  | instructionHz => "ips"
  | seed => "seed"

end Setting

namespace Draft

def empty : Draft := ⟨none, none, none, false, none⟩

/-- Give an option its value. A second value is refused before it is looked at. -/
def assign (draft : Draft) (setting : Setting) (value : String) : Reading :=
  match setting with
  | .instructionHz =>
      if draft.instructionHz.isSome then refuse (.repeated setting.name)
      else
        match frequency? value with
        | some hz => .ok { draft with instructionHz := some hz }
        | none => refuse (.invalidValue setting value)
  | .seed =>
      if draft.seed.isSome then refuse (.repeated setting.name)
      else
        match seed? value with
        | some seed => .ok { draft with seed := some seed }
        | none => refuse (.invalidValue setting value)

/-- Look at the value of the option that is still pending. -/
def settle (draft : Draft) : Reading :=
  match draft.pending with
  | none => .ok draft
  | some (setting, none) => refuse (.missingValue setting)
  | some (setting, some value) => { draft with pending := none }.assign setting value

/-- Begin an option that takes a value, which may be attached. -/
def begin (draft : Draft) (setting : Setting) (attached : Option String) : Reading := do
  let draft ← draft.settle
  match attached with
  | some value => draft.assign setting value
  | none => .ok { draft with pending := some (setting, none) }

/-- End reading for another purpose. -/
def stopFor (draft : Draft) (stop : Stop) : Reading := do
  let _ ← draft.settle
  .error stop

def freeze (draft : Draft) : Reading := do
  let draft ← draft.settle
  if draft.freezeTimers then refuse (.repeated "freeze-timers-while-waiting")
  else .ok { draft with freezeTimers := true }

/-- An option without a value, which may have one attached by mistake. -/
def withoutValue (draft : Draft) (name : String) (value : Option String)
    (continue? : Draft → Reading) : Reading :=
  match value with
  | some _ => refuse (.surplusValue name)
  | none => continue? draft

/-- Read an option with a long name. -/
def readLong (draft : Draft) (name : String) (value : Option String) : Reading :=
  if name = "ips" then draft.begin .instructionHz value
  else if name = "seed" then draft.begin .seed value
  else if name = "freeze-timers-while-waiting" then draft.withoutValue name value freeze
  else if name = "help" then draft.withoutValue name value (·.stopFor .help)
  else if name = "version" then draft.withoutValue name value (·.stopFor .version)
  else refuse (.unknown ("--" ++ name))

/-- The value attached to a one-letter option, with or without an equals sign. -/
def attached : List Char → Option String
  | [] => none
  | '=' :: value => some (String.ofList value)
  | value => some (String.ofList value)

/-- Read a group of one-letter options. Each of them either takes the rest of the group as its
value or ends reading. -/
def readShort (draft : Draft) : List Char → Reading
  | [] => .ok draft
  | 'i' :: rest => draft.begin .instructionHz (attached rest)
  | 's' :: rest => draft.begin .seed (attached rest)
  | 'h' :: _ => draft.stopFor .help
  | 'V' :: _ => draft.stopFor .version
  | letter :: _ => refuse (.unknown (String.ofList ['-', letter]))

/-- Read a word that is not an option and not the value of one: the program. -/
def readProgram (draft : Draft) (text : String) : Reading :=
  match draft.program with
  | some _ => refuse (.unknown text)
  | none => do
      let draft ← draft.settle
      .ok { draft with program := some text }

def readPlain (draft : Draft) (text : String) : Reading :=
  match draft.pending with
  | some (setting, none) => .ok { draft with pending := some (setting, some text) }
  | _ => draft.readProgram text

/-- Read words none of which is an option or the value of one. -/
def readTail (draft : Draft) : List String → Reading
  | [] => .ok draft
  | text :: rest => do
      let draft ← draft.readProgram text
      draft.readTail rest

/-- Read the words of a command line. -/
def readWords (draft : Draft) : List String → Reading
  | [] => .ok draft
  | text :: rest =>
      match Word.ofText text with
      | .separator => draft.readTail rest
      | .long name value => do
          let draft ← draft.readLong name value
          draft.readWords rest
      | .short letters => do
          let draft ← draft.readShort letters
          draft.readWords rest
      | .plain text => do
          let draft ← draft.readPlain text
          draft.readWords rest

/-- The options that a complete command line gives. -/
def toOptions (draft : Draft) : Except Stop Options :=
  match draft.program with
  | none => .error (.problem .missingProgram)
  | some program =>
      .ok {
        program
        instructionHz := draft.instructionHz.getD 500
        seed := draft.seed
        freezeTimers := draft.freezeTimers }

end Draft

/-- Read the arguments of a command line. -/
def read (arguments : List String) : Except Stop Options := do
  let draft ← Draft.empty.readWords arguments
  let draft ← draft.settle
  draft.toOptions

/-! ## Texts -/

def Problem.message : Problem → String
  | missingProgram => "the program to run is missing"
  | unknown argument => s!"unexpected argument {argument}"
  | invalidValue setting value => s!"invalid value {value} for --{setting.name}"
  | missingValue setting => s!"a value is required for --{setting.name}"
  | surplusValue name => s!"unexpected value for --{name}"
  | repeated name => s!"--{name} cannot be used more than once"

def usage : String :=
  "Runs a CHIP-8 program in the terminal.\n\n" ++
  "Usage: chip8 [OPTIONS] <ROM>\n\n" ++
  "Options:\n" ++
  "  -i, --ips <IPS>                    Instructions per second [default: 500]\n" ++
  "  -s, --seed <SEED>                  Seed for the random number generator\n" ++
  "      --freeze-timers-while-waiting  Stop the timers while waiting for a key press\n" ++
  "  -h, --help                         Print help\n" ++
  "  -V, --version                      Print version\n"

end CommandLine
end Chip8
