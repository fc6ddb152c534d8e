import Session.Text.Terminal

set_option autoImplicit false

/-! # Options of the command

`--config` names a configuration file and `--bind` an address; both have a letter, and a value
that follows as the next argument, behind `=`, or right behind the letter. The next argument is no
value if it begins with a hyphen, unless it is nothing but a hyphen. `--help` asks for help.

An option that waits for its value is judged when the next option is read, or at the end. So a
value that is missing, empty or given twice is reported before anything that comes later, except
an argument that is not known at all.
-/

namespace Session.Command

/-- An option with a value. -/
inductive Switch
  | config
  | bind
deriving DecidableEq, Repr

def Switch.label : Switch → String
  | config => "--config <CONFIG>"
  | bind => "--bind <BIND>"

structure Options where
  config : Option String := none
  bind : Option String := none
deriving DecidableEq, Repr

inductive UsageError
  | unexpected (argument : String)
  | missingValue (switch : Switch)
  | repeated (switch : Switch)
  /-- A value for `--help`, which takes none. -/
  | valueForHelp (value : String)
deriving DecidableEq, Repr

/-- The sentence that tells the error. What was given is shown without styles. -/
def UsageError.message : UsageError → String
  | unexpected a => "unexpected argument '" ++ Text.Terminal.plain a ++ "' found"
  | missingValue s => "a value is required for '" ++ s.label ++ "' but none was supplied"
  | repeated s => "the argument '" ++ s.label ++ "' cannot be used multiple times"
  | valueForHelp v => "unexpected value '" ++ Text.Terminal.plain v
      ++ "' for '--help' found; no more were expected"

inductive Request
  | help
  | start (options : Options)
deriving DecidableEq, Repr

namespace Options

def get? (o : Options) : Switch → Option String
  | .config => o.config
  | .bind => o.bind

/-- The options with a value for one that has none. A file has a name that is not empty. -/
def set (o : Options) (s : Switch) (value : String) : Except UsageError Options :=
  if (o.get? s).isSome then .error (.repeated s)
  else match s with
    | .config => if value = "" then .error (.missingValue s) else .ok { o with config := value }
    | .bind => .ok { o with bind := value }

end Options

structure Progress where
  settled : Options := {}
  /-- The option that was read last, if its value is expected or has just been read. -/
  pending : Option (Switch × Option String) := none
deriving DecidableEq, Repr

namespace Progress

/-- The options once the pending one is judged. -/
def settle (p : Progress) : Except UsageError Options :=
  match p.pending with
  | none => .ok p.settled
  | some (s, none) => .error (.missingValue s)
  | some (s, some value) => p.settled.set s value

/-- An option whose value is expected in the next argument. -/
def await (p : Progress) (s : Switch) : Except UsageError Progress := do
  return { settled := ← p.settle, pending := some (s, none) }

def attach (p : Progress) (s : Switch) (value : List Char) : Except UsageError Progress := do
  return { settled := ← (← p.settle).set s (String.ofList value) }

def option (p : Progress) (s : Switch) (value : Option (List Char)) :
    Except UsageError Progress :=
  match value with
  | none => p.await s
  | some v => p.attach s v

end Progress

/-! ## Arguments -/

inductive Argument
  /-- A name behind two hyphens, and what stands behind `=`. -/
  | long (name : List Char) (value : Option (List Char))
  /-- A letter behind a hyphen, and what stands behind it. -/
  | short (letter : Char) (rest : List Char)
  /-- Two hyphens: nothing behind them is an option. -/
  | separator
  | plain
deriving DecidableEq, Repr

def splitLong (s : List Char) : Argument :=
  match s.dropWhile (· ≠ '=') with
  | [] => .long s none
  | _ :: value => .long (s.takeWhile (· ≠ '=')) (some value)

def Argument.ofText : List Char → Argument
  | ['-', '-'] => .separator
  | '-' :: '-' :: s => splitLong s
  | '-' :: c :: rest => .short c rest
  | _ => .plain

/-- The value that is attached to a letter. -/
def attached? : List Char → Option (List Char)
  | [] => none
  | '=' :: value => some value
  | value => some value

inductive Turn
  | next (p : Progress)
  | help
  /-- The rest are no options. -/
  | rest

def Progress.read (p : Progress) (a : String) : Except UsageError Turn :=
  match Argument.ofText a.toList with
  | .separator => .ok .rest
  | .long name value =>
    match String.ofList name with
    | "config" => .next <$> p.option .config value
    | "bind" => .next <$> p.option .bind value
    | "help" =>
      match value with
      | some v => .error (.valueForHelp (String.ofList v))
      | none => do
        discard p.settle
        return .help
    | other => .error (.unexpected ("--" ++ other))
  | .short letter rest =>
    match letter with
    | 'c' => .next <$> p.option .config (attached? rest)
    | 'b' => .next <$> p.option .bind (attached? rest)
    | 'h' => do
      discard p.settle
      return .help
    | _ => .error (.unexpected (String.ofList ['-', letter]))
  | .plain =>
    match p.pending with
    | some (s, none) => .ok (.next { p with pending := some (s, some a) })
    | _ => .error (.unexpected a)

def Progress.readAll (p : Progress) : List String → Except UsageError Request
  | [] => .start <$> p.settle
  | a :: more => do
    match ← p.read a with
    | .next q => q.readAll more
    | .help => return .help
    | .rest =>
      match more with
      | [] => .start <$> p.settle
      | first :: _ => .error (.unexpected first)

/-- What the arguments ask for. -/
def Request.ofArguments (arguments : List String) : Except UsageError Request :=
  Progress.readAll {} arguments

end Session.Command
