import Session.Text.Alphanumeric
import Session.Text.Scan

set_option autoImplicit false

/-! # Patterns

A condition on the value of a field is a number or a regular expression. No event of this program
is judged by a value, so all that matters of an expression is whether it is one.

An expression is a list of tokens: what matches a character or a place (`Atom`), groups,
alternatives, repetitions and changes of mode. It is well formed if every repetition has something
to repeat, groups are closed, names of groups differ, and each atom can be read in its mode.
Properties of characters beyond ASCII are not known, so the classes and word boundaries that hang
on them cannot be read, nor can a character regardless of its case, unless the mode is for bytes.
The expression holds no closing brace, so nothing in it is counted or named between braces.
-/

namespace Session.Log.Pattern

open Text (Scan)

/-! ## Atoms -/

structure Mode where
  ignoresCase : Bool := false
  /-- Characters are matched, not bytes. -/
  isUnicode : Bool := true
deriving DecidableEq, Repr

structure Contents where
  isNegated : Bool := false
  hasClass : Bool := false
  isAscii : Bool := true
deriving DecidableEq, Repr

/-- What matches a character or a place. -/
inductive Atom
  /-- The start or the end of the text or of a line. -/
  | edge
  /-- The start, the end or the inside of a word. -/
  | boundary (isNegated : Bool)
  | any
  /-- A given character, perhaps told by the two digits of a byte. -/
  | character (number : Nat) (isByte : Bool)
  | ofClass (isNegated : Bool)
  | set (contents : Contents)
deriving DecidableEq, Repr

/-- The atom can be read in the mode. A mode for bytes still admits only what keeps characters
whole. -/
def Atom.isReadable (m : Mode) : Atom → Bool
  | edge => true
  | boundary isNegated => !m.isUnicode && !isNegated
  | any => m.isUnicode
  | character n isByte =>
    if m.isUnicode then !m.ignoresCase else !isByte || n < 0x80
  | ofClass isNegated => !m.isUnicode && !isNegated
  | set s =>
    if m.isUnicode then !m.ignoresCase && !s.hasClass else !s.isNegated && s.isAscii

def hexDigits (count : Nat) : Scan Nat := do
  let digits ← (List.replicate count ()).mapM fun _ =>
    Scan.satisfy fun c => (Text.hexDigit? c).isSome
  let n := (digits.filterMap Text.hexDigit?).foldl (fun n d => n * 16 + d) 0
  Scan.check n.isValidChar
  return n

/-- A character that stands for itself behind a backslash. -/
def isEscapable (c : Char) : Bool := c.toNat < 0x80 && !c.isAlphanum && c ≠ '<' && c ≠ '>'

/-- What a backslash begins. -/
def escaped : Scan Atom := do
  Scan.char '\\'
  let c ← Scan.satisfy fun _ => true
  match c with
  | 'x' => return .character (← hexDigits 2) true
  | 'u' => return .character (← hexDigits 4) false
  | 'U' => return .character (← hexDigits 8) false
  | 'A' => return .edge
  | 'z' => return .edge
  | 'b' => return .boundary false
  | '<' => return .boundary false
  | '>' => return .boundary false
  | 'B' => return .boundary true
  | _ =>
    if "dsw".toList.contains c then return .ofClass false
    if "DSW".toList.contains c then return .ofClass true
    match "aftnrv".toList.idxOf? c, [0x07, 0x0C, 0x09, 0x0A, 0x0D, 0x0B] with
    | some i, numbers => return .character (numbers.getD i 0) false
    | none, _ =>
      Scan.check (isEscapable c)
      return .character c.toNat false

/-! ## Sets -/

/-- The names of the classes between `[:` and `:]`. -/
def classNames : List String :=
  ["alnum", "alpha", "ascii", "blank", "cntrl", "digit", "graph", "lower", "print", "punct",
   "space", "upper", "word", "xdigit"]

/-- A named class, and whether it is negated. -/
def namedClass : Scan Bool := do
  Scan.text ['[', ':']
  let isNegated ← Scan.found (Scan.char '^')
  let name ← Scan.takeWhile (· ≠ ':')
  Scan.text [':', ']']
  Scan.check (classNames.contains (String.ofList name))
  return isNegated

/-- What opens a set. The hyphens behind it, or else a closing bracket, stand for themselves. -/
def opening (s : Contents) : Scan Contents := do
  Scan.char '['
  let isNegated ← Scan.found (Scan.char '^')
  let hyphens ← Scan.takeWhile (· = '-')
  if hyphens.isEmpty then discard (Scan.optional? (Scan.char ']'))
  return { s with isNegated := s.isNegated || isNegated }

/-- A sign between two sets. -/
def operator : Scan Unit := Scan.text ['&', '&'] <|> Scan.text ['-', '-'] <|> Scan.text ['~', '~']

def member : Scan Atom := do
  if (← Scan.peek?) = some '\\' then escaped
  else return .character (← Scan.satisfy fun _ => true).toNat false

/-- The hyphen of a range; one in front of a closing bracket or of another hyphen is none. -/
def rangeSign : Scan Unit := do
  Scan.char '-'
  let next ← Scan.peek?
  Scan.check (next ≠ some ']' && next ≠ some '-')

def members (s : Contents) : Scan Contents := do
  match ← member with
  | .character low _ =>
    if ← Scan.found rangeSign then
      match ← member with
      | .character high _ =>
        Scan.check (low ≤ high)
        return { s with isAscii := s.isAscii && high < 0x80 }
      | _ => failure
    else return { s with isAscii := s.isAscii && low < 0x80 }
  | .ofClass isNegated =>
    Scan.check !(← Scan.found rangeSign)
    return { s with hasClass := true, isNegated := s.isNegated || isNegated }
  | _ => failure

/-- The rest of a set that has `depth` sets around it. -/
def setRest : Nat → Nat → Contents → Scan Contents
  | 0, _, _ => failure
  | fuel + 1, depth, s => do
    match ← Scan.peek? with
    | some ']' => do
      Scan.char ']'
      match depth with
      | 0 => return s
      | depth + 1 => setRest fuel depth s
    | some '[' => do
      match ← Scan.optional? namedClass with
      | some isNegated =>
        setRest fuel depth { s with isNegated := s.isNegated || isNegated }
      | none => setRest fuel (depth + 1) (← opening s)
    | _ => do
      if ← Scan.found operator then setRest fuel depth s
      else setRest fuel depth (← members s)

/-- A set in brackets. Each round takes a character, so there are no more rounds than
characters. -/
def set : Scan Atom := do
  let s ← opening {}
  return .set (← setRest ((← Scan.left) + 1) 0 s)

/-! ## Tokens -/

structure Change where
  ignoresCase : Option Bool := none
  isUnicode : Option Bool := none
deriving DecidableEq, Repr

def Change.apply (change : Change) (m : Mode) : Mode where
  ignoresCase := change.ignoresCase.getD m.ignoresCase
  isUnicode := change.isUnicode.getD m.isUnicode

/-- The change that flags make: those behind a hyphen are switched off. -/
def Change.ofFlags (flags : List Char) : Change :=
  let on := flags.takeWhile (· ≠ '-')
  let value (c : Char) : Option Bool := if flags.contains c then some (on.contains c) else none
  { ignoresCase := value 'i', isUnicode := value 'u' }

inductive Token
  | atom (a : Atom)
  /-- A group begins, perhaps with a name or a change of mode. -/
  | groupStart (name : Option (List Char)) (change : Change)
  | groupEnd
  | alternative
  | repetition
  | change (c : Change)
deriving DecidableEq, Repr

/-- A character of the name of a group. -/
def isNameChar (c : Char) : Bool := Text.isAlphanumeric c || "_.[]".toList.contains c

/-- A character that the name of a group can begin with. -/
def isNameStart (c : Char) : Bool := c = '_' || (Text.isAlphanumeric c && !c.isDigit)

/-- The name of a group, up to `>`. -/
def groupName : Scan (List Char) := do
  let first ← Scan.satisfy isNameStart
  let rest ← Scan.takeWhile isNameChar
  Scan.char '>'
  return first :: rest

/-- Flags, and whether a group follows them. None is repeated, and a hyphen stands in front of
another one. -/
def flags : Scan Token := do
  let fs ← Scan.takeWhile fun c => c ≠ ':' && c ≠ ')'
  Scan.check (fs.all ("imsUuRx-".toList.contains ·) && fs.Nodup && fs.getLast? ≠ some '-')
  if ← Scan.found (Scan.char ':') then return .groupStart none (.ofFlags fs)
  Scan.char ')'
  Scan.check !fs.isEmpty
  return .change (.ofFlags fs)

/-- The beginning of a group, or a change of mode. -/
def group : Scan Token := do
  Scan.char '('
  if ← Scan.found (Scan.text ['?', 'P', '<'] <|> Scan.text ['?', '<']) then
    return .groupStart (some (← groupName)) {}
  if ← Scan.found (Scan.char '?') then flags
  else return .groupStart none {}

def token : Scan Token := do
  match ← Scan.peek? with
  | some '(' => group
  | some '[' => return .atom (← set)
  | some '\\' => return .atom (← escaped)
  | _ =>
    match ← Scan.satisfy fun _ => true with
    | ')' => return .groupEnd
    | '|' => return .alternative
    | '*' => return .repetition
    | '+' => return .repetition
    | '?' => return .repetition
    | '\x7b' => failure
    | '.' => return .atom .any
    | '^' => return .atom .edge
    | '$' => return .atom .edge
    | c => return .atom (.character c.toNat false)

/-! ## Expressions -/

structure Progress where
  mode : Mode := {}
  /-- The modes around the open groups, the innermost first. -/
  outer : List Mode := []
  canRepeat : Bool := false
deriving DecidableEq, Repr

def Progress.next? (p : Progress) : Token → Option Progress
  | .atom a => if a.isReadable p.mode then some { p with canRepeat := true } else none
  | .groupStart _ change =>
      some { mode := change.apply p.mode, outer := p.mode :: p.outer, canRepeat := false }
  | .groupEnd => match p.outer with
    | [] => none
    | mode :: outer => some { mode, outer, canRepeat := true }
  | .alternative => some { p with canRepeat := false }
  | .repetition => if p.canRepeat then some p else none
  | .change c => some { p with mode := c.apply p.mode, canRepeat := false }

/-- The name that a token gives to a group. -/
def Token.name? : Token → Option (List Char)
  | groupStart name _ => name
  | _ => none

/-- The tokens make up an expression. -/
def isExpression (ts : List Token) : Bool :=
  (ts.filterMap Token.name?).Nodup && (ts.foldlM Progress.next? {}).any (·.outer.isEmpty)

def isPattern (s : List Char) : Bool := ((Scan.many token).whole? s).any isExpression

/-! ## Numbers -/

/-- A number in decimal notation without a sign. -/
def decimal : Scan Unit := do
  let isDigit (c : Char) : Bool := (Text.digit? c).isSome
  let whole ← Scan.takeWhile isDigit
  let fraction ← Scan.optional? do
    Scan.char '.'
    Scan.takeWhile isDigit
  Scan.check (!whole.isEmpty || fraction.any fun f => !f.isEmpty)
  discard (Scan.optional? do
    Scan.char 'e' <|> Scan.char 'E'
    discard (Scan.optional? (Scan.char '+' <|> Scan.char '-'))
    Scan.takeWhile1 isDigit)

def isNumber (s : List Char) : Bool :=
  let unsigned := match s with
    | '+' :: rest => rest
    | '-' :: rest => rest
    | _ => s
  ["inf", "infinity", "nan"].contains (String.ofList (unsigned.map Char.toLower))
    || (decimal.whole? unsigned).isSome

/-- The text can be asked for as the value of a field. -/
def isValue (s : List Char) : Bool := isNumber s || isPattern s

end Session.Log.Pattern
