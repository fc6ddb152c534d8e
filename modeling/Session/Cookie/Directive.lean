import Session.Cookie.Date
import Session.Text.Blank
import Session.Text.Pieces

set_option autoImplicit false

/-! # Cookie directives

A directive is the value of a `set-cookie` header: the name and the value of a cookie and its
attributes. `render` writes it and `read?` reads it. Writing escapes nothing, and it drops one
leading dot of the domain. Reading cuts the text at `;`, each part at its first `=`, and trims
both sides; attribute names are read in any ASCII case, and the last one of a name counts.
-/

namespace Session.Cookie

/-- What a client is told about a cookie. -/
structure Directive where
  name : List Char
  value : List Char
  path : Option (List Char) := none
  /-- The domain as it was given, perhaps with a leading dot. -/
  domain : Option (List Char) := none
  /-- For how many seconds the client keeps the cookie. -/
  maxAge : Option Nat := none
  /-- When the client drops the cookie, in seconds since the start of 1970. -/
  expires : Option Nat := none
  others : List (List Char × Option (List Char)) := []
deriving DecidableEq, Repr

def dropDot : List Char → List Char
  | '.' :: s => s
  | s => s

def dropDots (s : List Char) : List Char := s.dropWhile (· = '.')

namespace Directive

/-- The domain that the directive names: one leading dot means nothing. -/
def domainName? (d : Directive) : Option (List Char) := d.domain.map dropDot

/-! ## Writing -/

/-- An attribute as it is written behind those before it. -/
def written (name : String) (value : List Char) : List Char :=
  "; ".toList ++ name.toList ++ '=' :: value

def writtenOther : List Char × Option (List Char) → List Char
  | (name, none) => "; ".toList ++ name
  | (name, some value) => "; ".toList ++ name ++ '=' :: value

def render (d : Directive) : List Char :=
  d.name ++ '=' :: d.value
    ++ d.others.flatMap writtenOther
    ++ (d.path.elim [] (written "Path"))
    ++ (d.domainName?.elim [] (written "Domain"))
    ++ (d.maxAge.elim [] fun n => written "Max-Age" (Text.digitsIn 10 n))
    ++ (d.expires.elim [] fun n => written "Expires" (Date.render n))

/-! ## Reading -/

/-- The longest time for which a client may be told to keep a cookie. -/
def maxMaxAge : Nat := 0x7FFFFFFFFFFFFFFF

/-- The seconds that a `Max-Age` value gives: nothing for a text that is no number, zero for a
negative number, and the greatest value for one that is too large or has no digits. -/
def readMaxAge? (s : List Char) : Option Nat :=
  let (negative, digits) := match s with
    | '-' :: rest => (true, rest)
    | _ => (false, s)
  if digits.all fun c => (Text.digit? c).isSome then
    if negative then some 0
    else some (min ((Text.readDigits? digits).getD maxMaxAge) maxMaxAge)
  else none

/-- Takes one attribute into the directive. An empty domain, and a number or date that cannot be
read, change nothing. -/
def readAttribute (d : Directive) (part : List Char) : Directive :=
  let (name, value) := match Text.cut? '=' part with
    | some (n, v) => (Text.trim n, some (Text.trim v))
    | none => (Text.trim part, none)
  match String.ofList (name.map Char.toLower), value with
  | "path", some v => { d with path := some v }
  | "domain", some v => if v.isEmpty then d else { d with domain := some v }
  | "max-age", some v => match readMaxAge? v with
    | some n => { d with maxAge := some n }
    | none => d
  | "expires", some v => match Date.read? v with
    | some n => { d with expires := some n }
    | none => d
  | _, _ => { d with others := d.others ++ [(name, value)] }

/-- The directive that a text spells. The name must not be empty, and it ends at a `=`. -/
def read? (s : List Char) : Option Directive :=
  match Text.pieces ';' s with
  | [] => none
  | first :: rest => match Text.cut? '=' first with
    | none => none
    | some (n, v) =>
      let name := Text.trim n
      if name.isEmpty then none
      else some (rest.foldl readAttribute { name, value := Text.trim v })

end Directive

end Session.Cookie
