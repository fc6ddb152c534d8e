import Session.Log.Event
import Session.Log.Pattern
import Session.Text.Blank
import Session.Text.Pieces
import Session.Text.Utf8

set_option autoImplicit false

/-! # Filters of log events

A filter is a list of directives with commas between them. A directive lets events pass up to a
level, `info`, or only those of a target that begins in a certain way, `session_server=info`; one
in brackets, `target[span{field}]=level`, asks for a span or for a field. Of the directives that
concern an event, the most specific one decides. A filter without directives lets errors pass.
-/

namespace Session.Log

/-- The finest level that passes, or nothing if none does. -/
abbrev Cap := Option Level

namespace Cap

def admits (c : Cap) (l : Level) : Bool := c.any fun finest => l.rank ≤ finest.rank

/-- The cap that a text names: `off`, a level's name in any ASCII case, or a number from 0 for
`off` to 5. -/
def parse? (s : List Char) : Option Cap :=
  match Text.readUnsigned? Text.maxUnsigned s with
  | some 0 => some none
  | some n => (Level.ofRank? n).map some
  | none =>
    if s.map Char.toLower = "off".toList then some none
    else (Level.ofName? (String.ofList s)).map some

end Cap

structure Directive where
  /-- How the target begins, if that matters. -/
  target : Option (List Char) := none
  /-- The span that an event must be in, if any. No event of this program is in one. -/
  span : Option (List Char) := none
  /-- The field that an event must have, if any, and the value asked for. -/
  field : Option (List Char × Option (List Char)) := none
  cap : Cap := some .trace
deriving DecidableEq, Repr

namespace Directive

/-! ## Reading -/

def isStart (c : Char) : Bool := Text.isAlphanumeric c || ['-', ':', '_'].contains c

/-- What is asked of a field: its name, and the value behind the first `=`, which ends before a
second one. -/
def condition? (s : List Char) : Option (List Char × Option (List Char)) :=
  match Text.pieces '=' s with
  | name :: value :: _ => if Pattern.isValue value then some (name, some value) else none
  | _ => some (s, none)

/-- What a character belongs to, and the place where that begins. -/
inductive Part
  | start
  /-- A target, or a level that stands alone. -/
  | target
  | span (first : Nat)
  | field (first : Nat)
  | fieldEnd
  | spanEnd
  | cap (first : Nat)
deriving DecidableEq, Repr

/-- Where reading stands. Places are counted in bytes. -/
structure Reading where
  part : Part := .start
  place : Nat := 0
  found : Directive := {}
deriving DecidableEq, Repr

namespace Reading

/-- The bytes of a text from the first place to the last one, if they are a text. -/
def piece? (text : Bytes) (first last : Nat) : Option (List Char) :=
  Text.Utf8.decode? ((text.take last).drop first)

/-- Takes one character. The text is what the parts are taken from. -/
def next? (text : Bytes) (r : Reading) (c : Char) : Option Reading :=
  let behind := r.place + c.utf8Size
  let go (part : Part) (d : Directive) : Reading := { part, place := behind, found := d }
  match r.part with
  | .start =>
    if c = '[' then some (go (.span behind) r.found)
    else if isStart c then some (go .target r.found)
    else none
  | .target =>
    if c = '=' then do
      return go (.cap behind) { r.found with target := some (← piece? text 0 r.place) }
    else if c = '[' then do
      return go (.span behind) { r.found with target := some (← piece? text 0 r.place) }
    else some (go .target r.found)
  | .span first =>
    if c = ']' then do
      return go .spanEnd { r.found with span := some (← piece? text first r.place) }
    else if c = '\x7b' then do
      let span ← piece? text first r.place
      return go (.field behind) { r.found with span := if span.isEmpty then none else some span }
    else some (go (.span first) r.found)
  | .field first =>
    if c = '\x7d' then do
      let field ← piece? text first r.place
      if field.isEmpty then none
      else return go .fieldEnd { r.found with field := some (← condition? field) }
    else some (go (.field first) r.found)
  | .fieldEnd => if c = ']' then some (go .spanEnd r.found) else none
  | .spanEnd => if c = '=' then some (go (.cap behind) r.found) else none
  | .cap first => some (go (.cap first) r.found)

/-- The directive at the end of the text. A level that is left out is the finest one. -/
def finish? (text : Bytes) (r : Reading) : Option Directive :=
  match r.part with
  | .target => do
    let target ← piece? text 0 text.length
    -- a word that stands alone is a level if it names one
    match Cap.parse? target with
    | some cap => return { r.found with cap }
    | none => return { r.found with target := some target }
  | .spanEnd => some r.found
  | .cap first => do
    let level ← piece? text first text.length
    if level.isEmpty then return r.found else return { r.found with cap := ← Cap.parse? level }
  | _ => none

end Reading

/-- The directive that a text spells. Blanks around it are left out when places are counted, but
not when parts are taken: each blank in front moves the parts towards the front. -/
def parse? (s : List Char) : Option Directive := do
  let text := Text.Utf8.encode s
  let r ← (Text.trim s).foldlM (Reading.next? text) {}
  r.finish? text

/-! ## Deciding -/

def concerns (d : Directive) (e : Event) : Bool :=
  d.span.isNone
    && d.target.all (fun t => t.isPrefixOf e.target.toList)
    -- a value is asked of the fields of spans only
    && d.field.all fun f => f.2.isNone
        && ("message" :: e.fields.map Prod.fst).contains (String.ofList f.1)

/-- How much the directive asks for: a longer target counts more than a field. -/
def weight (d : Directive) : Nat :=
  2 * (d.target.elim 0 fun t => t.length + 1) + (d.field.elim 0 fun _ => 1)

def fieldName (d : Directive) : String := d.field.elim "" fun f => String.ofList f.1

/-- The directive comes before an earlier one. -/
def outranks (later earlier : Directive) : Bool :=
  earlier.weight < later.weight
    || (earlier.weight = later.weight && earlier.fieldName ≤ later.fieldName)

/-- The most specific of the directives; of equals, the last one. -/
def mostSpecific? (ds : List Directive) : Option Directive :=
  ds.foldl (fun best d => match best with
    | none => some d
    | some b => if d.outranks b then some d else some b) none

end Directive

/-- Directives, of which the most specific one decides. -/
structure Filter where
  directives : List Directive
deriving DecidableEq, Repr

namespace Filter

def errorsOnly : Filter := ⟨[{ cap := some .error }]⟩

def parse? (s : String) : Option Filter := do
  let parts := (Text.pieces ',' s.toList).filter fun p => !p.isEmpty
  let ds ← parts.mapM Directive.parse?
  return if ds.isEmpty then errorsOnly else ⟨ds⟩

/-- The text of the filter for a configured level: it is about this program and its layers. -/
def textForLevel (level : String) : String :=
  "session_server=" ++ level ++ ",tower_http=" ++ level

/-- The filter that a text spells, or the one for the configured level. -/
def chosen (setting : Option String) (level : String) : Filter :=
  match setting.bind parse? with
  | some f => f
  | none => (parse? (textForLevel level)).getD errorsOnly

def admits (f : Filter) (e : Event) : Bool :=
  match Directive.mostSpecific? (f.directives.filter (·.concerns e)) with
  | some d => Cap.admits d.cap e.level
  | none => false

end Filter

end Session.Log
