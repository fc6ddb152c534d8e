import Session.Cookie.Expiry

set_option autoImplicit false

/-! # Expiring step by step

The headers of a response and the names that are recorded for it, and what can be done with the
two of them, one step after the other.
-/

namespace Session.Cookie

/-- The headers of a response, and the names recorded for it. -/
structure Jar where
  headers : Http.Headers
  pending : Pending := {}
deriving DecidableEq, Repr

inductive Step
  | expire (a : Attributes) (name : String)
  | clear (a : Attributes)
  | record (name : String)
  | recordUser
  /-- Applies what is recorded, and keeps it. -/
  | apply (a : Attributes)
  /-- Applies what is recorded, and forgets it. -/
  | flush (a : Attributes)
deriving DecidableEq, Repr

namespace Jar

def step (jar : Jar) : Step → Traced Jar
  | .expire a name => do return { jar with headers := ← expireOn a name jar.headers }
  | .clear a => do return { jar with headers := ← clearOn a jar.headers }
  | .record name => return { jar with pending := jar.pending.record name }
  | .recordUser => return { jar with pending := (jar.pending.clear fun _ => ()).2 }
  | .apply a => do return { jar with headers := ← jar.pending.apply a jar.headers }
  | .flush a => do return { headers := ← jar.pending.apply a jar.headers }

def run (jar : Jar) : List Step → Traced Jar
  | [] => return jar
  | s :: steps => do
    let jar ← jar.step s
    jar.run steps

end Jar

end Session.Cookie
