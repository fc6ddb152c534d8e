import Session.Cookie.Directive
import Session.Http.Header

set_option autoImplicit false

/-! # Attributes of expiry directives

A client drops a cookie only when it is told so with the path and the domain that the cookie was
set with. `Attributes` are these two, and `directive` is the text that expires a cookie with
them: an empty value, no time left to live, and a date of expiry at the start of 1970.

The attributes are well formed if the text that they give can stand in a header and, when read
back, names the same path and the same domain.
-/

namespace Session.Cookie

/-- The cookie that holds the signed-in user's id. -/
def userId : String := "userId"

/-- The cookie that holds the address of the signed-in user's picture. -/
def userPicture : String := "userPicture"

/-- The cookies that name a signed-in user, in the order in which they are expired. -/
def userCookies : List String := [userId, userPicture]

/-- The path and the domain that a cookie was set with. -/
structure Attributes where
  path : String := "/"
  domain : Option String := none
deriving DecidableEq, Repr

namespace Attributes

/-- The whole site, on the host that answers. -/
def standard : Attributes := {}

/-- The cookie of the name with an empty value and no time left to live. -/
def removal (a : Attributes) (name : String) : Directive where
  name := name.toList
  value := []
  path := some a.path.toList
  domain := a.domain.map String.toList
  maxAge := some 0
  expires := some 0

def directive (a : Attributes) (name : String) : String := String.ofList (a.removal name).render

/-- The header value that expires the cookie of the name, if the text may stand in a header. -/
def expiry? (a : Attributes) (name : String) : Option Http.Value :=
  Http.Value.ofText? (a.directive name)

/-- The text can stand in a header and reads back to the same path and domain. -/
def isWellFormed (a : Attributes) : Bool :=
  (a.expiry? userId).isSome &&
    match Directive.read? (a.directive userId).toList with
    | some d => d.path = some a.path.toList
        && d.domainName? = a.domain.map fun s => dropDots s.toList
    | none => false

end Attributes

end Session.Cookie
