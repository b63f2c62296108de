import Rolebook.Json
import Rolebook.SessionKey

/-!
The sessions of the web. A cookie stands for the session that it was signed in to last, also when nothing
is stored in that session any more, and a cookie that was never signed in may write a key of its own. To
sign in again opens another session, so what a task still does to the earlier one does not reach it.
-/

namespace Rolebook

/-- A session: one that was opened, by its number, counted from zero over the life of the world, or one
that was not, by its key. Nothing is ever stored in the latter. -/
inductive SessionId where
  | opened (number : Nat)
  | unopened (key : SessionKey)
  deriving DecidableEq

/-- The sessions of the web: the one that a cookie was signed in to, and the context stored in each. -/
structure SessionStore where
  signedIn : String → Option SessionId
  context : SessionId → Option Json
  /-- How many sessions have been opened. -/
  opened : Nat

namespace SessionStore

def empty : SessionStore :=
  ⟨fun _ => none, fun _ => none, 0⟩

def find? (sessions : SessionStore) (cookie : String) : Option SessionId :=
  match sessions.signedIn cookie with
  | some session => some session
  | none => (SessionKey.ofCookie? cookie).map .unopened

def setContext (sessions : SessionStore) (session : SessionId) (context : Option Json) :
    SessionStore :=
  { sessions with
    context := fun other => if other = session then context else sessions.context other }

/-- Opens a session with a context, for which the cookie stands from now on. -/
def signIn (sessions : SessionStore) (cookie : String) (context : Json) : SessionStore :=
  let session := .opened sessions.opened
  { sessions.setContext session (some context) with
    signedIn := fun other => if other = cookie then some session else sessions.signedIn other
    opened := sessions.opened + 1 }

end SessionStore

end Rolebook
