import Rolebook.Json.Encode

/-!
Requests and responses. A response tells its status and, if it has one, its JSON body; a refusal that is
not an error of a service has no JSON body.
-/

namespace Rolebook

def ErrorKind.status : ErrorKind → Nat
  | validation => 400
  | unauthorized => 401
  | forbidden => 403
  | notFound => 404
  | conflict => 409
  | internal => 500

namespace Web

inductive Method where
  | get
  | head
  | post
  | delete
  | other
  deriving DecidableEq

def Method.ofName : String → Method
  | "GET" => get
  | "HEAD" => head
  | "POST" => post
  | "DELETE" => delete
  | _ => other

structure Request where
  method : Method
  /-- The segments of the path, the last of them empty if the path ends in a slash. -/
  path : List String
  query : List (String × String)
  cookie : Option String
  contentType : Option String
  content : String

structure Response where
  status : Nat
  body : Option Json

namespace Response

def refusal (status : Nat) : Response :=
  ⟨status, none⟩

def empty : Response :=
  ⟨204, none⟩

def ofError (error : ServiceError) : Response :=
  ⟨error.kind.status, some error.json⟩

def ofResult {Value : Type} (status : Nat) (body : Value → Json) :
    Except ServiceError Value → Response
  | .ok value => ⟨status, some (body value)⟩
  | .error error => ofError error

def ofOutcome : Except ServiceError Unit → Response
  | .ok () => empty
  | .error error => ofError error

end Response

end Web

end Rolebook
