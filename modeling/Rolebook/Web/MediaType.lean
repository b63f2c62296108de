/-!
Media types of request contents. A content is JSON if its type is well formed, the main type is
`application` and the subtype is `json` or has it in front of or behind its last plus sign; letter case and
parameters do not matter. A content is a form if its type starts with the name of forms as it stands.
-/

namespace Rolebook.Web.MediaType

/-- The characters that names, and values without quotes, consist of. -/
def isToken (character : Char) : Bool :=
  character.isAlphanum || "!#$%&'*+-.^_`|~".toList.contains character

def isVisible (character : Char) : Bool :=
  ' ' ≤ character && character ≤ '~'

/-- The rest after a value in quotes: blanks up to the end or to the semicolon of the next parameter. -/
def afterQuotes? : List Char → Option (List Char)
  | [] => some []
  | ';' :: rest => some rest
  | ' ' :: rest => afterQuotes? rest
  | _ => none

/-- The rest after the value of a parameter. A value in quotes is not empty, and without quotes it is
empty only at the end. -/
def afterValue? : List Char → Option (List Char)
  | '"' :: _ :: rest =>
      match rest.dropWhile (· ≠ '"') with
      | '"' :: after => afterQuotes? after
      | _ => none
  | ['"'] => none
  | text =>
      match text.takeWhile isToken, text.dropWhile isToken with
      | _, [] => some []
      | _ :: _, ';' :: after => some after
      | _, _ => none

/-- Whether a text is a list of at most so many parameters, with blanks in front of their names. -/
def areParameters : Nat → List Char → Bool
  | 0, text => text.isEmpty
  | bound + 1, text =>
      match text.dropWhile (· = ' ') with
      | [] => true
      | trimmed =>
          match trimmed.takeWhile isToken, trimmed.dropWhile isToken with
          | _ :: _, '=' :: value =>
              match afterValue? value with
              | some rest => areParameters bound rest
              | none => false
          | _, _ => false

/-- The subtype without its suffix, and the suffix after the last plus sign that is not its first
character. -/
def splitSubtype (subtype : List Char) : List Char × Option (List Char) :=
  let suffix := subtype.reverse.takeWhile (· ≠ '+') |>.reverse
  if suffix.length + 1 < subtype.length then
    (subtype.take (subtype.length - suffix.length - 1), some suffix)
  else (subtype, none)

def namesJson (main subtype : List Char) : Bool :=
  let (name, suffix) := splitSubtype (subtype.map Char.toLower)
  main.map Char.toLower == "application".toList &&
    (name == "json".toList || suffix == some "json".toList)

/-- Whether a content type says that the content is JSON. The parameters start behind a semicolon. -/
def isJson (contentType : String) : Bool :=
  let text := contentType.toList
  match text.dropWhile isToken with
  | '/' :: rest =>
      text.all isVisible && namesJson (text.takeWhile isToken) (rest.takeWhile isToken) &&
        match rest.dropWhile isToken with
        | [] => true
        | ';' :: parameters => areParameters parameters.length parameters
        | _ => false
  | _ => false

def isForm (contentType : String) : Bool :=
  let text := contentType.toList
  text.all (fun character => isVisible character || character == '\t') &&
    "application/x-www-form-urlencoded".toList.isPrefixOf text

end Rolebook.Web.MediaType
