import ServiceDirectory.Text.Quoted

/-!
# Why a text is not a URL
-/

namespace ServiceDirectory

/-- The reasons for refusing a text; each carries the trimmed text it was found in. -/
inductive UrlError
  /-- Nothing but blanks. -/
  | empty
  /-- No `://`, or nothing before the first one. -/
  | missingProtocol (url : String)
  /-- The part after the last colon of the authority is not a port number. -/
  | invalidPort (url port : String)
deriving DecidableEq, Repr

/-- The wording of a refusal; an invalid port is shown quoted. -/
def UrlError.message : UrlError → String
  | .empty => "url is empty"
  | .missingProtocol url => "url has no protocol: " ++ url
  | .invalidPort url port => "invalid port " ++ Text.quoted port ++ " in url: " ++ url

end ServiceDirectory
