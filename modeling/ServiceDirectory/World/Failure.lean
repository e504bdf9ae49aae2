import ServiceDirectory.Url.Error

/-!
# Why a call does not return a value

A call fails for a stated cause, or it is torn down by a panic of a collaborator that
nothing on the way contains.
-/

namespace ServiceDirectory

/-- The causes for which a call fails. -/
inductive Failure
  /-- A listener that declares no kind of events cannot be registered. -/
  | undeclaredListener
  /-- A composite discovery was given no source. -/
  | noSources
  /-- A recorded text that should be a URL is none. -/
  | malformedUrl (reason : UrlError)
  /-- A collaborator failed; its error is passed on as it is. -/
  | collaborator (message : String)
deriving DecidableEq, Repr

def Failure.message : Failure → String
  | .undeclaredListener => "listener does not declare a concrete event type"
  | .noSources => "composite discovery needs at least one source"
  | .malformedUrl reason => "malformed url: " ++ reason.message
  | .collaborator message => message

/-- What a panic carries. -/
inductive Payload
  | text (message : String)
  | other
deriving DecidableEq, Repr

/-- How a payload is named in the log. -/
def Payload.shown : Payload → String
  | .text message => message
  | .other => "<non-string panic payload>"

/-- Why a call stops before its end. -/
inductive Stop
  | failed (cause : Failure)
  | panicked (payload : Payload)
deriving DecidableEq, Repr

end ServiceDirectory
