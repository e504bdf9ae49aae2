import ServiceDirectory.Text.Quoted

/-!
# The log

Every noteworthy occurrence is a `Notice`.  Its level, its message and its fields are
functions of the occurrence.
-/

namespace ServiceDirectory

/-- How urgent a notice is. -/
inductive Level
  | debug
  | info
  | warn
  | error
deriving DecidableEq, Repr

/-- The value of a field of a notice. -/
inductive FieldValue
  | text (value : String)
  | count (value : Nat)
  | number (value : Int)
  | flag (value : Bool)
deriving DecidableEq, Repr

/-- What the log tells. -/
inductive Notice
  | urlExported (url : String) (added : Bool)
  | urlUnexported (url : String) (removed : Bool)
  | urlSubscribed (url : String) (added : Bool)
  | urlUnsubscribed (url : String) (removed : Bool)
  | listenerAdded (kind : String)
  | listenerPanicked (kind source : String) (priority : Int) (panic : String)
  | instancesChanged (discovery service : String) (instances : Nat)
  | changeNotified (service : String) (listeners instances : Nat)
  | changeReported (discovery service : String) (instances : Nat)
  | changeQueryFailed (discovery service error : String)
  | watchInstalled (discovery service : String)
  | registrationSkipped (url : String)
  | registered (url : String) (added : Bool)
  | deregistered (url : String) (removed : Bool)
  | subscriptionForgotten (url : String)
  | metadataDelivered (url : String) (urls : Nat)
  | instancesDelivered (url : String) (services : List String) (urls : Nat)
  | subscriptionRefreshed (url source : String) (urls : Nat)
  | refreshFailed (url error : String)
  | runtimeMissing
deriving DecidableEq, Repr

namespace Notice

/-- A panic is an error, a lost refresh a warning, a registration worth an information;
all else is for debugging. -/
def level : Notice → Level
  | listenerPanicked .. => .error
  | changeQueryFailed .. | refreshFailed .. | runtimeMissing => .warn
  | registered .. | deregistered .. | subscriptionForgotten _ => .info
  | _ => .debug

def message : Notice → String
  | urlExported .. => "export url"
  | urlUnexported .. => "unexport url"
  | urlSubscribed .. => "subscribe url"
  | urlUnsubscribed .. => "unsubscribe url"
  | listenerAdded _ => "listener added"
  | listenerPanicked .. => "event listener panicked"
  | instancesChanged .. => "instance set changed"
  | changeNotified .. => "notify service change"
  | changeReported .. => "backend reported change"
  | changeQueryFailed .. => "failed to query instances after change"
  | watchInstalled .. => "watch installed"
  | registrationSkipped _ => "url is not provider-side, skipping registration"
  | registered _ true => "url registered"
  | registered _ false => "url already registered"
  | deregistered _ true => "url deregistered"
  | deregistered _ false => "url not registered"
  | subscriptionForgotten _ => "url unsubscribed"
  | metadataDelivered .. => "delivering metadata service urls"
  | instancesDelivered .. => "delivering service instance urls"
  | subscriptionRefreshed .. => "re-delivering subscription"
  | refreshFailed .. => "failed to refresh subscription"
  | runtimeMissing => "async dispatch requested outside a tokio runtime, dispatching direct"

def fields : Notice → List (String × FieldValue)
  | urlExported url added => [("url", .text url), ("added", .flag added)]
  | urlUnexported url removed => [("url", .text url), ("removed", .flag removed)]
  | urlSubscribed url added => [("url", .text url), ("added", .flag added)]
  | urlUnsubscribed url removed => [("url", .text url), ("removed", .flag removed)]
  | listenerAdded kind => [("event_type", .text kind)]
  | listenerPanicked kind source priority panic =>
    [("event_type", .text kind), ("source", .text source), ("priority", .number priority),
      ("panic", .text panic)]
  | instancesChanged discovery service instances =>
    [("discovery", .text discovery), ("service", .text service),
      ("instances", .count instances)]
  | changeNotified service listeners instances =>
    [("service", .text service), ("listeners", .count listeners),
      ("instances", .count instances)]
  | changeReported discovery service instances =>
    [("discovery", .text discovery), ("service", .text service),
      ("instances", .count instances)]
  | changeQueryFailed discovery service error =>
    [("discovery", .text discovery), ("service", .text service), ("error", .text error)]
  | watchInstalled discovery service =>
    [("discovery", .text discovery), ("service", .text service)]
  | registrationSkipped url | registered url _ | deregistered url _
  | subscriptionForgotten url => [("url", .text url)]
  | metadataDelivered url urls => [("url", .text url), ("urls", .count urls)]
  | instancesDelivered url services urls =>
    [("url", .text url), ("services", .text (Text.quotedList services)),
      ("urls", .count urls)]
  | subscriptionRefreshed url source urls =>
    [("url", .text url), ("source", .text source), ("urls", .count urls)]
  | refreshFailed url error => [("url", .text url), ("error", .text error)]
  | runtimeMissing => []

end Notice

end ServiceDirectory
