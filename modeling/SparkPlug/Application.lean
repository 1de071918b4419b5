import Mathlib.Data.List.Basic

/- The application entity, the errors of the two services and the description of
   an application that the REST API returns. -/
namespace SparkPlug

/- An instant, in nanoseconds since the Unix epoch. -/
abbrev DateTimeUtc := Int

inductive State where
  | launching
  | running
  | failed
  | finished
  deriving DecidableEq, Repr

/-- The stored text of a state. -/
def State.toValue : State → String
  | .launching => "LAUNCHING"
  | .running => "RUNNING"
  | .failed => "FAILED"
  | .finished => "FINISHED"

structure Model where
  id : Int
  createdAt : DateTimeUtc
  username : String
  name : Option String
  state : State
  token : String
  address : Option String
  applicationId : Option String
  deriving DecidableEq, Repr

inductive StatusCode where
  | badRequest
  | notFound
  | internalServerError
  deriving DecidableEq, Repr

/- Errors of third parties are carried as their display text. -/
inductive ProxyError where
  | authorization (message : String)
  | missingAuthorizationHeader
  | invalidAuthorizationHeader (message : String)
  | invalidAuthorizationScheme
  | invalidAuthorizationToken
  | applicationNotFound
  | missingApplicationAddress
  | invalidApplicationState (state : State)
  | database (message : String)
  | upstreamConnect (message : String)
  | upstreamHandshake (message : String)
  | invalidUpstreamUri (message : String)
  | upstreamRequest (message : String)
  | internal (message : String)
  deriving DecidableEq, Repr

/-- The URL templates of the server's configuration; `render` is the template engine. -/
structure ProxyConfig where
  uiUrlTemplate : Option String
  logUrlTemplate : Option String
  render : String → String → String

def ProxyConfig.renderTemplate (config : ProxyConfig) (template applicationId : Option String) :
    Option String :=
  match template, applicationId with
  | some tpl, some appId => if appId.isEmpty then none else some (config.render tpl appId)
  | _, _ => none

def ProxyConfig.renderUiUrl (config : ProxyConfig) (applicationId : Option String) :
    Option String :=
  config.renderTemplate config.uiUrlTemplate applicationId

def ProxyConfig.renderLogUrl (config : ProxyConfig) (applicationId : Option String) :
    Option String :=
  config.renderTemplate config.logUrlTemplate applicationId

structure ApplicationInfo where
  id : Int
  name : Option String
  token : String
  state : String
  active : Bool
  uiUrl : Option String
  logUrl : Option String
  deriving DecidableEq, Repr

/-- The body built from a row by createApp, getApp and listApps alike. -/
def ApplicationInfo.ofModel (config : ProxyConfig) (app : Model) : ApplicationInfo where
  id := app.id
  name := app.name
  token := app.token
  state := app.state.toValue
  active := app.address.isSome
  uiUrl := config.renderUiUrl app.applicationId
  logUrl := config.renderLogUrl app.applicationId

end SparkPlug
