import WorkflowEditor.Workflow.ProxyLocation

/-!
# Settings of a workflow

What the editor shows of a workflow's settings.
-/

namespace WorkflowEditor

/-- The settings of a workflow. -/
structure Settings where
  persistBrowserSession : Bool
  proxyLocation? : Option ProxyLocation
  webhookCallbackUrl? : Option String
  deriving DecidableEq, Repr, Inhabited

namespace Settings

/-- The time zone of the proxy location. -/
def timezone? (settings : Settings) : Option String :=
  settings.proxyLocation?.bind ProxyLocation.timezone?

/-- The settings as JSON. -/
def toJson (settings : Settings) : Json :=
  .record [
    ("persistBrowserSession", .bool settings.persistBrowserSession),
    ("proxyLocation", .ofText? (settings.proxyLocation?.map ProxyLocation.name)),
    ("webhookCallbackUrl", .ofText? settings.webhookCallbackUrl?)]

/-- Read settings. -/
def decoder : Decoder Settings :=
  .record "struct WorkflowSettings"
    (.field "persistBrowserSession" .flag .error <|
     .field "proxyLocation" (.option ProxyLocation.decoder) (.unnamed none) <|
     .field "webhookCallbackUrl" (.option .text) (.unnamed none) .done)
    fun (persistBrowserSession, proxyLocation?, webhookCallbackUrl?, ()) =>
      { persistBrowserSession, proxyLocation?, webhookCallbackUrl? }

end Settings

end WorkflowEditor
