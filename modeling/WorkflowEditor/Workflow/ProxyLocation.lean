import WorkflowEditor.Decode.Decoder

/-!
# Proxy locations

The places through which a workflow's browser may reach the network, each with
its name in documents and the time zone there.
-/

namespace WorkflowEditor

/-- A place through which the browser reaches the network. -/
inductive ProxyLocation where
  | usCa
  | usNy
  | usTx
  | usFl
  | usWa
  | residential
  | residentialEs
  | residentialIe
  | residentialGb
  | residentialIn
  | residentialJp
  | residentialFr
  | residentialDe
  | residentialNz
  | residentialZa
  | residentialAr
  | residentialIsp
  | none
  deriving DecidableEq, Repr, Inhabited

namespace ProxyLocation

/-- Every proxy location. -/
def all : List ProxyLocation :=
  [.usCa, .usNy, .usTx, .usFl, .usWa, .residential, .residentialEs, .residentialIe,
    .residentialGb, .residentialIn, .residentialJp, .residentialFr, .residentialDe,
    .residentialNz, .residentialZa, .residentialAr, .residentialIsp, .none]

/-- The name of a proxy location. -/
def name : ProxyLocation → String
  | .usCa => "US-CA"
  | .usNy => "US-NY"
  | .usTx => "US-TX"
  | .usFl => "US-FL"
  | .usWa => "US-WA"
  | .residential => "RESIDENTIAL"
  | .residentialEs => "RESIDENTIAL_ES"
  | .residentialIe => "RESIDENTIAL_IE"
  | .residentialGb => "RESIDENTIAL_GB"
  | .residentialIn => "RESIDENTIAL_IN"
  | .residentialJp => "RESIDENTIAL_JP"
  | .residentialFr => "RESIDENTIAL_FR"
  | .residentialDe => "RESIDENTIAL_DE"
  | .residentialNz => "RESIDENTIAL_NZ"
  | .residentialZa => "RESIDENTIAL_ZA"
  | .residentialAr => "RESIDENTIAL_AR"
  | .residentialIsp => "RESIDENTIAL_ISP"
  | .none => "NONE"

/-- The time zone of a proxy location. -/
def timezone? : ProxyLocation → Option String
  | .none => Option.none
  | .usCa => some "America/Los_Angeles"
  | .usTx => some "America/Chicago"
  | .usNy | .usFl | .usWa | .residential | .residentialIsp => some "America/New_York"
  | .residentialEs => some "Europe/Madrid"
  | .residentialIe => some "Europe/Dublin"
  | .residentialGb => some "Europe/London"
  | .residentialIn => some "Asia/Kolkata"
  | .residentialJp => some "Asia/Tokyo"
  | .residentialFr => some "Europe/Paris"
  | .residentialDe => some "Europe/Berlin"
  | .residentialNz => some "Pacific/Auckland"
  | .residentialZa => some "Africa/Johannesburg"
  | .residentialAr => some "America/Argentina/Buenos_Aires"

/-- Read a proxy location. -/
def decoder : Decoder ProxyLocation :=
  .constants (all.map fun location => (location.name, location))

theorem mem_all (location : ProxyLocation) : location ∈ all := by
  cases location <;> decide

/-- No two proxy locations share a name. -/
theorem find?_name (location : ProxyLocation) :
    Keyed.find? location.name (all.map fun other => (other.name, other)) = some location := by
  cases location <;> decide

end ProxyLocation

end WorkflowEditor
