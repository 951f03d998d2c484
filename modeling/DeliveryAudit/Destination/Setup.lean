import DeliveryAudit.Destination.Session
import DeliveryAudit.Service.Region
import DeliveryAudit.Settings
/-!
# Setting up a reader

The settings say which destination is read, and a client for its service
is made in their region.
-/

namespace DeliveryAudit

/-- The service that holds destinations of a kind. -/
def DestinationKind.service : DestinationKind → String
  | bucket => "s3"
  | logStream => "logs"

/-- Why there is no reader. -/
inductive SetupFault where
  | destination (f : DestinationFault)
  /-- An error in making the client that is passed on as it is. -/
  | foreign (e : CallError)

/-- The wording of such a fault. -/
def SetupFault.message [Bounds] : SetupFault → String
  | destination f => f.message
  | foreign e => e.text

namespace Settings

/-- The destination of a kind in the settings. -/
def place (s : Settings) : DestinationKind → Destination
  | .bucket => .bucket ⟨s.bucket, s.stem⟩
  | .logStream => .logStream ⟨s.logGroup, s.logStream⟩

/-- The service and the region of the client that the settings ask for, if
they name a kind of destination. -/
def clientOrder? (s : Settings) : Option (String × String) :=
  (DestinationKind.ofName? s.destination).map fun k => (k.service, s.region)

/-- The fault of an error in making the client. -/
def setupFault (s : Settings) : CallError → SetupFault
  | .transport text => .destination (.noClient s.destination text)
  | e => .foreign e

/-- The reader that the settings ask for, with a client that is made for
it. -/
def reader (s : Settings) (make : ClientMaker) : Except SetupFault Reader :=
  match DestinationKind.ofName? s.destination with
  | none => .error (.destination (.unregistered s.destination))
  | some k =>
    match make k.service s.region with
    | .ok client => .ok ⟨s.place k, s.budget, client⟩
    | .error e => .error (s.setupFault e)

end Settings

end DeliveryAudit
