namespace SwitchSession

structure LogSettings where
  serviceName : String := "ofc-controller"
  filter : String := "info"
  json : Bool := false
deriving DecidableEq

namespace LogSettings

def withFilter (filter : String) : LogSettings := { filter }

def asciiLower (s : String) : List Char := s.toList.map Char.toLower

def isYes (s : String) : Bool := asciiLower s == "true".toList || s == "1"

def ofEnvironment (valueOf : String → Option String) : LogSettings :=
  let inContainer :=
    (valueOf "KUBERNETES_SERVICE_HOST").isSome || (valueOf "DOCKER_CONTAINER").isSome
  let defaults : LogSettings := {}
  { serviceName := (valueOf "OTEL_SERVICE_NAME").getD defaults.serviceName
    filter := (valueOf "OFC_LOG_LEVEL" <|> valueOf "RUST_LOG").getD defaults.filter
    json := ((valueOf "OFC_JSON_LOGS").map isYes).getD inContainer }

/-- A variable whose bytes are not UTF-8 counts as unset. -/
def ofRawEnvironment (valueOf : String → Option ByteArray) : LogSettings :=
  ofEnvironment fun name => (valueOf name).bind String.fromUTF8?

end LogSettings

end SwitchSession
