import DnsBalancer.Address.Text

/-!
# Configuration faults

Every way in which a file or a setting is refused, and the message that reports it.
-/
namespace DnsBalancer

/-- Why a file could not be read. -/
inductive ReadFault where
  | missing
  | isDirectory
  | notText
  deriving DecidableEq, Repr

def ReadFault.message : ReadFault → String
  | .missing => "No such file or directory (os error 2)"
  | .isDirectory => "Is a directory (os error 21)"
  | .notText => "stream did not contain valid UTF-8"

/-- What is wrong with a health check of a known kind. -/
inductive CheckFault where
  /-- The parameters do not have the shape of the kind's own. -/
  | parameters
  | method (text : String)
  | host (text : String)
  | headerName (name : String)
  | headerValue (name : String)
  | bodyPattern
  | port
  deriving DecidableEq, Repr

def CheckFault.message : CheckFault → String
  | .parameters => "params"
  | .method text => "invalid method '" ++ text ++ "'"
  | .host text => "invalid host '" ++ text ++ "'"
  | .headerName name => "invalid header name '" ++ name ++ "'"
  | .headerValue name => "invalid value for header '" ++ name ++ "'"
  | .bodyPattern => "invalid expected_body regex"
  | .port => "port must be non-zero"

/-- A setting that is of the right shape and still not allowed. -/
inductive SettingFault where
  | zeroInterval (fqdn : String)
  | zeroTimeout (fqdn : String)
  | noZones
  | zeroBatch
  | zeroMultiplier
  | zeroIdleTimeout
  | metricsPath (path : String)
  deriving DecidableEq, Repr

def SettingFault.message : SettingFault → String
  | .zeroInterval fqdn => fqdn ++ ": scrape_interval must be greater than 0"
  | .zeroTimeout fqdn => fqdn ++ ": scrape_timeout must be greater than 0"
  | .noZones => "at least one zone must be configured"
  | .zeroBatch => "batch_size_start must be greater than 0"
  | .zeroMultiplier => "healthcheck_idle_multiplier must be at least 1"
  | .zeroIdleTimeout => "resolution_idle_timeout must be greater than 0"
  | .metricsPath path => "metrics path '" ++ path ++ "' must start with '/'"

inductive ConfigError where
  | unreadable (path : String) (fault : ReadFault)
  /-- The text is not YAML, or does not have the shape asked for. -/
  | notYaml
  /-- The settings file does not have the shape of settings. -/
  | notSettings
  | emptyFile (path : String)
  | invalidDuration (text : String)
  | zoneMismatch (record zone : String)
  | malformedRecord (what : String)
  | undefinedProfile (name : String)
  | unsupportedCheck (kind : String)
  | invalidCheck (kind : String) (fault : CheckFault)
  | invalidMode (text : String)
  | invalidAddress (text : String)
  | duplicateBackend (record : String) (address : Address)
  | emptyRecord (record : String)
  | invalidCoordinates (address : String)
  | invalidDatabase (path : String)
  | invalidSubnet (text : String)
  | unknownZone (zone : String)
  | invalidSetting (fault : SettingFault)
  deriving DecidableEq, Repr

def ConfigError.message : ConfigError → String
  | .unreadable path fault => "failed to read " ++ path ++ ": " ++ fault.message
  | .notYaml => "failed to parse YAML"
  | .notSettings => "failed to load engine settings"
  | .emptyFile path => "configuration file " ++ path ++ " is empty"
  | .invalidDuration text => "invalid duration '" ++ text ++ "'"
  | .zoneMismatch record zone => "record " ++ record ++ " does not match zone " ++ zone
  | .malformedRecord what => "record " ++ what ++ " is not a map"
  | .undefinedProfile name => "healthcheck profile '" ++ name ++ "' is not defined"
  | .unsupportedCheck kind => "unsupported healthcheck type '" ++ kind ++ "'"
  | .invalidCheck kind fault => "invalid " ++ kind ++ " healthcheck: " ++ fault.message
  | .invalidMode text => "unknown mode '" ++ text ++ "'"
  | .invalidAddress text => "invalid backend address '" ++ text ++ "'"
  | .duplicateBackend record address =>
    "record " ++ record ++ " lists backend " ++ address.render ++ " more than once"
  | .emptyRecord record => "record " ++ record ++ " has no backends"
  | .invalidCoordinates address =>
    "backend " ++ address ++ ": latitude and longitude must be set together and within range"
  | .invalidDatabase path => "failed to open MaxMind database " ++ path
  | .invalidSubnet text => "invalid subnet '" ++ text ++ "'"
  | .unknownZone zone => "zone " ++ zone ++ " is not configured"
  | .invalidSetting fault => "invalid setting: " ++ fault.message

end DnsBalancer
