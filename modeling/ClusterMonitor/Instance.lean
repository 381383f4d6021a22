import ClusterMonitor.InitSection
import ClusterMonitor.Redaction
import ClusterMonitor.Url.Basic
import ClusterMonitor.Whitelist.Document

/-!
# Instances

One monitored server: where it is, how to log in, and what to collect from it.

* `Instance` — the instance; `Instance.ofUrl` has every option at its default.
* `Instance.ofOptions` — makes an instance of checked options; each failure concerns this instance
  only.
* `Instance.read` — reads an entry of a document.
* `Instance.toValue` — the document form.
-/

namespace ClusterMonitor

/-- The seconds between two collections unless an instance says otherwise. -/
def defaultInterval : Float := 15.0

/-- A user name with its password. -/
structure Credential where
  username : String
  password : String
deriving DecidableEq, Repr

/-- The credential as it may be shown: with the mask in place of the password. -/
def Credential.shown (c : Credential) : String :=
  "BasicAuth \x7b username: " ++ Text.quoted c.username ++ ", password: " ++
    Text.quoted secretMask ++ " \x7d"

/-- How a server asks for a credential. -/
inductive AuthType where
  | basic
  | digest
deriving DecidableEq, Repr

namespace AuthType

def text : AuthType → String
  | .basic => "basic"
  | .digest => "digest"

def ofText (s : String) : Except ConfigError AuthType :=
  if s = "basic" then .ok .basic
  else if s = "digest" then .ok .digest
  else .error (.invalidValue "auth_type" s!"unknown authentication type `{s}`")

end AuthType

/-- The wording of a fault in a URL text. -/
def UrlFault.message (raw : String) : UrlFault → String
  | .relative => s!"{raw}: relative URL without a base"
  | .emptyHost => s!"{raw}: empty host"
  | .invalidDomain => s!"{raw}: invalid international domain name"
  | .invalidDomainCharacter => s!"{raw}: invalid domain character"
  | .invalidIpv4 => s!"{raw}: invalid IPv4 address"
  | .invalidIpv6 => s!"{raw}: invalid IPv6 address"
  | .invalidPort => s!"{raw}: invalid port number"
  | .foreignScheme scheme => s!"scheme must be http or https, got {scheme}"

/-- A monitored server. -/
structure Instance where
  url : Url
  services : ServiceSelection := .unrestricted
  credential : Option Credential := none
  authType : AuthType := .basic
  tlsVerify : Bool := true
  /-- Seconds; else the timeout of the shared section. -/
  timeout : Option Float := none
  tags : List String := []
  /-- Else the service of the shared section. -/
  service : Option String := none
  /-- Seconds. -/
  minCollectionInterval : Float := defaultInterval
  emptyDefaultHostname : Bool := false

namespace Instance

/-- An instance with every option at its default. -/
def ofUrl (url : Url) : Instance := { url }

def withServices (i : Instance) (w : Whitelist) : Instance := { i with services := .listed w }

def withCredential (i : Instance) (c : Credential) : Instance := { i with credential := some c }

/-- Reads the URL of a server. -/
def readUrl (raw : String) : Except ConfigError Url :=
  match Url.ofText? raw with
  | .ok url => .ok url
  | .error fault => .error (.invalidValue "url" (fault.message raw))

/-- The credential of an instance. One half of it asks for the other. -/
def credentialOf (o : Options) : Except ConfigError (Option Credential) :=
  match o.string? "username", o.string? "password" with
  | some username, some password => .ok (some ⟨username, password⟩)
  | some _, none => .error (.missingRequiredOption "password")
  | none, some _ => .error (.missingRequiredOption "username")
  | none, none => .ok none

/-- The way to log in, if options name one. -/
def authTypeOf (o : Options) : Except ConfigError AuthType :=
  match o.string? "auth_type" with
  | some text => AuthType.ofText text
  | none => .ok .basic

/-- The instance that checked options describe. The whitelist is read, and reported on, after the
URL and the credential are found to be in order. -/
def ofOptions (o : Options) (index : Nat) : Except ConfigError Instance × List Diagnostic :=
  match o.string? "url" with
  | none => (.error (.missingRequiredOption "url"), [])
  | some raw =>
    match readUrl raw, credentialOf o with
    | .error e, _ => (.error e, [])
    | .ok _, .error e => (.error e, [])
    | .ok url, .ok credential =>
      let (services, reports) := ServiceSelection.read index (Dict.get? o "services")
      let made := (authTypeOf o).map fun authType =>
        { url, services, credential, authType
          tlsVerify := (o.bool? "tls_verify").getD true
          timeout := o.float? "timeout"
          tags := o.strings "tags"
          service := o.string? "service"
          minCollectionInterval := (o.float? "min_collection_interval").getD defaultInterval
          emptyDefaultHostname := (o.bool? "empty_default_hostname").getD false : Instance }
      (made, reports)

/-- Reads the entry with this index. -/
def read (s : Schema) (index : Nat) (v : Value) : Except ConfigError Instance × List Diagnostic :=
  match v with
  | .object supplied =>
    match (Checker.ofInstance s index).check supplied with
    | (.error e, reports) => (.error e, reports)
    | (.ok options, reports) =>
      let (result, later) := ofOptions options index
      (result, reports ++ later)
  | _ => (.error (.typeMismatch s!"instances[{index}]" ValueType.object.text v.describe), [])

/-- How long to wait for the server: what the instance says, else what the shared section says. -/
def effectiveTimeout (i : Instance) (init : InitSection) : Duration :=
  (i.timeout.bind Duration.ofSeconds?).getD init.timeoutDuration

/-- The service that is attached as a tag: what the instance says, else what the shared section
says. -/
def effectiveService (i : Instance) (init : InitSection) : Option String :=
  i.service <|> init.service

/-- The document form. -/
def toValue (i : Instance) : Value :=
  .ofPairs <|
    [("url", Value.string i.url.text)] ++
    (i.services.whitelist?.map fun w => ("services", w.toValue)).toList ++
    (match i.credential with
      | some c => [("username", Value.string c.username), ("password", .string c.password)]
      | none => []) ++
    [("auth_type", .string i.authType.text), ("tls_verify", .bool i.tlsVerify)] ++
    (i.timeout.map fun t => ("timeout", Value.ofFloat t)).toList ++
    (if i.tags.isEmpty then [] else [("tags", .ofStrings i.tags)]) ++
    (i.service.map fun s => ("service", Value.string s)).toList ++
    [("min_collection_interval", .ofFloat i.minCollectionInterval),
      ("empty_default_hostname", .bool i.emptyDefaultHostname)]

/-- Equality of instances. -/
def same (i j : Instance) : Bool :=
  i.url == j.url && i.services == j.services && i.credential == j.credential &&
    i.authType == j.authType && i.tlsVerify == j.tlsVerify && i.timeout == j.timeout &&
    i.tags == j.tags && i.service == j.service &&
    i.minCollectionInterval == j.minCollectionInterval &&
    i.emptyDefaultHostname == j.emptyDefaultHostname

instance : BEq Instance := ⟨same⟩

end Instance

end ClusterMonitor
