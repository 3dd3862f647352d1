import ScopeGateway.Http.Headers
import ScopeGateway.Net.Address
import ScopeGateway.Text.Blank

/-!
Fields that concern one connection only, and what a hop does to the fields that pass it: it keeps
those that go from end to end, adds the peer to the chain of forwarders, and hands on the wish to
switch to another protocol.
-/
namespace ScopeGateway.Http.Headers

open Text

/-- The words between the commas of the `Connection` values that are plain ASCII. -/
def connectionOptions (h : Headers) : List (List Char) :=
  (((h.values .connection).filterMap FieldValue.text?).flatMap (splitOn (· == ','))).map trim
    |>.filter (!·.isEmpty)

/-- The names that concern one connection whether or not `Connection` lists them. -/
def hopNames : List FieldName :=
  [.connection, .proxyAuthenticate, .proxyAuthorization, .te, .trailer, .transferEncoding,
    .upgrade, .keepAlive, .proxyConnection]

/-- The names that the connection options spell. -/
def listedNames (h : Headers) : List FieldName :=
  h.connectionOptions.filterMap fun text => FieldName.ofBytes? (Utf8.encode text)

/-- Without the fields that concern the connection. -/
def endToEnd (h : Headers) : Headers := h.removeAll (h.listedNames ++ hopNames)

/-- The earlier forwarders, each with a comma after it, and the peer. -/
def forwarders (h : Headers) (peer : Net.IpAddress) : Utf8.Bytes :=
  (h.values .forwardedFor).flatMap (·.bytes ++ [0x2C, 0x20]) ++ Utf8.encode peer.render.toList

/-- Adds the peer to the chain of forwarders, as one value. -/
def addForwarder (h : Headers) (peer : Net.IpAddress) : Headers :=
  match FieldValue.ofBytes? (h.forwarders peer) with
  | some chain => h.set ⟨.forwardedFor, chain⟩
  | none => h

def upgradeOption : List Char := "upgrade".toList

/-- The protocol to switch to, if the sender wishes to: `Connection` says so and `Upgrade` says to
which. -/
def wantedProtocol? (h : Headers) : Option FieldValue :=
  if h.connectionOptions.any fun text => text.map Char.toLower == upgradeOption then
    (h.values .upgrade).head?
  else none

def upgradeValue : FieldValue := ⟨Utf8.encode upgradeOption, by decide +kernel⟩

/-- With the wish to switch to the protocol. -/
def wanting (h : Headers) (protocol : FieldValue) : Headers :=
  (h.set ⟨.connection, upgradeValue⟩).set ⟨.upgrade, protocol⟩

end ScopeGateway.Http.Headers
