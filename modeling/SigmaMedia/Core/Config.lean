import SigmaMedia.Core.MainLoop

/-!
# Configuration

What the program is told by its environment, as far as it decides anything
later: the fingerprint that every answer carries, the token that publishing
asks for, the address the answers name, the origin that may read them and the
directory of the thumbnails.

## Main definitions

* `Config`: What the program is told.
* `UDPServer.ofConfig`: The server before the first command.
-/

namespace SigmaMedia

open Bytes Exec Net Sdp Text

/-- What the program is told. -/
structure Config where
  fingerprint : Text
  whipToken : Text
  udpAddress : SocketAddr
  frontendUrl : Text
  storageDir : Text

/-- The server before the first command. -/
def UDPServer.ofConfig {crates : Crates} (config : Config) : Exec (UDPServer crates) := do
  let sdpResolver ← SDPResolver.new ("sha-256 ".toList ++ config.fingerprint) config.udpAddress
  return UDPServer.new sdpResolver

end SigmaMedia
