import ModelHub.Agent.Identity
import ModelHub.Foundations.Base64Url

/-!
# The authorization header of a connection

`AuthHeader` of `agent/internal/transport/client.go`.  `ed25519.Sign` is a parameter;
what `rand.Read` drew is an argument.
-/

namespace ModelHub.Agent

open Base64

/-- `base64.RawURLEncoding.EncodeToString` -/
def encodeToString (bytes : List UInt8) : String := String.ofList (rawURLEncode bytes)

/-- `fmt.Sprintf("%s.%d.%s", nodeID, now.UnixMilli(), ...)` -/
def payload (nodeID : String) (unixMilli : ℤ) (raw : List UInt8) : String :=
  nodeID ++ "." ++ toString unixMilli ++ "." ++ encodeToString raw

/-- The value the control plane's `authenticateNode` verifies; the signature covers the
first three fields exactly as they appear in the header. -/
def authHeader (sign : PrivateKey → String → List UInt8) (nodeID : String) (priv : PrivateKey)
    (unixMilli : ℤ) (raw : List UInt8) : String :=
  "ModelHubNode " ++ payload nodeID unixMilli raw ++ "." ++
    encodeToString (sign priv (payload nodeID unixMilli raw))

end ModelHub.Agent
