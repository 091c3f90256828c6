/-
AgentPlatform/Py/Hmac.lean

`hmac.new(key, message, hashlib.sha256).hexdigest()`. As with the hash, the
function is the real one and no proof unfolds it.
-/
import AgentPlatform.Py.Hash

namespace Py

namespace Sha256

def bigEndian32 (x : Nat) : List UInt8 := [24, 16, 8, 0].map fun shift => UInt8.ofNat (x >>> shift)

def State.bytes (s : State) : List UInt8 :=
  [s.a, s.b, s.c, s.d, s.e, s.f, s.g, s.h].flatMap bigEndian32

/-- `hashlib.sha256(bytes).digest()`. -/
def digest (bytes : List UInt8) : List UInt8 :=
  let ws := words (pad bytes)
  (absorb (ws.length / 16) ws initial).bytes

end Sha256

/-- The key, hashed where it is longer than a block and filled up to one. -/
def hmacBlock (key : List UInt8) : List UInt8 :=
  let short := if 64 < key.length then Sha256.digest key else key
  short ++ List.replicate (64 - short.length) 0

/-- `hmac.new(key, message, hashlib.sha256).hexdigest()`. -/
@[irreducible] def hmacSha256 (key message : List UInt8) : String :=
  sha256Bytes ((hmacBlock key).map (· ^^^ 0x5c)
    ++ Sha256.digest ((hmacBlock key).map (· ^^^ 0x36) ++ message))

theorem hmacSha256_isHex64 (key message : List UInt8) : isHex64 (hmacSha256 key message) = true := by
  rw [hmacSha256]
  exact hexdigestBytes_isHex64 _

end Py
