import PssAsio.Base64
import PssAsio.HttpUpgrade
import PssAsio.Sha1

/-!
The value a server has to answer a websocket key with, and the answers that go out on a connection.
-/

namespace PssAsio

open Base64 SecureHash TransitionRuns WebSocketFormat

namespace WebSocketFormat

def handshakeSuffix : List UInt8 := asciiBytes "258EAFA5-E914-47DA-95CA-C5AB0DC85B11"

/-- The buffer of the hash object is on the stack, with what was there in it. -/
def wsHandshake (memory : Fin 64 → UInt8) (secKey : List UInt8) : Option (List UInt8) :=
  let appended := secKey ++ handshakeSuffix
  (((CSHA1.create memory).update appended (appended.length % 2 ^ 32)).bind CSHA1.final).bind
    fun hash => base64Encode hash.digest 20

/-- What the client decodes from the value it is answered. -/
def Accepted (key text : List UInt8) : Prop :=
  text.length = 28 ∧ base64Decode text = some (sha1 (key ++ handshakeSuffix))

theorem wsHandshake_accepted (memory : Fin 64 → UInt8) (key : List UInt8)
    (fits : key.length + 99 < 2 ^ 32) :
    ∃ text, wsHandshake memory key = some text ∧ Accepted key text := by
  have length : (key ++ handshakeSuffix).length = key.length + 36 := List.length_append
  obtain ⟨hash, updated, holds⟩ := (CSHA1.create_holds memory).update (key ++ handshakeSuffix)
    (by omega)
  obtain ⟨finished, ended, digest⟩ := Option.map_eq_some_iff.mp holds.final
  have twenty : finished.digest.length = 20 := by
    rw [digest]
    simp [sha1, bigEndian]
  refine ⟨encodeLoop [] finished.digest, ?_, ?_, ?_⟩
  · simp only [wsHandshake,
      Nat.mod_eq_of_lt (show (key ++ handshakeSuffix).length < 2 ^ 32 by omega), updated,
      Option.bind_some, ended]
    exact base64Encode_whole twenty.symm
  · rw [(encoded_read finished.digest).2, twenty]
  · rw [base64Decode_encoded (by rw [twenty]; decide), digest, List.nil_append]

end WebSocketFormat

namespace HttpUpgrade

/-- Every `101` that went out has a value the client accepts. -/
def UpgradesAccepted (world : UpgradeWorld) : Prop :=
  ∀ text, getResponseWebsocketText text ∈ world.outputs → ∃ key, world.upgradeKey = some key ∧
    (key.length + 99 < 2 ^ 32 → Accepted key text)

/-- The handshake as the plug-in calls it. -/
def handshake (memory : Fin 64 → UInt8) (key : List UInt8) : List UInt8 :=
  (wsHandshake memory key).getD []

end HttpUpgrade

end PssAsio
