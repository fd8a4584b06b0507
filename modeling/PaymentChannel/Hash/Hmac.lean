import PaymentChannel.Hash.Sha256

/-! Keyed hashing of messages: HMAC over SHA-256. -/

namespace PaymentChannel

/-- The key as one block of the hash function; a longer key is hashed first. -/
def hmacBlock (key : List UInt8) : List UInt8 :=
  let short := if key.length > 64 then (sha256 key).toList else key
  short ++ List.replicate (64 - short.length) 0

/-- The authentication code of a message under a key. -/
def hmacSha256 (key message : List UInt8) : Bytes 32 :=
  let block := hmacBlock key
  let inner := sha256 (block.map (· ^^^ 0x36) ++ message)
  sha256 (block.map (· ^^^ 0x5c) ++ inner.toList)

end PaymentChannel
