import PaymentChannel.Curve.Key
import PaymentChannel.Curve.Signature
import PaymentChannel.Hash.Hmac

/-! Signing and verification over the curve.
The nonce of a signature is derived from the key and the message, so a signature is a function of
both. Of the two signatures a nonce gives, the one with the lower `s` is made, and only such
signatures are accepted.
-/

namespace PaymentChannel

open Curve

namespace Ecdsa

/-- The state of the generator of nonces. -/
structure NonceGenerator where
  key : Bytes 32
  value : Bytes 32

/-- Mixes more data into the state. -/
def NonceGenerator.mix (generator : NonceGenerator) (data : List UInt8) : NonceGenerator :=
  let key := hmacSha256 generator.key.toList (generator.value.toList ++ data)
  ⟨key, hmacSha256 key.toList generator.value.toList⟩

/-- The state for a key and a message. -/
def NonceGenerator.start (key : SecretKey) (message : Scalar) : NonceGenerator :=
  let seed := key.toBytes.toList ++ bigEndian 32 message.val
  ((NonceGenerator.mk (.replicate 32 0) (.replicate 32 1)).mix (0 :: seed)).mix (1 :: seed)

/-- The next candidate, and the state after its refusal. -/
def NonceGenerator.next (generator : NonceGenerator) : Bytes 32 × NonceGenerator :=
  let value := hmacSha256 generator.key.toList generator.value.toList
  (value, NonceGenerator.mix ⟨generator.key, value⟩ [0])

/-- The scalar that a message hash stands for. -/
def messageScalar (digest : Bytes 32) : Scalar :=
  .ofNat digest.toNat

/-- Whether a scalar is at most half of the order. -/
def isLow (scalar : Scalar) : Bool :=
  scalar.val ≤ order / 2

/-- The signature that a nonce gives, if it gives one. -/
def signWith? (key : SecretKey) (message nonce : Scalar) : Option Signature := do
  let (x, _) ← (baseMultiple nonce).coordinates?
  let r : Scalar := .ofNat x.val
  let s := nonce.inverse * (message + r * key.scalar)
  if r = 0 ∨ s = 0 then none
  else if isLow s then some ⟨r, s⟩ else some ⟨r, -s⟩

/-- The signature by the first usable nonce among a number of candidates. -/
def search (key : SecretKey) (message : Scalar) : Nat → NonceGenerator → Option Signature
  | 0, _ => none
  | more + 1, generator =>
      let (candidate, following) := generator.next
      match (SecretKey.ofBytes? candidate).bind (signWith? key message ·.scalar) with
      | some signature => some signature
      | none => search key message more following

/-- How many derived candidates are tried; each is unusable with a probability of 2 to the power
-127.
-/
def attempts : Nat := 16

/-- The signature of a message hash. Should no derived nonce be usable the nonces one and two are
left, of which at least one is.
-/
def sign (key : SecretKey) (digest : Bytes 32) : Signature :=
  let message := messageScalar digest
  match search key message attempts (.start key message) with
  | some signature => signature
  | none => ((signWith? key message 1).or (signWith? key message (1 + 1))).getD ⟨1, 1⟩

/-- Whether a signature of a message hash was made by the secret key behind a public key. -/
def verify (key : PublicKey) (digest : Bytes 32) (signature : Signature) : Bool :=
  if signature.r = 0 ∨ signature.s = 0 ∨ !isLow signature.s then false
  else
    let w := signature.s.inverse
    let sum := (baseMultiple (messageScalar digest * w)).add
      (key.point.smul (signature.r * w))
    match sum.coordinates? with
    | some (x, _) => decide ((Residue.ofNat x.val : Scalar) = signature.r)
    | none => false

end Ecdsa

end PaymentChannel
