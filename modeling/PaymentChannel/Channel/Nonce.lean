import PaymentChannel.Hex

/-! Nonces of channel states and identifiers of payment sessions.
A nonce is a salt of the channel followed by a count of its payments, so nonces grow along a channel
and those of different channels differ by their salts.
-/

namespace PaymentChannel

/-- The nonce of a channel state. -/
structure Nonce where
  bytes : Bytes 16
deriving DecidableEq

namespace Nonce

instance : Ord Nonce := ⟨compareOn bytes⟩

instance : Std.TransOrd Nonce :=
  inferInstanceAs (Std.TransCmp (compareOn bytes))

instance : Std.LawfulEqOrd Nonce where
  compare_self {value} := @Std.ReflCmp.compare_self _ (compare : Bytes 16 → _ → _) _ value.bytes
  eq_of_compare {left right} same := by
    cases left
    cases right
    exact congrArg mk (Std.LawfulEqOrd.eq_of_compare same)

/-- The nonce of the given salt and count. -/
def ofParts (salt : Bytes 8) (count : Nat) : Nonce :=
  ⟨⟨salt.toList ++ bigEndian 8 count, by simp [salt.length_toList]⟩⟩

/-- The salt of the channel. -/
def salt (nonce : Nonce) : Bytes 8 :=
  ⟨nonce.bytes.toList.take 8, by simp [nonce.bytes.length_toList]⟩

/-- The number of payments before the state. -/
def count (nonce : Nonce) : Nat :=
  ofBigEndian (nonce.bytes.toList.drop 8)

/-- The first nonce of a channel. -/
def first (salt : Bytes 8) : Nonce := ofParts salt 0

/-- The nonce after the next payment. The largest count does not grow, so a channel that used it
repeats its nonce.
-/
def next (nonce : Nonce) : Nonce :=
  ofParts nonce.salt (min (nonce.count + 1) (UInt64.size - 1))

/-- The hexadecimal text of the nonce. -/
def text (nonce : Nonce) : String := nonce.bytes.hex

end Nonce

/-- The identifier of a payment session, which the customer chooses. -/
structure SessionId where
  bytes : Bytes 16
deriving DecidableEq

namespace SessionId

instance : Ord SessionId := ⟨compareOn bytes⟩

instance : Std.TransOrd SessionId :=
  inferInstanceAs (Std.TransCmp (compareOn bytes))

instance : Std.LawfulEqOrd SessionId where
  compare_self {value} := @Std.ReflCmp.compare_self _ (compare : Bytes 16 → _ → _) _ value.bytes
  eq_of_compare {left right} same := by
    cases left
    cases right
    exact congrArg mk (Std.LawfulEqOrd.eq_of_compare same)

/-- The hexadecimal text of the identifier. -/
def text (session : SessionId) : String := session.bytes.hex

end SessionId

end PaymentChannel
