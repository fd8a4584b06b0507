import PaymentChannel.Bytes

/-! The source of every random byte the parties use.
A source is a queue of bytes followed by an endless sequence of blocks; what is drawn is the next
bytes of it, so a run is determined by its source and the order of the draws.
-/

namespace PaymentChannel

/-- A source of random bytes, of which the queued ones come first. -/
structure Entropy where
  queued : List UInt8
  blocks : Nat → Bytes 32
  /-- How many bytes of the blocks were drawn already. -/
  used : Nat

namespace Entropy

/-- A fresh source with nothing queued. -/
def ofBlocks (blocks : Nat → Bytes 32) : Entropy :=
  { queued := [], blocks, used := 0 }

/-- The source with more bytes at the end of its queue. -/
def enqueue (source : Entropy) (bytes : List UInt8) : Entropy :=
  { source with queued := source.queued ++ bytes }

/-- The concatenation of `count` blocks from the given one on. -/
def joined (source : Entropy) (first count : Nat) : List UInt8 :=
  (List.range' first count).flatMap fun index => (source.blocks index).toList

@[simp] theorem length_joined (source : Entropy) (first count : Nat)
    : (source.joined first count).length = count * 32 := by
  induction count generalizing first with
  | zero => rfl
  | succ count ih =>
      have step := ih (first + 1)
      simp only [joined] at step
      simp [joined, List.range'_succ, step, (source.blocks first).length_toList]
      omega

/-- The next `n` bytes that the blocks hold. -/
def ahead (source : Entropy) (n : Nat) : List UInt8 :=
  ((source.joined (source.used / 32) ((source.used % 32 + n + 31) / 32)).drop
    (source.used % 32)).take n

@[simp] theorem length_ahead (source : Entropy) (n : Nat) : (source.ahead n).length = n := by
  simp [ahead]
  omega

/-- The next `n` bytes of the source, and the source after them. -/
def draw (source : Entropy) (n : Nat) : Bytes n × Entropy :=
  let missing := n - source.queued.length
  (⟨source.queued.take n ++ source.ahead missing, by simp [missing]; omega⟩,
    { source with queued := source.queued.drop n, used := source.used + missing })

end Entropy

end PaymentChannel
