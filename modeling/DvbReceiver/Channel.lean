/-!
# Changing channels

A PAT's services are numbered from 0, and index 0 is never tuned. So with `count` services the
channels are `1` to `count - 1`, and there is no channel to go to with fewer than two services.
`Channel.next?` says where a request leads. Up and down go round; a direct entry has to be a
channel.
-/

namespace DvbReceiver

/-- What the viewer asks for. -/
inductive ChannelRequest
  | up
  | down
  /-- The service with this index. -/
  | direct (index : Nat)
  deriving DecidableEq, Repr

namespace Channel

/-- The first index that can be tuned. -/
def first : Nat := 1

/-- The channel that a request leads to from the current one. -/
def next? (current count : Nat) (request : ChannelRequest) : Option Nat :=
  let last := count - 1
  if last < first then none else
    match request with
    | .up => some (if last ≤ current then first else current + 1)
    | .down => some (if current ≤ first then last else current - 1)
    | .direct index => if first ≤ index ∧ index ≤ last then some index else none

/-- The channel after a request: a request that leads nowhere changes nothing. -/
def step (count current : Nat) (request : ChannelRequest) : Nat :=
  (next? current count request).getD current

/-- The channel to begin with: the one wanted, if it is a channel, and the first otherwise. -/
def initial (count wanted : Nat) : Nat :=
  if first ≤ wanted ∧ wanted < count then wanted else first

end Channel

end DvbReceiver
