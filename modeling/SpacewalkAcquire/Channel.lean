import SpacewalkAcquire.Failure

/-!
# Channels

A system subscribes to channels, of which one, the base channel, has no parent. `Channel.baseLabel` finds its label;
of several base channels the last one counts.
-/

namespace SpacewalkAcquire

/-- A content channel to which the system is subscribed. -/
structure Channel where
  label : String
  /-- The label of the parent channel, empty for a base channel. -/
  parent : String
  deriving DecidableEq, Repr

namespace Channel

def isBase (c : Channel) : Bool := c.parent.isEmpty

/-- The label of the last of `channels` that has no parent. -/
def baseLabel (channels : List Channel) : Except Failure String :=
  match channels.reverse.find? isBase with
  | some c => .ok c.label
  | none => .error (.channelResolution
      s!"none of the {channels.length} subscribed channels is a base channel")

end Channel

end SpacewalkAcquire
