import RunConditions.Collection
import RunConditions.Fields

/-!
# Channel rows

A row of a calorimeter table belongs to one channel and holds one number for
each quantity of the table's row type.
-/

set_option autoImplicit false

namespace RunConditions

structure ChannelRow where
  id : Int
  channel : Int
  readings : List Float
  deriving DecidableEq

namespace ChannelRow

def channelColumn : String := "ecal_channel_id"

def read (t : ChannelType) (f : Fields) : Except Error ChannelRow := do
  return {
    id := ← f.rowId
    channel := ← f.integer32 channelColumn
    readings := ← t.quantities.mapM f.float }

end ChannelRow

namespace Collection

def channel? (c : Collection ChannelRow) (channel : Int) : Option ChannelRow :=
  c.find? (·.channel == channel)

def hasChannel (c : Collection ChannelRow) (channel : Int) : Bool :=
  c.rows.any (·.channel == channel)

end Collection
end RunConditions
