namespace SwitchSession

abbrev DatapathId := UInt64

def DatapathId.text (d : DatapathId) : String := d.toNat.repr

structure FeatureSet where
  datapath : DatapathId
  auxiliary : UInt8 := 0
  buffers : UInt32 := 256
  tables : UInt8 := 254
  capabilities : UInt32 := 0
deriving DecidableEq

structure NodeId where
  text : String
deriving DecidableEq

namespace NodeId

def scheme : String := "openflow:"

def ofDatapath (d : DatapathId) : NodeId := ⟨scheme ++ DatapathId.text d⟩

end NodeId

end SwitchSession
