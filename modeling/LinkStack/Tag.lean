import LinkStack.Bytes

/-!
Protocol tags. The first byte of every packet selects the protocol of the
rest. Tags from `frame` up belong to the framing layer together: their low
bits are that layer's own, so all of them fold onto `frame`.
-/

namespace LinkStack.Tag

/-- Opaque traffic that keeps a link alive. -/
def ping : UInt8 := 0x00

/-- The first and the last of the seven tags left to applications. -/
def userFirst : UInt8 := 0x01

def userLast : UInt8 := 0x07

/-- A packet for a list of ports. -/
def portList : UInt8 := 0x7D

/-- A packet for one port. -/
def port : UInt8 := 0x7E

/-- A packet of the message layer. -/
def message : UInt8 := 0x7F

/-- The first of the tags of the framing layer. -/
def frame : UInt8 := 0x80

/-- The protocol a tag belongs to. -/
def fold (tag : UInt8) : UInt8 := if frame ≤ tag then frame else tag

/-- Whether a tag is one of the seven left to applications. -/
def isUser (tag : UInt8) : Bool := userFirst ≤ tag && tag ≤ userLast

/-- The name of a tag's protocol. -/
def describe (tag : UInt8) : String :=
  let protocol := fold tag
  if protocol = ping then "PING"
  else if isUser protocol then "USER"
  else if protocol = portList then "TRANS_LIST"
  else if protocol = port then "TRANS"
  else if protocol = message then "MSG"
  else if protocol = frame then "FRAME"
  else "RESERVED"

theorem fold_of_lt {tag : UInt8} (h : tag < frame) : fold tag = tag := by
  rw [fold, if_neg (UInt8.not_le.mpr h)]

end LinkStack.Tag
