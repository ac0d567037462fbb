/-
This file models the frames that travel on a live connection, the bytes they
take, and the line towards a peer, which holds a limited number of bytes that
the peer has not read.
-/

namespace ServerMonitor

inductive Frame
  | text (content : String)
  | binary (content : String)
  | ping (content : String)
  | pong (content : String)
  | close
deriving DecidableEq, Inhabited

namespace Frame

/-- The most bytes that a ping or a pong may carry. -/
def longestControl : Nat := 125

/-- The bytes a frame carries. -/
def payloadSize : Frame → Nat
  | text content | binary content | ping content | pong content => content.utf8ByteSize
  | close => 0

/-- The bytes in front of the payload when a server sends the frame. -/
def headerSize (payload : Nat) : Nat :=
  if payload ≤ longestControl then 2 else if payload < 65536 then 4 else 10

/-- The bytes of the whole frame. -/
def size (frame : Frame) : Nat := headerSize frame.payloadSize + frame.payloadSize

/-- Whether a receiver takes the frame; a ping or pong may be too long. -/
def isReadable : Frame → Bool
  | ping content | pong content => content.utf8ByteSize ≤ longestControl
  | _ => true

end Frame

/-- The line towards a peer, with the frames that the peer has not read, oldest first. -/
structure Line where
  /-- How many unread bytes the line itself holds; more wait with the sender. -/
  capacity : Nat
  frames : List Frame

namespace Line

def empty (capacity : Nat) : Line := ⟨capacity, []⟩

def unread (line : Line) : Nat := line.frames.foldr (fun frame total => frame.size + total) 0

/-- Whether a sender waits for the peer to read. -/
def isBlocked (line : Line) : Bool := line.capacity < line.unread

def send (line : Line) (frame : Frame) : Line := { line with frames := line.frames ++ [frame] }

/-- The leading frames that fit into the given number of bytes. -/
def fitting : Nat → List Frame → List Frame
  | _, [] => []
  | room, frame :: rest =>
    if frame.size ≤ room then frame :: fitting (room - frame.size) rest else []

/-- The line after its sender is gone: what waited with the sender is lost. -/
def abandon (line : Line) : Line := { line with frames := fitting line.capacity line.frames }

end Line

end ServerMonitor
