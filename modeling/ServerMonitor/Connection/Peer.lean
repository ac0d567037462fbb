/-
This file models the peer at the other end of a live connection. An attentive
peer reads at once, the other kind only while it is looking. While reading it
answers pings and, once it has seen the end, it is done.
-/

import ServerMonitor.Connection.Frame

namespace ServerMonitor

/-- What a peer sees. -/
inductive Sight
  | frame (frame : Frame)
  /-- The connection is over. -/
  | finish
deriving DecidableEq

structure Peer where
  attentive : Bool
  /-- What it saw, oldest first. -/
  seen : List Sight
  /-- Whether it sent a close frame. -/
  saidClose : Bool
  /-- Whether it saw the end of the connection. -/
  ended : Bool
  /-- Whether it left without a word. -/
  gone : Bool

namespace Peer

def arrive (attentive : Bool) : Peer := ⟨attentive, [], false, false, false⟩

def isThere (peer : Peer) : Bool := !peer.gone && !peer.ended

/-- Whether it can send frames. -/
def canSpeak (peer : Peer) : Bool := peer.isThere && !peer.saidClose

def see (peer : Peer) (sight : Sight) : Peer := { peer with seen := peer.seen ++ [sight] }

/-- The peer after the end of the connection. -/
def finish (peer : Peer) : Peer := { peer.see .finish with ended := true }

end Peer

end ServerMonitor
