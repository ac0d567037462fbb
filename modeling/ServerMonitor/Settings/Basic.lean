/-
This file models the settings of the agent: their fields, defaults, text form
and the conditions under which they are accepted. A field that a text leaves
out takes its default; only address and port look for it in the environment.
-/

import ServerMonitor.Collector.Interval
import ServerMonitor.Json.Schema
import ServerMonitor.Settings.Environment

namespace ServerMonitor

open Json

/-! ### Live connections -/

/-- What governs the queues and deadlines of live connections. -/
structure StreamSettings where
  /-- Events that wait for one client. -/
  clientBuffer : UInt64 := 256
  /-- Events that wait to be fanned out. -/
  broadcastBuffer : UInt64 := 256
  /-- Seconds between two pings. -/
  pingInterval : UInt64 := 30
  /-- Seconds after which a client that answers no ping is dropped. -/
  readTimeout : UInt64 := 60
  /-- Milliseconds a closing connection has to send what is queued. -/
  drainGrace : UInt64 := 1000
deriving DecidableEq, Inhabited

namespace StreamSettings

def default : StreamSettings := {}

def schema : Schema StreamSettings where
  shape := .record <|
    .optionalField "client_buffer" .word64 <|
    .optionalField "broadcast_buffer" .word64 <|
    .optionalField "ping_interval_secs" .word64 <|
    .optionalField "read_timeout_secs" .word64 <|
    .optionalField "drain_grace_ms" .word64 <|
    .nil
  toParts settings := (some settings.clientBuffer, some settings.broadcastBuffer,
    some settings.pingInterval, some settings.readTimeout, some settings.drainGrace, ())
  ofParts := fun (clientBuffer, broadcastBuffer, pingInterval, readTimeout, drainGrace, ()) =>
    { clientBuffer := clientBuffer.getD default.clientBuffer
      broadcastBuffer := broadcastBuffer.getD default.broadcastBuffer
      pingInterval := pingInterval.getD default.pingInterval
      readTimeout := readTimeout.getD default.readTimeout
      drainGrace := drainGrace.getD default.drainGrace }
  ofParts_toParts _ := rfl

end StreamSettings

/-- The same rules as the connections use them, times in milliseconds. -/
structure StreamRules where
  clientBuffer : Nat
  broadcastBuffer : Nat
  pingInterval : Nat
  readTimeout : Nat
  drainGrace : Nat
deriving DecidableEq, Inhabited

def StreamSettings.rules (settings : StreamSettings) : StreamRules where
  clientBuffer := settings.clientBuffer.toNat
  broadcastBuffer := settings.broadcastBuffer.toNat
  pingInterval := settings.pingInterval.toNat * 1000
  readTimeout := settings.readTimeout.toNat * 1000
  drainGrace := settings.drainGrace.toNat

/-! ### All settings -/

structure Settings where
  address : Address
  port : UInt16
  /-- Whether answers allow requests from other origins. -/
  crossOrigin : Bool := true
  /-- Messages that wait in one mailbox of the bus. -/
  busBuffer : UInt64 := 1024
  stream : StreamSettings := {}
  /-- Seconds for which derived network services stay fresh. -/
  networkServicesTtl : UInt64 := 30
  /-- Seconds between passes by collector; zero registers a collector disabled. -/
  intervals : Dictionary UInt64 := .empty
  /-- Seconds that shutdown waits for tasks. -/
  shutdownGrace : UInt64 := 5

namespace Settings

def default (environment : Environment) : Settings where
  address := environment.effectiveAddress
  port := environment.effectivePort

def schema (environment : Environment) : Schema Settings where
  shape := .record <|
    .optionalField "addr" .address <|
    .optionalField "port" .word16 <|
    .optionalField "enable_cors" .bool <|
    .optionalField "bus_buffer" .word64 <|
    .optionalField "websocket" StreamSettings.schema.shape <|
    .optionalField "network_services_ttl_secs" .word64 <|
    .optionalField "intervals" (.dictionary .word64) <|
    .optionalField "shutdown_grace_secs" .word64 <|
    .nil
  toParts settings := (some settings.address, some settings.port, some settings.crossOrigin,
    some settings.busBuffer, some (StreamSettings.schema.toParts settings.stream),
    some settings.networkServicesTtl, some settings.intervals, some settings.shutdownGrace, ())
  ofParts := fun (address, port, crossOrigin, busBuffer, stream, networkServicesTtl, intervals,
      shutdownGrace, ()) =>
    let other := default environment
    { address := address.getD other.address
      port := port.getD other.port
      crossOrigin := crossOrigin.getD other.crossOrigin
      busBuffer := busBuffer.getD other.busBuffer
      stream := (stream.map StreamSettings.schema.ofParts).getD other.stream
      networkServicesTtl := networkServicesTtl.getD other.networkServicesTtl
      intervals := intervals.getD other.intervals
      shutdownGrace := shutdownGrace.getD other.shutdownGrace }
  ofParts_toParts _ := rfl

/-- The address and port to listen on, as text. -/
def listenAddress (settings : Settings) : String := settings.address.writtenWithPort settings.port

/-- The seconds between passes of a collector. -/
def interval (settings : Settings) (collector : String) : UInt64 :=
  (settings.intervals.find? collector).getD (Collector.defaultInterval collector)

/-! ### Acceptance -/

/-- Why settings are not accepted. -/
inductive Violation
  | emptyBusBuffer
  | emptyStreamBuffer
  | pingTooRare
  | interval (collector : String)
deriving DecidableEq

def Violation.message : Violation → String
  | emptyBusBuffer => "bus_buffer must be at least 1"
  | emptyStreamBuffer => "websocket buffers must be at least 1"
  | pingTooRare => "websocket ping interval must be shorter than the read timeout"
  | interval collector => s!"interval of {collector} must be 0 or between {
    Collector.shortestInterval} and {Collector.longestInterval} seconds"

/-- The first condition that the settings violate. -/
def violation? (settings : Settings) : Option Violation :=
  if settings.busBuffer = 0 then some .emptyBusBuffer
  else if settings.stream.clientBuffer = 0 ∨ settings.stream.broadcastBuffer = 0 then
    some .emptyStreamBuffer
  else if settings.stream.readTimeout ≤ settings.stream.pingInterval then some .pingTooRare
  else
    (settings.intervals.entries.find? fun entry =>
      entry.2 ≠ 0 && !Collector.isAllowedInterval entry.2).map fun entry => .interval entry.1

def isValid (settings : Settings) : Bool := settings.violation?.isNone

end Settings

end ServerMonitor
