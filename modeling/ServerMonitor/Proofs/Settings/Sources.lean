/-
This file states where settings come from that were read. Whatever a text gives is
taken from it, field by field, and whatever it leaves out takes its default, of
which only those of address and port look into the environment. Settings that were
written give every field, so they are read back the same wherever they are read.
-/

import ServerMonitor.Proofs.Json.Member
import ServerMonitor.Proofs.Json.Schema
import ServerMonitor.Proofs.Settings.Serving

namespace ServerMonitor

open Json

/-! ### Slots and defaults -/

/-- A slot that holds what is given, with a default in place of nothing. -/
theorem Json.IsTaken.getD {Result : Type} {read : Value → Except Fault Result}
    {given : Option Value} {slot : Option Result}
    (taken : IsTaken (fun value => (read value).map some) given none slot) (fallback : Result) :
    IsTaken read given fallback (slot.getD fallback) := by
  cases given with
  | none =>
    obtain rfl := Except.ok.inj taken
    rfl
  | some value =>
    obtain ⟨result, read, rfl⟩ := ok_of_map taken
    exact read

/-! ### What a text gives -/

namespace StreamSettings

/-- Whether each field has what is given for it, or its default. -/
structure IsGivenBy (settings : StreamSettings) (given : Option Value) : Prop where
  clientBuffer : IsTaken Leaf.word64.read (given.bind (·.member? "client_buffer" 0))
    default.clientBuffer settings.clientBuffer
  broadcastBuffer : IsTaken Leaf.word64.read (given.bind (·.member? "broadcast_buffer" 1))
    default.broadcastBuffer settings.broadcastBuffer
  pingInterval : IsTaken Leaf.word64.read (given.bind (·.member? "ping_interval_secs" 2))
    default.pingInterval settings.pingInterval
  readTimeout : IsTaken Leaf.word64.read (given.bind (·.member? "read_timeout_secs" 3))
    default.readTimeout settings.readTimeout
  drainGrace : IsTaken Leaf.word64.read (given.bind (·.member? "drain_grace_ms" 4))
    default.drainGrace settings.drainGrace

theorem isGivenBy_none : default.IsGivenBy none := ⟨rfl, rfl, rfl, rfl, rfl⟩

theorem isGivenBy_of_read {value : Value} {parts : schema.shape.Carrier}
    (read : schema.shape.read value = .ok parts) :
    (schema.ofParts parts).IsGivenBy (some value) := by
  obtain ⟨slots, given, held⟩ := Shape.areGiven_of_read (by decide) read
  obtain ⟨clientBuffer, broadcastBuffer, pingInterval, readTimeout, drainGrace, _⟩ := slots
  obtain rfl := Except.ok.inj held
  obtain ⟨clientBuffer, broadcastBuffer, pingInterval, readTimeout, drainGrace, -⟩ := given
  exact ⟨clientBuffer.getD _, broadcastBuffer.getD _, pingInterval.getD _, readTimeout.getD _,
    drainGrace.getD _⟩

end StreamSettings

namespace Settings

/-- Whether each field has what is given for it, or its default. Only the defaults of address and
port depend on the environment. -/
structure IsGivenBy (settings : Settings) (environment : Environment) (given : Value) : Prop where
  address : IsTaken Leaf.address.read (given.member? "addr" 0) environment.effectiveAddress
    settings.address
  port : IsTaken Leaf.word16.read (given.member? "port" 1) environment.effectivePort settings.port
  crossOrigin : IsTaken Leaf.bool.read (given.member? "enable_cors" 2) true settings.crossOrigin
  busBuffer : IsTaken Leaf.word64.read (given.member? "bus_buffer" 3) 1024 settings.busBuffer
  stream : settings.stream.IsGivenBy (given.member? "websocket" 4)
  networkServicesTtl : IsTaken Leaf.word64.read (given.member? "network_services_ttl_secs" 5) 30
    settings.networkServicesTtl
  intervals : IsTaken (Shape.dictionary .word64).read (given.member? "intervals" 6) .empty
    settings.intervals
  shutdownGrace : IsTaken Leaf.word64.read (given.member? "shutdown_grace_secs" 7) 5
    settings.shutdownGrace

theorem isGivenBy_of_read {environment : Environment} {value : Value} {settings : Settings}
    (read : (schema environment).read value = .ok settings) :
    settings.IsGivenBy environment value := by
  obtain ⟨parts, taken, rfl⟩ := ok_of_map read
  obtain ⟨slots, given, held⟩ := Shape.areGiven_of_read (by decide) taken
  obtain ⟨address, port, crossOrigin, busBuffer, stream, networkServicesTtl, intervals,
    shutdownGrace, _⟩ := slots
  obtain rfl := Except.ok.inj held
  obtain ⟨address, port, crossOrigin, busBuffer, streamGiven, networkServicesTtl, intervals,
    shutdownGrace, -⟩ := given
  refine ⟨address.getD _, port.getD _, crossOrigin.getD _, busBuffer.getD _, ?_,
    networkServicesTtl.getD _, intervals.getD _, shutdownGrace.getD _⟩
  -- The streams have defaults as a whole and, where they are given, defaults of their own.
  show ((stream.map StreamSettings.schema.ofParts).getD _).IsGivenBy (value.member? "websocket" 4)
  cases member : value.member? "websocket" 4 with
  | none =>
    rw [IsTaken, member] at streamGiven
    obtain rfl := Except.ok.inj streamGiven
    exact StreamSettings.isGivenBy_none
  | some inner =>
    rw [IsTaken, member] at streamGiven
    obtain ⟨parts, inside, rfl⟩ := ok_of_map streamGiven
    exact StreamSettings.isGivenBy_of_read inside

/-! ### Other environments -/

theorem ofText_eq_ok_iff {environment : Environment} {text : String} {settings : Settings} :
    ofText environment text = .ok settings ↔
      (schema environment).ofText text = .ok settings ∧ settings.violation? = none := by
  rw [ofText]
  constructor
  · intro accepted
    split at accepted
    · cases accepted
    · split at accepted
      · cases accepted
      · cases accepted
        exact ⟨‹_›, ‹_›⟩
  · rintro ⟨read, valid⟩
    rw [read]
    dsimp only
    rw [valid]

/-- Another environment gives the same text another address or another port at most. -/
theorem read_schema_of_environment {environment : Environment} {value : Value}
    {settings : Settings} (read : (schema environment).read value = .ok settings)
    (other : Environment) :
    ∃ moved, (schema other).read value = .ok moved ∧
      moved = { settings with address := moved.address, port := moved.port } := by
  obtain ⟨parts, held, rfl⟩ := ok_of_map read
  exact ⟨(schema other).ofParts parts, congrArg (Except.map (schema other).ofParts) held, rfl⟩

/-! ### Settings that were written -/

theorem areLegible {environment : Environment} {settings : Settings}
    (named : Address.read? settings.address.written = some settings.address) :
    AreLegible ((schema environment).shape.leaves ((schema environment).toParts settings)) := by
  rintro ⟨leaf, value⟩ member
  cases leaf with
  | address =>
    rcases List.mem_cons.mp member with first | later
    · cases first
      exact named
    · exact Bool.noConfusion (Fields.mentions_of_mem_leaves _ _ _ later)
  | real => exact Bool.noConfusion (Shape.mentions_of_mem_leaves _ _ _ member)
  | _ => trivial

/-- Settings are read back from their text in any environment. -/
theorem ofText_toText {settings : Settings} (valid : settings.violation? = none)
    (named : Address.read? settings.address.written = some settings.address)
    (writing reading : Environment) :
    ofText reading ((schema writing).toText settings) = .ok settings := by
  refine ofText_eq_ok_iff.mpr ⟨(schema reading).ofText_eq_ok_iff.mpr ?_, valid⟩
  refine ⟨(schema writing).write settings,
    Value.readWhole_render ((schema writing).shape.isComplete_write _), ?_⟩
  have back := (schema reading).shape.read_write rfl ((schema reading).toParts settings)
    (areLegible named)
  show ((schema reading).shape.read ((schema reading).write settings)).map _ = _
  rw [Schema.write, back]
  exact congrArg Except.ok ((schema reading).ofParts_toParts settings)

theorem ofFile_of_text {environment : Environment} {directory : Directory} {path text : String}
    (found : directory.find path = .ok (.file text.toUTF8)) :
    ofFile environment directory path = ofText environment text := by
  have decoded : String.fromUTF8? text.toUTF8 = some text := dif_pos text.isValidUTF8
  have read : directory.readText path = .ok text := by
    rw [Directory.readText, found]
    show (String.fromUTF8? _).elim _ _ = _
    rw [decoded]
    rfl
  rw [ofFile, read]
  rfl

/-- Settings that are accepted, and whose address can be read from what is written for it, are read
back the same from a file that holds their text, whatever the environment they are written and read
in. Settings that come of any text have, field by field, what the text gives, or the default if it
gives nothing, whatever it gives for the other fields. In another environment the same text is
accepted as well, and nothing but the address and the port can differ. -/
theorem text_over_environment_over_defaults :
    (∀ settings : Settings, settings.violation? = none →
      Address.read? settings.address.written = some settings.address →
      ∀ (writing reading : Environment) (directory : Directory) (path : String),
        directory.find path = .ok (.file ((schema writing).toText settings).toUTF8) →
          ofFile reading directory path = .ok settings) ∧
    ∀ (environment : Environment) (text : String) (settings : Settings),
      ofText environment text = .ok settings →
        settings.IsGivenBy environment (readWhole text).1 ∧
        ∀ other, ∃ moved, ofText other text = .ok moved ∧
          moved.IsGivenBy other (readWhole text).1 ∧
          moved = { settings with address := moved.address, port := moved.port } := by
  constructor
  · intro settings valid named writing reading directory path found
    rw [ofFile_of_text found]
    exact ofText_toText valid named writing reading
  · intro environment text settings accepted
    obtain ⟨read, valid⟩ := ofText_eq_ok_iff.mp accepted
    obtain ⟨value, whole, read⟩ := (schema environment).ofText_eq_ok_iff.mp read
    rw [whole]
    refine ⟨isGivenBy_of_read read, fun other => ?_⟩
    obtain ⟨moved, readMoved, same⟩ := read_schema_of_environment read other
    refine ⟨moved, ofText_eq_ok_iff.mpr ⟨(schema other).ofText_eq_ok_iff.mpr
      ⟨value, whole, readMoved⟩, ?_⟩, isGivenBy_of_read readMoved, same⟩
    rw [same]
    exact valid

/-- Settings for one interface, with a collector that is registered disabled. -/
def localSettings : Settings where
  address := .short #v[127, 0, 0, 1]
  port := 0
  intervals := Dictionary.empty.insert "gpu" 0

/-- An environment that sets address and port. -/
def publicEnvironment : Environment := ⟨some "80", some "10.0.0.1", none⟩

theorem splitOn_of_single : "a".splitOn "/" = ["a"] := by
  rw [String.splitOn, if_neg (by decide), String.splitOnAux, if_neg (by decide),
    if_neg (by decide), String.splitOnAux, if_pos (by decide)]
  decide

/-- The settings of a file take precedence over the environment, and the environment over the
default where a text gives no port. -/
theorem text_over_public_environment :
    ofFile publicEnvironment ⟨[("a", ((schema silentEnvironment).toText localSettings).toUTF8)]⟩
        "a" = .ok localSettings ∧
      ∃ settings, ofText publicEnvironment "\x7b\"addr\":\"::1\"\x7d" = .ok settings ∧
        settings.IsGivenBy publicEnvironment (readWhole "\x7b\"addr\":\"::1\"\x7d").1 ∧
        settings.port = 80 := by
  obtain ⟨back, sources⟩ := text_over_environment_over_defaults
  constructor
  · refine back localSettings (by decide) (by decide) silentEnvironment publicEnvironment _ "a" ?_
    rw [Directory.find, if_neg (by decide), if_neg (by decide), if_neg (by decide),
      splitOn_of_single]
    rfl
  · let settings : Settings := ⟨.long #v[0, 0, 0, 0, 0, 0, 0, 1], 80, true, 1024, {}, 30, .empty, 5⟩
    have accepted : ofText publicEnvironment "\x7b\"addr\":\"::1\"\x7d" = .ok settings := by rfl
    exact ⟨settings, accepted, (sources _ _ _ accepted).1, rfl⟩

end Settings

end ServerMonitor
