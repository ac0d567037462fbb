/-
This file states that all models and their texts stand for each other: what is
encoded decodes to the same value, and what decodes is encoded as a text of its
own. A form names one model, or lists of the values of another form.
-/

import ServerMonitor.Model.CollectorStatus
import ServerMonitor.Model.Host
import ServerMonitor.Model.NetworkServices
import ServerMonitor.Model.Notifications
import ServerMonitor.Model.Power
import ServerMonitor.Model.Storage
import ServerMonitor.Model.Workload
import ServerMonitor.Model.Zfs
import ServerMonitor.Proofs.Json.Schema
import ServerMonitor.Proofs.Json.Writing

namespace ServerMonitor

open Json

/-! ### Records inside others -/

theorem Fan.isFaithful_schema : Fan.schema.IsFaithful := ⟨rfl, rfl, fun _ => rfl⟩

theorem MemoryModule.isFaithful_schema : MemoryModule.schema.IsFaithful := ⟨rfl, rfl, fun _ => rfl⟩

theorem Partition.isFaithful_schema : Partition.schema.IsFaithful := ⟨rfl, rfl, fun _ => rfl⟩

theorem ParityCheck.isFaithful_schema : ParityCheck.schema.IsFaithful := ⟨rfl, rfl, fun _ => rfl⟩

theorem PortMapping.isFaithful_schema : PortMapping.schema.IsFaithful := ⟨rfl, rfl, fun _ => rfl⟩

theorem Notification.isFaithful_schema : Notification.schema.IsFaithful := ⟨rfl, rfl, fun _ => rfl⟩

theorem NotificationOverview.isFaithful_schema : NotificationOverview.schema.IsFaithful :=
  ⟨rfl, rfl, fun _ => rfl⟩

theorem NetworkService.isFaithful_schema : NetworkService.schema.IsFaithful :=
  ⟨rfl, rfl, fun _ => rfl⟩

theorem CollectorStatus.isFaithful_schema : CollectorStatus.schema.IsFaithful :=
  ⟨rfl, rfl, fun _ => rfl⟩

theorem HostInfo.isFaithful_schema : HostInfo.schema.IsFaithful where
  tellsApart := rfl
  noAddress := rfl
  toParts_ofParts parts := by
    simp only [HostInfo.schema, Fan.isFaithful_schema.list.toParts_ofParts]
    rfl

theorem Hardware.isFaithful_schema : Hardware.schema.IsFaithful where
  tellsApart := rfl
  noAddress := rfl
  toParts_ofParts parts := by
    simp only [Hardware.schema, MemoryModule.isFaithful_schema.list.toParts_ofParts]
    rfl

theorem UnassignedDevice.isFaithful_schema : UnassignedDevice.schema.IsFaithful where
  tellsApart := rfl
  noAddress := rfl
  toParts_ofParts parts := by
    simp only [UnassignedDevice.schema, Partition.isFaithful_schema.list.toParts_ofParts]
    rfl

theorem UnassignedDevices.isFaithful_schema : UnassignedDevices.schema.IsFaithful where
  tellsApart := rfl
  noAddress := rfl
  toParts_ofParts parts := by
    simp only [UnassignedDevices.schema, UnassignedDevice.isFaithful_schema.list.toParts_ofParts]
    rfl

theorem ParityHistory.isFaithful_schema : ParityHistory.schema.IsFaithful where
  tellsApart := rfl
  noAddress := rfl
  toParts_ofParts parts := by
    simp only [ParityHistory.schema, ParityCheck.isFaithful_schema.list.toParts_ofParts]
    rfl

theorem Container.isFaithful_schema : Container.schema.IsFaithful where
  tellsApart := rfl
  noAddress := rfl
  toParts_ofParts parts := by
    simp only [Container.schema, PortMapping.isFaithful_schema.list.toParts_ofParts]
    rfl

theorem Notifications.isFaithful_schema : Notifications.schema.IsFaithful where
  tellsApart := rfl
  noAddress := rfl
  toParts_ofParts parts := by
    simp only [Notifications.schema, NotificationOverview.isFaithful_schema.toParts_ofParts,
      Notification.isFaithful_schema.list.toParts_ofParts]
    rfl

theorem NetworkServices.isFaithful_schema : NetworkServices.schema.IsFaithful where
  tellsApart := rfl
  noAddress := rfl
  toParts_ofParts parts := by
    simp only [NetworkServices.schema, NetworkService.isFaithful_schema.list.toParts_ofParts]
    rfl

theorem CollectorsStatus.isFaithful_schema : CollectorsStatus.schema.IsFaithful where
  tellsApart := rfl
  noAddress := rfl
  toParts_ofParts parts := by
    simp only [CollectorsStatus.schema, CollectorStatus.isFaithful_schema.list.toParts_ofParts]
    rfl

/-! ### All models -/

/-- The models that are both written and read, and lists of them. -/
inductive Form
  | host
  | fan
  | graphicsAdapter
  | networkInterface
  | hardware
  | memoryModule
  | license
  | array
  | disk
  | share
  | unassignedDevices
  | unassignedDevice
  | partition
  | parityHistory
  | parityCheck
  | zfsPool
  | zfsDataset
  | zfsSnapshot
  | zfsCache
  | container
  | portMapping
  | machine
  | power
  | networkPower
  | notifications
  | notificationOverview
  | notificationCounts
  | notification
  | networkServices
  | networkService
  | collectorStatus
  | collectorsStatus
  | collectorState
  | runState
  | list (item : Form)

namespace Form

/-- The type of the values of a form. -/
@[reducible]
def Model : Form → Type
  | host => HostInfo
  | fan => Fan
  | graphicsAdapter => GraphicsAdapter
  | networkInterface => NetworkInterface
  | hardware => Hardware
  | memoryModule => MemoryModule
  | license => License
  | array => ArrayStatus
  | disk => Disk
  | share => Share
  | unassignedDevices => UnassignedDevices
  | unassignedDevice => UnassignedDevice
  | partition => Partition
  | parityHistory => ParityHistory
  | parityCheck => ParityCheck
  | zfsPool => ZfsPool
  | zfsDataset => ZfsDataset
  | zfsSnapshot => ZfsSnapshot
  | zfsCache => ZfsCacheStatistics
  | container => Container
  | portMapping => PortMapping
  | machine => VirtualMachine
  | power => PowerSupply
  | networkPower => NetworkPowerSupply
  | notifications => Notifications
  | notificationOverview => NotificationOverview
  | notificationCounts => NotificationCounts
  | notification => Notification
  | networkServices => NetworkServices
  | networkService => NetworkService
  | collectorStatus => CollectorStatus
  | collectorsStatus => CollectorsStatus
  | collectorState => CollectorStateEvent
  | runState => RunState
  | list item => List item.Model

def schema : (form : Form) → Schema form.Model
  | host => HostInfo.schema
  | fan => Fan.schema
  | graphicsAdapter => GraphicsAdapter.schema
  | networkInterface => NetworkInterface.schema
  | hardware => Hardware.schema
  | memoryModule => MemoryModule.schema
  | license => License.schema
  | array => ArrayStatus.schema
  | disk => Disk.schema
  | share => Share.schema
  | unassignedDevices => UnassignedDevices.schema
  | unassignedDevice => UnassignedDevice.schema
  | partition => Partition.schema
  | parityHistory => ParityHistory.schema
  | parityCheck => ParityCheck.schema
  | zfsPool => ZfsPool.schema
  | zfsDataset => ZfsDataset.schema
  | zfsSnapshot => ZfsSnapshot.schema
  | zfsCache => ZfsCacheStatistics.schema
  | container => Container.schema
  | portMapping => PortMapping.schema
  | machine => VirtualMachine.schema
  | power => PowerSupply.schema
  | networkPower => NetworkPowerSupply.schema
  | notifications => Notifications.schema
  | notificationOverview => NotificationOverview.schema
  | notificationCounts => NotificationCounts.schema
  | notification => Notification.schema
  | networkServices => NetworkServices.schema
  | networkService => NetworkService.schema
  | collectorStatus => CollectorStatus.schema
  | collectorsStatus => CollectorsStatus.schema
  | collectorState => CollectorStateEvent.schema
  | runState => ⟨.runState, id, id, fun _ => rfl⟩
  | list item => item.schema.list

theorem isFaithful_schema (form : Form) : form.schema.IsFaithful := by
  induction form with
  | list item inductionHypothesis => exact inductionHypothesis.list
  | host => exact HostInfo.isFaithful_schema
  | hardware => exact Hardware.isFaithful_schema
  | unassignedDevices => exact UnassignedDevices.isFaithful_schema
  | unassignedDevice => exact UnassignedDevice.isFaithful_schema
  | parityHistory => exact ParityHistory.isFaithful_schema
  | container => exact Container.isFaithful_schema
  | notifications => exact Notifications.isFaithful_schema
  | networkServices => exact NetworkServices.isFaithful_schema
  | collectorsStatus => exact CollectorsStatus.isFaithful_schema
  | _ => exact ⟨rfl, rfl, fun _ => rfl⟩

/-- Only the status of a collector leaves a field out. -/
theorem leavesNothingOut_of_mem_records (form : Form) {fields : Fields}
    (member : fields ∈ form.schema.shape.records) (others : "last_run" ∉ fields.names) :
    fields.leavesNothingOut = true := by
  have all : form.schema.shape.records.all
      (fun fields => fields.leavesNothingOut || fields.names.contains "last_run") = true := by
    induction form with
    | list item inductionHypothesis => exact inductionHypothesis member
    | _ => rfl
  have own := List.all_eq_true.mp all fields member
  rw [Bool.or_eq_true, List.contains_iff_mem] at own
  exact own.resolve_right others

/-- Whatever the form, a value is read back from its text if its floating-point numbers are finite
and each is found again from its shortest digits. A text that decodes holds finite numbers only; if
these are found again, the text that encodes its value decodes to that value and is encoded as
itself. Every record has a member for each of its fields, null for an absent value, except that the
status of a collector that did not run has none for its last run. -/
theorem value_read_back_from_text (form : Form) :
    (∀ model : form.Model, (∀ number ∈ form.schema.reals model, number.isFinite = true) →
      (∀ number ∈ form.schema.reals model, ReadsBack number) →
      form.schema.ofText (form.schema.toText model) = .ok model) ∧
    (∀ (text : String) (model : form.Model), form.schema.ofText text = .ok model →
      (∀ number ∈ form.schema.reals model, number.isFinite = true) ∧
      ((∀ number ∈ form.schema.reals model, ReadsBack number) →
        form.schema.ofText (form.schema.toText model) = .ok model ∧
        ∀ again, form.schema.ofText (form.schema.toText model) = .ok again →
          form.schema.toText again = form.schema.toText model)) ∧
    (∀ fields ∈ form.schema.shape.records, "last_run" ∉ fields.names →
      ∀ values, (fields.write values).map Prod.fst = fields.names) ∧
    (∀ shape : Shape, (Shape.optional shape).write none = .null) ∧
    ∀ status : CollectorStatus, CollectorStatus.schema.write status = .ofMembers
      ([("name", .ofText status.name), ("enabled", .bool status.enabled),
          ("interval_seconds", .ofNat status.interval.toNat),
          ("status", .ofText status.state.name)] ++
        (status.lastRun.map fun instant => ("last_run", Value.ofText instant.written)).toList ++
        [("error_count", .ofNat status.errors.toNat), ("required", .bool status.required)]) := by
  have faithful := form.isFaithful_schema
  refine ⟨fun model finite back => Schema.ofText_toText faithful finite back,
    fun text model read => ?_, fun fields member others values =>
      fields.names_write (form.leavesNothingOut_of_mem_records member others) values,
    fun _ => rfl, fun status => ?_⟩
  · have finite := Schema.isFinite_of_ofText faithful read
    refine ⟨finite, fun back => ?_⟩
    have same := Schema.ofText_toText faithful finite back
    refine ⟨same, fun again decoded => ?_⟩
    rw [Except.ok.inj (decoded.symm.trans same)]
  · cases lastRun : status.lastRun <;>
      simp [Schema.write, CollectorStatus.schema, lastRun] <;> rfl

/-- Devices with an absent, a negative and a fractional temperature and a model that needs
escapes. -/
def someDevices : List UnassignedDevice :=
  let device : UnassignedDevice := default
  [{ device with model := "\"\\\n\x01\u00e9" },
    { device with temperatureCelsius := some ⟨0xc044400000000000⟩ },
    { device with temperatureCelsius := some ⟨0x40424ccccccccccd⟩ }]

theorem someDevices_read_back :
    (list unassignedDevice).schema.ofText ((list unassignedDevice).schema.toText someDevices) =
      .ok someDevices := by
  have finite : ∀ number ∈ (list unassignedDevice).schema.reals someDevices,
      number.isFinite = true := by decide +kernel
  have back : ∀ number ∈ (list unassignedDevice).schema.reals someDevices,
      ReadsBack number := by decide +kernel
  exact (value_read_back_from_text (list unassignedDevice)).1 someDevices finite back

/-- Not every number is found again: the reader may miss the last bit of one with many digits. -/
example : ¬ReadsBack ⟨0x3ff2d476b042f3dc⟩ := by decide +kernel

end Form

end ServerMonitor
