import DvbReceiver.Session.Devices

/-!
# Scripted hardware

Hardware whose behaviour is written down in advance: which sections answer a filter, which lock
statuses answer a lock, and which calls fail. Filters and streams are numbered from 1 in the
order in which they are handed out; a call that fails uses up no number.
-/

namespace DvbReceiver.Simulation

/-- A section that is delivered when a filter asks for its PID and table id. -/
structure CannedSection where
  pid : Nat
  tableId : Nat
  bytes : Bytes
  deriving DecidableEq, Repr

/-- Filters that cannot be set. A missing PID or table id stands for any. -/
structure FilterFailure where
  pid : Option Nat := none
  tableId : Option Nat := none
  error : DeviceError
  deriving DecidableEq, Repr

/-- Streams that cannot be created. A missing PID or codec stands for any. -/
structure StreamFailure where
  pid : Option Nat := none
  codec : Option Codec := none
  error : DeviceError
  deriving DecidableEq, Repr

/-- What the hardware does. -/
structure Script where
  canned : List CannedSection := []
  /-- The statuses that are reported from inside a call to lock. -/
  lockStatuses : List LockStatus := []
  lockFailures : List DeviceError := []
  openFailures : List DeviceError := []
  filterFailures : List FilterFailure := []
  streamFailures : List StreamFailure := []
  deriving DecidableEq, Repr

/-- Scripted hardware with the numbers of filters and streams handed out. -/
structure Hardware where
  script : Script := {}
  filters : Nat := 0
  streams : Nat := 0
  deriving DecidableEq, Repr

/-- The pattern is missing or equal to the value. -/
def Fits {α : Type} (pattern : Option α) (value : α) : Prop :=
  pattern = none ∨ pattern = some value

instance {α : Type} [DecidableEq α] (pattern : Option α) (value : α) :
    Decidable (Fits pattern value) :=
  inferInstanceAs (Decidable (_ ∨ _))

/-- The result of a call that fails if there is a failure for it. -/
def unlessFailing (failure : Option DeviceError) : Except DeviceError Unit :=
  match failure with
  | some error => .error error
  | none => .ok ()

namespace Hardware

def lock (hardware : Hardware) : Reply Hardware (Except DeviceError Unit) :=
  let result := unlessFailing hardware.script.lockFailures.head?
  { result, hardware
    delivered := match result with
      | .ok () => hardware.script.lockStatuses.map .status
      | .error _ => [] }

def setFilter (hardware : Hardware) (pid tableId : Nat) :
    Reply Hardware (Except DeviceError FilterHandle) :=
  let failing := hardware.script.filterFailures.find? fun failure =>
    Fits failure.pid pid ∧ Fits failure.tableId tableId
  match failing with
  | some failure => { result := .error failure.error, hardware }
  | none =>
    let matching := hardware.script.canned.filter fun canned =>
      canned.pid = pid ∧ canned.tableId = tableId
    { result := .ok ⟨hardware.filters + 1⟩
      delivered := matching.map fun canned => .arrived canned.bytes
      hardware := { hardware with filters := hardware.filters + 1 } }

def openSource (hardware : Hardware) : Reply Hardware (Except DeviceError Unit) :=
  { result := unlessFailing hardware.script.openFailures.head?, hardware }

def createStream (hardware : Hardware) (pid : Nat) (codec : Codec) :
    Reply Hardware (Except DeviceError StreamHandle) :=
  let failing := hardware.script.streamFailures.find? fun failure =>
    Fits failure.pid pid ∧ Fits failure.codec codec
  match failing with
  | some failure => { result := .error failure.error, hardware }
  | none =>
    { result := .ok ⟨hardware.streams + 1⟩
      hardware := { hardware with streams := hardware.streams + 1 } }

end Hardware

/-- The calls of scripted hardware. Giving something back has no effect. -/
def devices : Devices Hardware where
  lock _ hardware := hardware.lock
  release hardware := { result := (), hardware }
  setFilter pid tableId hardware := hardware.setFilter pid tableId
  freeFilter _ hardware := { result := (), hardware }
  openSource hardware := hardware.openSource
  closeSource hardware := { result := (), hardware }
  createStream pid codec hardware := hardware.createStream pid codec
  removeStream _ hardware := { result := (), hardware }

/-- Scripted hardware hands over sections and lock statuses, and nothing else. -/
instance : devices.Undisturbed where
  lock _ hardware := by
    simp only [Reply.Undisturbed, devices, Hardware.lock]
    intro delivery h
    split at h
    · obtain ⟨status, -, rfl⟩ := List.mem_map.1 h
      rfl
    · cases h
  release _ := List.forall_mem_nil _
  setFilter pid tableId hardware := by
    simp only [Reply.Undisturbed, devices, Hardware.setFilter]
    intro delivery h
    split at h
    · cases h
    · obtain ⟨canned, -, rfl⟩ := List.mem_map.1 h
      rfl
  freeFilter _ _ := List.forall_mem_nil _
  openSource _ := List.forall_mem_nil _
  closeSource _ := List.forall_mem_nil _
  createStream pid codec hardware := by
    simp only [Reply.Undisturbed, devices, Hardware.createStream]
    intro delivery h
    split at h <;> cases h
  removeStream _ _ := List.forall_mem_nil _

end DvbReceiver.Simulation
