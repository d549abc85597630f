/-
  Reply statuses.  A status is its number; the hub's known ones have a name and
  a description, and every other number is a status as well, so that a newer
  hub's replies can still be read.

  * `Status.Entry`, `Status.known`: the known statuses; `entry?_eq_some_iff`: each is
    found by its number, and by no other one.
  * `Status.succeeds`: the numbers from 200 to 299.
  * `Status.text`: the number and the description.
-/
namespace LightHub

structure Status where
  code : UInt16
  deriving DecidableEq

namespace Status

def ok : Status := ⟨200⟩
def stateSet : Status := ⟨201⟩
def deviceAdded : Status := ⟨202⟩
def deviceDeleted : Status := ⟨203⟩
def deviceList : Status := ⟨204⟩
def transmitted : Status := ⟨205⟩
def deviceStatus : Status := ⟨206⟩
def goodbye : Status := ⟨207⟩
def nameUpdated : Status := ⟨208⟩
def topicUpdated : Status := ⟨209⟩
def stateUpdated : Status := ⟨210⟩
def badRequest : Status := ⟨400⟩
def noPermission : Status := ⟨401⟩
def deleteFailed : Status := ⟨402⟩
def addFailed : Status := ⟨403⟩
def noSuchDevice : Status := ⟨404⟩
def invalidCommand : Status := ⟨405⟩
def unknownEncoding : Status := ⟨406⟩
def duplicateDevice : Status := ⟨408⟩
def missingArguments : Status := ⟨409⟩
def internalError : Status := ⟨500⟩
def timedOut : Status := ⟨504⟩
def capacityFull : Status := ⟨505⟩

/-- A status that hubs are known to send. -/
structure Entry where
  status : Status
  name : String
  description : String
  deriving DecidableEq

/-- The statuses that hubs are known to send. -/
def known : List Entry := [
  ⟨ok, "Ok", "ok"⟩,
  ⟨stateSet, "StateSet", "state set"⟩,
  ⟨deviceAdded, "DeviceAdded", "device added"⟩,
  ⟨deviceDeleted, "DeviceDeleted", "device deleted"⟩,
  ⟨deviceList, "DeviceList", "device list"⟩,
  ⟨transmitted, "Transmitted", "transmitted"⟩,
  ⟨deviceStatus, "DeviceStatus", "device status"⟩,
  ⟨goodbye, "Goodbye", "goodbye"⟩,
  ⟨nameUpdated, "NameUpdated", "name updated"⟩,
  ⟨topicUpdated, "TopicUpdated", "topic updated"⟩,
  ⟨stateUpdated, "StateUpdated", "state updated"⟩,
  ⟨badRequest, "BadRequest", "bad request"⟩,
  ⟨noPermission, "NoPermission", "no permission"⟩,
  ⟨deleteFailed, "DeleteFailed", "unable to delete device"⟩,
  ⟨addFailed, "AddFailed", "unable to add device"⟩,
  ⟨noSuchDevice, "NoSuchDevice", "no such device"⟩,
  ⟨invalidCommand, "InvalidCommand", "invalid command"⟩,
  ⟨unknownEncoding, "UnknownEncoding", "unknown encoding"⟩,
  ⟨duplicateDevice, "DuplicateDevice", "device already exists"⟩,
  ⟨missingArguments, "MissingArguments", "missing arguments"⟩,
  ⟨internalError, "InternalError", "internal hub error"⟩,
  ⟨timedOut, "TimedOut", "timed out"⟩,
  ⟨capacityFull, "CapacityFull", "hub is at client capacity"⟩]

def entry? (s : Status) : Option Entry :=
  known.find? (·.status = s)

/-- No number is listed twice. -/
theorem entry?_of_mem_known : ∀ e ∈ known, e.status.entry? = some e := by
  decide

/-- **Numbers and entries determine each other.** -/
theorem entry?_eq_some_iff {s : Status} {e : Entry} :
    s.entry? = some e ↔ e ∈ known ∧ e.status = s := by
  constructor
  · intro h
    have hfound : known.find? (·.status = s) = some e := h
    exact ⟨List.mem_of_find?_eq_some hfound, by simpa using List.find?_some hfound⟩
  · rintro ⟨he, rfl⟩
    exact entry?_of_mem_known e he

def isKnown (s : Status) : Bool :=
  s.entry?.isSome

/-- The name of a status. -/
def name (s : Status) : String :=
  (s.entry?.map Entry.name).getD "Unrecognized"

/-- A short description, for messages. -/
def description (s : Status) : String :=
  (s.entry?.map Entry.description).getD "unrecognized status"

/-- The numbers from 200 to 299 stand for success. -/
def succeeds (s : Status) : Bool :=
  200 ≤ s.code.toNat && s.code.toNat < 300

/-- The number and the description. -/
def text (s : Status) : String :=
  toString s.code.toNat ++ " " ++ s.description

end Status

end LightHub
