import Bacnet.Device
import Bacnet.Json.Printer

set_option autoImplicit false

/-! # Summaries: a device at a glance -/

namespace Bacnet

/-- An object by its identifier and its name. -/
structure ObjectSummary where
  identifier : ObjectId
  name : String
deriving DecidableEq, Repr

/-- What a device says about itself, and what it owns. -/
structure Summary where
  identifier : ObjectId
  name : String
  vendorId : UInt32
  maxApdu : UInt32
  segmentation : Segmentation
  objects : List ObjectSummary
deriving DecidableEq, Repr

def Device.summary (d : Device) : Summary where
  identifier := d.id
  name := d.name
  vendorId := d.vendorId
  maxApdu := d.maxApdu
  segmentation := d.segmentation
  objects := d.objects.map fun o => ⟨o.id, o.name⟩

open Json

def ObjectSummary.toJson (o : ObjectSummary) : Tree :=
  .ofMembers [
    ("object_identifier", .ofString o.identifier.label),
    ("object_name", .ofString o.name)]

def Summary.toJson (s : Summary) : Tree :=
  .ofMembers [
    ("device_identifier", .ofString s.identifier.label),
    ("device_name", .ofString s.name),
    ("max_apdu_length_accepted", .ofNat s.maxApdu.toNat),
    ("objects", .array (s.objects.map (·.toJson))),
    ("segmentation_supported", .ofNat s.segmentation.code.toNat),
    ("vendor_identifier", .ofNat s.vendorId.toNat)]

end Bacnet
