import Bacnet.Device
import Bacnet.Reply

set_option autoImplicit false

/-! # Discovery: what a device says about itself and its objects

A question that is limited to other devices is met with silence, and so is one for an object that
the device does not own. The device is no object of its own in this respect. -/

namespace Bacnet.Device

/-- The announcement of the device. -/
def iAm (d : Device) : IAm := ⟨d.id, d.maxApdu, d.segmentation.code, d.vendorId⟩

/-- The announcement of an owned object. -/
def iHave (d : Device) (o : Object) : IHave := ⟨d.id, o.id, o.name⟩

/-- The owned object that a question is for. -/
def owned? (d : Device) : Wanted → Option Object
  | .byId id => d.objects.find? (·.id == id)
  | .byName name => d.findByName? name

/-- The reply to the question which devices there are. -/
def replyToWhoIs (d : Device) (q : WhoIs) : Reply :=
  if q.admits d.instanceNumber then .iAm d.iAm else .silence

/-- The reply to the question which device has an object. -/
def replyToWhoHas (d : Device) (q : WhoHas) : Reply :=
  if q.admits d.instanceNumber then (d.owned? q.wanted).elim .silence (.iHave <| d.iHave ·)
  else .silence

end Bacnet.Device
