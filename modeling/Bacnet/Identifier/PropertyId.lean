set_option autoImplicit false

/-! # Property identifiers

A property identifier is its code. The properties that a device can hold here have a hyphenated name
besides; every other property is called by its code. Three identifiers, the selectors, name no
property but a group of them. -/

namespace Bacnet

/-- The identifier of a property, standard or of a vendor. -/
structure PropertyId where
  code : UInt32
deriving DecidableEq, Repr, Hashable

namespace PropertyId

/-! ## The named properties -/

def activeText : PropertyId := ⟨4⟩

/-- The selector of every property. -/
def all : PropertyId := ⟨8⟩

/-- How long to wait for an answer, in milliseconds. -/
def apduTimeout : PropertyId := ⟨11⟩

def applicationSoftwareVersion : PropertyId := ⟨12⟩

/-- The change that is worth a notification. -/
def covIncrement : PropertyId := ⟨22⟩

def description : PropertyId := ⟨28⟩

/-- What is wired to the object. -/
def deviceType : PropertyId := ⟨31⟩

/-- Whether an event is in progress. -/
def eventState : PropertyId := ⟨36⟩

def firmwareRevision : PropertyId := ⟨44⟩

def inactiveText : PropertyId := ⟨46⟩

def location : PropertyId := ⟨58⟩

def maxApduLengthAccepted : PropertyId := ⟨62⟩

def maxPresValue : PropertyId := ⟨65⟩

def minPresValue : PropertyId := ⟨69⟩

def modelName : PropertyId := ⟨70⟩

def numberOfApduRetries : PropertyId := ⟨73⟩

def numberOfStates : PropertyId := ⟨74⟩

def objectIdentifier : PropertyId := ⟨75⟩

def objectList : PropertyId := ⟨76⟩

def objectName : PropertyId := ⟨77⟩

def objectType : PropertyId := ⟨79⟩

/-- The selector of the properties that an object may lack. -/
def optional : PropertyId := ⟨80⟩

/-- Whether the object is cut off from what it stands for. -/
def outOfService : PropertyId := ⟨81⟩

/-- Whether the two states are exchanged. -/
def polarity : PropertyId := ⟨84⟩

def presentValue : PropertyId := ⟨85⟩

def protocolObjectTypesSupported : PropertyId := ⟨96⟩

def protocolServicesSupported : PropertyId := ⟨97⟩

def protocolVersion : PropertyId := ⟨98⟩

/-- Whether the value can be relied on. -/
def reliability : PropertyId := ⟨103⟩

/-- The value when nothing is commanded. -/
def relinquishDefault : PropertyId := ⟨104⟩

/-- The selector of the properties that every object of a type has. -/
def required : PropertyId := ⟨105⟩

/-- The smallest recognizable change. -/
def resolution : PropertyId := ⟨106⟩

def segmentationSupported : PropertyId := ⟨107⟩

def stateText : PropertyId := ⟨110⟩

/-- Alarm, fault, overridden and out of service. -/
def statusFlags : PropertyId := ⟨111⟩

def systemStatus : PropertyId := ⟨112⟩

def units : PropertyId := ⟨117⟩

def vendorIdentifier : PropertyId := ⟨120⟩

def vendorName : PropertyId := ⟨121⟩

def protocolRevision : PropertyId := ⟨139⟩

/-- How often the objects of the device have changed. -/
def databaseRevision : PropertyId := ⟨155⟩

/-- The properties of the object. -/
def propertyList : PropertyId := ⟨371⟩

/-- The names, in the order of the codes. -/
def named : List (PropertyId × String) := [
  (activeText, "active-text"),
  (all, "all"),
  (apduTimeout, "apdu-timeout"),
  (applicationSoftwareVersion, "application-software-version"),
  (covIncrement, "cov-increment"),
  (description, "description"),
  (deviceType, "device-type"),
  (eventState, "event-state"),
  (firmwareRevision, "firmware-revision"),
  (inactiveText, "inactive-text"),
  (location, "location"),
  (maxApduLengthAccepted, "max-apdu-length-accepted"),
  (maxPresValue, "max-pres-value"),
  (minPresValue, "min-pres-value"),
  (modelName, "model-name"),
  (numberOfApduRetries, "number-of-apdu-retries"),
  (numberOfStates, "number-of-states"),
  (objectIdentifier, "object-identifier"),
  (objectList, "object-list"),
  (objectName, "object-name"),
  (objectType, "object-type"),
  (optional, "optional"),
  (outOfService, "out-of-service"),
  (polarity, "polarity"),
  (presentValue, "present-value"),
  (protocolObjectTypesSupported, "protocol-object-types-supported"),
  (protocolServicesSupported, "protocol-services-supported"),
  (protocolVersion, "protocol-version"),
  (reliability, "reliability"),
  (relinquishDefault, "relinquish-default"),
  (required, "required"),
  (resolution, "resolution"),
  (segmentationSupported, "segmentation-supported"),
  (stateText, "state-text"),
  (statusFlags, "status-flags"),
  (systemStatus, "system-status"),
  (units, "units"),
  (vendorIdentifier, "vendor-identifier"),
  (vendorName, "vendor-name"),
  (protocolRevision, "protocol-revision"),
  (databaseRevision, "database-revision"),
  (propertyList, "property-list")]

/-! ## Names -/

def name? (p : PropertyId) : Option String := named.lookup p

def ofName? (name : String) : Option PropertyId :=
  (named.find? (·.2 == name)).map (·.1)

/-- What a property is called: by its name, or else by its code. -/
def label (p : PropertyId) : String :=
  p.name?.getD ("property-" ++ toString p.code.toNat)

/-- Whether the identifier names a group of properties and not one. -/
def isSelector (p : PropertyId) : Bool := p == all || p == required || p == optional

theorem ofName?_name : ∀ entry ∈ named, ofName? entry.2 = some entry.1 := by decide

theorem name?_of_mem : ∀ entry ∈ named, name? entry.1 = some entry.2 := by decide

end PropertyId

end Bacnet
