set_option autoImplicit false

/-! # Codes: the small enumerations in headers and errors -/

namespace Bacnet

/-! ## Segmentation -/

/-- Which messages a device can send or take in segments. -/
inductive Segmentation where
  | segmentedBoth
  | segmentedTransmit
  | segmentedReceive
  | noSegmentation
deriving DecidableEq, Repr

namespace Segmentation

def code : Segmentation → UInt32
  | .segmentedBoth => 0
  | .segmentedTransmit => 1
  | .segmentedReceive => 2
  | .noSegmentation => 3

def ofCode? : UInt32 → Option Segmentation
  | 0 => some .segmentedBoth
  | 1 => some .segmentedTransmit
  | 2 => some .segmentedReceive
  | 3 => some .noSegmentation
  | _ => none

def ofName? : String → Option Segmentation
  | "segmented-both" => some .segmentedBoth
  | "segmented-transmit" => some .segmentedTransmit
  | "segmented-receive" => some .segmentedReceive
  | "no-segmentation" => some .noSegmentation
  | _ => none

end Segmentation

/-! ## Sizes -/

/-- The sizes of APDU that a request can say it takes. -/
inductive MaxApdu where
  | upTo50
  | upTo128
  | upTo206
  | upTo480
  | upTo1024
  | upTo1476
deriving DecidableEq, Repr

namespace MaxApdu

def code : MaxApdu → UInt32
  | .upTo50 => 0
  | .upTo128 => 1
  | .upTo206 => 2
  | .upTo480 => 3
  | .upTo1024 => 4
  | .upTo1476 => 5

def ofCode? : UInt32 → Option MaxApdu
  | 0 => some .upTo50
  | 1 => some .upTo128
  | 2 => some .upTo206
  | 3 => some .upTo480
  | 4 => some .upTo1024
  | 5 => some .upTo1476
  | _ => none

/-- The largest number of octets of a size. -/
def octets : MaxApdu → Nat
  | .upTo50 => 50
  | .upTo128 => 128
  | .upTo206 => 206
  | .upTo480 => 480
  | .upTo1024 => 1024
  | .upTo1476 => 1476

end MaxApdu

/-! ## Errors and rejects -/

/-- What an error is about. -/
inductive ErrorClass where
  | device
  | object
  | property
  | resources
  | security
  | services
  | vt
  | communication
deriving DecidableEq, Repr

namespace ErrorClass

def code : ErrorClass → UInt32
  | .device => 0
  | .object => 1
  | .property => 2
  | .resources => 3
  | .security => 4
  | .services => 5
  | .vt => 6
  | .communication => 7

def ofCode? : UInt32 → Option ErrorClass
  | 0 => some .device
  | 1 => some .object
  | 2 => some .property
  | 3 => some .resources
  | 4 => some .security
  | 5 => some .services
  | 6 => some .vt
  | 7 => some .communication
  | _ => none

end ErrorClass

/-- The errors of a device that is only read. -/
inductive ErrorCode where
  | other
  | unknownObject
  | unknownProperty
  | writeAccessDenied
  | invalidArrayIndex
  | propertyIsNotAnArray
deriving DecidableEq, Repr

namespace ErrorCode

def code : ErrorCode → UInt32
  | .other => 0
  | .unknownObject => 31
  | .unknownProperty => 32
  | .writeAccessDenied => 40
  | .invalidArrayIndex => 42
  | .propertyIsNotAnArray => 50

def ofCode? : UInt32 → Option ErrorCode
  | 0 => some .other
  | 31 => some .unknownObject
  | 32 => some .unknownProperty
  | 40 => some .writeAccessDenied
  | 42 => some .invalidArrayIndex
  | 50 => some .propertyIsNotAnArray
  | _ => none

end ErrorCode

/-- Why a request is turned away before it is executed. -/
inductive RejectReason where
  | other
  | bufferOverflow
  | invalidParameterDataType
  | invalidTag
  | missingRequiredParameter
  | unrecognizedService
deriving DecidableEq, Repr

namespace RejectReason

def code : RejectReason → UInt32
  | .other => 0
  | .bufferOverflow => 1
  | .invalidParameterDataType => 3
  | .invalidTag => 4
  | .missingRequiredParameter => 5
  | .unrecognizedService => 9

def ofCode? : UInt32 → Option RejectReason
  | 0 => some .other
  | 1 => some .bufferOverflow
  | 3 => some .invalidParameterDataType
  | 4 => some .invalidTag
  | 5 => some .missingRequiredParameter
  | 9 => some .unrecognizedService
  | _ => none

end RejectReason

end Bacnet
