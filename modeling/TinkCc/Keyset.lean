import TinkCc.Basic
/-!
# Keyset — `tink.proto`, as far as keysets go

A proto3 enumeration can hold any number, so each of them has a constructor for the numbers that have no name.
-/
namespace Tink

inductive KeyStatusType
  | unknownStatus
  | enabled
  | disabled
  | destroyed
  | unnamed (value : Int)
  deriving DecidableEq, Repr

inductive OutputPrefixType
  | unknownPrefix
  | tink
  | legacy
  | raw
  | crunchy
  | withIdRequirement
  | unnamed (value : Int)
  deriving DecidableEq, Repr

inductive KeyMaterialType
  | unknownKeymaterial
  | symmetric
  | asymmetricPrivate
  | asymmetricPublic
  | remote
  | unnamed (value : Int)
  deriving DecidableEq, Repr

structure KeyData where
  typeUrl         : String
  value           : Bytes
  keyMaterialType : KeyMaterialType
  deriving DecidableEq, Repr

structure KeyTemplate where
  typeUrl          : String
  value            : Bytes
  outputPrefixType : OutputPrefixType
  deriving DecidableEq, Repr

/-- `Keyset::Key`; without `key_data` its type URL and value are empty and its material is unknown. -/
structure KeysetKey where
  keyData          : Option KeyData
  status           : KeyStatusType
  keyId            : UInt32
  outputPrefixType : OutputPrefixType
  deriving DecidableEq, Repr

structure Keyset where
  primaryKeyId : UInt32
  key          : List KeysetKey
  deriving DecidableEq, Repr

/-- `Enums::KeyStatusName`. -/
def keyStatusName : KeyStatusType → String
  | .enabled => "ENABLED"
  | .disabled => "DISABLED"
  | .destroyed => "DESTROYED"
  | _ => "UNKNOWN_STATUS"

/-- The ids of the keys, in keyset order. -/
def Keyset.ids (keyset : Keyset) : List UInt32 := keyset.key.map (·.keyId)

end Tink
