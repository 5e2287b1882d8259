/-
The product schema that the compiler, the verifier and the virtual machine share,
as schema.c has it: its tables, the checks of a descriptor, and the identity that
names it, which is the SHA-256 of its canonical byte sequence.

Texts are C strings.  A text that may be missing is an `Option`; one that may not
is refused when it is empty, which also stands for a null pointer there.
-/
import Ribon.Native

namespace Ribon.Ribos

open Wire

/-- A C string, without its terminating zero. -/
abbrev Text := List UInt8

/-- The bytes of a literal. -/
def text (literal : String) : Text := literal.toUTF8.toList

inductive SchemaTypeClass where
  | value
  | opaqueHandle
  | fact
  | enumeration
  deriving DecidableEq, Repr

/-- How the machine lets a named value be used, in the order of the wire values. -/
inductive Ownership where
  | copy
  | affine
  | linear
  deriving DecidableEq, Repr

namespace SchemaTypeClass

def wire : SchemaTypeClass → UInt32
  | value => 0
  | opaqueHandle => 1
  | fact => 2
  | enumeration => 3

end SchemaTypeClass

namespace Ownership

def wire : Ownership → UInt32
  | copy => 0
  | affine => 1
  | linear => 2

/-- The stronger of the two. -/
def max (left right : Ownership) : Ownership := if right.wire < left.wire then left else right

end Ownership

structure SchemaType where
  stableId : UInt32
  typeClass : SchemaTypeClass
  name : Text
  ownership : Ownership
  deriving DecidableEq, Repr

structure SchemaMember where
  stableId : UInt32
  ownerType : Text
  name : Text
  resultType : Option Text
  collectionElementType : Option Text
  collectionBound : UInt32
  deriving DecidableEq, Repr

inductive ParameterMode where
  | borrow
  | consume
  deriving DecidableEq, Repr

def ParameterMode.wire : ParameterMode → UInt32
  | borrow => 0
  | consume => 1

structure SchemaParameter where
  name : Text
  type : Text
  mode : ParameterMode
  deriving DecidableEq, Repr

/-- A helper as the source language sees it; it fails with `errorType` where there is one. -/
structure SchemaHelper where
  stableId : UInt32
  path : Text
  capabilities : UInt32
  resultType : Text
  errorType : Option Text
  parameters : List SchemaParameter
  flags : UInt32
  transitionParameter : UInt32
  deriving DecidableEq, Repr

structure SchemaHandoffField where
  stableId : UInt32
  key : Text
  valueType : Text
  deriving DecidableEq, Repr

structure ProductSchema where
  formatMajor : UInt16
  formatMinor : UInt16
  productId : Text
  policyContextType : Text
  policyActionType : Text
  policyErrorType : Text
  types : List SchemaType
  members : List SchemaMember
  helpers : List SchemaHelper
  handoffFields : List SchemaHandoffField
  deriving DecidableEq, Repr

def schemaMajor : UInt16 := 1
def schemaMinor : UInt16 := 1
def schemaMaxParameters : Nat := 4

/-- `RIBOS_SCHEMA_HELPER_TYPESTATE_TRANSITION`. -/
def helperTypestateTransition : UInt32 := 1

/-- `RIBOS_SCHEMA_HELPER_TERMINAL_BOOT_ACTION`. -/
def helperTerminalBootAction : UInt32 := 2

def capabilityBoot : UInt32 := 64

/-- All eight capability bits. -/
def capabilityMask : UInt32 := 0xff

namespace SchemaHelper

def hasTransition (helper : SchemaHelper) : Bool := helper.flags &&& helperTypestateTransition != 0

def isTerminal (helper : SchemaHelper) : Bool := helper.flags &&& helperTerminalBootAction != 0

end SchemaHelper

/-! ### Lookup -/

def schemaFindType (schema : ProductSchema) (name : Text) : Option SchemaType :=
  schema.types.find? fun type => type.name == name

def schemaHelperById (schema : ProductSchema) (stableId : UInt32) : Option SchemaHelper :=
  schema.helpers.find? fun helper => helper.stableId == stableId

/-! ### Validation -/

def idIsNext (previous value : UInt32) : Bool := value != 0 && value > previous

def textIsPresent (name : Text) : Bool := !name.isEmpty

def builtins : List Text :=
  ["Unit", "bool", "u8", "u16", "u32", "u64", "i8", "i16", "i32", "i64"].map text

def wildcard : Text := text "*"

def typeReferenceIsValid (schema : ProductSchema) (name : Text) (allowWildcard : Bool) : Bool :=
  textIsPresent name &&
    (allowWildcard && name == wildcard || builtins.contains name ||
      schema.types.any fun type => type.name == name)

/-- One table of the schema: the stable ids ascend, no row repeats an earlier one, each is valid. -/
def tableIsValid {A : Type} (id : A → UInt32) (same : A → A → Bool) (valid : A → Bool) :
    (earlier rows : List A) → Bool
  | _, [] => true
  | earlier, row :: rest =>
    idIsNext ((earlier.head?.map id).getD 0) (id row) && valid row &&
      !earlier.any (fun other => same row other) && tableIsValid id same valid (row :: earlier) rest

def typeIsValid (type : SchemaType) : Bool :=
  textIsPresent type.name &&
    (type.ownership == .copy || type.typeClass == .value || type.typeClass == .opaqueHandle)

def memberIsValid (schema : ProductSchema) (member : SchemaMember) : Bool :=
  textIsPresent member.ownerType && textIsPresent member.name &&
    member.resultType.isNone != member.collectionElementType.isNone &&
    (member.collectionElementType.isNone || member.collectionBound != 0) &&
    typeReferenceIsValid schema member.ownerType false &&
    member.resultType.all (fun name => typeReferenceIsValid schema name false) &&
    member.collectionElementType.all fun name => typeReferenceIsValid schema name false

def parameterIsValid (schema : ProductSchema) (parameter : SchemaParameter) : Bool :=
  textIsPresent parameter.name && typeReferenceIsValid schema parameter.type true &&
    (parameter.type != wildcard || parameter.mode == .borrow)

def helperIsValid (schema : ProductSchema) (helper : SchemaHelper) : Bool :=
  textIsPresent helper.path && typeReferenceIsValid schema helper.resultType false &&
    helper.errorType.all (fun name => typeReferenceIsValid schema name false) &&
    decide (helper.parameters.length ≤ schemaMaxParameters) &&
    helper.flags &&& ~~~ (helperTypestateTransition ||| helperTerminalBootAction) == 0 &&
    (if helper.hasTransition then
        decide (helper.transitionParameter.toNat < helper.parameters.length)
      else helper.transitionParameter == 0) &&
    helper.capabilities &&& ~~~ capabilityMask == 0 &&
    helper.parameters.all (parameterIsValid schema) &&
    (!helper.hasTransition ||
      (helper.parameters[helper.transitionParameter.toNat]?.any fun parameter =>
        parameter.mode == .consume)) &&
    (!helper.isTerminal ||
      helper.capabilities &&& capabilityBoot != 0 && helper.errorType.isNone &&
        helper.resultType == schema.policyActionType)

def handoffFieldIsValid (schema : ProductSchema) (field : SchemaHandoffField) : Bool :=
  textIsPresent field.key && typeReferenceIsValid schema field.valueType false

/-- The three types of the policy: a fact, a linear action and an enumeration of errors. -/
def policyTypesAreValid (schema : ProductSchema) : Bool :=
  typeReferenceIsValid schema schema.policyContextType false &&
    typeReferenceIsValid schema schema.policyActionType false &&
    typeReferenceIsValid schema schema.policyErrorType false &&
    (schemaFindType schema schema.policyContextType).any (fun type => type.typeClass == .fact) &&
    (schemaFindType schema schema.policyActionType).any (fun type => type.ownership == .linear) &&
    (schemaFindType schema schema.policyErrorType).any fun type => type.typeClass == .enumeration

def schemaValidate (schema : ProductSchema) : Bool :=
  schema.formatMajor == schemaMajor && schema.formatMinor == schemaMinor &&
    textIsPresent schema.productId && textIsPresent schema.policyContextType &&
    textIsPresent schema.policyActionType && textIsPresent schema.policyErrorType &&
    !schema.types.isEmpty &&
    decide (schema.types.length < 2 ^ 32) && decide (schema.members.length < 2 ^ 32) &&
    decide (schema.helpers.length < 2 ^ 32) && decide (schema.handoffFields.length < 2 ^ 32) &&
    tableIsValid SchemaType.stableId (fun row other => row.name == other.name) typeIsValid []
      schema.types &&
    policyTypesAreValid schema &&
    tableIsValid SchemaMember.stableId
      (fun row other => row.ownerType == other.ownerType && row.name == other.name)
      (memberIsValid schema) [] schema.members &&
    tableIsValid SchemaHelper.stableId (fun row other => row.path == other.path)
      (helperIsValid schema) [] schema.helpers &&
    tableIsValid SchemaHandoffField.stableId (fun row other => row.key == other.key)
      (handoffFieldIsValid schema) [] schema.handoffFields

/-! ### The canonical byte sequence -/

/-- The bytes of a text behind its length, refused where the length has no 16 bits. -/
def writeText (name : Text) : Option (List UInt8) :=
  if name.length > 0xffff then none else some (storeU16 (UInt16.ofNat name.length) ++ name)

/-- A missing text is written as an empty one. -/
def writeOptional (name : Option Text) : Option (List UInt8) := writeText (name.getD [])

/-- The rows of a table, one after the other, behind their number. -/
def writeTable {A : Type} (write : A → Option (List UInt8)) (rows : List A) : Option (List UInt8) :=
  do
    let bytes ← rows.mapM write
    return storeU32 (UInt32.ofNat rows.length) ++ bytes.flatten

def writeType (type : SchemaType) : Option (List UInt8) := do
  let name ← writeText type.name
  return storeU32 type.stableId ++ storeU32 type.typeClass.wire ++ name ++
    storeU32 type.ownership.wire

def writeMember (member : SchemaMember) : Option (List UInt8) := do
  let ownerType ← writeText member.ownerType
  let name ← writeText member.name
  let resultType ← writeOptional member.resultType
  let collectionElementType ← writeOptional member.collectionElementType
  return storeU32 member.stableId ++ ownerType ++ name ++ resultType ++ collectionElementType ++
    storeU32 member.collectionBound

def writeParameter (parameter : SchemaParameter) : Option (List UInt8) := do
  let name ← writeText parameter.name
  let type ← writeText parameter.type
  return name ++ type ++ storeU32 parameter.mode.wire

def writeHelper (helper : SchemaHelper) : Option (List UInt8) := do
  let path ← writeText helper.path
  let resultType ← writeText helper.resultType
  let errorType ← writeOptional helper.errorType
  let parameters ← writeTable writeParameter helper.parameters
  return storeU32 helper.stableId ++ path ++ storeU32 helper.capabilities ++ resultType ++
    errorType ++ parameters ++ storeU32 helper.flags ++ storeU32 helper.transitionParameter

def writeHandoffField (field : SchemaHandoffField) : Option (List UInt8) := do
  let key ← writeText field.key
  let valueType ← writeText field.valueType
  return storeU32 field.stableId ++ key ++ valueType

def schemaMagic : List UInt8 := text "RBSCHM1"

def schemaEncodeInto (schema : ProductSchema) : Option (List UInt8) :=
  if schemaValidate schema then do
    let productId ← writeText schema.productId
    let policyContextType ← writeText schema.policyContextType
    let policyActionType ← writeText schema.policyActionType
    let policyErrorType ← writeText schema.policyErrorType
    let types ← writeTable writeType schema.types
    let members ← writeTable writeMember schema.members
    let helpers ← writeTable writeHelper schema.helpers
    let handoffFields ← writeTable writeHandoffField schema.handoffFields
    return schemaMagic ++ storeU16 schema.formatMajor ++ storeU16 schema.formatMinor ++ productId ++
      policyContextType ++ policyActionType ++ policyErrorType ++ types ++ members ++ helpers ++
      handoffFields
  else none

/-- The identity of a valid schema: the digest of its canonical bytes. -/
def schemaComputeIdentity (schema : ProductSchema) : Option Digest :=
  (schemaEncodeInto schema).map fun bytes => sha256 bytes bytes.length

theorem schemaValidate_of_identity {schema : ProductSchema} {digest : Digest}
    (h : schemaComputeIdentity schema = some digest) : schemaValidate schema = true := by
  by_contra hvalid
  simp [schemaComputeIdentity, schemaEncodeInto, hvalid] at h

end Ribon.Ribos
