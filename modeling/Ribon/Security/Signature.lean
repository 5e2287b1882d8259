/-
The signature provider: a descriptor that names one algorithm and one callback,
and the checks made before the callback runs.

The callback itself is the product's.  It is an arbitrary function of its
request here, and its answer is the integer it returns.
-/
import Ribon.Native

namespace Ribon

inductive SignatureAlgorithm where
  | invalid
  | ed25519
  deriving DecidableEq, Repr

inductive SignatureProviderClass where
  | invalid
  | production
  | fixture
  deriving DecidableEq, Repr

inductive SignatureStatus where
  | ok
  | invalidArgument
  | invalidProvider
  | unsupportedAlgorithm
  | invalidEncoding
  | invalidSignature
  | workspaceTooSmall
  deriving DecidableEq, Repr

/-- The integer of a status, as a callback returns it. -/
def SignatureStatus.code : SignatureStatus → Int
  | .ok => 0
  | .invalidArgument => -1
  | .invalidProvider => -2
  | .unsupportedAlgorithm => -3
  | .invalidEncoding => -4
  | .invalidSignature => -5
  | .workspaceTooSmall => -6

/-- What the callback is asked to verify; the workspace is an address and a size. -/
structure SignatureVerification where
  size : UInt32
  abiVersion : UInt32
  algorithm : SignatureAlgorithm
  flags : UInt32
  publicKey : View
  message : View
  signature : View
  workspace : UInt64
  workspaceSize : UInt64
  reserved : Reserved

def SignatureVerification.sizeOf : UInt32 := 112

structure SignatureProvider where
  magic : UInt32
  size : UInt32
  abiVersion : UInt32
  providerClass : SignatureProviderClass
  algorithm : SignatureAlgorithm
  flags : UInt32
  /-- A C string, without its terminator. -/
  id : Option (List UInt8)
  publicKeyBytes : UInt64
  signatureBytes : UInt64
  workspaceBytes : UInt64
  workspaceAlignment : UInt64
  verify : Option (SignatureVerification → Int)
  reserved : Reserved

def SignatureProvider.sizeOf : UInt32 := 104
def signatureProviderMagic : UInt32 := 0x52425350
def signatureProviderAbiVersion : UInt32 := 1
def ed25519PublicKeyBytes : UInt64 := 32
def ed25519SignatureBytes : UInt64 := 64

def signatureWorkspaceIsAligned (workspace alignment : UInt64) : Bool :=
  powerOfTwo alignment && aligned workspace alignment

def signatureProviderIsValid (provider : SignatureProvider) : Bool :=
  provider.magic == signatureProviderMagic &&
  provider.size == SignatureProvider.sizeOf &&
  provider.abiVersion == signatureProviderAbiVersion &&
  (provider.providerClass == .production || provider.providerClass == .fixture) &&
  provider.algorithm == .ed25519 &&
  provider.flags == 0 &&
  (provider.id.getD []).length != 0 &&
  provider.publicKeyBytes == ed25519PublicKeyBytes &&
  provider.signatureBytes == ed25519SignatureBytes &&
  powerOfTwo provider.workspaceAlignment &&
  provider.verify.isSome &&
  reservedZero provider.reserved

/-- Check the request against the provider, then run its callback. -/
def signatureVerify (provider : SignatureProvider) (request : SignatureVerification) : Int :=
  if !signatureProviderIsValid provider then SignatureStatus.invalidProvider.code
  else if request.size != SignatureVerification.sizeOf ||
      request.abiVersion != signatureProviderAbiVersion || request.flags != 0 ||
      request.publicKey.isNull || request.signature.isNull ||
      (request.message.isNull && request.message.size != 0) ||
      !reservedZero request.reserved then
    SignatureStatus.invalidArgument.code
  else if request.algorithm != provider.algorithm then SignatureStatus.unsupportedAlgorithm.code
  else if request.publicKey.size != provider.publicKeyBytes.toNat ||
      request.signature.size != provider.signatureBytes.toNat then
    SignatureStatus.invalidArgument.code
  else
    let workspace : SignatureStatus :=
      if provider.workspaceBytes == 0 then
        if request.workspace != 0 || request.workspaceSize != 0 then .invalidArgument else .ok
      else if request.workspace == 0 || request.workspaceSize < provider.workspaceBytes then
        .workspaceTooSmall
      else if !signatureWorkspaceIsAligned request.workspace provider.workspaceAlignment then
        .invalidArgument
      else .ok
    if workspace != .ok then workspace.code
    else
      match provider.verify with
      | none => SignatureStatus.invalidProvider.code
      | some verify => verify request

end Ribon
