import Mathlib.Algebra.Ring.Nat
import Mathlib.Logic.Function.Basic

namespace ScoreCrypto

abbrev ClientId := Nat
abbrev DataNodeId := Nat
abbrev ProviderId := Nat

inductive CryptoProviderType where
  | default
  | hardware
  | software
  | specialized
  deriving DecidableEq, Repr

abbrev ProviderCapability := UInt8

namespace Capability

def none : ProviderCapability := 0x00
def crypto : ProviderCapability := 0x01
def keyManagement : ProviderCapability := 0x02
def certManagement : ProviderCapability := 0x04

end Capability

def hasCapability (capabilities required : ProviderCapability) : Bool :=
  capabilities &&& required == required

inductive CryptoErrorCode where
  | uninitializedStack
  | alreadyInitialized
  | connectionFailed
  | internalError
  | unsupportedOperation
  | invalidOperation
  | operationFailed
  | operationTimedOut
  | invalidArgument
  | resourceNotFound
  | invalidResourceId
  | invalidResourceType
  | insufficientBufferSize
  | invalidFormat
  | paramTruncated
  | streamNotInitialized
  | streamAlreadyActive
  | streamIncomplete
  | unsupportedAlgorithm
  | algorithmMismatch
  | allocationFailed
  | quotaExceeded
  | invalidMemoryRegion
  | contextCreationFailed
  | contextAlreadyDestroyed
  | contextResetFailed
  | sessionExpired
  | keySlotEmpty
  | keySlotOccupied
  | keyNotExportable
  | keyGenerationFailed
  | keyDerivationFailed
  | keyAgreementFailed
  | wrapUnwrapFailed
  | persistFailed
  | incompatibleKeyType
  | keyOperationNotPermitted
  | certificateParsingFailed
  | csrGenerationFailed
  | ocspError
  | providerNotAvailable
  | providerBusy
  | crossProviderIncompatible
  | accessDenied
  | resourceNotAllocated
  deriving DecidableEq, Repr

inductive DaemonErrorCode where
  | uninitializedStack
  | alreadyInitialized
  | connectionFailed
  | internalError
  | unsupportedOperation
  | invalidOperation
  | operationFailed
  | operationTimedOut
  | invalidArgument
  | invalidResourceId
  | invalidResourceType
  | insufficientBufferSize
  | invalidFormat
  | paramTruncated
  | resourceNotFound
  | responseTooLarge
  | streamNotInitialized
  | streamAlreadyActive
  | streamIncomplete
  | unsupportedAlgorithm
  | algorithmMismatch
  | allocationFailed
  | quotaExceeded
  | invalidMemoryRegion
  | contextCreationFailed
  | contextAlreadyDestroyed
  | contextResetFailed
  | sessionExpired
  | keySlotEmpty
  | keySlotOccupied
  | keyNotExportable
  | keyGenerationFailed
  | keyDerivationFailed
  | keyAgreementFailed
  | wrapUnwrapFailed
  | persistFailed
  | incompatibleKeyType
  | keyOperationNotPermitted
  | certificateParsingFailed
  | csrGenerationFailed
  | ocspError
  | trustStoreCapacityExceeded
  | trustStoreInvalid
  | providerNotAvailable
  | providerBusy
  | crossProviderIncompatible
  | accessDenied
  | resourceNotAllocated
  | invalidState
  | operationInProgress
  | invalidContext
  | insufficientParameters
  | invalidDataType
  | invalidStreamOperation
  | algorithmInitializationFailed
  | algorithmExecutionFailed
  | resourceBusy
  | contextCleanupFailed
  | sessionInvalid
  | unknown
  deriving DecidableEq, Repr

abbrev Expected := Except DaemonErrorCode

def toCryptoErrorCode : DaemonErrorCode → CryptoErrorCode
  | .uninitializedStack => .uninitializedStack
  | .alreadyInitialized => .alreadyInitialized
  | .connectionFailed => .connectionFailed
  | .internalError => .internalError
  | .unsupportedOperation => .unsupportedOperation
  | .invalidOperation => .invalidOperation
  | .operationFailed => .operationFailed
  | .operationTimedOut => .operationTimedOut
  | .invalidArgument => .invalidArgument
  | .resourceNotFound => .resourceNotFound
  | .invalidResourceId => .invalidResourceId
  | .invalidResourceType => .invalidResourceType
  | .insufficientBufferSize => .insufficientBufferSize
  | .invalidFormat => .invalidFormat
  | .paramTruncated => .paramTruncated
  | .responseTooLarge => .insufficientBufferSize
  | .streamNotInitialized => .streamNotInitialized
  | .streamAlreadyActive => .streamAlreadyActive
  | .streamIncomplete => .streamIncomplete
  | .unsupportedAlgorithm => .unsupportedAlgorithm
  | .algorithmMismatch => .algorithmMismatch
  | .allocationFailed => .allocationFailed
  | .quotaExceeded => .quotaExceeded
  | .invalidMemoryRegion => .invalidMemoryRegion
  | .contextCreationFailed => .contextCreationFailed
  | .contextAlreadyDestroyed => .contextAlreadyDestroyed
  | .contextResetFailed => .contextResetFailed
  | .sessionExpired => .sessionExpired
  | .keySlotEmpty => .keySlotEmpty
  | .keySlotOccupied => .keySlotOccupied
  | .keyNotExportable => .keyNotExportable
  | .keyGenerationFailed => .keyGenerationFailed
  | .keyDerivationFailed => .keyDerivationFailed
  | .keyAgreementFailed => .keyAgreementFailed
  | .wrapUnwrapFailed => .wrapUnwrapFailed
  | .persistFailed => .persistFailed
  | .incompatibleKeyType => .incompatibleKeyType
  | .keyOperationNotPermitted => .keyOperationNotPermitted
  | .certificateParsingFailed => .certificateParsingFailed
  | .csrGenerationFailed => .csrGenerationFailed
  | .ocspError => .ocspError
  | .trustStoreCapacityExceeded => .quotaExceeded
  | .trustStoreInvalid => .invalidOperation
  | .providerNotAvailable => .providerNotAvailable
  | .providerBusy => .providerBusy
  | .crossProviderIncompatible => .crossProviderIncompatible
  | .accessDenied => .accessDenied
  | .resourceNotAllocated => .resourceNotAllocated
  | .invalidState => .invalidOperation
  | .operationInProgress => .invalidOperation
  | .invalidContext => .invalidOperation
  | .insufficientParameters => .invalidArgument
  | .invalidDataType => .invalidArgument
  | .invalidStreamOperation => .invalidOperation
  | .algorithmInitializationFailed => .operationFailed
  | .algorithmExecutionFailed => .operationFailed
  | .resourceBusy => .operationFailed
  | .contextCleanupFailed => .operationFailed
  | .sessionInvalid => .sessionExpired
  | .unknown => .internalError

end ScoreCrypto
