import StateAddress.Main
import StateAddress.Session
import StateAddress.Proofs.Consultation
import StateAddress.Proofs.Shape
import StateAddress.Proofs.Ensemble
import StateAddress.Proofs.Classification
import StateAddress.Proofs.Acceptance
import StateAddress.Proofs.ErrorContract
import StateAddress.Proofs.SettingKey
import StateAddress.Proofs.SettingAlias
import StateAddress.Proofs.CommandLine.Accepted
import StateAddress.Proofs.CommandLine.Ending
import StateAddress.Proofs.SlicesRun
import StateAddress.Proofs.Precedence
import StateAddress.Proofs.FailureReport
import StateAddress.Proofs.DigestSize
import StateAddress.Proofs.SharedDeriver
import StateAddress.Proofs.OneSlice
import StateAddress.Proofs.ContractIdentifier
import StateAddress.Proofs.NamespaceTruncation
import StateAddress.Proofs.Recording
import StateAddress.Proofs.CommandLine.Plain
import StateAddress.Proofs.RefusalMessage
import StateAddress.Proofs.SameDigests
import StateAddress.Proofs.DigestContents
import StateAddress.Proofs.PermissionParts
import StateAddress.Proofs.Recoding
import StateAddress.Proofs.AdaptedFunction
import StateAddress.Proofs.CommandLine.Agreement
import StateAddress.Proofs.HexReading
import StateAddress.Proofs.AddressForm
import StateAddress.Proofs.SearchOrder
import StateAddress.Proofs.OwnConstants
import StateAddress.Proofs.DigestPart
