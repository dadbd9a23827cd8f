import ContractWrapper.Main
import ContractWrapper.Files.Tree
import ContractWrapper.Proofs.Isolation
import ContractWrapper.Proofs.Stage.Confluence
import ContractWrapper.Proofs.Class.Members
import ContractWrapper.Proofs.Method.Arguments
import ContractWrapper.Proofs.Method.Confinement
import ContractWrapper.Proofs.Interface.Identity
import ContractWrapper.Proofs.Interface.Acceptance
import ContractWrapper.Proofs.Interface.Blame
import ContractWrapper.Proofs.Method.Target
import ContractWrapper.Proofs.Generation
import ContractWrapper.Proofs.Extension
import ContractWrapper.Proofs.Method.Annotation
import ContractWrapper.Proofs.Inspection
import ContractWrapper.Proofs.Files.Growth
import ContractWrapper.Proofs.CommandLine.Effects
import ContractWrapper.Proofs.Method.TypeTag
import ContractWrapper.Proofs.Method.Placeholder
import ContractWrapper.Proofs.CommandLine.Placement
import ContractWrapper.Proofs.Class.Documentation
import ContractWrapper.Proofs.Method.ArrayTag
import ContractWrapper.Proofs.Overload.Accounting
import ContractWrapper.Proofs.Class.Indentation
import ContractWrapper.Proofs.Outputs
import ContractWrapper.Proofs.Events
import ContractWrapper.Proofs.Class.Imports
