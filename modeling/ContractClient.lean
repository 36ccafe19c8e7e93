import ContractClient.Calendar.Iso
import ContractClient.Code.Draft
import ContractClient.Code.Schema
import ContractClient.CommandLine.Run
import ContractClient.Json.Printer
import ContractClient.Main
import ContractClient.Proofs.Catalog.ClassMap
import ContractClient.Proofs.Client.Faults
import ContractClient.Proofs.Client.Modules
import ContractClient.Proofs.Service.ClassMap
import ContractClient.Proofs.Catalog.Permutation
import ContractClient.Proofs.Catalog.Lineage
import ContractClient.Proofs.Service.Written
import ContractClient.Proofs.Catalog.Accessors
import ContractClient.Proofs.Code.Pieces
import ContractClient.Proofs.Text.Literal
import ContractClient.Proofs.Client.Literals
import ContractClient.Proofs.Client.Docstrings
import ContractClient.Proofs.Client.Banner
import ContractClient.Proofs.Client.Collisions
import ContractClient.Proofs.Client.Renaming
import ContractClient.Proofs.Service.Addition
import ContractClient.Proofs.Contract.Encoding
import ContractClient.Proofs.Contract.Loading
import ContractClient.Proofs.Service.BreadthFirst
import ContractClient.Proofs.Text.DocstringText
import ContractClient.Proofs.Catalog.Shadowing
import ContractClient.Proofs.Client.Effect
import ContractClient.Proofs.Catalog.ParameterTable
import ContractClient.Proofs.Identifier.TypeText
import ContractClient.Proofs.Notices
import ContractClient.Proofs.Identifier.NormalForm
import ContractClient.Proofs.Client.EngineImport
import ContractClient.Proofs.CommandLine.Consent
