import RpcTools.Text.Case
import RpcTools.Text.Blank
import RpcTools.Text.Segments
import RpcTools.Json
import RpcTools.Json.Printer
import RpcTools.Schema
import RpcTools.Schema.Json
import RpcTools.Error
import RpcTools.Event
import RpcTools.CallPattern
import RpcTools.Tool.Names
import RpcTools.Schema.FieldName
import RpcTools.ParameterType
import RpcTools.Template
import RpcTools.Template.BuiltIn
import RpcTools.Template.Store
import RpcTools.Toml
import RpcTools.Config
import RpcTools.Config.Json
import RpcTools.Config.Toml
import RpcTools.Generator
import RpcTools.Plugin.Options
import RpcTools.Json.Lines
import RpcTools.Json.Tree
import RpcTools.OutputFormat
import RpcTools.Wire
import RpcTools.Wire.Fields
import RpcTools.Descriptor
import RpcTools.Descriptor.Layout
import RpcTools.Descriptor.Reader
import RpcTools.Descriptor.DefaultValue
import RpcTools.Descriptor.Name
import RpcTools.Pool.Consistency
import RpcTools.Schema.Reading
import RpcTools.CommandLine
import RpcTools.CommandLine.Argument
import RpcTools.CommandLine.Reading
import RpcTools.CommandLine.Manual
import RpcTools.FileSystem
import RpcTools.Environment
import RpcTools.Execution
import RpcTools.Plugin.Response
import RpcTools.Program
import RpcTools.Main
import RpcTools.Proofs.MethodOutcome
import RpcTools.Proofs.GenerationRun
import RpcTools.Proofs.PoolResolution
import RpcTools.Proofs.DescriptorTools
import RpcTools.Proofs.CommandFileSelection
import RpcTools.Proofs.FilePlacement
import RpcTools.Proofs.CommandStages
import RpcTools.Proofs.Inspection
import RpcTools.Proofs.FileEffects
import RpcTools.Proofs.ParameterSpelling
import RpcTools.Proofs.PluginAgreement
import RpcTools.Proofs.ExportedNames
import RpcTools.Proofs.TypeDeclarations
import RpcTools.Proofs.RequestedFiles
import RpcTools.Proofs.SchemaCorrespondence
import RpcTools.Proofs.InputOrder
import RpcTools.Proofs.OmittedMethods
import RpcTools.Proofs.AnswerStages
import RpcTools.Proofs.SuppliedTypes
import RpcTools.Proofs.DependencyServices
import RpcTools.Proofs.ExitStages
import RpcTools.Proofs.ScriptText
import RpcTools.Proofs.SettingPlaces
import RpcTools.Proofs.BodyText
import RpcTools.Proofs.FieldSpelling
import RpcTools.Proofs.EmittedTools
import RpcTools.Proofs.BodyScopes
import RpcTools.Proofs.ParameterNames
import RpcTools.Proofs.EnumNamespaces
import RpcTools.Proofs.ParameterLanguage
import RpcTools.Proofs.DocumentOrder
import RpcTools.Proofs.LeafLines
import RpcTools.Proofs.TreeText
import RpcTools.Proofs.ColouredTree
import RpcTools.Proofs.ToolNameCollisions
import RpcTools.Proofs.SettingRequirements
import RpcTools.Proofs.ParameterTypeText
import RpcTools.Proofs.RepeatedRequests
import RpcTools.Proofs.FieldPieces
import RpcTools.Proofs.FieldNamesApart
import RpcTools.Proofs.TemplateSteps
import RpcTools.Proofs.RecordForms
import RpcTools.Proofs.SchemaForms
import RpcTools.Proofs.ConfigForms
import RpcTools.Proofs.TypeNamesApart
import RpcTools.Proofs.InternalNames
