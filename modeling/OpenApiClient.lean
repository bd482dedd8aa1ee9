import OpenApiClient.Main
import OpenApiClient.Proofs.AnswerStatus
import OpenApiClient.Proofs.DocumentRoutes
import OpenApiClient.Proofs.UnknownFields
import OpenApiClient.Proofs.ReexportedModules
import OpenApiClient.Proofs.TypesImport
import OpenApiClient.Proofs.Regeneration
import OpenApiClient.Proofs.OptionalFormals
import OpenApiClient.Proofs.AnswerTypes
import OpenApiClient.Proofs.SummaryLines
import OpenApiClient.Proofs.PathItems
import OpenApiClient.Proofs.InterfaceLines
import OpenApiClient.Proofs.RequestPayloads
import OpenApiClient.Proofs.WritingOutcome
import OpenApiClient.Proofs.ResolvedSettings
import OpenApiClient.Proofs.SuggestedNames
