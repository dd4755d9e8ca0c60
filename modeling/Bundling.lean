import Bundling.Text.Blank
import Bundling.Text.Path
import Bundling.Text.Sorted
import Bundling.Text.Terminal
import Bundling.Binary64
import Bundling.Error
import Bundling.Regex
import Bundling.Target
import Bundling.Env
import Bundling.Alias
import Bundling.Host
import Bundling.Diagnostic
import Bundling.Stage.Id
import Bundling.Stage.Options
import Bundling.Stage.Catalogue
import Bundling.Plan.Basic
import Bundling.Planner
import Bundling.Settings
import Bundling.Json.Value
import Bundling.Json.Print
import Bundling.Json.Decode
import Bundling.Plan.Json
import Bundling.Plan.Render
import Bundling.Json.Read
import Bundling.Json.Data
import Bundling.Diagnostic.Json
import Bundling.Manifest
import Bundling.Workspace
import Bundling.Artifact
import Bundling.Execute
import Bundling.Execute.Parallel
import Bundling.Toml.Value
import Bundling.Toml.Read
import Bundling.Toml.Decode
import Bundling.Config
import Bundling.Cli.Spec
import Bundling.Cli.Args
import Bundling.Cli.Run
import Bundling.Main
import Bundling.Proofs.StageKey
import Bundling.Proofs.Workers
import Bundling.Proofs.Cancellation
import Bundling.Proofs.Registration
import Bundling.Proofs.Build
import Bundling.Proofs.Selection
import Bundling.Proofs.Resolution
import Bundling.Proofs.PlanRoundTrip
import Bundling.Proofs.Suppression
import Bundling.Proofs.Scheduling
import Bundling.Proofs.StageFold
import Bundling.Proofs.ArtifactPath
import Bundling.Proofs.Outline
import Bundling.Proofs.ConfigSettings
