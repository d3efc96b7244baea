import BuildMigration.Text.CharClass
import BuildMigration.Text.Printable
import BuildMigration.Text.Digit
import BuildMigration.Text.Identifier
import BuildMigration.Text.Quoted
import BuildMigration.Text.Integer
import BuildMigration.Text.Split
import BuildMigration.Text.Pattern
import BuildMigration.Text.Regex
import BuildMigration.Path
import BuildMigration.Error
import BuildMigration.Version
import BuildMigration.Template
import BuildMigration.BuildText.Banner
import BuildMigration.BuildText.Coordinate
import BuildMigration.BuildText.MainClass
import BuildMigration.BuildText.EntryPoint
import BuildMigration.BuildText.Rewrite
import BuildMigration.MainSource
import BuildMigration.Project.Locate
import BuildMigration.Text.Utf8
import BuildMigration.Workspace.Tree
import BuildMigration.Workspace.Resolve
import BuildMigration.Workspace.Sandbox
import BuildMigration.Migration.Basic
import BuildMigration.Migration.Run
import BuildMigration.CommandLine.Grammar
import BuildMigration.CommandLine.Parse
import BuildMigration.CommandLine.Help
import BuildMigration.CommandLine.Run
import BuildMigration.Main
import BuildMigration.Proofs.Scan
import BuildMigration.Proofs.Scanners
import BuildMigration.Proofs.Substitution
import BuildMigration.Proofs.Replacements
import BuildMigration.Proofs.EntryPoint
import BuildMigration.Proofs.Resolution
import BuildMigration.Proofs.SandboxRun
import BuildMigration.Proofs.Plan
import BuildMigration.Proofs.MainSourceFile
import BuildMigration.Proofs.DryRun
import BuildMigration.Proofs.Effects
import BuildMigration.Proofs.Rerun
import BuildMigration.Proofs.MainClassScan
import BuildMigration.Proofs.Lines
import BuildMigration.Proofs.WrittenLines
import BuildMigration.Proofs.Settled
import BuildMigration.Proofs.LeftoverCounts
import BuildMigration.Proofs.Literal
import BuildMigration.Proofs.TargetVersion
import BuildMigration.Proofs.BannerFixpoint
import BuildMigration.Proofs.CoordinateScan
import BuildMigration.Proofs.ProbeOrder
import BuildMigration.Proofs.Backtracking
