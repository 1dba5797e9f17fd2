import FluentBuilder.Builder.Basic
import FluentBuilder.Settings.Document
import FluentBuilder.Toml.Document
import FluentBuilder.Builder.Destination
import FluentBuilder.Builder.Json
import FluentBuilder.Session
import FluentBuilder.Settings.Search
import FluentBuilder.Log
import FluentBuilder.CommandLine.Run
import FluentBuilder.Main
import FluentBuilder.Proofs.Alias.MemberScan
import FluentBuilder.Proofs.Alias.Signature
import FluentBuilder.Proofs.Builder.Document
import FluentBuilder.Proofs.Builder.NestedParameters
import FluentBuilder.Proofs.Alias.Clause
import FluentBuilder.Proofs.Builder.Declaration
import FluentBuilder.Proofs.CommandLine.Arguments
import FluentBuilder.Proofs.Editor.Transcript
import FluentBuilder.Proofs.Files.ReadOnly
import FluentBuilder.Proofs.Files.Tree
import FluentBuilder.Proofs.Files.Path
import FluentBuilder.Proofs.CommandLine.Console
import FluentBuilder.Proofs.CommandLine.Preview
import FluentBuilder.Proofs.Files.Location
import FluentBuilder.Proofs.Settings.Valid
import FluentBuilder.Proofs.Builder.Destination
import FluentBuilder.Proofs.CommandLine.FailedPreview
import FluentBuilder.Proofs.CommandLine.Workspace
import FluentBuilder.Proofs.CommandLine.Frame
import FluentBuilder.Proofs.Session.Store
import FluentBuilder.Proofs.Session.Run
import FluentBuilder.Proofs.Session.Invariant
import FluentBuilder.Proofs.Session.Frame
import FluentBuilder.Proofs.Session.Commute
import FluentBuilder.Proofs.CommandLine.Report
import FluentBuilder.Proofs.CommandLine.ReportsOnce
import FluentBuilder.Proofs.Builder.ClassText
import FluentBuilder.Proofs.Alias.PropertyScan
import FluentBuilder.Proofs.Text.LineEnds
import FluentBuilder.Proofs.Builder.LineEnds
import FluentBuilder.Proofs.Json.Grammar
import FluentBuilder.Proofs.Json.Reader
import FluentBuilder.Proofs.Json.Layout
import FluentBuilder.Proofs.Builder.JsonText
import FluentBuilder.Proofs.Alias.Occurrence
import FluentBuilder.Proofs.Alias.Cover
import FluentBuilder.Proofs.Alias.TypeScan
import FluentBuilder.Proofs.Alias.Agreement
import FluentBuilder.Proofs.Settings.Nearest
import FluentBuilder.Proofs.Alias.Outcome
import FluentBuilder.Proofs.Alias.Pairing
import FluentBuilder.Proofs.Alias.Shape
import FluentBuilder.Proofs.Alias.OptionalMark
import FluentBuilder.Proofs.Alias.FirstName
import FluentBuilder.Proofs.PascalCase
import FluentBuilder.Proofs.Builder.ClassLayout
import FluentBuilder.Proofs.Settings.Reference
import FluentBuilder.Proofs.Toml.Scalar
import FluentBuilder.Proofs.Toml.Lines
import FluentBuilder.Proofs.Settings.Template
import FluentBuilder.Proofs.CommandLine.Initial
import FluentBuilder.Proofs.Unicode.Ascii
import FluentBuilder.Proofs.PascalCase.Conventions
import FluentBuilder.Proofs.CommandLine.QuietOption
import FluentBuilder.Proofs.CommandLine.Quiet
