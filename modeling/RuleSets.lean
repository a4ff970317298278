import RuleSets.Text.Line
import RuleSets.Bucket
import RuleSets.Data.Json.Reader
import RuleSets.Text.Utf8
import RuleSets.Target
import RuleSets.Data.Yaml.Scalar
import RuleSets.Data.Yaml.Token.Scan
import RuleSets.Data.Yaml.Reader
import RuleSets.Source.Extract
import RuleSets.Manifest
import RuleSets.CommandLine
import RuleSets.Shell.Reader
import RuleSets.Shell.Start
import RuleSets.Manifest.Load
import RuleSets.Target.Compiler
import RuleSets.Compiler.Locate
import RuleSets.Main
import RuleSets.Proofs.Text.Numeral
import RuleSets.Proofs.Text.Split
import RuleSets.Proofs.Text.Trim
import RuleSets.Proofs.Text.Line
import RuleSets.Proofs.Text.Utf8
import RuleSets.Proofs.Text.Lowercase
import RuleSets.Proofs.Network.Address
import RuleSets.Proofs.Network.Canonical
import RuleSets.Proofs.Network.Rule
import RuleSets.Proofs.Network.Spelling
import RuleSets.Proofs.Json.Scalar
import RuleSets.Proofs.Json.RoundTrip
import RuleSets.Proofs.Yaml.Quoted
import RuleSets.Proofs.Yaml.Plain
import RuleSets.Proofs.Yaml.Literal
import RuleSets.Proofs.Yaml.Scan
import RuleSets.Proofs.Yaml.List
import RuleSets.Proofs.Target.Document
import RuleSets.Proofs.Target.Payload
import RuleSets.Proofs.Target.Lossless
import RuleSets.Proofs.Source.Unit
import RuleSets.Proofs.Source.RuleLine
import RuleSets.Proofs.Source.Clash
import RuleSets.Proofs.Source.Detect
import RuleSets.Proofs.Path.Component
import RuleSets.Proofs.FileSystem.Put
import RuleSets.Proofs.FileSystem.Location
import RuleSets.Proofs.FileSystem.Operation
import RuleSets.Proofs.FileSystem.Directory
import RuleSets.Proofs.FileSystem.Tree
import RuleSets.Proofs.Compiler.Attempt
import RuleSets.Proofs.Compiler.Copying
import RuleSets.Proofs.Compiler.Atomic
import RuleSets.Proofs.Compiler.Effect
import RuleSets.Proofs.Compiler.Touch
import RuleSets.Proofs.Pipeline.FileName
import RuleSets.Proofs.Pipeline.Task
import RuleSets.Proofs.Pipeline.Build
import RuleSets.Proofs.Pipeline.Sweep
import RuleSets.Proofs.Pipeline.Run
import RuleSets.Proofs.Pipeline.Abandoned
import RuleSets.Proofs.Pipeline.Report
import RuleSets.Proofs.Pipeline.Sync
import RuleSets.Proofs.Pipeline.Isolation
import RuleSets.Proofs.Pipeline.Frame
import RuleSets.Proofs.Pipeline.Disabled
import RuleSets.Proofs.Pipeline.Keep
import RuleSets.Proofs.Pipeline.Repeat
import RuleSets.Proofs.CommandLine.Run
import RuleSets.Proofs.CommandLine.Arguments
import RuleSets.Proofs.CommandLine.Timeout
import RuleSets.Proofs.Compiler.Strict
import RuleSets.Proofs.Source.Domain
import RuleSets.Proofs.Source.FirstLine
import RuleSets.Proofs.Source.AddressList
import RuleSets.Proofs.Rule.Canonical
import RuleSets.Proofs.Manifest.Entry
import RuleSets.Proofs.Manifest.Sources
import RuleSets.Proofs.Bucket.Size
import RuleSets.Proofs.Bucket.Table
import RuleSets.Proofs.Bucket.History
import RuleSets.Proofs.Source.NetworkLine
import RuleSets.Proofs.Source.DomainLine
import RuleSets.Proofs.Source.Noise
import RuleSets.Proofs.Source.RuleSet
