import FormatLauncher.Main
import FormatLauncher.Locator.Shared
import FormatLauncher.Program.Script
import FormatLauncher.Proofs.Locating
import FormatLauncher.Proofs.Preparing
import FormatLauncher.Proofs.Contents
import FormatLauncher.Proofs.Text.Utf8
import FormatLauncher.Proofs.FileTree.Shape
import FormatLauncher.Proofs.FormatFile
import FormatLauncher.Proofs.Placeholder
import FormatLauncher.Proofs.FileTree.Walk
import FormatLauncher.Proofs.FormatInPlace
import FormatLauncher.Proofs.Trail
import FormatLauncher.Proofs.Alone
import FormatLauncher.Proofs.Cache
import FormatLauncher.Proofs.Failing
import FormatLauncher.Proofs.FormatFiles
import FormatLauncher.Proofs.Workspace
import FormatLauncher.Proofs.Session
import FormatLauncher.Proofs.Checking
import FormatLauncher.Proofs.Console
import FormatLauncher.Proofs.FormatInput
import FormatLauncher.Proofs.Availability
import FormatLauncher.Proofs.Turns
import FormatLauncher.Proofs.AnyOrder
import FormatLauncher.Proofs.Vouching
import FormatLauncher.Proofs.Requests
import FormatLauncher.Proofs.Verified
import FormatLauncher.Proofs.Binary64
import FormatLauncher.Proofs.Value
import FormatLauncher.Proofs.Settings
import FormatLauncher.Proofs.ConfigFile
import FormatLauncher.Proofs.Shared
import FormatLauncher.Proofs.Leftovers
import FormatLauncher.Proofs.OwnFolder
import FormatLauncher.Proofs.Unlogged
import FormatLauncher.Proofs.Lenient
import FormatLauncher.Proofs.Strictness
import FormatLauncher.Proofs.StrictBatch
import FormatLauncher.Proofs.Report
import FormatLauncher.Proofs.DryRun
import FormatLauncher.Proofs.EditDistance
import FormatLauncher.Proofs.Pieces
import FormatLauncher.Proofs.Splice
import FormatLauncher.Proofs.Targets
import FormatLauncher.Proofs.StrictExpanding
import FormatLauncher.Proofs.Classified
import FormatLauncher.Proofs.Meant
import FormatLauncher.Proofs.Course
import FormatLauncher.Proofs.Sibling
import FormatLauncher.Proofs.FolderLookup
import FormatLauncher.Proofs.Canonical
import FormatLauncher.Proofs.Literal
import FormatLauncher.Proofs.Coercing
import FormatLauncher.Proofs.Issues
import FormatLauncher.Proofs.Foreseen
import FormatLauncher.Proofs.Recoercing
import FormatLauncher.Proofs.ShellLine
import FormatLauncher.Proofs.Shown
import FormatLauncher.Proofs.Settling
import FormatLauncher.Proofs.Presenting
