import AppConfig.Main
import AppConfig.Session
import AppConfig.Proofs.Json.Comments
import AppConfig.Proofs.Document.Names
import AppConfig.Proofs.Document.Counts
import AppConfig.Proofs.Document.Acceptance
import AppConfig.Proofs.Document.Faults
import AppConfig.Proofs.Document.Diagnostics
import AppConfig.Proofs.Document.Apps
import AppConfig.Proofs.Document.Collisions
import AppConfig.Proofs.Document.Keywords
import AppConfig.Proofs.Document.Order
import AppConfig.Proofs.Document.Unseen
import AppConfig.Proofs.Document.Defaults
import AppConfig.Proofs.Document.Sites
import AppConfig.Proofs.Document.Hidden
import AppConfig.Proofs.Compile.VersionGate
import AppConfig.Proofs.Compile.Files
import AppConfig.Proofs.Session.Isolation
import AppConfig.Proofs.Version.Grammar
import AppConfig.Proofs.Compile.Layout
import AppConfig.Proofs.Compile.Stripped
import AppConfig.Proofs.Version.Display
import AppConfig.Proofs.Naming.Registrations
import AppConfig.Proofs.Document.EntityLists
import AppConfig.Proofs.Document.Undeclared
import AppConfig.Proofs.Plan.Written
import AppConfig.Proofs.Location.Json
import AppConfig.Proofs.Document.Printed
import AppConfig.Proofs.Files.Home
import AppConfig.Proofs.Files.Disk
import AppConfig.Proofs.Files.Directories
import AppConfig.Proofs.CommandLine.Report
import AppConfig.Proofs.Document.Unnamed
