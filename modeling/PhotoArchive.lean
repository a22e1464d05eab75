import PhotoArchive.Bytes
import PhotoArchive.Bytes.Checksum
import PhotoArchive.Memory
import PhotoArchive.Precision
import PhotoArchive.Text.Printable
import PhotoArchive.Text.Quoted
import PhotoArchive.Text.Blank
import PhotoArchive.Text.Integer
import PhotoArchive.Text.Utf8
import PhotoArchive.Text.Segments
import PhotoArchive.Violation
import PhotoArchive.Path
import PhotoArchive.Failure
import PhotoArchive.Log
import PhotoArchive.Action
import PhotoArchive.Timestamp
import PhotoArchive.Product
import PhotoArchive.Ledger
import PhotoArchive.Catalog
import PhotoArchive.Locator
import PhotoArchive.Buffer
import PhotoArchive.BufferPool
import PhotoArchive.Deflate.Bits
import PhotoArchive.Deflate.Alphabet
import PhotoArchive.Deflate.Inflate
import PhotoArchive.Deflate.Stored
import PhotoArchive.Deflate.Match
import PhotoArchive.Deflate.CodeLengths
import PhotoArchive.Deflate.Encode
import PhotoArchive.Deflate.Compressor
import PhotoArchive.Bytes.Cursor
import PhotoArchive.File
import PhotoArchive.ArchiveFile
import PhotoArchive.Zip.Margin
import PhotoArchive.Zip.Record
import PhotoArchive.Zip.Writer
import PhotoArchive.Zip.Directory
import PhotoArchive.Settings.Validation
import PhotoArchive.Settings
import PhotoArchive.Storage.Source
import PhotoArchive.Storage.Scripted
import PhotoArchive.Storage.ObjectStore
import PhotoArchive.Storage.Bucket
import PhotoArchive.Storage.FileTree
import PhotoArchive.Storage.Directory
import PhotoArchive.ArchiveGateway
import PhotoArchive.Zip.Gateway
import PhotoArchive.Assembly
import PhotoArchive.Exporter
import PhotoArchive.Text.Reader
import PhotoArchive.Settings.Environment
import PhotoArchive.Settings.EnvironmentFile
import PhotoArchive.Text.Percent
import PhotoArchive.Settings.Address
import PhotoArchive.Settings.Address.Options
import PhotoArchive.Text.Digit
import PhotoArchive.Output
import PhotoArchive.Dispatch
import PhotoArchive.Setup
import PhotoArchive.Text.Wrapped
import PhotoArchive.CommandLine.Arguments
import PhotoArchive.CommandLine.Help
import PhotoArchive.CommandLine
import PhotoArchive.Main
import PhotoArchive.Proofs.Endings
import PhotoArchive.Proofs.Agreement
import PhotoArchive.Proofs.Catalog.Order
import PhotoArchive.Proofs.Locator.Keys
import PhotoArchive.Proofs.Recording
import PhotoArchive.Proofs.Path.SuffixIndex
import PhotoArchive.Proofs.Path.FileName
import PhotoArchive.Proofs.Path.FreeName
import PhotoArchive.Proofs.Assembly.Visit
import PhotoArchive.Proofs.Assembly.Course
import PhotoArchive.Proofs.Assembly.Correspondence
import PhotoArchive.Proofs.BufferPool
import PhotoArchive.Proofs.Assembly.Agreement
import PhotoArchive.Proofs.Export.Agreement
import PhotoArchive.Proofs.Recording.Transparency
import PhotoArchive.Proofs.Assembly.Release
import PhotoArchive.Proofs.Assembly.Names
import PhotoArchive.Proofs.Export.Accounts
import PhotoArchive.Proofs.Storage.Agreement
import PhotoArchive.Proofs.Storage.Sessions
import PhotoArchive.Proofs.Export.Tenancy
import PhotoArchive.Proofs.File.Standing
import PhotoArchive.Proofs.Zip.Fields
import PhotoArchive.Proofs.Zip.Plots
import PhotoArchive.Proofs.Zip.Layout
import PhotoArchive.Proofs.Zip.Writing
import PhotoArchive.Proofs.Zip.Interrupted
import PhotoArchive.Proofs.Zip.Disposal
import PhotoArchive.Proofs.Zip.Operations
import PhotoArchive.Proofs.Zip.Lifecycle
import PhotoArchive.Proofs.Assembly.Contents
import PhotoArchive.Proofs.Assembly.Isolation
import PhotoArchive.Proofs.Assembly.Survival
import PhotoArchive.Proofs.Assembly.Cancellation
import PhotoArchive.Proofs.Assembly.Disposal
import PhotoArchive.Proofs.Storage.Stock
import PhotoArchive.Proofs.Storage.Remains
import PhotoArchive.Proofs.Storage.Phases
import PhotoArchive.Proofs.Zip.Twins
import PhotoArchive.Proofs.Assembly.Omission
import PhotoArchive.Proofs.Assembly.Draining
import PhotoArchive.Proofs.Export.History
import PhotoArchive.Proofs.Storage.StoreCalls
import PhotoArchive.Proofs.Assembly.Fetching
import PhotoArchive.Proofs.Zip.Uninterrupted
import PhotoArchive.Proofs.Assembly.Confinement
import PhotoArchive.Proofs.Storage.Walking
import PhotoArchive.Proofs.Storage.Tree
import PhotoArchive.Proofs.Storage.Files
import PhotoArchive.Proofs.Storage.Objects
import PhotoArchive.Proofs.Assembly.Interchange
import PhotoArchive.Proofs.BufferPool.Sharing
import PhotoArchive.Proofs.Locator.Slots
import PhotoArchive.Proofs.Zip.Scanning
import PhotoArchive.Proofs.Storage.Custody
import PhotoArchive.Proofs.Storage.Closing
import PhotoArchive.Proofs.Locator.Identity
import PhotoArchive.Proofs.Storage.BlobNames
import PhotoArchive.Proofs.Storage.SharedNames
import PhotoArchive.Proofs.Assembly.NameSearch
import PhotoArchive.Proofs.Path.IndexedNames
import PhotoArchive.Proofs.Path.Spelling
import PhotoArchive.Proofs.Path.Joining
import PhotoArchive.Proofs.Assembly.Journal
import PhotoArchive.Proofs.Assembly.Origins
import PhotoArchive.Proofs.Export.Course
import PhotoArchive.Proofs.Export.AuditTrail
import PhotoArchive.Proofs.File.Delivery
import PhotoArchive.Proofs.Storage.Creating
import PhotoArchive.Proofs.Dispatch
import PhotoArchive.Proofs.CommandLine.Exporting
