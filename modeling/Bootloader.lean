import Bootloader.Act
import Bootloader.Address
import Bootloader.Attributes
import Bootloader.Bench.Host
import Bootloader.Bench.Journal
import Bootloader.Bench.Script
import Bootloader.Bench.World
import Bootloader.Boot.Command
import Bootloader.Boot.Context
import Bootloader.Boot.Error
import Bootloader.Boot.ImageName
import Bootloader.Boot.Kernel
import Bootloader.Boot.Placement
import Bootloader.Boot.Programs
import Bootloader.Boot.Registry
import Bootloader.Bytes
import Bootloader.Capacity
import Bootloader.Device.Basic
import Bootloader.Device.Manager
import Bootloader.Device.Ram
import Bootloader.Files.Access
import Bootloader.Files.Basic
import Bootloader.Files.Show
import Bootloader.Image.Builder
import Bootloader.Image.Header
import Bootloader.Image.Reader
import Bootloader.Link.Client
import Bootloader.Link.Frame
import Bootloader.Log
import Bootloader.Main
import Bootloader.Memory
import Bootloader.Memory.Identity
import Bootloader.Memory.Window
import Bootloader.Proofs.Act.Ends
import Bootloader.Proofs.Act.Frame
import Bootloader.Proofs.Act.Losses
import Bootloader.Proofs.Act.Mirrors
import Bootloader.Proofs.Act.Safe
import Bootloader.Proofs.Act.Triples
import Bootloader.Proofs.Address
import Bootloader.Proofs.Boot.Accepting
import Bootloader.Proofs.Boot.AnyImage
import Bootloader.Proofs.Boot.Arguments
import Bootloader.Proofs.Boot.Binding
import Bootloader.Proofs.Boot.Commands
import Bootloader.Proofs.Boot.Conduct
import Bootloader.Proofs.Boot.Copying
import Bootloader.Proofs.Boot.Cursors
import Bootloader.Proofs.Boot.FailedLoads
import Bootloader.Proofs.Boot.Fidelity
import Bootloader.Proofs.Boot.FirstFit
import Bootloader.Proofs.Boot.Frames
import Bootloader.Proofs.Boot.Guarding
import Bootloader.Proofs.Boot.Handover
import Bootloader.Proofs.Boot.Intact
import Bootloader.Proofs.Boot.LifeCycle
import Bootloader.Proofs.Boot.Loading
import Bootloader.Proofs.Boot.Lodging
import Bootloader.Proofs.Boot.OpenFiles
import Bootloader.Proofs.Boot.PageStarts
import Bootloader.Proofs.Boot.Placing
import Bootloader.Proofs.Boot.ProgramList
import Bootloader.Proofs.Boot.Protecting
import Bootloader.Proofs.Boot.Registering
import Bootloader.Proofs.Boot.Sealing
import Bootloader.Proofs.Boot.SecureImages
import Bootloader.Proofs.Boot.Segments
import Bootloader.Proofs.Boot.Session
import Bootloader.Proofs.Boot.ShownImages
import Bootloader.Proofs.Boot.SignedContents
import Bootloader.Proofs.Boot.SignedKernel
import Bootloader.Proofs.Boot.Surviving
import Bootloader.Proofs.Canonical
import Bootloader.Proofs.Device.Calls
import Bootloader.Proofs.Device.Instances
import Bootloader.Proofs.Device.Storage
import Bootloader.Proofs.Files.Handles
import Bootloader.Proofs.Files.Harmless
import Bootloader.Proofs.Files.HostFiles
import Bootloader.Proofs.Files.Lending
import Bootloader.Proofs.Files.Recording
import Bootloader.Proofs.Files.Relaying
import Bootloader.Proofs.Files.Requests
import Bootloader.Proofs.Files.Serving
import Bootloader.Proofs.Files.Showing
import Bootloader.Proofs.Files.Talking
import Bootloader.Proofs.Files.Waiting
import Bootloader.Proofs.Files.Windows
import Bootloader.Proofs.Image.Building
import Bootloader.Proofs.Image.Contents
import Bootloader.Proofs.Image.Patching
import Bootloader.Proofs.Image.Reading
import Bootloader.Proofs.Image.Tables
import Bootloader.Proofs.Layout
import Bootloader.Proofs.Link.Bursts
import Bootloader.Proofs.Link.Checksum
import Bootloader.Proofs.Link.Decoding
import Bootloader.Proofs.Link.Exchange
import Bootloader.Proofs.Link.FileHost
import Bootloader.Proofs.Link.Framing
import Bootloader.Proofs.Link.Grammar
import Bootloader.Proofs.Link.Hearing
import Bootloader.Proofs.Link.LateAnswers
import Bootloader.Proofs.Link.Line
import Bootloader.Proofs.Memory.Accesses
import Bootloader.Proofs.Memory.Lawful
import Bootloader.Proofs.Memory.Resident
import Bootloader.Proofs.Signing.Digests
import Bootloader.Proofs.Signing.Stability
import Bootloader.Proofs.SystemPage.ArgumentString
import Bootloader.Proofs.SystemPage.Arranging
import Bootloader.Proofs.SystemPage.Block
import Bootloader.Proofs.SystemPage.Capacities
import Bootloader.Proofs.SystemPage.CommandLines
import Bootloader.Proofs.SystemPage.Consistency
import Bootloader.Proofs.SystemPage.Coverage
import Bootloader.Proofs.SystemPage.Cursor
import Bootloader.Proofs.SystemPage.FailedSaves
import Bootloader.Proofs.SystemPage.Fitting
import Bootloader.Proofs.SystemPage.Frames
import Bootloader.Proofs.SystemPage.History
import Bootloader.Proofs.SystemPage.InPlace
import Bootloader.Proofs.SystemPage.MapRegistry
import Bootloader.Proofs.SystemPage.Orders
import Bootloader.Proofs.SystemPage.Paging
import Bootloader.Proofs.SystemPage.Records
import Bootloader.Proofs.SystemPage.Reflection
import Bootloader.Proofs.SystemPage.Refusals
import Bootloader.Proofs.SystemPage.Registries
import Bootloader.Proofs.SystemPage.Requests
import Bootloader.Proofs.SystemPage.Retrying
import Bootloader.Proofs.SystemPage.RoundTrip
import Bootloader.Proofs.SystemPage.Saving
import Bootloader.Proofs.SystemPage.Sealing
import Bootloader.Proofs.SystemPage.Viewing
import Bootloader.Proofs.SystemPage.Writes
import Bootloader.Proofs.Text.Encoding
import Bootloader.Proofs.Text.Numerals
import Bootloader.Proofs.Text.Truncation
import Bootloader.Proofs.Text.WellFormed
import Bootloader.Proofs.Text.Words
import Bootloader.Proofs.Trust.Signatures
import Bootloader.Proofs.Trust.Streaming
import Bootloader.Signing.Command
import Bootloader.Signing.FileTree
import Bootloader.Signing.Image
import Bootloader.Signing.Refusal
import Bootloader.Status
import Bootloader.SystemPage.Basic
import Bootloader.SystemPage.Map
import Bootloader.SystemPage.Record
import Bootloader.SystemPage.Serialize
import Bootloader.SystemPage.Show
import Bootloader.SystemPage.Update
import Bootloader.SystemPage.View
import Bootloader.Text.Blank
import Bootloader.Text.Digits
import Bootloader.Text.Field
import Bootloader.Text.Layout
import Bootloader.Text.Number
import Bootloader.Text.Quoted
import Bootloader.Text.Shapeless
import Bootloader.Trust.Base64
import Bootloader.Trust.Digest
import Bootloader.Trust.Error
import Bootloader.Trust.Nonce
import Bootloader.Trust.P256
import Bootloader.Trust.Sha2
import Bootloader.Trust.Signature
