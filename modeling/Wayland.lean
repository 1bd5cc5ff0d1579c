import Wayland.Main
import Wayland.File.Store
import Wayland.Model.Descriptor
import Wayland.Service.Publish
import Wayland.Session.Link
import Wayland.Session.Metrics
import Wayland.Wire.Frame
import Wayland.Proofs.Binding.Declared
import Wayland.Proofs.Catalog.Written
import Wayland.Proofs.Document.Redump
import Wayland.Proofs.Session.Conversation
import Wayland.Proofs.Session.Descriptors
import Wayland.Proofs.Session.Gate
import Wayland.Proofs.Session.Replay
import Wayland.Proofs.Wire.Inverse
import Wayland.Proofs.Wire.Stream
import Wayland.Proofs.Binding.Fit
import Wayland.Proofs.Binding.Roles
import Wayland.Proofs.Wire.Limit
import Wayland.Proofs.Session.Reference
import Wayland.Proofs.Session.Unbound
import Wayland.Proofs.Session.Outgoing
import Wayland.Proofs.Session.Generation
import Wayland.Proofs.Session.Meters
import Wayland.Proofs.Document.Root
import Wayland.Proofs.Binding.Parameters
import Wayland.Proofs.Document.ZeroSince
import Wayland.Proofs.Document.References
import Wayland.Proofs.Binding.Writable
import Wayland.Proofs.Binding.Enumerated
import Wayland.Proofs.Catalog.Independent
import Wayland.Proofs.Wire.Cutting
import Wayland.Proofs.Wire.Equality
import Wayland.Proofs.Service.Listing
import Wayland.Proofs.Catalog.Contained
import Wayland.Proofs.Text.Numeral
import Wayland.Proofs.Wire.Fixed
