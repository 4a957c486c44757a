import BluetoothHost.Host.Queue
import BluetoothHost.Proofs.Media.Phases
import BluetoothHost.Proofs.Media.SessionLock
import BluetoothHost.Proofs.Media.Sharing
import BluetoothHost.Proofs.Host.Answers
import BluetoothHost.Proofs.Media.Table
import BluetoothHost.Proofs.Media.LockUse
import BluetoothHost.Proofs.Media.InFlight
import BluetoothHost.Proofs.Gatt.Enrolment
import BluetoothHost.Proofs.Host.Enrolment
import BluetoothHost.Proofs.Gatt.Change
import BluetoothHost.Proofs.Gatt.Building
import BluetoothHost.Proofs.Gatt.Ledger
import BluetoothHost.Proofs.Gatt.Catalogue
import BluetoothHost.Proofs.Gatt.Removal
import BluetoothHost.Proofs.Gatt.Declaration
import BluetoothHost.Proofs.Gatt.Construction
import BluetoothHost.Proofs.Gatt.Materialize
import BluetoothHost.Proofs.Gatt.Readiness
import BluetoothHost.Proofs.Gatt.Contents
import BluetoothHost.Proofs.Gatt.Immutability
import BluetoothHost.Proofs.Gatt.Links
import BluetoothHost.Proofs.Host.Values
import BluetoothHost.Proofs.Gatt.Run
import BluetoothHost.Proofs.Gatt.Allocation
import BluetoothHost.Proofs.Gatt.Ranges
import BluetoothHost.Proofs.Gatt.Rollback
import BluetoothHost.Proofs.Gatt.Attachment
import BluetoothHost.Proofs.Gatt.Forwarding
import BluetoothHost.Proofs.Host.Remote
import BluetoothHost.Proofs.Media.Refusals
import BluetoothHost.Proofs.Media.Announcements
import BluetoothHost.Proofs.Gatt.Layout
import BluetoothHost.Proofs.Gatt.Arrangement
import BluetoothHost.Proofs.Media.Separation
import BluetoothHost.Proofs.Gatt.Separation
import BluetoothHost.Proofs.Host.Separation
import BluetoothHost.Proofs.Media.WatchRun
import BluetoothHost.Proofs.Gatt.Indications
import BluetoothHost.Proofs.Host.Recovery
import BluetoothHost.Proofs.Host.Reads
import BluetoothHost.Proofs.Media.Identity
import BluetoothHost.Proofs.Media.Playback
import BluetoothHost.Proofs.Gatt.Likeness
import BluetoothHost.Proofs.Gatt.Notification
import BluetoothHost.Proofs.Host.FailedWrites
import BluetoothHost.Proofs.Gatt.Additions
import BluetoothHost.Proofs.Gatt.Confinement
import BluetoothHost.Proofs.Media.Grants
import BluetoothHost.Proofs.Media.Registers
import BluetoothHost.Proofs.Gatt.PublicationOrder
import BluetoothHost.Proofs.Gatt.PathTree
import BluetoothHost.Proofs.Gatt.Buildable
import BluetoothHost.Proofs.Gatt.Parentage
import BluetoothHost.Proofs.Gatt.Flags
import BluetoothHost.Proofs.Uuid.Text
import BluetoothHost.Proofs.Address
import BluetoothHost.Proofs.Gatt.RoundTrip
import BluetoothHost.Proofs.Host.Draining
import BluetoothHost.Proofs.Gatt.Interchange
