import ApplianceCloud.Account.Home
import ApplianceCloud.Control.Laundry
import ApplianceCloud.Control.Setting
import ApplianceCloud.Enrolment.Basic
import ApplianceCloud.Numeric.Bytes.Lemmas
import ApplianceCloud.Proofs.Capability.AirConditioner
import ApplianceCloud.Proofs.Capability.Trips
import ApplianceCloud.Proofs.Queue.Stopping
import ApplianceCloud.Proofs.Watch.Bracket
import ApplianceCloud.Queue.Work
import ApplianceCloud.Proofs.Interleaving.Interference
import ApplianceCloud.Proofs.Watch.Soundness
import ApplianceCloud.Proofs.Capability.Bijection
import ApplianceCloud.Proofs.Status.Coercion
import ApplianceCloud.Proofs.Status.Telemetry
import ApplianceCloud.Proofs.Interleaving.Section
import ApplianceCloud.Proofs.Keeper.Exclusion
import ApplianceCloud.Proofs.Status.Rereading
import ApplianceCloud.Proofs.Status.Failures
import ApplianceCloud.Proofs.Status.Lossless
import ApplianceCloud.Proofs.Watch.Closing
import ApplianceCloud.Proofs.Document.Writable
import ApplianceCloud.Proofs.Cloud.Classification
import ApplianceCloud.Proofs.Capability.Wording
import ApplianceCloud.Proofs.Keeper.Polling
import ApplianceCloud.Proofs.Keeper.Starting
import ApplianceCloud.Proofs.Account.Unloading
import ApplianceCloud.Proofs.Account.Removal
import ApplianceCloud.Proofs.Keeper.Busy
import ApplianceCloud.Proofs.Watch.Reference
import ApplianceCloud.Proofs.Account.Forgetting
import ApplianceCloud.Proofs.Base64
import ApplianceCloud.Proofs.Capability.Support
import ApplianceCloud.Proofs.Control.Substitution
import ApplianceCloud.Proofs.Document.Numbers
import ApplianceCloud.Proofs.Document.Readable
import ApplianceCloud.Proofs.Status.Rearrangement
import ApplianceCloud.Proofs.Control.Payload
import ApplianceCloud.Proofs.Watch.Decoding
import ApplianceCloud.Proofs.Control.Sending
import ApplianceCloud.Proofs.Keeper.Commands
import ApplianceCloud.Proofs.Status.Wrapping
import ApplianceCloud.Proofs.Keeper.Selection
import ApplianceCloud.Proofs.Keeper.Switching
import ApplianceCloud.Proofs.Capability.Courses
import ApplianceCloud.Proofs.Status.CourseNames
import ApplianceCloud.Proofs.Control.DataSet
import ApplianceCloud.Proofs.Control.Nulls
import ApplianceCloud.Proofs.Control.Declaration
import ApplianceCloud.Proofs.Watch.WorkCodes
import ApplianceCloud.Proofs.Cloud.Listing
import ApplianceCloud.Proofs.Enrolment.Admission
