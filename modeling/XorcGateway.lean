import XorcGateway.Effects.Program
import XorcGateway.Effects.Pool
import XorcGateway.Effects.Extend
import XorcGateway.Effects.Background
import XorcGateway.Effects.Debt
import XorcGateway.Effects.Exchange
import XorcGateway.Abstract.Directory
import XorcGateway.Abstract.Machine
import XorcGateway.Codec.Base64
import XorcGateway.Codec.Hex
import XorcGateway.Codec.Aes
import XorcGateway.Codec.Gcm
import XorcGateway.Codec.FloatFormat
import XorcGateway.Codec.Segments
import XorcGateway.Codec.Sha512
import XorcGateway.Rust.Text
import XorcGateway.Rust.Runtime
import XorcGateway.Rust.Decimal
import XorcGateway.Events.Json
import XorcGateway.Events.Input
import XorcGateway.Events.Output
import XorcGateway.Config
import XorcGateway.Crates
import XorcGateway.Encryption
import XorcGateway.Registry.Application
import XorcGateway.Calls
import XorcGateway.Context
import XorcGateway.Events.Response
import XorcGateway.Cors
import XorcGateway.Error
import XorcGateway.Registry.Validate
import XorcGateway.Registry.Refresh
import XorcGateway.Events.Event
import XorcGateway.Events.Batch
import XorcGateway.IfaMatching
import XorcGateway.Bus.Kafka
import XorcGateway.Gateway
import XorcGateway.Service
import XorcGateway.Process
import XorcGateway.Shutdown
import XorcGateway.Semantics.Registration
import XorcGateway.Semantics.Pipeline
import XorcGateway.Semantics.Responses
import XorcGateway.Semantics.Service
import XorcGateway.Semantics.Store
import XorcGateway.Semantics.Replay
import XorcGateway.Reference
import XorcGateway.Properties.Admission
import XorcGateway.Properties.DeviceIds
import XorcGateway.Properties.Recipients
import XorcGateway.Properties.Credentials
import XorcGateway.Properties.Provenance
import XorcGateway.Properties.StoreWrites
import XorcGateway.Properties.Identities
import XorcGateway.Properties.Delivery
import XorcGateway.Properties.Flattening
import XorcGateway.Properties.PropertyKeys
import XorcGateway.Properties.PropertyValues
import XorcGateway.Properties.RoundTrip
import XorcGateway.Properties.Refreshes
import XorcGateway.Properties.TestApps
import XorcGateway.Properties.CrossOrigin
import XorcGateway.Properties.ForgedIds
import XorcGateway.Properties.Results
import XorcGateway.Properties.Discipline
import XorcGateway.Properties.Location
import XorcGateway.Properties.Numbers
import XorcGateway.Properties.TimeOrder
import XorcGateway.Properties.KeylessPlatforms
import XorcGateway.Properties.EventCounter
import XorcGateway.Properties.RequestCounter
import XorcGateway.Properties.Unanswered
import XorcGateway.Properties.StoreCounters
import XorcGateway.Properties.Origins
import XorcGateway.Properties.Authenticity
import XorcGateway.Properties.Secrets
import XorcGateway.Properties.Shutdown
import XorcGateway.Properties.Sealing
