import SpeechGateway.Values
import SpeechGateway.Streaming
import SpeechGateway.Display
import SpeechGateway.Backends
import SpeechGateway.Protocol
import SpeechGateway.Vad
import SpeechGateway.Chunking
import SpeechGateway.Machine
import SpeechGateway.Sessions
import SpeechGateway.Scheduling
import SpeechGateway.Settlement
import SpeechGateway.Accounts
import SpeechGateway.Programs
import SpeechGateway.Runtime
import SpeechGateway.Gateway
import SpeechGateway.Cancellation
import SpeechGateway.Work
import SpeechGateway.Custody
import SpeechGateway.Holdings
import SpeechGateway.Tending
import SpeechGateway.Leasing
import SpeechGateway.Listening
import SpeechGateway.Endings
import SpeechGateway.Balance
import SpeechGateway.Committing
import SpeechGateway.Carrying
import SpeechGateway.Delivery
import SpeechGateway.Coordinator
import SpeechGateway.Capacity
import SpeechGateway.Occupancy
import SpeechGateway.Orphans
import SpeechGateway.Exclusion
import SpeechGateway.Bridge
import SpeechGateway.Slots
import SpeechGateway.Qwen
import SpeechGateway.FailStop
import SpeechGateway.RingBuffer
import SpeechGateway.Absorbing
import SpeechGateway.Registry
import SpeechGateway.Batching
import SpeechGateway.Progress
import SpeechGateway.JobLimits
import SpeechGateway.Hysteresis
import SpeechGateway.Utterances
import SpeechGateway.Cutting
import SpeechGateway.Splitting
import SpeechGateway.Packing
import SpeechGateway.Framing
import SpeechGateway.Transmission
import SpeechGateway.Grouping
import SpeechGateway.Microbatch
import SpeechGateway.Sentences
import SpeechGateway.Realigning
import SpeechGateway.Triton
import SpeechGateway.Backlog
import SpeechGateway.Unicode
import SpeechGateway.Dict
import SpeechGateway.JsonText
import SpeechGateway.JsonWriting
import SpeechGateway.JsonCompact
import SpeechGateway.Files
import SpeechGateway.Artifacts
import SpeechGateway.Approval
import SpeechGateway.Manifests
import SpeechGateway.Overlap
import SpeechGateway.Lifecycle
import SpeechGateway.Overlapping
import SpeechGateway.Segments
import SpeechGateway.Isolation
import SpeechGateway.Finals
import SpeechGateway.SenseVoice
import SpeechGateway.Connections
import SpeechGateway.Telling
import SpeechGateway.Conversing
import SpeechGateway.Passing
import SpeechGateway.Concluding
import SpeechGateway.Conserving
import SpeechGateway.Handshake
import SpeechGateway.Client
import SpeechGateway.Drift
