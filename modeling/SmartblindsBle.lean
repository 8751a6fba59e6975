import SmartblindsBle.Foundation.CoroutineRuns
import SmartblindsBle.Tilt.Assembler
import SmartblindsBle.Tilt.Streams
import SmartblindsBle.Tilt.Release
import SmartblindsBle.Tilt.ShadeSide
import SmartblindsBle.Tilt.ResponseFormat
import SmartblindsBle.Tilt.LayerSeparation
import SmartblindsBle.Tilt.RequestFormat
import SmartblindsBle.Tilt.Handshake
import SmartblindsBle.Tilt.ClientBehaviour
import SmartblindsBle.Tilt.Movement
import SmartblindsBle.Tilt.PositionReports
import SmartblindsBle.Tilt.PositionOutcome
import SmartblindsBle.Tilt.LinkSequence
import SmartblindsBle.Tilt.Counters
import SmartblindsBle.Tilt.Freshness
import SmartblindsBle.Capture.Reassembly
import SmartblindsBle.Capture.Redaction
import SmartblindsBle.Cloud.TranslatedFailures
import SmartblindsBle.Cloud.Secrecy
import SmartblindsBle.Cloud.Export
import SmartblindsBle.Legacy.KeyScan
import SmartblindsBle.Legacy.TiltTracking
import SmartblindsBle.Legacy.Keys
import SmartblindsBle.Tilt.WrongKey
import SmartblindsBle.Tilt.Agreement
import SmartblindsBle.Tilt.Serialization
import SmartblindsBle.Tilt.CallProgress
import SmartblindsBle.Tilt.BurstErrors
import SmartblindsBle.Tilt.CheckedCodec
import SmartblindsBle.Tilt.SoundTraffic
import SmartblindsBle.Tilt.SessionResources
import SmartblindsBle.Tilt.CallTraffic
import SmartblindsBle.Gate.ProvenKeys
import SmartblindsBle.Tilt.PayloadFormats
import SmartblindsBle.Cloud.LegacyExport
import SmartblindsBle.Capture.CapturedExchange
import SmartblindsBle.Capture.TranscriptReader
import SmartblindsBle.Legacy.FindKey
import SmartblindsBle.Cloud.LegacyReport
