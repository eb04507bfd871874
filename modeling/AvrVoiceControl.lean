import AvrVoiceControl.LedToggleFunction
import AvrVoiceControl.KeepAlive
import AvrVoiceControl.OutboundFrames
import AvrVoiceControl.OutstandingRequests
import AvrVoiceControl.SessionBookkeeping
import AvrVoiceControl.InboundStream
import AvrVoiceControl.CloudWire
import AvrVoiceControl.CloudSteps
import AvrVoiceControl.InboundPublish
import AvrVoiceControl.CloudSupervision
import AvrVoiceControl.CloudSubscription
import AvrVoiceControl.CommandLine
import AvrVoiceControl.CredentialsStorage
import AvrVoiceControl.Library.Interrupts
import AvrVoiceControl.Library.LinkedList
import AvrVoiceControl.Scheduler
import AvrVoiceControl.SchedulerQueues
import AvrVoiceControl.SchedulerJournal
import AvrVoiceControl.SchedulerAssertions
import AvrVoiceControl.SchedulerOutline
import AvrVoiceControl.SchedulerCreation
import AvrVoiceControl.SchedulerRuns
import AvrVoiceControl.SchedulerConservation
import AvrVoiceControl.SchedulerPunctuality
import AvrVoiceControl.SchedulerTicks
import AvrVoiceControl.Library.JsonRecord
import AvrVoiceControl.JsonWalk
import AvrVoiceControl.JsonGetters
import AvrVoiceControl.JsonInsertion
import AvrVoiceControl.JsonBounds
import AvrVoiceControl.TopicDispatch
import AvrVoiceControl.KeepAliveOff
import AvrVoiceControl.RejectedRequests
import AvrVoiceControl.ProtocolTimeouts
import AvrVoiceControl.SchedulerCalls
import AvrVoiceControl.SchedulerDisturbance
import AvrVoiceControl.Library.Interpolation
import AvrVoiceControl.NeoPixel
import AvrVoiceControl.SocketLookup
import AvrVoiceControl.CommandReceived
import AvrVoiceControl.CommandHistory
import AvrVoiceControl.Library.SlotRing
import AvrVoiceControl.UsartRings
import AvrVoiceControl.SchedulerFlush
import AvrVoiceControl.SchedulerArming
import AvrVoiceControl.SchedulerTimeBase
import AvrVoiceControl.SchedulerTimeBaseRuns
import AvrVoiceControl.Library.BusTransfer
import AvrVoiceControl.TwiDriver
import AvrVoiceControl.TwiTransfer
import AvrVoiceControl.RegisterAccess
import AvrVoiceControl.RegisterTransfers
import AvrVoiceControl.Library.FlatMemory
import AvrVoiceControl.Library.Base64
import AvrVoiceControl.AtcaHelpers
import AvrVoiceControl.Base64Text
import AvrVoiceControl.Base64Decoding
import AvrVoiceControl.CryptoClient
import AvrVoiceControl.TokenCreation
import AvrVoiceControl.PublicKeyText
import AvrVoiceControl.AtcaCommand
import AvrVoiceControl.Library.Crc
import AvrVoiceControl.AtcaExecution
import AvrVoiceControl.Library.Blocks
import AvrVoiceControl.AtcaSha
import AvrVoiceControl.ShaPieces
import AvrVoiceControl.Library.Generations
import AvrVoiceControl.WincHif
import AvrVoiceControl.WincSocket
import AvrVoiceControl.WincSessions
import AvrVoiceControl.WincDelivery
import AvrVoiceControl.WincClient
