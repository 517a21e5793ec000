import DictationClient.Core.LTS
import DictationClient.Core.CheckThenSet
import DictationClient.Core.Mutex
import DictationClient.Core.Link
import DictationClient.Core.Loop
import DictationClient.Core.Chunks
import DictationClient.Core.Cursor
import DictationClient.Core.CInt
import DictationClient.Core.FixedCodec
import DictationClient.Core.StdMap
import DictationClient.Core.GetLine
import DictationClient.Core.Words
import DictationClient.Core.Py
import DictationClient.Core.Varint
import DictationClient.Core.WireFormat
import DictationClient.Api
import DictationClient.L1Encoding.Wave
import DictationClient.L1Encoding.Ogg
import DictationClient.L1Encoding.RequestMessages
import DictationClient.L1Encoding.RequestBytes
import DictationClient.L1Encoding.ResponseMessages
import DictationClient.L1Encoding.ResponseBytes
import DictationClient.L2Framing.StreamingRequest
import DictationClient.L2Framing.AudioStream
import DictationClient.L2Framing.SharedCursor
import DictationClient.L2Framing.SameFrames
import DictationClient.L2Framing.Samples
import DictationClient.L3Protocol.Declared
import DictationClient.L3Protocol.ServiceSettings
import DictationClient.L3Protocol.PyConfig
import DictationClient.L3Protocol.RequestIterator
import DictationClient.L4App.StreamingRecognizer
import DictationClient.L4App.SyncRecognizer
import DictationClient.L4App.SameSettings
import DictationClient.L4App.SameRequests
import DictationClient.L4App.Main
import DictationClient.L4App.FinalResults
import DictationClient.L4App.TimeOffsets
import DictationClient.L4App.PrintResults
import DictationClient.L5Concurrency.StreamingRecognize
import DictationClient.L5Concurrency.Delivery
import DictationClient.L5Concurrency.HalfClose
import DictationClient.L5Concurrency.Returns
import DictationClient.L5Concurrency.NetworkedCall
import DictationClient.L5Concurrency.Answers
import DictationClient.L5Concurrency.LockedIterator
import DictationClient.L5Concurrency.CloseRace
import DictationClient.L5Concurrency.Consumer
import DictationClient.L5Concurrency.ResponseLoop
import DictationClient.L5Concurrency.PyCall
import DictationClient.L5Concurrency.MicStream
import DictationClient.L5Concurrency.MicStop
import DictationClient.L5Concurrency.MicCall
import DictationClient.L5Concurrency.Recording
import DictationClient.L5Concurrency.SameHeard
