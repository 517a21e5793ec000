import DictationClient.Core.FixedCodec

/-!
# Messages of the dictation service

The messages of proto/dictation_asr.proto that the two clients build or read,
with the fields they touch. A `oneof` is an inductive type with one constructor
per alternative, a `repeated` field a list. Proto3 enums are open, so an enum
read from the wire is its `int32` number; an enum the clients only ever set to
a named constant is an inductive type.

`F` is the type of `float` values as the reader sees them. The clients only
compare and copy them.
-/
namespace DictationClient.Api

/-! ## Requests -/

/-- mirrors proto/dictation_asr.proto:172-229 -/
inductive AudioEncoding where
  | encodingUnspecified | linear16 | flac | mulaw | amr | amrWb | oggOpus
  | speexWithHeaderByte | mp3
  deriving DecidableEq, Repr

/-- mirrors proto/dictation_asr.proto:371-377 -/
structure ConfigField where
  key : String
  value : String
  deriving DecidableEq, Repr

/-- mirrors proto/dictation_asr.proto:357-367 -/
structure SpeechContext where
  phrases : List String
  deriving DecidableEq, Repr

/-- mirrors proto/dictation_asr.proto:147-352 -/
structure RecognitionConfig where
  encoding : AudioEncoding
  sampleRateHertz : Int32
  languageCode : String
  maxAlternatives : Int32
  speechContexts : List SpeechContext
  enableWordTimeOffsets : Bool
  configFields : List ConfigField
  deriving DecidableEq, Repr

/-- mirrors proto/dictation_asr.proto:121-143 -/
structure StreamingRecognitionConfig where
  config : RecognitionConfig
  singleUtterance : Bool
  interimResults : Bool
  deriving DecidableEq, Repr

/-- mirrors proto/dictation_asr.proto:98-117 (`oneof streaming_request`) -/
inductive StreamingRecognizeRequest where
  | streamingConfig (c : StreamingRecognitionConfig)
  | audioContent (data : Bytes)
  deriving DecidableEq, Repr

/-- mirrors proto/dictation_asr.proto:386-409 (`content` of `audio_source`) -/
structure RecognitionAudio where
  content : Bytes
  deriving DecidableEq, Repr

/-- mirrors proto/dictation_asr.proto:73-80 -/
structure RecognizeRequest where
  config : RecognitionConfig
  audio : RecognitionAudio
  deriving DecidableEq, Repr

/-! ## Responses -/

/-- `google.rpc.Status`. -/
structure Status where
  code : Int32
  message : String
  deriving DecidableEq, Repr

/-- `google.protobuf.Duration`. -/
structure Duration where
  seconds : Int64
  nanos : Int32
  deriving DecidableEq, Repr

structure WordInfo where
  startTime : Duration
  endTime : Duration
  word : String
  deriving DecidableEq, Repr

structure SpeechRecognitionAlternative (F : Type) where
  transcript : String
  confidence : F
  words : List WordInfo
  deriving DecidableEq, Repr

structure SpeechRecognitionResult (F : Type) where
  alternatives : List (SpeechRecognitionAlternative F)
  deriving DecidableEq, Repr

/-- mirrors proto/dictation_asr.proto:414-418 -/
structure RecognizeResponse (F : Type) where
  results : List (SpeechRecognitionResult F)
  deriving DecidableEq, Repr

structure StreamingRecognitionResult (F : Type) where
  alternatives : List (SpeechRecognitionAlternative F)
  isFinal : Bool
  deriving DecidableEq, Repr

/-- `StreamingRecognizeResponse.SpeechEventType`, an open enum.
mirrors proto/dictation_asr.proto:495-507 -/
abbrev SpeechEventType := Int32

def speechEventUnspecified : SpeechEventType := 0

def endOfSingleUtterance : SpeechEventType := 1

/-- `error = none`: the field is not set.
mirrors proto/dictation_asr.proto:493-521 -/
structure StreamingRecognizeResponse (F : Type) where
  error : Option Status
  results : List (StreamingRecognitionResult F)
  speechEventType : SpeechEventType
  deriving DecidableEq, Repr

end DictationClient.Api
