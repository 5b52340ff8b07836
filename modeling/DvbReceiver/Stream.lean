/-!
# Elementary streams

A programme's streams are told apart by their stream type. The player decodes some types, and
selection looks for the first stream of a video type and the first of an audio type.
-/

namespace DvbReceiver

/-- The codecs that the player has. -/
inductive Codec
  | mpeg2Video
  | h264Video
  | mpegAudio
  deriving DecidableEq, Repr

namespace Codec

/-- The codec for a stream type, if the player has it. -/
def ofStreamType? : Nat → Option Codec
  | 0x01 | 0x02 => some mpeg2Video
  | 0x1B => some h264Video
  | 0x03 | 0x04 => some mpegAudio
  | _ => none

/-- The name under which reports show the codec. -/
def name : Codec → String
  | mpeg2Video => "Mpeg2Video"
  | h264Video => "H264Video"
  | mpegAudio => "MpegAudio"

end Codec

/-- The stream types that are selected as video: MPEG-1, MPEG-2 and H.264. -/
def videoStreamTypes : List Nat := [0x01, 0x02, 0x1B]

/-- The stream types that are selected as audio: MPEG-1 and MPEG-2. -/
def audioStreamTypes : List Nat := [0x03, 0x04]

end DvbReceiver
