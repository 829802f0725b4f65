/-
The audio file types that can be named in a search, with the codes they are stored by.
-/
import TrackSearch.Text.LetterCase

namespace TrackSearch

inductive FileType
  | unknown | mp3 | ogg | flac | mp4 | wma | aiff | mpc | trueAudio | wav | wavPack | m4a | m4v
  | mod | s3m | it | xm | spx | opus
  deriving DecidableEq, Repr

namespace FileType

/-- Every type that has a name of its own. -/
def known : List FileType :=
  [mp3, ogg, flac, mp4, wma, aiff, mpc, trueAudio, wav, wavPack, m4a, m4v, mod, s3m, it, xm, spx,
    opus]

/-- The name of a type, which is the usual file extension. -/
def name : FileType → String
  | unknown => "unknown"
  | mp3 => "mp3"
  | ogg => "ogg"
  | flac => "flac"
  | mp4 => "mp4"
  | wma => "wma"
  | aiff => "aiff"
  | mpc => "mpc"
  | trueAudio => "tta"
  | wav => "wav"
  | wavPack => "wv"
  | m4a => "m4a"
  | m4v => "m4v"
  | mod => "mod"
  | s3m => "s3m"
  | it => "it"
  | xm => "xm"
  | spx => "spx"
  | opus => "opus"

def key : FileType → String
  | trueAudio => "true_audio"
  | wavPack => "wav_pack"
  | t => t.name

def code (t : FileType) : Nat :=
  t.ctorIdx

/-- The type of a name in any letter case; a name that no known type has stands for the unknown
type. -/
def ofName (typed : String) : FileType :=
  (known.find? fun t => t.name == Text.lower typed).getD unknown

end FileType

end TrackSearch
