/-
The attributes of a track that a search can constrain, the names they go by, and how a value typed
for each of them is read.
-/
import TrackSearch.Text.LetterCase

namespace TrackSearch

inductive Field
  | url | title | artist | albumArtist | album | composer | genre | year | comment | label
  | trackNumber | discNumber | bpm | length | bitrate | sampleRate | fileSize | format | score
  | rating | playCount | firstPlayed | lastPlayed | created | modified
  deriving DecidableEq, Repr

/-- How a value typed for a field is read. -/
inductive FieldKind
  /-- A text, matched in part or as a whole. -/
  | text
  | number
  /-- Stars, stored at twice the scale. -/
  | rating
  /-- Seconds, stored in milliseconds. -/
  | length
  /-- Megabytes, stored in bytes. -/
  | fileSize
  /-- The name of a file type, stored as its code. -/
  | format
  /-- A date, stored as seconds since the epoch. -/
  | date
  deriving DecidableEq, Repr

namespace Field

/-- Every field, in the order in which lists of fields are shown. -/
def all : List Field :=
  [url, title, artist, albumArtist, album, composer, genre, year, comment, label, trackNumber,
    discNumber, bpm, length, bitrate, sampleRate, fileSize, format, score, rating, playCount,
    firstPlayed, lastPlayed, created, modified]

/-- The place of a field in `all`. -/
def index (f : Field) : Nat :=
  f.ctorIdx

theorem index_lt (f : Field) : f.index < 25 := by
  cases f <;> decide

theorem mem_all (f : Field) : f ∈ all := by
  cases f <;> decide

theorem all_map_index : all.map index = List.range 25 := by
  decide

/-- The fields that a value without a field name is looked for in, in the order of the filters. -/
def defaultText : List Field :=
  [title, url, album, artist, albumArtist, composer, genre, year, label]

/-- The names that a field can be typed by, in lower case.  The first is the one it is shown
by. -/
def names : Field → List String
  | url => ["url", "filename", "path"]
  | title => ["title"]
  | artist => ["artist"]
  | albumArtist => ["albumartist", "album-artist"]
  | album => ["album"]
  | composer => ["composer"]
  | genre => ["genre"]
  | year => ["year"]
  | comment => ["comment"]
  | label => ["label"]
  | trackNumber => ["tracknumber", "track"]
  | discNumber => ["discnumber", "disc"]
  | bpm => ["bpm"]
  | length => ["length"]
  | bitrate => ["bitrate"]
  | sampleRate => ["samplerate"]
  | fileSize => ["filesize", "size"]
  | format => ["format", "type", "filetype"]
  | score => ["score"]
  | rating => ["rating"]
  | playCount => ["playcount"]
  | firstPlayed => ["firstplayed", "first"]
  | lastPlayed => ["lastplayed", "played"]
  | created => ["added", "created", "createdate"]
  | modified => ["modified"]

def name (f : Field) : String :=
  f.names.headD ""

def key : Field → String
  | url => "url"
  | title => "title"
  | artist => "artist"
  | albumArtist => "album_artist"
  | album => "album"
  | composer => "composer"
  | genre => "genre"
  | year => "year"
  | comment => "comment"
  | label => "label"
  | trackNumber => "track_number"
  | discNumber => "disc_number"
  | bpm => "bpm"
  | length => "length"
  | bitrate => "bitrate"
  | sampleRate => "sample_rate"
  | fileSize => "file_size"
  | format => "format"
  | score => "score"
  | rating => "rating"
  | playCount => "play_count"
  | firstPlayed => "first_played"
  | lastPlayed => "last_played"
  | created => "created"
  | modified => "modified"

/-- The field that goes by a typed name, in any letter case. -/
def ofName? (typed : String) : Option Field :=
  all.find? fun f => f.names.contains (Text.lower typed)

def kind : Field → FieldKind
  | url | title | artist | albumArtist | album | composer | genre | comment | label => .text
  | year | trackNumber | discNumber | bpm | bitrate | sampleRate | score | playCount => .number
  | rating => .rating
  | length => .length
  | fileSize => .fileSize
  | format => .format
  | firstPlayed | lastPlayed | created | modified => .date

end Field

namespace FieldKind

def all : List FieldKind :=
  [text, number, rating, length, fileSize, format, date]

def name : FieldKind → String
  | text => "text"
  | number => "number"
  | rating => "rating"
  | length => "length"
  | fileSize => "filesize"
  | format => "format"
  | date => "date"

def key : FieldKind → String
  | fileSize => "file_size"
  | kind => kind.name

end FieldKind

end TrackSearch
