/-
MetricAudit.Document.Load — metrics from files.

A file of metrics is a TOML document where its name ends in `.toml`, in
letters of either case, and a JSON document elsewhere. `loadMetrics`
reads the metrics of one file, or says why there are none: the file does
not exist, the system complains, it is not a document of its format, or
it does not describe metrics. An integer of more digits than can be
converted stops the program, and so does a document for whose levels
there is no room.
-/
import MetricAudit.Document.Metrics
import MetricAudit.FileTree
import MetricAudit.Json.Reader
import MetricAudit.Text.Utf8
import MetricAudit.Toml.Reader

namespace MetricAudit.Document

/-- Why a document cannot be read from bytes. -/
inductive Unread where
  /-- The bytes are not a document, with the reason in words. -/
  | malformed (reason : Text)
  /-- An integer in it has too many digits. -/
  | tooManyDigits (digits : Nat)
  | tooDeep (task : NestingLimit.Task)
  deriving DecidableEq, Repr

/-- The document that a JSON text describes. -/
def ofJson (room : NestingLimit.Room) (s : Text) : Except Unread Data :=
  match Json.read room s with
  | .ok value => .ok value
  | .error (.misplaced complaint rest) =>
    .error (.malformed (Json.misplacedMessage s complaint rest))
  | .error (.tooManyDigits n) => .error (.tooManyDigits n)
  | .error (.tooDeep task) => .error (.tooDeep task)

/-- The table that a TOML text describes. -/
def ofToml (room : NestingLimit.Room) (s : Text) : Except Unread Table :=
  match Toml.read room s with
  | .ok entries => .ok entries
  | .error (.misplaced complaint rest) =>
    .error (.malformed (Toml.misplacedMessage (Toml.lines s) complaint rest))
  | .error (.tooManyDigits n) => .error (.tooManyDigits n)
  | .error (.tooDeep task) => .error (.tooDeep task)

/-- The formats of documents. -/
inductive Format where
  | json
  | toml
  deriving DecidableEq, Repr

/-- The format of the file at a path. -/
def Format.ofPath (p : Path) : Format :=
  if p.extension.map Char.toLower = "toml" then .toml else .json

/-- The document that the bytes of a file describe. -/
def ofBytes (limits : NestingLimits) (format : Format) (bytes : List UInt8) :
    Except Unread Data :=
  match Text.Utf8.decode bytes with
  | .error fault => .error (.malformed fault.message)
  | .ok s =>
    match format with
    | .json => ofJson limits.json (Text.unifyEnds s)
    | .toml => (ofToml limits.toml s).map .table

/-- Why a file gives no metrics. -/
inductive LoadFault where
  | notFound
  | system (fault : SystemFault)
  | malformed (reason : Text)
  | misshapen (fault : Fault)
  | tooManyDigits (digits : Nat)
  | integerTooLong
  | tooDeep (task : NestingLimit.Task)

/-- The metrics of the file at a path. -/
def loadMetrics (limits : NestingLimits) (tree : FileTree) (p : Path) :
    Except LoadFault (List Metric) :=
  match tree.find? p with
  | .error fault => .error (.system fault)
  | .ok none => .error .notFound
  | .ok (some .directory) => .error (.system .isDirectory)
  -- what was there may be gone before it is opened
  | .ok (some (.locked fault)) =>
    if fault.isMissing then .error .notFound else .error (.system fault)
  | .ok (some (.file bytes)) =>
    match ofBytes limits (.ofPath p) bytes with
    | .error (.malformed reason) => .error (.malformed reason)
    | .error (.tooManyDigits n) => .error (.tooManyDigits n)
    | .error (.tooDeep task) => .error (.tooDeep task)
    | .ok document =>
      match metrics limits.shows document with
      | .ok ms => .ok ms
      | .error (.misshapen fault) => .error (.misshapen fault)
      | .error .integerTooLong => .error .integerTooLong
      | .error (.tooDeep task) => .error (.tooDeep task)

/-- A fault of the file at a path, in words. -/
def LoadFault.message (p : Path) : LoadFault → Text
  | .notFound => "metric definition file not found: " ++ p.text
  | .system fault => fault.message p.text
  | .malformed reason => "failed to parse " ++ p.text ++ ": " ++ reason
  | .misshapen fault => fault.message p.text
  | .tooManyDigits n => DigitLimit.message n
  | .integerTooLong => DigitLimit.unshownMessage
  | .tooDeep task => task.message

/-- The remark on a file that is loaded. -/
def loadedRemark (p : Path) (ms : List Metric) : Log.Remark :=
  ⟨.info, "loaded " ++ Text.ofNat ms.length ++ " metric definition(s) from " ++ p.text⟩

end MetricAudit.Document
