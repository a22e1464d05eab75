import PhotoArchive.Memory
import PhotoArchive.Text.Utf8

/-!
# Failures

Everything that can interrupt the work on an export is a `Failure`. It says what went wrong, not
in which words; the words are given by `Failure.message`. Small predicates name the groups that
handlers tell apart.

## Main definitions

- `SystemError`, `FileError`, `ServiceError`, `ConnectionError`, `ArchiveError` — the kinds of
  errors that come from below
- `Failure` — what can interrupt an export
- `Failure.message` — a failure in words
- `Failure.IsSystemError`, `Failure.IsValueError`, `Failure.IsBlobError` and others — the groups that
  handlers ask for
-/

namespace PhotoArchive

/-! ## Errors from below -/

/-- An error that the operating system, or a service in its place, reports in its own words, with
an error number if it has one. -/
structure SystemError where
  number : Option Int
  text : String
  deriving DecidableEq, Repr

/-- An error number in brackets and the words that go with it. -/
def SystemError.numbered (number : Int) (text : String) : String :=
  "[Errno " ++ toString number ++ "] " ++ text

/-- A system error in words: its text, behind its number if it has one. -/
def SystemError.message (e : SystemError) : String :=
  match e.number with
  | some n => numbered n e.text
  | none => e.text

/-- Why the file system refuses an operation. -/
inductive FileFault where
  | noEntry
  | notDirectory
  | isDirectory
  | noSpace
  | nameTooLong
  | tooManyLinks
  deriving DecidableEq, Repr

namespace FileFault

/-- The error number of a fault. -/
def number : FileFault → Int
  | noEntry => 2
  | notDirectory => 20
  | isDirectory => 21
  | noSpace => 28
  | nameTooLong => 36
  | tooManyLinks => 40

/-- The fault in words. -/
def text : FileFault → String
  | noEntry => "No such file or directory"
  | notDirectory => "Not a directory"
  | isDirectory => "Is a directory"
  | noSpace => "No space left on device"
  | nameTooLong => "File name too long"
  | tooManyLinks => "Too many levels of symbolic links"

end FileFault

/-- A refusal of the file system, with the file name that it is about where one was given. -/
structure FileError where
  fault : FileFault
  path : Option String := none
  deriving DecidableEq, Repr

/-- A file error in words; the file name follows in quotes. -/
def FileError.message (e : FileError) : String :=
  SystemError.numbered e.fault.number e.fault.text ++
    match e.path with
    | some path => ": " ++ Text.quoted path
    | none => ""

/-- What an object store fills into its error answers: words as a rule, but also numbers, flags and
nothing at all. -/
inductive AnswerValue where
  | word (text : String)
  | number (n : Int)
  | flag (value : Bool)
  | nothing
  deriving DecidableEq, Repr

/-- The value as it is shown. -/
def AnswerValue.text : AnswerValue → String
  | word text => text
  | number n => toString n
  | flag true => "True"
  | flag false => "False"
  | nothing => "None"

/-- An error answer of an object store. -/
structure ServiceError where
  code : Option AnswerValue
  text : Option AnswerValue
  operation : String
  /-- How often the request was repeated, when it was given up for that reason. -/
  retries : Option AnswerValue
  deriving DecidableEq, Repr

namespace ServiceError

/-- The code words that say that there is no such object. -/
def notFoundWords : List String := ["NoSuchKey", "404", "NotFound"]

/-- An answer means "not found" when its code is one of the known words. A number is none. -/
def IsNotFound (e : ServiceError) : Prop := ∃ word ∈ notFoundWords, e.code = some (.word word)

instance (e : ServiceError) : Decidable e.IsNotFound := by
  unfold IsNotFound
  infer_instance

/-- A service error in words; what it does not tell is unknown. -/
def message (e : ServiceError) : String :=
  let told (value : Option AnswerValue) : String := (value.map AnswerValue.text).getD "Unknown"
  "An error occurred (" ++ told e.code ++ ") when calling the " ++ e.operation ++ " operation"
    ++ (match e.retries with
        | some n => " (reached max retries: " ++ n.text ++ ")"
        | none => "")
    ++ ": " ++ told e.text

/-- The answer to a request for an object that is not there. -/
def noSuchKey : ServiceError where
  code := some (.word "NoSuchKey")
  text := some (.word "No such key")
  operation := "GetObject"
  retries := none

end ServiceError

/-- Why an object store cannot be talked to. -/
inductive ConnectionError where
  | unspecified
  | unreachable (url : String)
  | readTimeout (url : String)
  | noCredentials
  deriving DecidableEq, Repr

/-- A connection error in words. -/
def ConnectionError.message : ConnectionError → String
  | unspecified => "An unspecified error occurred"
  | unreachable url => "Could not connect to the endpoint URL: \"" ++ url ++ "\""
  | readTimeout url => "Read timeout on endpoint URL: \"" ++ url ++ "\""
  | noCredentials => "Unable to locate credentials"

/-- How an open file is used. -/
inductive FileAccess where
  | read
  | write
  | seek
  | tell
  deriving DecidableEq, Repr

/-- Why an archive refuses an operation. -/
inductive ArchiveError where
  /-- An entry is opened while another one is open. -/
  | anotherEntryOpen
  /-- An entry is opened in an archive that has been closed. -/
  | archiveClosed
  /-- The archive is closed while an entry is open. -/
  | entryStillOpen
  /-- An entry whose header has no room for large sizes has grown past the limit. -/
  | sizeLimit
  /-- The same for the compressed size. -/
  | compressedSizeLimit
  /-- No size at all is within the limit, but the header has no room for large sizes. -/
  | noRoom
  /-- A number does not fit its field in a record. -/
  | fieldOverflow
  /-- A declared size is too large to be scaled. -/
  | sizeOutOfRange
  deriving DecidableEq, Repr

/-- An archive error in words. -/
def ArchiveError.message : ArchiveError → String
  | anotherEntryOpen => "Can't write to the ZIP file while there is another write handle open on it. "
      ++ "Close the first handle before opening another."
  | archiveClosed => "Attempt to use ZIP archive that was already closed"
  | entryStillOpen => "Can't close the ZIP file while there is an open writing handle on it. "
      ++ "Close the writing handle before closing the zip."
  | sizeLimit => "File size unexpectedly exceeded ZIP64 limit"
  | compressedSizeLimit => "Compressed size unexpectedly exceeded ZIP64 limit"
  | noRoom => "Filesize would require ZIP64 extensions"
  | fieldOverflow => "number does not fit its field"
  | sizeOutOfRange => "size is too large to be scaled"

/-! ## Failures -/

/-- The stages of an export whose failure ends it. -/
inductive FatalStage where
  | products
  | session
  | finalize
  deriving DecidableEq, Repr

/-- What can interrupt the work on an export. -/
inductive Failure where
  /-- A value breaks a rule of the domain. -/
  | domain (message : String)
  /-- A failure of the application with a text of its own. -/
  | application (message : String)
  /-- Something that was asked for is not there. -/
  | notFound (subject : String)
  /-- A blob is not there. -/
  | blobNotFound (key : String)
  /-- A blob is there but cannot be read. -/
  | blobRead (key reason : String)
  /-- The storage cannot be used at all. -/
  | storageSession (reason : String)
  /-- The archive cannot be completed. -/
  | archiveFinalize (reason : String)
  /-- The products of a company cannot be listed. -/
  | productQuery (reason : String)
  /-- The export as a whole has failed, at the given stage if that is known. -/
  | exportFailed (company reason : String) (stage : Option FatalStage)
  /-- The work has been cancelled from outside. -/
  | cancelled (text : String)
  /-- The system reports an error in its own words. -/
  | system (error : SystemError)
  /-- The file system refuses an operation. -/
  | file (error : FileError)
  /-- An open file is used after it was closed; a file in memory has other words for it. -/
  | closedFile (inMemory : Bool) (access : FileAccess)
  /-- A name with the character NUL, which no file can have. -/
  | unusableName (name : String)
  /-- A text with a surrogate is to be encoded. -/
  | unencodable (fault : Text.EncodingFault)
  /-- There cannot be a buffer, or what is read from a file, of a certain length. -/
  | length (fault : LengthFault)
  /-- A value is refused. -/
  | value (text : String)
  /-- Something failed that has no group of its own. -/
  | runtime (text : String)
  /-- The database reports an error. -/
  | database (text : String)
  /-- The object store answers with an error. -/
  | service (error : ServiceError)
  /-- The object store cannot be talked to. -/
  | connection (error : ConnectionError)
  /-- The transfer of an object breaks off. -/
  | payload (text : String)
  /-- The archive refuses an operation. -/
  | archive (error : ArchiveError)
  /-- A read delivers more than the buffer holds. -/
  | bufferExceeded
  deriving DecidableEq, Repr

namespace Failure

/-- A failure in words. -/
def message : Failure → String
  | domain message => message
  | application message => message
  | notFound subject => subject ++ " Not Found"
  | blobNotFound key => "Blob with key = " ++ key ++ " Not Found"
  | blobRead key reason => "Cannot read blob " ++ key ++ ": " ++ reason
  | storageSession reason => "Cannot open storage session: " ++ reason
  | archiveFinalize reason => "Cannot finalize archive: " ++ reason
  | productQuery reason => "Cannot load products: " ++ reason
  | exportFailed company reason _ => "Photo export for company " ++ company ++ " failed: " ++ reason
  | cancelled text => text
  | system error => error.message
  | file error => error.message
  | closedFile true _ => "I/O operation on closed file."
  | closedFile false .read => "read of closed file"
  | closedFile false .write => "write to closed file"
  | closedFile false .seek => "seek of closed file"
  | closedFile false .tell => "I/O operation on closed file."
  | unusableName _ => "embedded null byte"
  | unencodable fault => fault.message
  | length fault => fault.text
  | value text => text
  | runtime text => text
  | database text => text
  | service error => error.message
  | connection error => error.message
  | payload text => text
  | archive error => error.message
  | bufferExceeded => "a buffer that is in use cannot be resized"

/-- Errors of the operating system, whoever reports them. A read from an object store that takes too
long is one of them. -/
def IsSystemError : Failure → Prop
  | system _ | file _ | connection (.readTimeout _) => True
  | _ => False

instance : DecidablePred IsSystemError := fun f => by
  unfold IsSystemError
  split <;> infer_instance

/-- Errors of the database, those of the system on the way to it included. -/
def IsDatabaseError : Failure → Prop
  | database _ => True
  | f => IsSystemError f

instance : DecidablePred IsDatabaseError := fun f => by
  cases f <;> unfold IsDatabaseError <;> infer_instance

/-- Errors of an object store: its error answers, and errors in talking to it. -/
def IsServiceError : Failure → Prop
  | service _ | connection _ => True
  | _ => False

instance : DecidablePred IsServiceError := fun f => by
  cases f <;> unfold IsServiceError <;> infer_instance

/-- Failed reads of a blob, as a storage reports them. -/
def IsReadError : Failure → Prop
  | blobRead _ _ => True
  | _ => False

instance : DecidablePred IsReadError := fun f => by
  cases f <;> unfold IsReadError <;> infer_instance

/-- Errors in the transfer of a body. -/
def IsPayloadError : Failure → Prop
  | payload _ => True
  | _ => False

instance : DecidablePred IsPayloadError := fun f => by
  cases f <;> unfold IsPayloadError <;> infer_instance

/-- Refused values, among them unusable names, texts that cannot be encoded, and the misuse of closed
files and archives. -/
def IsValueError : Failure → Prop
  | value _ | closedFile _ _ | unusableName _ | unencodable _ | length .negative => True
  | archive .anotherEntryOpen | archive .archiveClosed | archive .entryStillOpen => True
  | _ => False

instance : DecidablePred IsValueError := fun f => by
  unfold IsValueError
  split <;> infer_instance

/-- Failures to serve a blob, as a storage reports them. -/
def IsBlobError : Failure → Prop
  | blobNotFound _ | blobRead _ _ => True
  | _ => False

instance : DecidablePred IsBlobError := fun f => by
  cases f <;> unfold IsBlobError <;> infer_instance

/-- Failures of the pipeline itself, as opposed to failures from below. -/
def IsApplicationError : Failure → Prop
  | application _ | notFound _ | blobNotFound _ | blobRead _ _ | storageSession _
  | archiveFinalize _ | productQuery _ | exportFailed _ _ _ => True
  | _ => False

instance : DecidablePred IsApplicationError := fun f => by
  cases f <;> unfold IsApplicationError <;> infer_instance

/-- Failures of an export as a whole. -/
def IsExportError : Failure → Prop
  | exportFailed _ _ _ => True
  | _ => False

instance : DecidablePred IsExportError := fun f => by
  cases f <;> unfold IsExportError <;> infer_instance

/-- Failures that say that something is not there. -/
def IsNotFoundError : Failure → Prop
  | notFound _ | blobNotFound _ => True
  | _ => False

instance : DecidablePred IsNotFoundError := fun f => by
  cases f <;> unfold IsNotFoundError <;> infer_instance

end Failure

end PhotoArchive
