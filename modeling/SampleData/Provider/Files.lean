import SampleData.Provider.Options
import SampleData.Provider.Stocked

/-! # Files

File extensions, with their dot, and media types.
-/
namespace SampleData.Files

def sourceExtensions : Table String :=
  ⟨".c", [".cpp", ".go", ".java", ".js", ".py", ".rb", ".rs", ".swift"]⟩

def textExtensions : Table String :=
  ⟨".doc", [".docx", ".log", ".md", ".rtf", ".txt", ".odt"]⟩

def dataExtensions : Table String :=
  ⟨".csv", [".dat", ".json", ".sql", ".xml", ".yaml"]⟩

def audioExtensions : Table String :=
  ⟨".aac", [".flac", ".m4a", ".mp3", ".ogg", ".wav"]⟩

def videoExtensions : Table String :=
  ⟨".avi", [".flv", ".m4v", ".mkv", ".mov", ".mp4", ".webm"]⟩

def imageExtensions : Table String :=
  ⟨".bmp", [".gif", ".jpeg", ".jpg", ".png", ".svg", ".tiff"]⟩

def executableExtensions : Table String :=
  ⟨".apk", [".app", ".bat", ".exe", ".jar", ".sh"]⟩

def compressedExtensions : Table String :=
  ⟨".7z", [".gz", ".rar", ".tar", ".xz", ".zip"]⟩

def mimeTypes : Table String :=
  ⟨"application/gzip", ["application/json", "application/octet-stream", "application/pdf",
   "application/xml", "application/zip", "audio/mpeg", "audio/ogg", "image/gif", "image/jpeg",
   "image/png", "image/svg+xml", "text/css", "text/csv", "text/html", "text/plain", "video/mp4",
   "video/webm"]⟩

def extensions : FileType → Table String
  | .source => sourceExtensions
  | .text => textExtensions
  | .data => dataExtensions
  | .audio => audioExtensions
  | .video => videoExtensions
  | .image => imageExtensions
  | .executable => executableExtensions
  | .compressed => compressedExtensions

inductive Call where
  | extension (type : FileType)
  | mimeType

def perform {σ : Type} [WordSource σ] : Call → Gen σ Json
  | .extension type => (Gen.draw (Random.choose (extensions type))).text
  | .mimeType => (Gen.draw (Random.choose mimeTypes)).text

def fields : List (String × Call) :=
  [("extension", .extension .text), ("mime_type", .mimeType)]

end SampleData.Files
