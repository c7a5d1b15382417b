import OfflineChat.Config
import OfflineChat.Media
import OfflineChat.Report.Chats
import OfflineChat.Settings
import OfflineChat.Cache.Row

/-! # Reports on files, models, settings and the cache

What is printed of everything but chats, line by line.
-/
namespace OfflineChat
namespace Report

/-- The size of a file on the server; none is negative. -/
def fileSize (about : FileMeta) : String := formatSize about.size.toNat

/-- The row of a file in the table of files. -/
def fileRow (f : ServerFile) : List String :=
  [f.id, cut 40 f.filename, f.about.contentType.getD "-", fileSize f.about, time f.createdAt]

/-- The list of files. -/
def fileList (files : List ServerFile) : List String :=
  if files.isEmpty then ["No files uploaded."]
  else TextTable.lines
    ⟨.framed, ["ID", "Name", "Type", "Size", "Created"] :: files.map fileRow⟩

/-- What is known of a file. -/
def fileDetails (f : ServerFile) : List String :=
  ["ID:  " ++ f.id, "Name:  " ++ f.filename, "Type:  " ++ f.about.contentType.getD "unknown",
    "Size:  " ++ fileSize f.about, "Created:  " ++ time f.createdAt]

/-- A file that was uploaded. -/
def uploaded (f : UploadedFile) : String :=
  "Uploaded " ++ f.filename ++ " as " ++ f.id ++ " (" ++ fileSize f.about ++ ")"

/-- The row of a model in the table of models. -/
def modelRow (m : Model) : List String :=
  [m.id, m.name.getD "-", m.ownedBy.getD "-", cut 50 (m.description.getD "-")]

/-- The list of models. -/
def modelList (models : List Model) : List String :=
  if models.isEmpty then ["No models available."]
  else ["", "Available models:", ""] ++
    TextTable.lines
      ⟨.ruled, ["Model", "Name", "Owner", "Description"] :: models.map modelRow⟩ ++ [""]

/-- A truth value. -/
def truth (b : Bool) : String := if b then "true" else "false"

/-- The settings and the file they are kept in. -/
def settings (config : Config) (s : AppSettings) (path : Path) : List String :=
  TextTable.lines ⟨.ruled, [
    ["Setting", "Value"],
    ["default_model", s.defaultModel.getD (config.chat.defaultModel ++ " (config)")],
    ["max_tokens", toString s.maxTokens],
    ["temperature", Shortest.plain .single s.temperature],
    ["show_timestamps", truth s.showTimestamps],
    ["telemetry", truth s.telemetry]]⟩ ++ ["Stored in " ++ path.text]

/-- How many rows the cache holds. -/
def cacheStats (path : Path) (s : CacheStats) : List String :=
  ["Cache: " ++ path.text,
    "  chats:           " ++ toString s.chats,
    "  messages:        " ++ toString s.messages,
    "  attachments:     " ++ toString s.attachments,
    "  failed messages: " ++ toString s.failedMessages]

end Report
end OfflineChat
