import OfflineChat.Cache.Write

/-! # Edits below the cache's own writes

Changes of single columns that no write of the cache makes, with the number of
rows they change.  They announce nothing, and they can store texts and numbers
that no reader knows.
-/
namespace OfflineChat
namespace Cache

/-- Change the rows of a table that satisfy `p`, and count them. -/
def edit {α : Type} (p : α → Bool) (f : α → α) (rows : List α) : List α × Nat :=
  (rows.map fun r => if p r then f r else r, rows.countP p)

/-- Store a layout number. -/
def editLayout (c : Cache) (layout : Int) : Cache := { c with layout := layout }

/-- Store a text as the models of a chat. -/
def editModels (c : Cache) (chatId text : String) : Cache × Nat :=
  let r := edit (·.id == chatId) (fun row => { row with models := text }) c.chats
  ({ c with chats := r.1 }, r.2)

/-- Store a number as the pinned flag of a chat. -/
def editPinned (c : Cache) (chatId : String) (value : Int) : Cache × Nat :=
  let r := edit (·.id == chatId) (fun row => { row with pinned := value }) c.chats
  ({ c with chats := r.1 }, r.2)

/-- Store a text as the role of every message with an id. -/
def editRole (c : Cache) (id text : String) : Cache × Nat :=
  let r := edit (·.id == id) (fun row => { row with role := text }) c.messages
  ({ c with messages := r.1 }, r.2)

/-- Store a text as the status of every message with an id. -/
def editStatus (c : Cache) (id text : String) : Cache × Nat :=
  let r := edit (·.id == id) (fun row => { row with status := text }) c.messages
  ({ c with messages := r.1 }, r.2)

/-- Store a path for every attachment with an id. -/
def editLocalPath (c : Cache) (id : String) (path : String) : Cache × Nat :=
  let r := edit (·.id == id) (fun row => { row with localPath := some path }) c.attachments
  ({ c with attachments := r.1 }, r.2)

end Cache
end OfflineChat
