import OfflineChat.Proofs.SegmentEncoding
import OfflineChat.Proofs.SentRequests

/-! # Addresses of chats and files

A request about one chat or one file goes to an address that is made of the base,
of fixed segments, and of the id.  The id comes from the user and may be any text.
If it is a name (`Url.IsName`), the address has one segment for it, which reads
back as the id, and no other name leads to the same address; of the requests that
are about no one thing, only the creation and the search of chats have an address
that some name leads to.  If the id is no name, the address is that of something
else: an empty id leads to the collection, dots lead nowhere, and tabs and line
ends are lost on the way.

`ResourceRequest.addresses_iff` says all this for every base on the web;
`ResourceRequest.tab_addresses_collection` shows what becomes of an id that is a
tab.
-/
namespace OfflineChat

/-! ## What is sent -/

/-- A connection after at most one request, which goes to an address. -/
def Connection.SentTo {σ : Type} (link : Link σ) (url : Url) (c c' : Connection σ) : Prop :=
  c' = c ∨ ∃ r : HttpRequest, r.url = url ∧ c' = { c with link := (link r c.link).2 }

theorem Connection.Sends.sentTo {σ : Type} {link : Link σ} {url : Url} {c c' : Connection σ}
    {p : Url → Prop} (h : Sends link p c c') (hp : ∀ u, p u → u = url) : SentTo link url c c' :=
  h.imp id fun ⟨r, hr, _, hlink⟩ => ⟨r, hp _ hr, hlink⟩

/-! ## Requests about one thing, and the others -/

/-- A request about one chat or one file of the server, apart from its id. -/
inductive ResourceRequest where
  | getChat
  | deleteChat
  | toggle (f : ChatFlag)
  | getFile
  | deleteFile
  | downloadFile

namespace ResourceRequest

/-- The segment of the collection that the thing belongs to. -/
def collection : ResourceRequest → String
  | .getChat | .deleteChat | .toggle _ => "chats"
  | .getFile | .deleteFile | .downloadFile => "files"

/-- The segments that follow the id. -/
def action : ResourceRequest → List String
  | .getChat | .deleteChat | .getFile | .deleteFile => []
  | .toggle f => [(Connection.flagNames f).2]
  | .downloadFile => ["content"]

/-- The segments of the request's address below the base. -/
def segments (k : ResourceRequest) (id : String) : List String := k.collection :: id :: k.action

/-- The connection after the request; what is downloaded goes to a path of a disk. -/
def after {σ : Type} (link : Link σ) (now : Int) (d : Disk) (path : Path) (id : String)
    (c : Connection σ) : ResourceRequest → Connection σ
  | .getChat => (Connection.answer link now (.getChat id) c).2
  | .deleteChat => (Connection.answer link now (.deleteChat id) c).2
  | .toggle f => (Connection.answer link now (.toggle f id) c).2
  | .getFile => (Connection.getFile link id c).2
  | .deleteFile => (Connection.deleteFile link id c).2
  | .downloadFile => (Connection.downloadFile link d id path c).2.2

/-- A URL addresses the thing with an id: below the base come the collection, one segment that is
not empty and reads back as the id, and what follows the id. -/
def Addresses (k : ResourceRequest) (base : Url) (id : String) (url : Url) : Prop :=
  ∃ dirs seg, base.path = .rooted (dirs ++ [""]) ∧
    url = { base with path := .rooted (dirs ++ k.collection :: seg :: k.action) } ∧
    seg ≠ "" ∧ (∀ c ∈ ['/', '?', '#'], c ∉ seg.toList) ∧
    Url.percentDecode seg.toList = Text.encode id

theorem after_sends {σ : Type} (link : Link σ) (now : Int) (d : Disk) (path : Path) (id : String)
    (c : Connection σ) (k : ResourceRequest) :
    c.Sends link (fun url => c.client.endpoint (k.segments id) = .ok url)
      (k.after link now d path id c) := by
  cases k with
  | getChat => exact Connection.fetch_sends link c ..
  | deleteChat => exact Connection.fetch_sends link c ..
  | toggle f => exact Connection.fetch_sends link c ..
  | getFile => exact Connection.fetch_sends link c ..
  | deleteFile => exact Connection.ask_sends link c ..
  | downloadFile => exact Connection.downloadFile_sends link c d id path

/-- **A request about one thing is sent to the address of its segments**, if it is sent. -/
theorem after_sentTo {σ : Type} {link : Link σ} {c : Connection σ} {k : ResourceRequest}
    {id : String} {url : Url} (h : c.client.endpoint (k.segments id) = .ok url) (now : Int)
    (d : Disk) (path : Path) : c.SentTo link url (k.after link now d path id c) :=
  (k.after_sends link now d path id c).sentTo fun u hu => by
    rw [h] at hu
    exact (Except.ok.inj hu).symm

end ResourceRequest

/-- A request that is about no one chat or file by its address. -/
inductive GeneralRequest where
  | fetchChats
  | createChat (title : String)
  | sendMessage (chatId content : String)
  | searchChats (text : String)
  | listModels
  | signIn (email password : String)
  | uploadFile (path : Path) (contentType : String)
  | listFiles

namespace GeneralRequest

/-- The segments of the request's address below the base. -/
def segments : GeneralRequest → List String
  | .fetchChats => ["chats", ""]
  | .createChat _ => ["chats", "new"]
  | .sendMessage _ _ => ["chat", "completions"]
  | .searchChats _ => ["chats", "search"]
  | .listModels => ["models"]
  | .signIn _ _ => ["auths", "signin"]
  | .uploadFile _ _ | .listFiles => ["files", ""]

/-- The address with what the request adds to it. -/
def address (url : Url) : GeneralRequest → Url
  | .searchChats text => url.withParameter "text" text
  | _ => url

/-- The connection after the request; what is uploaded comes from a disk. -/
def after {σ : Type} (link : Link σ) (now : Int) (d : Disk) (c : Connection σ) :
    GeneralRequest → Connection σ
  | .fetchChats => (Connection.answer link now .fetchChats c).2
  | .createChat title => (Connection.answer link now (.createChat title) c).2
  | .sendMessage chatId content => (Connection.answer link now (.sendMessage chatId content) c).2
  | .searchChats text => (Connection.answer link now (.searchChats text) c).2
  | .listModels => (Connection.answer link now .listModels c).2
  | .signIn email password => (Connection.signIn link email password c).2
  | .uploadFile path contentType => (Connection.uploadFile link d path contentType c).2
  | .listFiles => (Connection.listFiles link c).2

theorem after_sends {σ : Type} (link : Link σ) (now : Int) (d : Disk) (c : Connection σ)
    (g : GeneralRequest) :
    c.Sends link (fun url => ∃ bare, c.client.endpoint g.segments = .ok bare ∧ url = g.address bare)
      (g.after link now d c) := by
  have hbare {g : GeneralRequest} {c' : Connection σ} (hg : ∀ url, g.address url = url)
      (h : c.Sends link (fun url => c.client.endpoint g.segments = .ok url) c') :
      c.Sends link
        (fun url => ∃ bare, c.client.endpoint g.segments = .ok bare ∧ url = g.address bare) c' :=
    h.mono fun url hurl => ⟨url, hurl, (hg url).symm⟩
  cases g with
  | fetchChats => exact hbare (fun _ => rfl) (Connection.fetch_sends link c ..)
  | createChat title => exact hbare (fun _ => rfl) (Connection.fetch_sends link c ..)
  | sendMessage chatId content =>
    exact hbare (fun _ => rfl) (Connection.complete_sends link c chatId content)
  | searchChats text => exact Connection.search_sends link c text
  | listModels => exact hbare (fun _ => rfl) (Connection.fetch_sends link c ..)
  | signIn email password => exact hbare (fun _ => rfl) (Connection.fetch_sends link c ..)
  | uploadFile path contentType =>
    exact hbare (fun _ => rfl) (Connection.uploadFile_sends link c d path contentType)
  | listFiles => exact hbare (fun _ => rfl) (Connection.fetch_sends link c ..)

/-- **A request about no one thing is sent to the address of its segments**, if it is sent. -/
theorem after_sentTo {σ : Type} {link : Link σ} {c : Connection σ} {g : GeneralRequest}
    {url : Url} (h : c.client.endpoint g.segments = .ok url) (now : Int) (d : Disk) :
    c.SentTo link (g.address url) (g.after link now d c) :=
  (g.after_sends link now d c).sentTo fun u hu => by
    obtain ⟨bare, hbare, rfl⟩ := hu
    rw [h] at hbare
    rw [Except.ok.inj hbare]

end GeneralRequest

/-! ## Below a base on the web -/

namespace Url

/-- A text that names something: it is plain and not empty. -/
def IsName (id : String) : Prop := IsPlain id ∧ id ≠ ""

instance : DecidablePred IsName := fun id => inferInstanceAs (Decidable (IsPlain id ∧ id ≠ ""))

theorem kind_of_scheme {u : Url} (h : u.scheme ∈ ["http", "https"]) : u.kind = .web := by
  simp only [List.mem_cons, List.not_mem_nil, or_false] at h
  rcases h with h | h <;> rw [kind, h] <;> decide

theorem fileOn_scheme (host : UrlHost) (cs : List Char) : (fileOn host cs).scheme = "file" := by
  unfold fileOn
  dsimp only
  split
  · split <;> rfl
  · rfl

theorem readFile_scheme {cs : List Char} {u : Url} (h : readFile cs = .ok u) :
    u.scheme = "file" := by
  unfold readFile at h
  split at h
  · rename_i a b rest
    dsimp only at h
    split at h
    · split at h
      · cases h
        exact fileOn_scheme _ _
      · cases hhost : webHost (cutWhere (endsAuthority .file) rest).1 with
        | error e =>
          rw [hhost] at h
          cases h
        | ok host =>
          rw [hhost] at h
          cases h
          exact fileOn_scheme _ _
    · cases h
      exact fileOn_scheme _ _
  · cases h
    exact fileOn_scheme _ _

theorem readOther_scheme {scheme : String} {cs : List Char} {u : Url}
    (h : readOther scheme cs = .ok u) : u.scheme = scheme := by
  unfold readOther at h
  split at h
  · rename_i rest
    cases hread : readAuthority scheme rest with
    | error e =>
      rw [hread] at h
      cases h
    | ok r =>
      rw [hread] at h
      cases h
      rfl
  · cases h
    rfl
  · cases h
    rfl

/-- What is read as a URL of the web is put together from what stands between the slashes and the
path, and from the rest. -/
theorem eq_assemble_of_ofText {s : String} {u : Url} (h : ofText s = .ok u)
    (hweb : u.kind = .web) : ∃ cs a rest, readAuthority u.scheme cs = .ok (a, rest) ∧
      u = assemble u.scheme (some a) (fun p => .rooted (readPath .web p)) rest := by
  unfold ofText at h
  dsimp only at h
  split at h
  · cases h
  rename_i scheme rest _
  split at h
  · -- a file has a kind of its own
    rw [kind, readFile_scheme h] at hweb
    cases hweb
  · cases hread : readAuthority scheme (rest.dropWhile (separates .web)) with
    | error e =>
      rw [hread] at h
      cases h
    | ok r =>
      rw [hread] at h
      cases h
      exact ⟨_, _, _, hread, rfl⟩
  · rename_i hother
    rw [kind, readOther_scheme h, hother] at hweb
    cases hweb

/-- What is read as a URL of the web has segments below the root. -/
theorem rooted_of_ofText {s : String} {u : Url} (h : ofText s = .ok u) (hweb : u.kind = .web) :
    ∃ path, u.path = .rooted path := by
  obtain ⟨cs, a, rest, -, hu⟩ := eq_assemble_of_ofText h hweb
  rw [hu]
  exact ⟨_, rfl⟩

/-- What stands in front of the segments below a base with these directories: nothing for the
root, nor for an empty directory below it. -/
def frontOf (dirs : List String) : List String := if dirs = [""] then [] else dirs

variable {base : Url} {dirs : List String}

theorem front_eq (dirs : List String) :
    (if opened (dirs ++ [""]) = [""] then [] else opened (dirs ++ [""])) = frontOf dirs := by
  cases dirs with
  | nil => rfl
  | cons d rest =>
    have hopened : opened ((d :: rest) ++ [""]) = d :: rest := by
      rw [opened, if_pos ⟨by simp, List.getLast?_concat⟩]
      exact List.dropLast_concat
    rw [hopened, frontOf]

/-- The address of a text below a name below a base on the web. -/
theorem below?_of_isName (hweb : base.kind = .web) (hpath : base.path = .rooted (dirs ++ [""]))
    {top : String} (htop : IsName top) (rest : List String) :
    base.below? (top :: rest) = some { base with
      path := .rooted (rest.foldl (descend .web) (frontOf dirs ++ [writtenSegment .web top])) } := by
  have hfirst : descend .web (opened (dirs ++ [""])) top =
      frontOf dirs ++ [writtenSegment .web top] := by
    rw [descend_of_isPlain (by decide) htop.1, front_eq]
  rw [below?, hpath]
  dsimp only
  rw [List.foldl_cons, hweb, hfirst]

theorem isInside_front {top : String} (htop : IsName top) (dirs : List String) :
    IsInside (frontOf dirs ++ [writtenSegment .web top]) := by
  refine ⟨by simp, fun h => ?_⟩
  have hlast := congrArg List.getLast? h
  rw [List.getLast?_concat] at hlast
  exact writtenSegment_ne_empty htop.1 htop.2 (Option.some.inj hlast)

/-- **Plain texts below a base on the web become one segment each.** -/
theorem below?_of_isPlain (hweb : base.kind = .web) (hpath : base.path = .rooted (dirs ++ [""]))
    {top : String} {rest : List String} (htop : IsName top) (hrest : ∀ s ∈ rest, IsPlain s) :
    base.below? (top :: rest) = some { base with
      path := .rooted (frontOf dirs ++ (top :: rest).map (writtenSegment .web)) } := by
  rw [below?_of_isName hweb hpath htop,
    foldl_descend_of_isPlain (by decide) (isInside_front htop dirs) hrest, List.append_assoc]
  rfl

/-- A text that is read back from its segment has no line breaks. -/
theorem isPlain_of_percentDecode {k : SchemeKind} {s : String} (hdots : s ∉ [".", ".."])
    (h : percentDecode (writtenSegment k s).toList = Text.encode s) : IsPlain s := by
  have hsame : Text.encode (String.ofList (withoutBreaks s.toList)) = Text.encode s := by
    rw [← h, percentDecode_writtenSegment, Text.encode, String.toList_ofList]
  have hlist := congrArg String.toList (Text.encode_injective hsame)
  rw [String.toList_ofList] at hlist
  exact ⟨hdots, withoutBreaks_eq_self_iff.mp hlist⟩

end Url

namespace HttpClient

/-- The base of a client of the web has segments that end in an empty one. -/
theorem path_of_readBase {raw : String} {base : Url} (hbase : readBase raw = .ok base)
    (hweb : base.kind = .web) : ∃ dirs, base.path = .rooted (dirs ++ [""]) := by
  unfold readBase at hbase
  split at hbase
  · rename_i u hread
    cases hbase
    obtain ⟨path, hpath⟩ := Url.rooted_of_ofText hread hweb
    change ∃ dirs, u.path.closed = .rooted (dirs ++ [""])
    rw [hpath, UrlPath.closed]
    split
    · rename_i hlast
      obtain ⟨dirs, rfl⟩ := List.getLast?_eq_some_iff.mp hlast
      exact ⟨dirs, rfl⟩
    · exact ⟨path, rfl⟩
  · cases hbase

variable {client : HttpClient} {dirs : List String} {top : String} {rest : List String}

theorem endpoint_of_isName (hweb : client.baseUrl.kind = .web)
    (hpath : client.baseUrl.path = .rooted (dirs ++ [""])) (htop : Url.IsName top)
    (rest : List String) :
    client.endpoint (top :: rest) = .ok { client.baseUrl with
      path := .rooted (rest.foldl (Url.descend .web)
        (Url.frontOf dirs ++ [Url.writtenSegment .web top])) } := by
  rw [endpoint, Url.below?_of_isName hweb hpath htop]

theorem endpoint_of_isPlain (hweb : client.baseUrl.kind = .web)
    (hpath : client.baseUrl.path = .rooted (dirs ++ [""])) (htop : Url.IsName top)
    (hrest : ∀ s ∈ rest, Url.IsPlain s) :
    client.endpoint (top :: rest) = .ok { client.baseUrl with
      path := .rooted (Url.frontOf dirs ++ (top :: rest).map (Url.writtenSegment .web)) } := by
  rw [endpoint, Url.below?_of_isPlain hweb hpath htop hrest]

end HttpClient

namespace ResourceRequest

variable {client : HttpClient} {dirs : List String} {id : String}

theorem collection_eq (k : ResourceRequest) : k.collection = "chats" ∨ k.collection = "files" := by
  cases k with
  | getChat | deleteChat | toggle => exact .inl rfl
  | getFile | deleteFile | downloadFile => exact .inr rfl

theorem isName_collection (k : ResourceRequest) : Url.IsName k.collection := by
  rcases k.collection_eq with h | h <;> rw [h] <;> decide

theorem isPlain_action (k : ResourceRequest) : ∀ s ∈ k.action, Url.IsPlain s := by
  cases k with
  | toggle f => cases f <;> decide
  | _ => decide

/-- The fixed segments are written as they are. -/
theorem writtenSegment_collection (k : ResourceRequest) :
    Url.writtenSegment .web k.collection = k.collection := by
  rcases k.collection_eq with h | h <;> rw [h] <;> rfl

theorem map_writtenSegment_action (k : ResourceRequest) :
    k.action.map (Url.writtenSegment .web) = k.action := by
  cases k with
  | toggle f => cases f <;> rfl
  | _ => rfl

/-- The address of a thing with a name. -/
theorem endpoint_eq (hweb : client.baseUrl.kind = .web)
    (hpath : client.baseUrl.path = .rooted (dirs ++ [""])) (k : ResourceRequest)
    (hid : Url.IsName id) :
    client.endpoint (k.segments id) = .ok { client.baseUrl with
      path := .rooted (Url.frontOf dirs ++
        k.collection :: Url.writtenSegment .web id :: k.action) } := by
  have hrest : ∀ s ∈ id :: k.action, Url.IsPlain s := by
    intro s hs
    rcases List.mem_cons.mp hs with rfl | hs
    · exact hid.1
    · exact k.isPlain_action s hs
  rw [segments, HttpClient.endpoint_of_isPlain hweb hpath k.isName_collection hrest,
    List.map_cons, List.map_cons, writtenSegment_collection, map_writtenSegment_action]

theorem length_frontOf_le (dirs : List String) : (Url.frontOf dirs).length ≤ dirs.length := by
  unfold Url.frontOf
  split
  · exact Nat.zero_le _
  · exact Nat.le_refl _

/-- **A thing is addressed by its name, and by nothing else.** -/
theorem addresses_iff_isName (hweb : client.baseUrl.kind = .web)
    (hpath : client.baseUrl.path = .rooted (dirs ++ [""])) (k : ResourceRequest) {url : Url}
    (hurl : client.endpoint (k.segments id) = .ok url) :
    k.Addresses client.baseUrl id url ↔ Url.IsName id ∧ dirs ≠ [""] := by
  constructor
  · rintro ⟨dirs', seg, hdirs, rfl, hne, -, hread⟩
    rw [hpath, UrlPath.rooted.injEq, List.append_cancel_right_eq] at hdirs
    subst hdirs
    rw [segments, HttpClient.endpoint_of_isName hweb hpath k.isName_collection,
      writtenSegment_collection] at hurl
    have hsegments := UrlPath.rooted.inj (congrArg Url.path (Except.ok.inj hurl))
    rw [List.append_cons dirs] at hsegments
    have hinside := Url.isInside_front k.isName_collection dirs
    rw [writtenSegment_collection] at hinside
    -- the address has as many segments as there are texts, so none of them was lost on the way
    have hlength : (Url.frontOf dirs ++ [k.collection]).length ≤
        (dirs ++ [k.collection]).length := by
      have hfront := length_frontOf_le dirs
      rw [List.length_append, List.length_append]
      omega
    obtain ⟨hfront, rfl, hdots⟩ := Url.foldl_descend_eq_append (by decide) hinside
      k.isPlain_action hlength rfl hne hsegments
    refine ⟨⟨Url.isPlain_of_percentDecode hdots hread, ?_⟩, ?_⟩
    · rintro rfl
      exact hne rfl
    · rintro rfl
      exact absurd (congrArg List.length hfront) (by simp [Url.frontOf])
  · rintro ⟨hid, hdirs⟩
    rw [endpoint_eq hweb hpath k hid, Url.frontOf, if_neg hdirs] at hurl
    cases hurl
    exact ⟨dirs, Url.writtenSegment .web id, hpath, rfl, Url.writtenSegment_ne_empty hid.1 hid.2,
      fun c hc => Url.not_mem_writtenSegment hc .web id,
      Url.percentDecode_writtenSegment_of_isPlain .web hid.1⟩

/-- **Names that lead to one address are the same**, and so is what they name. -/
theorem eq_of_endpoint_eq (hweb : client.baseUrl.kind = .web)
    (hpath : client.baseUrl.path = .rooted (dirs ++ [""])) {k k' : ResourceRequest} {id' : String}
    (hid : Url.IsName id) (hid' : Url.IsName id')
    (h : client.endpoint (k'.segments id') = client.endpoint (k.segments id)) :
    id' = id ∧ k'.collection = k.collection ∧ k'.action = k.action := by
  rw [endpoint_eq hweb hpath k' hid', endpoint_eq hweb hpath k hid] at h
  have hsegments := UrlPath.rooted.inj (congrArg Url.path (Except.ok.inj h))
  have hbelow := List.append_cancel_left hsegments
  obtain ⟨hcollection, hrest⟩ := List.cons_eq_cons.mp hbelow
  obtain ⟨hwritten, haction⟩ := List.cons_eq_cons.mp hrest
  exact ⟨Url.writtenSegment_injective hid'.1 hid.1 hwritten, hcollection, haction⟩

end ResourceRequest

namespace GeneralRequest

variable {client : HttpClient} {dirs : List String}

/-- The address of a request that is about no one thing. -/
theorem endpoint_eq (hweb : client.baseUrl.kind = .web)
    (hpath : client.baseUrl.path = .rooted (dirs ++ [""])) (g : GeneralRequest) :
    client.endpoint g.segments = .ok { client.baseUrl with
      path := .rooted (Url.frontOf dirs ++ g.segments) } := by
  have hfixed : ∃ top rest, g.segments = top :: rest ∧ Url.IsName top ∧
      (∀ s ∈ rest, Url.IsPlain s) ∧
      (top :: rest).map (Url.writtenSegment .web) = top :: rest := by
    cases g <;> exact ⟨_, _, rfl, by decide, by decide, rfl⟩
  obtain ⟨top, rest, hsegments, htop, hrest, hwritten⟩ := hfixed
  rw [hsegments, HttpClient.endpoint_of_isPlain hweb hpath htop hrest, hwritten]

/-- **Only the creation and the search of chats have the address of a thing with a name.** -/
theorem segments_of_endpoint_eq (hweb : client.baseUrl.kind = .web)
    (hpath : client.baseUrl.path = .rooted (dirs ++ [""])) {g : GeneralRequest}
    {k : ResourceRequest} {id : String} (hid : Url.IsName id)
    (h : client.endpoint g.segments = client.endpoint (k.segments id)) :
    g.segments = ["chats", id] ∧ (id = "new" ∨ id = "search") := by
  rw [endpoint_eq hweb hpath g, ResourceRequest.endpoint_eq hweb hpath k hid] at h
  have hsegments := UrlPath.rooted.inj (congrArg Url.path (Except.ok.inj h))
  have hbelow := List.append_cancel_left hsegments
  have hne := Url.writtenSegment_ne_empty (k := .web) hid.1 hid.2
  have hnamed {t : String} (ht : Url.IsPlain t) (hwritten : Url.writtenSegment .web t = t)
      (hsegment : t = Url.writtenSegment .web id) : id = t :=
    (Url.writtenSegment_injective ht hid.1 (hwritten.trans hsegment)).symm
  cases g with
  | fetchChats | uploadFile | listFiles =>
    obtain ⟨-, hrest⟩ := List.cons_eq_cons.mp hbelow
    exact absurd (List.cons_eq_cons.mp hrest).1.symm hne
  | createChat title =>
    obtain ⟨-, hrest⟩ := List.cons_eq_cons.mp hbelow
    obtain rfl := hnamed (by decide) rfl (List.cons_eq_cons.mp hrest).1
    exact ⟨rfl, .inl rfl⟩
  | searchChats text =>
    obtain ⟨-, hrest⟩ := List.cons_eq_cons.mp hbelow
    obtain rfl := hnamed (by decide) rfl (List.cons_eq_cons.mp hrest).1
    exact ⟨rfl, .inr rfl⟩
  | listModels => cases (List.cons_eq_cons.mp hbelow).2
  | sendMessage | signIn =>
    have hcollection := (List.cons_eq_cons.mp hbelow).1
    rcases k.collection_eq with h | h <;> rw [h] at hcollection <;>
      exact absurd hcollection (by decide)

end GeneralRequest

/-! ## The main result -/

namespace ResourceRequest

/-- **A request about one thing is sent to that thing's address exactly if its id is a name.**
Below every base on the web the address exists, and it is the only one the request is sent to.  It
addresses the thing with the id if and only if the id is a name, and the base is not an empty
directory below the root.  No other name has the address, no other kind of thing and no other
action, and the collections have it for no name. -/
theorem addresses_iff {raw : String} {client : HttpClient}
    (hbase : HttpClient.readBase raw = .ok client.baseUrl)
    (hscheme : client.baseUrl.scheme ∈ ["http", "https"]) (k : ResourceRequest) (id : String) :
    ∃ url, client.endpoint (k.segments id) = .ok url ∧
      (∀ {σ : Type} (link : Link σ) (c : Connection σ) (now : Int) (d : Disk) (path : Path),
        c.client = client → c.SentTo link url (k.after link now d path id c)) ∧
      (k.Addresses client.baseUrl id url ↔
        Url.IsName id ∧ client.baseUrl.path ≠ .rooted ["", ""]) ∧
      (Url.IsName id →
        (∀ (k' : ResourceRequest) (id' : String), Url.IsName id' →
          client.endpoint (k'.segments id') = .ok url →
          id' = id ∧ k'.collection = k.collection ∧ k'.action = k.action) ∧
        ∀ g : GeneralRequest, client.endpoint g.segments = .ok url →
          g.segments = ["chats", id] ∧ (id = "new" ∨ id = "search")) := by
  have hweb := Url.kind_of_scheme hscheme
  obtain ⟨dirs, hpath⟩ := HttpClient.path_of_readBase hbase hweb
  have hurl := HttpClient.endpoint_of_isName hweb hpath k.isName_collection (id :: k.action)
  refine ⟨_, hurl, ?_, ?_, ?_⟩
  · rintro σ link c now d path rfl
    exact after_sentTo hurl now d path
  · rw [addresses_iff_isName hweb hpath k hurl, hpath]
    have hroot : dirs = [""] ↔ UrlPath.rooted (dirs ++ [""]) = .rooted ["", ""] := by
      rw [UrlPath.rooted.injEq]
      exact (List.append_cancel_right_eq dirs [""] [""]).symm.to_iff
    rw [Ne, hroot]
  · intro hid
    refine ⟨fun k' id' hid' h => ?_, fun g h => ?_⟩
    · exact eq_of_endpoint_eq hweb hpath hid hid' (h.trans hurl.symm)
    · exact GeneralRequest.segments_of_endpoint_eq hweb hpath hid (h.trans hurl.symm)

/-- A client of a server on this machine. -/
def localClient : HttpClient where
  baseUrl := ⟨"http", "", "", some (.groups [0, 0, 0, 0, 0, 0, 0, 1]), none,
    .rooted ["api", "v1", ""], none, none⟩
  userAgent := "agent"
  token := none
  completion := .initial

theorem readBase_local :
    HttpClient.readBase "http://[::1]/api/v1" = .ok localClient.baseUrl := by
  rfl

/-- The chat with the id `a/b` has an address of its own. -/
theorem addresses_iff_slash :
    HttpClient.readBase "http://[::1]/api/v1" = .ok localClient.baseUrl ∧
      localClient.baseUrl.scheme ∈ ["http", "https"] ∧
      ∃ url, localClient.endpoint (deleteChat.segments "a/b") = .ok url ∧
        url.text = "http://[::1]/api/v1/chats/a%2Fb" ∧
        deleteChat.Addresses localClient.baseUrl "a/b" url ∧
        ∀ id', Url.IsName id' → localClient.endpoint (deleteChat.segments id') = .ok url →
          id' = "a/b" := by
  have hscheme : localClient.baseUrl.scheme ∈ ["http", "https"] := List.mem_cons_self ..
  obtain ⟨url, hurl, -, hiff, hname⟩ := addresses_iff readBase_local hscheme deleteChat "a/b"
  refine ⟨readBase_local, hscheme, url, hurl, ?_, hiff.mpr (by decide), fun id' hid' h => ?_⟩
  · cases hurl
    decide
  · exact ((hname (by decide)).1 deleteChat id' hid' h).1

/-- An id that is a tab leads a deletion to the collection, and a tab in an id is lost. -/
theorem tab_addresses_collection :
    HttpClient.readBase "http://[::1]/api/v1" = .ok localClient.baseUrl ∧
      (∃ url, localClient.endpoint (deleteChat.segments "\t") = .ok url ∧
        localClient.endpoint GeneralRequest.fetchChats.segments = .ok url ∧
        url.text = "http://[::1]/api/v1/chats/" ∧
        ¬ deleteChat.Addresses localClient.baseUrl "\t" url) ∧
      localClient.endpoint (deleteChat.segments "a\tb") =
        localClient.endpoint (deleteChat.segments "ab") := by
  refine ⟨readBase_local, ⟨_, rfl, rfl, by decide, fun haddressed => ?_⟩, rfl⟩
  have hpath : localClient.baseUrl.path = .rooted (["api", "v1"] ++ [""]) := rfl
  have hname := (addresses_iff_isName (by decide) hpath deleteChat rfl).mp haddressed
  exact absurd hname.1 (by decide)

end ResourceRequest

end OfflineChat
