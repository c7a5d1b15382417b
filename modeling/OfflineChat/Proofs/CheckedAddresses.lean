import OfflineChat.Proofs.CodecSurvival
import OfflineChat.Proofs.ResourceAddresses

/-! # A checked configuration has its addresses

The address of a server is read in three places: when the configuration is checked,
when a client is made, and when the address of the socket is derived.  If the check
accepts it, the other two cannot fail.  What it reads is a URL of the web
(`Config.ofText_of_check`), so there is a host, and the port is not the usual one
(`Url.host_ne_of_ofText`, `Url.port_unusual_of_ofText`); both are kept on the way to the
socket.

Every address of a client has the base for its front.  The texts that lead down are
written so that they are segments, with one exception: a text that becomes two dots when
its line breaks are dropped leads up (`Url.Climbs`).  Below a first segment there is
nothing that leads above it (`Url.IsBelow.descend`), and all requests have one.  The main
statement is `Config.addresses_of_check`.
-/
namespace OfflineChat

namespace Url

variable {scheme : String} {cs rest : List Char} {a : Authority} {u : Url}

/-! ## Hosts and ports of the web -/

theorem webHost_ne_empty {h : UrlHost} (hread : webHost cs = .ok h) : h ≠ .name "" := by
  rintro rfl
  unfold webHost at hread
  split at hread
  · unfold bracketed at hread
    split at hread
    · split at hread <;> cases hread
    · cases hread
  · split at hread
    · cases hread
    · split at hread
      · cases hread
      · split at hread
        · split at hread <;> cases hread
        · rename_i hname _
          cases hread
          exact hname rfl

theorem readPort_unusual {port : Option Nat} (hread : readPort scheme cs = .ok (port, rest)) :
    ∀ p ∈ port, usualPort? scheme ≠ some p := by
  have hkept (ds : List Char) (n : Nat) :
      ∀ p ∈ (if ds.isEmpty ∨ usualPort? scheme = some n then none else some n),
        usualPort? scheme ≠ some p := by
    intro p hp
    split at hp
    · cases hp
    · rename_i hother
      cases hp
      exact fun heq => hother (.inr heq)
  unfold readPort at hread
  dsimp only at hread
  split at hread
  · cases hread
  split at hread
  · cases hread
    exact hkept _ _
  · split at hread
    · cases hread
      exact hkept _ _
    · cases hread

/-- What stands before the path of a URL of the web: a host with a name, and no port if it is the
usual one. -/
theorem readAuthority_spec (hweb : SchemeKind.ofName scheme = .web)
    (hread : readAuthority scheme cs = .ok (a, rest)) :
    a.host ≠ .name "" ∧ ∀ p ∈ a.port, usualPort? scheme ≠ some p := by
  unfold readAuthority at hread
  dsimp only at hread
  split at hread
  · cases hread
  split at hread
  · cases hread
  obtain ⟨host, hhost, hread⟩ := Codec.bind_eq_ok.mp hread
  have hne := webHost_ne_empty hhost
  split at hread
  · cases hread
  split at hread
  · obtain ⟨⟨port, left⟩, hport, hread⟩ := Codec.bind_eq_ok.mp hread
    dsimp only at hread
    split at hread
    · cases hread
    · cases hread
      exact ⟨hne, readPort_unusual hport⟩
  · obtain ⟨⟨port, left⟩, hport, hread⟩ := Codec.bind_eq_ok.mp hread
    dsimp only at hread
    split at hread
    · cases hread
    · cases hread
      cases hport
      exact ⟨hne, nofun⟩

/-- **A URL of the web names a host.** -/
theorem host_ne_of_ofText {s : String} (h : ofText s = .ok u) (hweb : u.kind = .web) :
    u.host ≠ none ∧ u.host ≠ some (.name "") := by
  obtain ⟨cs, a, rest, hread, hu⟩ := eq_assemble_of_ofText h hweb
  have hhost : u.host = some a.host := by rw [hu]; rfl
  rw [hhost]
  refine ⟨nofun, fun heq => (readAuthority_spec hweb hread).1 (Option.some.inj heq)⟩

/-- **A port that is given is not the usual one.** -/
theorem port_unusual_of_ofText {s : String} (h : ofText s = .ok u) (hweb : u.kind = .web) :
    ∀ p ∈ u.port, usualPort? u.scheme ≠ some p := by
  obtain ⟨cs, a, rest, hread, hu⟩ := eq_assemble_of_ofText h hweb
  have hport : u.port = a.port := by rw [hu]; rfl
  rw [hport]
  exact (readAuthority_spec hweb hread).2

/-! ## Below a base -/

variable {dirs path : List String} {s : String}

/-- The first of the texts that is not dots becomes dots when its line breaks are dropped: it leads
up. -/
def Climbs (segments : List String) : Prop :=
  ∃ s ∈ segments.find? (· ∉ [".", ".."]), withoutBreaks s.toList = ['.', '.']

instance (segments : List String) : Decidable (Climbs segments) :=
  match h : segments.find? (· ∉ [".", ".."]) with
  | none => isFalse fun ⟨_, hs, _⟩ => nomatch h.symm.trans hs
  | some s => decidable_of_iff (withoutBreaks s.toList = ['.', '.'])
      ⟨fun hs => ⟨s, h, hs⟩, fun ⟨_, ht, hs⟩ => Option.some.inj (h.symm.trans ht) ▸ hs⟩

theorem not_climbs_of_isPlain (h : IsPlain s) (rest : List String) : ¬ Climbs (s :: rest) := by
  rintro ⟨t, ht, hdots⟩
  rw [List.find?_cons_of_pos (by simpa using h.1)] at ht
  cases ht
  rw [withoutBreaks_eq_self_iff.mpr h.2] at hdots
  refine h.1 ?_
  rw [← String.ofList_toList (s := s), hdots]
  decide

/-- A text is taken for the directory above only if it is two dots without its line breaks. -/
theorem isAbove_writtenSegment_eq_false {k : SchemeKind}
    (h : withoutBreaks s.toList ≠ ['.', '.']) : isAbove (writtenSegment k s) = false := by
  refine Bool.eq_false_iff.mpr fun habove => h ?_
  have hread := percentDecode_of_isAbove habove
  rw [percentDecode_writtenSegment] at hread
  have hdots : String.ofList (withoutBreaks s.toList) = ".." :=
    Text.encode_injective (by rw [← hread, Text.encode, String.toList_ofList])
  rw [← String.toList_ofList (l := withoutBreaks s.toList), hdots]
  decide

/-- A path that has more than the directories of a base. -/
def IsBelow (dirs path : List String) : Prop := ∃ more, more ≠ [] ∧ path = frontOf dirs ++ more

/-- A segment that is added below a base stays there; the directory above may be meant only where
there is something to go up from. -/
theorem isBelow_addSegment {more : List String}
    (h : isAbove s = true → more = [] → frontOf dirs = []) :
    IsBelow dirs (addSegment .web (frontOf dirs ++ more) true s) := by
  obtain ⟨habove, hstep⟩ | hstep | hstep :=
    addSegment_cases (k := .web) (by decide) (frontOf dirs ++ more) s
  · rw [hstep]
    cases more with
    | nil => exact ⟨[""], by simp, by rw [h habove rfl]; rfl⟩
    | cons m ms =>
      rw [List.dropLast_append_of_ne_nil (List.cons_ne_nil m ms), List.append_assoc]
      exact ⟨(m :: ms).dropLast ++ [""], by simp, rfl⟩
  · rw [hstep, List.append_assoc]
    exact ⟨more ++ [""], by simp, rfl⟩
  · rw [hstep, List.append_assoc]
    exact ⟨more ++ [s], by simp, rfl⟩

/-- **What is below a base stays there**, whatever text is added. -/
theorem IsBelow.descend (h : IsBelow dirs path) (s : String) :
    IsBelow dirs (descend .web path s) := by
  obtain ⟨more, hne, rfl⟩ := h
  unfold Url.descend
  split
  · exact ⟨more, hne, rfl⟩
  rw [if_neg (by decide)]
  split
  · rename_i hroot
    -- the root has no directories in front of it
    have hfront : frontOf dirs = [] := by
      cases hdirs : frontOf dirs with
      | nil => rfl
      | cons d ds =>
        rw [hdirs, List.cons_append, List.cons_eq_cons] at hroot
        exact absurd (List.append_eq_nil_iff.mp hroot.2).2 hne
    have hadded : IsBelow dirs
        (addSegment .web (frontOf dirs ++ []) true (writtenSegment .web s)) :=
      isBelow_addSegment fun _ _ => hfront
    rwa [List.append_nil, hfront] at hadded
  · exact isBelow_addSegment fun _ hnil => absurd hnil hne

/-- The first text that is not dots leads below a base, if it does not lead up. -/
theorem isBelow_first (hdots : s ∉ [".", ".."]) (h : withoutBreaks s.toList ≠ ['.', '.']) :
    IsBelow dirs (descend .web (opened (dirs ++ [""])) s) := by
  rw [descend, if_neg (by simpa using hdots), if_neg (by decide), front_eq]
  have habove := isAbove_writtenSegment_eq_false (k := .web) h
  have hadded : IsBelow dirs (addSegment .web (frontOf dirs ++ []) true (writtenSegment .web s)) :=
    isBelow_addSegment fun hs => absurd hs (by rw [habove]; decide)
  rwa [List.append_nil] at hadded

theorem IsBelow.foldl_descend (h : IsBelow dirs path) (segments : List String) :
    IsBelow dirs (segments.foldl (Url.descend .web) path) := by
  induction segments generalizing path with
  | nil => exact h
  | cons s rest ih => exact ih (h.descend s)

/-- What is below a base has its text for a front. -/
theorem IsBelow.text (h : IsBelow dirs path) :
    ∃ below, (UrlPath.rooted path).text = (UrlPath.rooted dirs).text ++ below := by
  obtain ⟨more, hne, rfl⟩ := h
  by_cases hroot : dirs = [""]
  · subst hroot
    cases more with
    | nil => exact absurd rfl hne
    | cons s rest =>
      refine ⟨s ++ String.join (rest.map ("/" ++ ·)), ?_⟩
      have hfront : frontOf [""] ++ s :: rest = s :: rest := rfl
      rw [hfront, UrlPath.text, List.map_cons, String.join_cons, String.append_assoc]
      rfl
  · refine ⟨(UrlPath.rooted more).text, ?_⟩
    simp only [frontOf, if_neg hroot, UrlPath.text, List.map_append, String.join_append]

/-- **Every place below a base has the text of the base for a front**, unless the texts that lead to
it lead up first. -/
theorem text_foldl_descend (dirs : List String) {segments : List String}
    (h : ¬ Climbs segments) :
    ∃ below, (UrlPath.rooted (segments.foldl (descend .web) (opened (dirs ++ [""])))).text =
      (UrlPath.rooted dirs).text ++ below := by
  induction segments with
  | nil =>
    cases dirs with
    | nil => exact ⟨_, (String.empty_append).symm⟩
    | cons d ds =>
      have hopened : opened ((d :: ds) ++ [""]) = d :: ds := by
        rw [opened, if_pos ⟨by simp, List.getLast?_concat⟩]
        exact List.dropLast_concat
      rw [List.foldl_nil, hopened]
      exact ⟨"", (String.append_empty).symm⟩
  | cons s rest ih =>
    rw [List.foldl_cons]
    by_cases hdots : s ∈ [".", ".."]
    · have hstay : descend .web (opened (dirs ++ [""])) s = opened (dirs ++ [""]) := by
        rw [descend, if_pos (by simpa using hdots)]
      rw [hstay]
      refine ih ?_
      rintro ⟨t, ht, hbreaks⟩
      refine h ⟨t, ?_, hbreaks⟩
      rwa [List.find?_cons_of_neg (by simpa [or_iff_not_imp_left] using hdots)]
    · refine ((isBelow_first hdots fun hbreaks => h ⟨s, ?_, hbreaks⟩).foldl_descend rest).text
      rw [List.find?_cons_of_pos (by simpa using hdots)]
      rfl

/-- The base is the front of a URL: the URL differs from it in the path only, and the path has that
of the base, without its last slash, for a front. -/
def IsFrontOf (base url : Url) : Prop :=
  url = { base with path := url.path } ∧
    ∃ front below, base.path.text = front ++ "/" ∧ url.path.text = front ++ below

theorem text_closed (dirs : List String) :
    (UrlPath.rooted (dirs ++ [""])).text = (UrlPath.rooted dirs).text ++ "/" := by
  rw [UrlPath.text, List.map_append, String.join_append]
  rfl

/-! ## The socket -/

/-- The URL of the socket that goes with a base: on the same host and port, in the scheme that is
as secure as that of the base. -/
structure IsSocketOf (base u : Url) : Prop where
  scheme : u.scheme = if base.scheme = "https" then "wss" else "ws"
  host : u.host = base.host
  port : u.port = base.port
  usualPort : usualPort? u.scheme = usualPort? base.scheme
  path : u.path.text = "/ws/socket.io/"
  query : u.query = some "EIO=4&transport=websocket"

theorem text_socketPath :
    (UrlPath.rooted ["ws", "socket.io", ""]).text = "/ws/socket.io/" := by decide

theorem usualPort?_socketScheme (h : scheme ∈ ["http", "https"]) :
    usualPort? (ServerConfig.socketScheme scheme) = usualPort? scheme := by
  simp only [List.mem_cons, List.not_mem_nil, or_false] at h
  rcases h with rfl | rfl <;> decide

/-- **A URL of the web can be moved to the scheme of its socket**, and keeps its host and port. -/
theorem withWebScheme?_of_ofText (h : ofText s = .ok u) (hscheme : u.scheme ∈ ["http", "https"]) :
    u.withWebScheme? (ServerConfig.socketScheme u.scheme) =
      some { u with scheme := ServerConfig.socketScheme u.scheme } := by
  have hweb := kind_of_scheme hscheme
  obtain ⟨hnone, hempty⟩ := host_ne_of_ofText h hweb
  have hrefuse : ¬ (u.kind = .other ∨ u.host = none ∨ u.host = some (.name "")) := by
    rw [hweb]
    rintro (h | h | h)
    · cases h
    · exact hnone h
    · exact hempty h
  have hport : u.port.filter (fun p => usualPort? (ServerConfig.socketScheme u.scheme) ≠ some p) =
      u.port := by
    cases hp : u.port with
    | none => rfl
    | some p =>
      have hunusual := port_unusual_of_ofText h hweb p hp
      rw [Option.filter_some, usualPort?_socketScheme hscheme, if_pos (decide_eq_true hunusual)]
  rw [withWebScheme?, if_neg hrefuse, hport]

end Url

namespace HttpClient

variable {client : HttpClient} {dirs segments : List String}

theorem endpoint_eq_foldl (hweb : client.baseUrl.kind = .web)
    (hpath : client.baseUrl.path = .rooted (dirs ++ [""])) (segments : List String) :
    client.endpoint segments = .ok { client.baseUrl with
      path := .rooted (segments.foldl (Url.descend .web) (Url.opened (dirs ++ [""]))) } := by
  rw [endpoint, Url.below?, hpath]
  dsimp only
  rw [hweb]

/-- **Below a base on the web every address exists**, and has the base for its front, unless its
texts lead up. -/
theorem exists_endpoint (hweb : client.baseUrl.kind = .web)
    (hpath : client.baseUrl.path = .rooted (dirs ++ [""])) (segments : List String) :
    ∃ url, client.endpoint segments = .ok url ∧ url = { client.baseUrl with path := url.path } ∧
      (¬ Url.Climbs segments → client.baseUrl.IsFrontOf url) := by
  refine ⟨_, endpoint_eq_foldl hweb hpath segments, rfl, fun h => ⟨rfl, ?_⟩⟩
  obtain ⟨below, hbelow⟩ := Url.text_foldl_descend dirs h
  exact ⟨_, below, by rw [hpath, Url.text_closed], hbelow⟩

end HttpClient

theorem ResourceRequest.not_climbs (k : ResourceRequest) (id : String) :
    ¬ Url.Climbs (k.segments id) :=
  Url.not_climbs_of_isPlain k.isName_collection.1 _

theorem GeneralRequest.not_climbs (g : GeneralRequest) : ¬ Url.Climbs g.segments := by
  cases g <;> exact Url.not_climbs_of_isPlain (by decide) _

/-- **The address of the socket can be derived** from a URL of the web. -/
theorem ServerConfig.socketAddress_of_ofText {server : ServerConfig} {u : Url}
    (hnone : server.socketUrl = none) (h : Url.ofText server.baseUrl = .ok u)
    (hscheme : u.scheme ∈ ["http", "https"]) :
    server.socketAddress = .ok { u with
      scheme := socketScheme u.scheme
      path := .rooted ["ws", "socket.io", ""]
      query := some "EIO=4&transport=websocket" : Url }.text := by
  rw [socketAddress, hnone]
  dsimp only
  rw [h]
  dsimp only
  rw [Url.withWebScheme?_of_ofText h hscheme]

namespace Config

variable {config : Config}

/-- A configuration that is accepted has a URL of the web for its server. -/
theorem ofText_of_check (h : config.check = .ok ()) :
    ∃ u, Url.ofText config.server.baseUrl = .ok u ∧ u.scheme ∈ ["http", "https"] := by
  obtain ⟨⟨⟩, hbase, -⟩ := Codec.bind_eq_ok.mp h
  unfold checkBase at hbase
  split at hbase
  · cases hbase
  · rename_i u hread
    split at hbase
    · exact ⟨u, hread, ‹_›⟩
    · cases hbase

/-- **A configuration that is accepted does not fail later on its addresses.**  The base of the
client can be made, and its path ends in a slash.  Every address below it exists, whatever the
texts that lead there, and differs from the base in its path only; that has the path of the base
for a front, unless the first text leads up, and this is so for no request about a chat or a file,
whatever its id, and for no other request.  The address of the socket is the configured one, or it
can be derived and has the host and port of the base. -/
theorem addresses_of_check (h : config.check = .ok ()) :
    ∃ base, HttpClient.readBase config.server.baseUrl = .ok base ∧
      base.scheme ∈ ["http", "https"] ∧ (∃ front, base.path.text = front ++ "/") ∧
      (∀ client : HttpClient, client.baseUrl = base →
        (∀ segments, ∃ url, client.endpoint segments = .ok url ∧
          url = { base with path := url.path } ∧
          (¬ Url.Climbs segments → base.IsFrontOf url)) ∧
        (∀ (k : ResourceRequest) (id : String), ∃ url,
          client.endpoint (k.segments id) = .ok url ∧ base.IsFrontOf url) ∧
        ∀ g : GeneralRequest, ∃ url,
          client.endpoint g.segments = .ok url ∧ base.IsFrontOf url) ∧
      (∀ configured, config.server.socketUrl = some configured →
        config.server.socketAddress = .ok configured) ∧
      (config.server.socketUrl = none → ∃ u : Url,
        config.server.socketAddress = .ok u.text ∧ base.IsSocketOf u) := by
  obtain ⟨u, hread, hscheme⟩ := ofText_of_check h
  have hbase : HttpClient.readBase config.server.baseUrl = .ok u.closed := by
    rw [HttpClient.readBase, hread]
  have hweb : u.closed.kind = .web := Url.kind_of_scheme hscheme
  obtain ⟨dirs, hpath⟩ := HttpClient.path_of_readBase hbase hweb
  refine ⟨u.closed, hbase, hscheme, ⟨_, by rw [hpath, Url.text_closed]⟩, ?_, ?_, ?_⟩
  · rintro client hclient
    rw [← hclient] at hweb hpath ⊢
    have hexists := HttpClient.exists_endpoint hweb hpath
    refine ⟨hexists, fun k id => ?_, fun g => ?_⟩
    · obtain ⟨url, hurl, -, hfront⟩ := hexists (k.segments id)
      exact ⟨url, hurl, hfront (k.not_climbs id)⟩
    · obtain ⟨url, hurl, -, hfront⟩ := hexists g.segments
      exact ⟨url, hurl, hfront g.not_climbs⟩
  · intro configured hconfigured
    rw [ServerConfig.socketAddress, hconfigured]
  · intro hnone
    exact ⟨_, ServerConfig.socketAddress_of_ofText hnone hread hscheme, rfl, rfl, rfl,
      Url.usualPort?_socketScheme hscheme, Url.text_socketPath, rfl⟩

/-- A server with a user, a port and a query of its own, and a path without a slash at its end. -/
def guarded : Config :=
  { initial with server := { ServerConfig.initial with
      baseUrl := " HTTPS://me:pw@[::1]:8443/a//b?x=1#top" } }

/-- The client of that server. -/
def guardedClient : HttpClient where
  baseUrl := ⟨"https", "me", "pw", some (.groups [0, 0, 0, 0, 0, 0, 0, 1]), some 8443,
    .rooted ["a", "", "b", ""], some "x=1", some "top"⟩
  userAgent := "agent"
  token := none
  completion := .initial

theorem addresses_of_check_guarded :
    guarded.check = .ok () ∧
      (∃ url, guardedClient.endpoint (ResourceRequest.deleteChat.segments "..\n") = .ok url ∧
        guardedClient.baseUrl.IsFrontOf url ∧ url.text = "https://me:pw@[::1]:8443/a//b/?x=1#top") ∧
      ∃ u : Url, guarded.server.socketAddress = .ok u.text ∧ guardedClient.baseUrl.IsSocketOf u ∧
        u.text = "wss://me:pw@[::1]:8443/ws/socket.io/?EIO=4&transport=websocket#top" := by
  have hcheck : guarded.check = .ok () := rfl
  obtain ⟨base, hbase, -, -, hclient, -, hsocket⟩ := addresses_of_check hcheck
  have hread : HttpClient.readBase guarded.server.baseUrl = .ok guardedClient.baseUrl := rfl
  obtain rfl : base = guardedClient.baseUrl := Except.ok.inj (hbase.symm.trans hread)
  refine ⟨hcheck, ?_, ?_⟩
  · obtain ⟨url, hurl, hfront⟩ := (hclient guardedClient rfl).2.1 .deleteChat "..\n"
    refine ⟨url, hurl, hfront, ?_⟩
    cases hurl
    decide +kernel
  · obtain ⟨u, hu, hplace⟩ := hsocket rfl
    refine ⟨u, hu, hplace, ?_⟩
    have haddress : guarded.server.socketAddress =
        .ok "wss://me:pw@[::1]:8443/ws/socket.io/?EIO=4&transport=websocket#top" := by
      decide +kernel
    exact Except.ok.inj (hu.symm.trans haddress)

/-- A server on this machine, at the base of `ResourceRequest.localClient`. -/
def nearby : Config :=
  { initial with server := { ServerConfig.initial with baseUrl := "http://[::1]/api/v1" } }

/-- A first text that becomes two dots without its line break leads above the base. -/
theorem endpoint_above_base :
    nearby.check = .ok () ∧
      HttpClient.readBase nearby.server.baseUrl = .ok ResourceRequest.localClient.baseUrl ∧
      ResourceRequest.localClient.baseUrl.path.text = "/api/v1/" ∧
      ∃ url, ResourceRequest.localClient.endpoint ["..\n", "chats"] = .ok url ∧
        url.path.text = "/api//chats" ∧ ¬ ResourceRequest.localClient.baseUrl.IsFrontOf url := by
  have hbase : ResourceRequest.localClient.baseUrl.path.text = "/api/v1" ++ "/" := by decide
  refine ⟨rfl, rfl, hbase, _, rfl, by decide, ?_⟩
  rintro ⟨-, front, below, hfront, hbelow⟩
  obtain rfl : "/api/v1" = front := by
    rw [hbase] at hfront
    exact (String.append_left_inj "/").mp hfront
  have hstart := congrArg (fun s : String => s.toList.take 7) hbelow
  rw [String.toList_append, List.take_append_of_le_length (by decide)] at hstart
  revert hstart
  decide

end Config
end OfflineChat
