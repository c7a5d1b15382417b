import OfflineChat.Client.Chats
import OfflineChat.Client.Files

/-! # Requests that are sent

Every operation on a connection sends at most one request and is done
(`Connection.Sends`): to an address of the client, with the client's token, and
without a change to the client.
-/
namespace OfflineChat
namespace Connection

variable {σ α : Type} {link : Link σ} {c c' : Connection σ} {p q : Url → Prop}

/-- A connection after at most one request, which goes to one of some addresses with the token of
the client. -/
def Sends (link : Link σ) (p : Url → Prop) (c c' : Connection σ) : Prop :=
  c' = c ∨ ∃ r : HttpRequest, p r.url ∧ r.bearer = c.client.token ∧
    c' = { c with link := (link r c.link).2 }

/-- The client stays as it is. -/
theorem Sends.client_eq (h : Sends link p c c') : c'.client = c.client := by
  rcases h with rfl | ⟨r, -, -, rfl⟩ <;> rfl

theorem Sends.mono (h : Sends link p c c') (hpq : ∀ url, p url → q url) :
    Sends link q c c' :=
  h.imp id fun ⟨r, hurl, hbearer, hlink⟩ => ⟨r, hpq _ hurl, hbearer, hlink⟩

/-- An exchange sends its request, or nothing if the request cannot be sent. -/
theorem exchange_sends (link : Link σ) (activity : String) {r : HttpRequest} (hurl : p r.url)
    (hbearer : r.bearer = c.client.token) : Sends link p c (exchange link activity r c).2 := by
  unfold exchange
  cases HttpClient.unsendable? r with
  | some reason => exact .inl rfl
  | none =>
    refine .inr ⟨r, hurl, hbearer, ?_⟩
    obtain ⟨reply, s⟩ := link r c.link
    cases reply with
    | nothing reason => rfl
    | answer status content =>
      dsimp only
      split <;> rfl

theorem request_eq {method : HttpMethod} {segments : List String} {body : HttpBody} {url : Url}
    (h : c.client.endpoint segments = .ok url) :
    c.client.request method segments body =
      .ok ⟨method, url, c.client.token, c.client.userAgent, body⟩ := by
  rw [HttpClient.request, h]
  rfl

/-- A request that can be made goes to its address, with the token. -/
theorem request_eq_ok {method : HttpMethod} {segments : List String} {body : HttpBody}
    {r : HttpRequest} (h : c.client.request method segments body = .ok r) :
    c.client.endpoint segments = .ok r.url ∧ r.bearer = c.client.token := by
  unfold HttpClient.request at h
  cases hurl : c.client.endpoint segments with
  | error e =>
    rw [hurl] at h
    cases h
  | ok url =>
    rw [hurl] at h
    cases h
    exact ⟨rfl, rfl⟩

section

variable (link) (c)

theorem fetch_sends (codec : Codec α) (activity : String) (method : HttpMethod)
    (segments : List String) (body : HttpBody) :
    Sends link (fun url => c.client.endpoint segments = .ok url) c
      (fetch link codec activity method segments body c).2 := by
  unfold fetch
  cases hrequest : c.client.request method segments body with
  | error e => exact .inl rfl
  | ok r =>
    obtain ⟨hurl, hbearer⟩ := request_eq_ok hrequest
    have hsent := exchange_sends link activity
      (p := fun url => c.client.endpoint segments = .ok url) hurl hbearer
    dsimp only
    generalize exchange link activity r c = run at hsent
    obtain ⟨answer, c'⟩ := run
    cases answer <;> exact hsent

theorem ask_sends (activity : String) (method : HttpMethod) (segments : List String) :
    Sends link (fun url => c.client.endpoint segments = .ok url) c
      (ask link activity method segments c).2 := by
  unfold ask
  cases hrequest : c.client.request method segments .none with
  | error e => exact .inl rfl
  | ok r =>
    obtain ⟨hurl, hbearer⟩ := request_eq_ok hrequest
    exact exchange_sends link activity hurl hbearer

theorem downloadFile_sends (d : Disk) (fileId : String) (path : Path) :
    Sends link (fun url => c.client.endpoint ["files", fileId, "content"] = .ok url) c
      (downloadFile link d fileId path c).2.2 := by
  have hsent := ask_sends link c "Download file" .get ["files", fileId, "content"]
  unfold downloadFile about
  generalize ask link "Download file" .get ["files", fileId, "content"] c = run at hsent ⊢
  obtain ⟨answer, c'⟩ := run
  cases answer <;> exact hsent

theorem uploadFile_sends (d : Disk) (path : Path) (contentType : String) :
    Sends link (fun url => c.client.endpoint ["files", ""] = .ok url) c
      (uploadFile link d path contentType c).2 := by
  unfold uploadFile
  split
  · exact .inl rfl
  · exact fetch_sends link c ..

theorem complete_sends (chatId content : String) :
    Sends link (fun url => c.client.endpoint ["chat", "completions"] = .ok url) c
      (complete link chatId content c).2 := by
  have hsent := fetch_sends link c Completion.codec "Chat completion" .post ["chat", "completions"]
    (.json (CompletionRequest.codec.write (completionRequest c.client.completion chatId content)))
  exact hsent

/-- A search is sent to its address with the text as a parameter. -/
theorem search_sends (text : String) :
    Sends link (fun url => ∃ bare, c.client.endpoint ["chats", "search"] = .ok bare ∧
      url = bare.withParameter "text" text) c (search link text c).2 := by
  unfold search
  cases hrequest : c.client.request .get ["chats", "search"] .none with
  | error e => exact .inl rfl
  | ok r =>
    obtain ⟨hurl, hbearer⟩ := request_eq_ok hrequest
    have hsent := exchange_sends link "Search chats" (c := c)
      (r := { r with url := r.url.withParameter "text" text })
      (p := fun url => ∃ bare, c.client.endpoint ["chats", "search"] = .ok bare ∧
        url = bare.withParameter "text" text) ⟨r.url, hurl, rfl⟩ hbearer
    dsimp only
    generalize exchange link "Search chats" _ c = run at hsent
    obtain ⟨answer, c'⟩ := run
    cases answer <;> exact hsent

end

end Connection
end OfflineChat
