import DevicePanel.Proofs.Hub.Bases
import DevicePanel.Proofs.Hub.Documents

/-!
# What comes of an exchange

Every request of a client goes to the scheme of the client's address.  An exchange sends its
request once if that is the web, and succeeds if the hub answers it with success and a document
that can be read.
-/

namespace DevicePanel.Hub

/-- The hub answers with success and this document. -/
def Reply.Brings (reply : Reply) (document : String) : Prop :=
  ∃ status bytes, reply = .answered status bytes ∧ 200 ≤ status ∧ status < 300 ∧
    String.ofList (Text.Utf8.decodeLossy bytes) = document

theorem Reply.Brings.unique {reply : Reply} {document other : String}
    (brings : reply.Brings document) (also : reply.Brings other) : document = other := by
  obtain ⟨status, bytes, rfl, -, -, rfl⟩ := brings
  obtain ⟨_, _, same, -, -, rfl⟩ := also
  cases same
  rfl

namespace Client

theorem isWeb_get (client : Client) (segments : List String) :
    (client.get segments).url.isWeb = client.base.isWeb := by
  simp only [get, Url.withoutUser, Url.isWeb, scheme_place]

theorem sent_exchange {α : Type} (network : Network) (decoder : Json.Decoder α)
    (request : Request) : (exchange network decoder request).sent =
      if request.url.isWeb then [request] else [] := by
  unfold exchange
  cases request.url.isWeb with
  | false => rfl
  | true =>
      cases network request with
      | refused | silent => rfl
      | answered status bytes =>
          simp only [Bool.not_true, Bool.false_eq_true, if_true, if_false]
          split
          · rfl
          · split <;> rfl

theorem exchange_eq_ok_iff {α : Type} {network : Network} {decoder : Json.Decoder α}
    {request : Request} {value : α} : (exchange network decoder request).result = .ok value ↔
      request.url.isWeb ∧ ∃ document, (network request).Brings document ∧
        Json.read decoder document = .ok value := by
  unfold exchange Reply.Brings
  cases request.url.isWeb with
  | false => simp
  | true =>
      cases network request with
      | refused | silent => simp
      | answered status bytes =>
          simp only [Bool.not_true, Bool.false_eq_true, if_false, Reply.answered.injEq, true_and]
          by_cases bad : status < 200 ∨ 300 ≤ status
          · rw [if_pos bad]
            constructor
            · intro refused
              cases refused
            · rintro ⟨_, ⟨_, _, ⟨rfl, rfl⟩, least, most, rfl⟩, -⟩
              omega
          · rw [if_neg bad]
            constructor
            · intro found
              refine ⟨_, ⟨status, bytes, ⟨rfl, rfl⟩, by omega, by omega, rfl⟩, ?_⟩
              cases read : Json.read decoder (String.ofList (Text.Utf8.decodeLossy bytes)) with
              | error fault => simp [read] at found
              | ok other => simpa [read] using found
            · rintro ⟨_, ⟨_, _, ⟨rfl, rfl⟩, -, -, rfl⟩, read⟩
              simp [read]

theorem sent_list (client : Client) (network : Network) :
    (client.list network).sent = if client.base.isWeb then [client.listRequest] else [] := by
  rw [list, sent_exchange, listRequest, isWeb_get]

theorem list_eq_ok_iff {client : Client} {network : Network} {entries : List Entry} :
    (client.list network).result = .ok entries ↔ client.base.isWeb ∧
      ∃ document, (network client.listRequest).Brings document ∧
        Entry.ListedIn document entries := by
  rw [list, exchange_eq_ok_iff, listRequest, isWeb_get]
  simp only [Entry.read_listDecoder_eq_ok_iff]

theorem isWeb_commandRequest (client : Client) (device name : String) :
    (client.commandRequest device name).url.isWeb = client.base.isWeb :=
  client.isWeb_get ["device", device]

theorem sent_command (client : Client) (network : Network) (device name : String) :
    (client.command network device name).sent =
      if client.base.isWeb then [client.commandRequest device name] else [] := by
  rw [command, sent_exchange, isWeb_commandRequest]

theorem command_eq_ok_iff {client : Client} {network : Network} {device name : String}
    {answer : Answer} : (client.command network device name).result = .ok answer ↔
      client.base.isWeb ∧
        ∃ document, (network (client.commandRequest device name)).Brings document ∧
          answer.ToldIn document := by
  have completed (result : Except Fault RawAnswer) : result.bind complete = .ok answer ↔
      ∃ raw, result = .ok raw ∧ complete raw = .ok answer := by
    cases result <;> simp [Except.bind]
  simp only [command, completed, exchange_eq_ok_iff, isWeb_commandRequest,
    ← Answer.exists_complete_iff]
  constructor
  · rintro ⟨raw, ⟨web, document, brings, read⟩, complete⟩
    exact ⟨web, document, brings, raw, read, complete⟩
  · rintro ⟨web, document, brings, raw, read, complete⟩
    exact ⟨raw, ⟨web, document, brings, read⟩, complete⟩

end Client

end DevicePanel.Hub
