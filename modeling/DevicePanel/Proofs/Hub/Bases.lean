import DevicePanel.Hub.Client
import DevicePanel.Proofs.Url.Segments

/-!
# Addresses as bases

An address with a path of segments serves as a base: a client is made of it whenever the token and
the certificate can be used, and each list of segments has a place below it, which differs from it
in the path only.  Of any other address no client is made.
-/

namespace DevicePanel

theorem Url.canBeBase_iff {url : Url} :
    url.canBeBase = true ↔ ∃ parts, url.target = .segments parts := by
  unfold canBeBase
  cases url.target <;> simp

namespace Hub.Client

/-! ## Places below an address -/

section

variable {client : Client} {parts : List (List Char)} (path : client.base.target = .segments parts)
  (segments : List String)

include path

theorem place?_of_path : client.place? segments =
    .ok ((("api" :: segments).map String.toList).foldl (fun url segment => url.push segment)
      client.base.popEmpty) := by
  rw [place?, path]

theorem place_of_path : client.place segments =
    (("api" :: segments).map String.toList).foldl (fun url segment => url.push segment)
      client.base.popEmpty := by
  rw [place, place?_of_path path]

/-- Segments have a place below an address, and requests for them go there. -/
theorem exists_place?_eq : ∃ more, client.place? segments = .ok (client.base.withPath more) ∧
    client.place segments = client.base.withPath more := by
  obtain ⟨first, popped⟩ := Url.exists_popEmpty_eq path
  have stillPath : (client.base.withPath first).target = .segments first := rfl
  obtain ⟨more, pushed⟩ := Url.exists_pushAll_eq stillPath (("api" :: segments).map String.toList)
  rw [place?_of_path path, place_of_path path, popped, pushed]
  exact ⟨more, rfl, rfl⟩

end

theorem scheme_place (client : Client) (segments : List String) :
    (client.place segments).scheme = client.base.scheme := by
  cases path : client.base.target with
  | opaquePath text => simp only [place, place?, path]
  | segments parts =>
      obtain ⟨more, -, placed⟩ := exists_place?_eq path segments
      rw [placed]
      rfl

/-! ## Clients -/

/-- The token and the certificate of a client can be used; nothing is said about its address. -/
def Usable (certificates : Certificates) (token : Option String) (trust : Trust) : Prop :=
  token.all isHeaderText = true ∧ ∀ path, trust = .certificate path → certificates path = .ok ()

section

variable {certificates : Certificates} {token : Option String} {trust : Trust}

theorem create_of_usable (usable : Usable certificates token trust) (base : Url) (timeout : Nat)
    (encoding : BodyEncoding) : create certificates base token trust timeout encoding =
      if base.canBeBase then .ok ⟨base, token, timeout, encoding⟩
      else .error (.badBase base.toText) := by
  obtain ⟨isText, isRead⟩ := usable
  unfold create
  rw [isText]
  cases trust with
  | system | anyCertificate => rfl
  | certificate path =>
      simp only [isRead path rfl]
      rfl

/-- A token or a certificate that cannot be used is told of before the address is looked at. -/
theorem create_of_not_usable (unusable : ¬ Usable certificates token trust) (base : Url)
    (timeout : Nat) (encoding : BodyEncoding) :
    create certificates base token trust timeout encoding =
        .error (.badHeader "bearer token contains invalid characters") ∨
      ∃ reason, create certificates base token trust timeout encoding =
        .error (.trust ("failed to read CA cert: " ++ reason)) := by
  cases isText : token.all isHeaderText with
  | false =>
      refine Or.inl ?_
      unfold create
      rw [isText]
      rfl
  | true =>
      cases trust with
      | system | anyCertificate => exact absurd ⟨isText, nofun⟩ unusable
      | certificate path =>
          cases read : certificates path with
          | ok nothing => exact absurd ⟨isText, fun _ same => by cases same; exact read⟩ unusable
          | error reason =>
              refine Or.inr ⟨reason, ?_⟩
              unfold create
              rw [isText]
              simp only [read]
              rfl

end

/-- Of a base a client is made, or it is the token or the certificate that is told of. -/
theorem create_cases {base : Url} (canBeBase : base.canBeBase = true) (certificates : Certificates)
    (token : Option String) (trust : Trust) (timeout : Nat) (encoding : BodyEncoding) :
    create certificates base token trust timeout encoding = .ok ⟨base, token, timeout, encoding⟩ ∨
      create certificates base token trust timeout encoding =
        .error (.badHeader "bearer token contains invalid characters") ∨
      ∃ reason, create certificates base token trust timeout encoding =
        .error (.trust ("failed to read CA cert: " ++ reason)) := by
  by_cases usable : Usable certificates token trust
  · refine Or.inl ?_
    rw [create_of_usable usable, if_pos canBeBase]
  · exact Or.inr (create_of_not_usable usable base timeout encoding)

end Hub.Client

/-! ## Bases -/

/-- Clients are made of an address, whatever else they are made of, and nothing below it is without
a place: the place of any segments is there, and it has the scheme, the host and the port of the
address. -/
structure Url.ServesAsBase (url : Url) : Prop where
  canBeBase : url.canBeBase = true
  created : ∀ certificates token trust timeout encoding,
    Hub.Client.Usable certificates token trust →
      Hub.Client.create certificates url token trust timeout encoding =
        .ok ⟨url, token, timeout, encoding⟩
  unblamed : ∀ certificates token trust timeout encoding text,
    Hub.Client.create certificates url token trust timeout encoding ≠ .error (.badBase text)
  placed : ∀ (client : Hub.Client), client.base = url → ∀ segments, ∃ place,
    client.place? segments = .ok place ∧ client.place segments = place ∧
      place.scheme = url.scheme ∧ place.host = url.host ∧ place.port = url.port

theorem Url.servesAsBase_of_canBeBase {url : Url} (canBeBase : url.canBeBase = true) :
    url.ServesAsBase := by
  refine ⟨canBeBase, ?_, ?_, ?_⟩
  · intro certificates token trust timeout encoding usable
    rw [Hub.Client.create_of_usable usable, if_pos canBeBase]
  · intro certificates token trust timeout encoding text
    obtain made | told | ⟨reason, told⟩ :=
      Hub.Client.create_cases canBeBase certificates token trust timeout encoding
    · rw [made]
      nofun
    · rw [told]
      nofun
    · rw [told]
      nofun
  · rintro client rfl segments
    obtain ⟨parts, path⟩ := Url.canBeBase_iff.mp canBeBase
    obtain ⟨more, found, placed⟩ := Hub.Client.exists_place?_eq path segments
    exact ⟨_, found, placed, rfl, rfl, rfl⟩

end DevicePanel
