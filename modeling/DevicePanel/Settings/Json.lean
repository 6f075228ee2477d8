import DevicePanel.Json.Decode
import DevicePanel.Settings

/-!
# Settings in JSON

Every field of a profile but the server may be missing, and so may all other settings.
-/

namespace DevicePanel.Settings

open Json (Field)

def Defaults.decoder : Json.Decoder Defaults :=
  Json.record "Defaults" [
    .defaulted "output" Json.string (fun value draft => { draft with output := value }),
    .defaulted "color" Json.string (fun value draft => { draft with color := value }),
    .defaulted "insecure" Json.bool (fun value draft => { draft with insecure := value }),
    .defaulted "timeout" Json.natural (fun value draft => { draft with timeout := value }),
    .defaulted "dispatch_timeout" Json.natural
      (fun value draft => { draft with dispatchTimeout := value })] Defaults.usual

def Profile.decoder : Json.Decoder Profile :=
  Json.record "Profile" [
    .required "server" Json.string (fun value draft => { draft with server := value }),
    .nullable "token" Json.string (fun value draft => { draft with token := value }),
    .nullable "token_env" Json.string (fun value draft => { draft with tokenVariable := value }),
    .nullable "ca_cert" (Json.text "path string")
      (fun value draft => { draft with certificate := value }),
    .nullable "insecure" Json.bool (fun value draft => { draft with insecure := value }),
    .nullable "timeout" Json.natural (fun value draft => { draft with timeout := value }),
    .nullable "dispatch_timeout" Json.natural
      (fun value draft => { draft with dispatchTimeout := value }),
    .nullable "dispatch_policy" OverlapPolicy.decoder
      (fun value draft => { draft with policy := value }),
    .nullable "body_encoding" BodyEncoding.decoder
      (fun value draft => { draft with encoding := value })] (Profile.ofServer "")

def keyedMembers {α : Type} (decode : Json.Decoder α) (depth : Nat) :
    Json.Members → Except Json.Fault (Keyed α)
  | .closed => .ok []
  | .broken place _ => .error place.reading
  | .member key value _ others =>
      match key.name, decode depth value with
      | .error fault, _ => .error fault
      | _, .error fault => .error fault
      | .ok name, .ok first => (keyedMembers decode depth others).map (Keyed.put name first)

def keyed {α : Type} (decode : Json.Decoder α) : Json.Decoder (Keyed α)
  | 0, .object start _ _ => .error (Json.tooDeep start)
  | depth + 1, .object _ _ members => keyedMembers decode depth members
  | _, node => .error (Json.wrongType "a map" node)

def decoder : Json.Decoder Settings :=
  Json.record "Config" [
    .nullable "default_profile" Json.string (fun value draft => { draft with defaultProfile := value }),
    .defaulted "defaults" Defaults.decoder (fun value draft => { draft with defaults := value }),
    .defaulted "profiles" (keyed Profile.decoder)
      (fun value draft => { draft with profiles := value })] ⟨none, .usual, []⟩

end DevicePanel.Settings
