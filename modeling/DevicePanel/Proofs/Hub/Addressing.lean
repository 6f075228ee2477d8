import DevicePanel.Proofs.Hub.Exchange
import DevicePanel.Proofs.Url.Segments

/-!
# Where a command goes

The path of a command is the path of the client's address, then `api` and `device`, and then the
identifier of the device as one segment.  It names the device exactly if the identifier can be a
segment as it is, so two such devices are never addressed alike.
-/

namespace DevicePanel.Hub

/-- The URL has these segments first, and then names the device. -/
def NamesDevice (url : Url) (first : List (List Char)) (device : String) : Prop :=
  ∃ last, url.target = .segments (first ++ ["api".toList, "device".toList, last]) ∧
    Url.Percent.decode? last = some device.toList

namespace Client

/-- The segments before the one that names a device. -/
def devicesPath (parts : List (List Char)) : List (List Char) :=
  Url.kept parts ++ ["api".toList, "device".toList]

theorem devicesPath_ne_root (parts : List (List Char)) : devicesPath parts ≠ [[]] := by
  intro root
  simpa [devicesPath] using congrArg List.length root

section

variable {client : Client} {parts : List (List Char)}
  (special : Url.schemeKind client.base.scheme = .special)
  (path : client.base.target = .segments parts)

include special path

theorem url_commandRequest (device command : String) :
    (client.commandRequest device command).url =
      ((client.base.withPath (devicesPath parts)).push device.toList).withoutUser := by
  have notRoot : Url.kept parts ++ ["api".toList] ≠ [[]] := by
    intro root
    simpa using congrArg List.getLast? root
  have api : client.base.popEmpty.push "api".toList =
      client.base.withPath (Url.kept parts ++ ["api".toList]) :=
    Url.push_popEmpty special path (by decide)
  have devices : (client.base.popEmpty.push "api".toList).push "device".toList =
      client.base.withPath (Url.kept parts ++ ["api".toList] ++ ["device".toList]) := by
    rw [api]
    exact Url.push_withPath special notRoot (by decide)
  rw [devicesPath, ← List.singleton_append, ← List.append_assoc, ← devices]
  exact congrArg Url.withoutUser (place_of_path path ["device", device])

theorem namesDevice_iff (device command : String) :
    NamesDevice (client.commandRequest device command).url (Url.kept parts) device ↔
      Url.FitsSegment device.toList := by
  rw [url_commandRequest special path,
    ← Url.exists_push_iff special (devicesPath_ne_root parts)]
  simp only [NamesDevice, devicesPath, List.append_assoc]
  rfl

theorem url_commandRequest_of_fits {device : String} (fits : Url.FitsSegment device.toList)
    (command : String) : (client.commandRequest device command).url =
      client.base.withoutUser.withPath (devicesPath parts ++ [Url.asSegment device.toList]) := by
  rw [url_commandRequest special path, Url.push_withPath special (devicesPath_ne_root parts) fits]
  rfl

/-- A slash at the end of the address makes no difference. -/
theorem url_commandRequest_of_longer {longer : Client} (ends : parts.getLast? ≠ some [])
    (slash : longer.base = client.base.withPath (parts ++ [[]])) (device command : String) :
    (longer.commandRequest device command).url = (client.commandRequest device command).url := by
  have kept : Url.kept (parts ++ [[]]) = Url.kept parts := by
    rw [Url.kept_append_empty, if_neg (Url.ne_root_of_getLast? ends), Url.kept_of_getLast? ends]
  have scheme : Url.schemeKind longer.base.scheme = .special := by
    rw [slash]
    exact special
  have longerPath : longer.base.target = .segments (parts ++ [[]]) := by
    rw [slash]
    rfl
  rw [url_commandRequest scheme longerPath, url_commandRequest special path, devicesPath, kept,
    slash]
  rfl

section

variable {device other : String} (fits : Url.FitsSegment device.toList)
  (otherFits : Url.FitsSegment other.toList) {command again : String}

include fits otherFits

theorem eq_of_toText_commandRequest {host : Url.Host} (hosted : client.base.host = some host)
    (same : (client.commandRequest device command).url.toText =
      (client.commandRequest other again).url.toText) : device = other := by
  rw [url_commandRequest_of_fits special path fits,
    url_commandRequest_of_fits special path otherFits, Url.toText, Url.toText,
    String.ofList_inj] at same
  have bare : client.base.withoutUser.host = some host := hosted
  have segments := Url.eq_of_write_withPath bare same
  exact String.toList_inj.mp (Url.asSegment_injective segments)

theorem eq_of_target_commandRequest
    (same : (client.commandRequest device command).target =
      (client.commandRequest other again).target) : device = other := by
  rw [Request.target, Request.target, String.ofList_inj,
    url_commandRequest_of_fits special path fits,
    url_commandRequest_of_fits special path otherFits] at same
  have segments : Url.asSegment device.toList = Url.asSegment other.toList := by
    simpa [Url.withPath, Url.write_segments_append] using same
  exact String.toList_inj.mp (Url.asSegment_injective segments)

end

end

/-- For every address of the web that can be read: a command is posted below the segments of the
address, and its path names the device if and only if the identifier can be a segment as it is.
A slash at the end of the address makes no difference, and two such devices are addressed
differently.  Of the path `//` not even its first segment is kept. -/
theorem command_path_names_device_iff {text : String} {client : Client}
    (read : Url.ofText text = .ok client.base) (web : client.base.isWeb = true) :
    ∃ parts, client.base.target = .segments parts ∧
      (∀ network device command,
        (client.command network device command).sent = [client.commandRequest device command] ∧
        (client.commandRequest device command).method = .post ∧
        (NamesDevice (client.commandRequest device command).url
            (if parts = [[], []] then [] else Url.withoutEnd parts) device ↔
          Url.FitsSegment device.toList)) ∧
      (∀ longer : Client, parts.getLast? ≠ some [] →
        longer.base = client.base.withPath (parts ++ [[]]) → ∀ device command,
          (longer.commandRequest device command).url =
            (client.commandRequest device command).url) ∧
      (∀ device other command again, Url.FitsSegment device.toList →
        Url.FitsSegment other.toList → device ≠ other →
          (client.commandRequest device command).url.toText ≠
            (client.commandRequest other again).url.toText ∧
          (client.commandRequest device command).target ≠
            (client.commandRequest other again).target) := by
  obtain ⟨parts, host, path, hosted⟩ := Url.shape_of_ofText read web
  have special := Url.schemeKind_of_isWeb web
  refine ⟨parts, path, fun network device command => ⟨?_, rfl, ?_⟩, ?_, ?_⟩
  · rw [sent_command, web]
    rfl
  · exact namesDevice_iff special path device command
  · intro longer ends slash
    exact url_commandRequest_of_longer special path ends slash
  · intro device other command again fits otherFits different
    refine ⟨fun same => different ?_, fun same => different ?_⟩
    · exact eq_of_toText_commandRequest special path fits otherFits hosted same
    · exact eq_of_target_commandRequest special path fits otherFits same

theorem porch_light_is_addressed_below_panel :
    let client : Client := ⟨⟨"http".toList, ⟨[], []⟩, some (.domain "hub".toList), none,
      .segments ["panel".toList, []], none, none⟩, none, 1000, .json⟩
    Url.ofText "http://hub/panel/" = .ok client.base ∧ client.base.isWeb = true ∧
    NamesDevice (client.commandRequest "porch light/1" "on").url ["panel".toList]
      "porch light/1" ∧
    ¬ NamesDevice (client.commandRequest ".." "on").url ["panel".toList] ".." ∧
    (client.commandRequest "50%" "on").target ≠ (client.commandRequest "50%25" "on").target := by
  intro client
  have read : Url.ofText "http://hub/panel/" = .ok client.base := by decide +kernel
  have web : client.base.isWeb = true := by decide
  obtain ⟨parts, path, named, -, different⟩ := command_path_names_device_iff read web
  cases path
  refine ⟨read, web, ?_, ?_, ?_⟩
  · exact (named (fun _ => .refused) "porch light/1" "on").2.2.mpr (by decide)
  · intro goesUp
    exact absurd ((named (fun _ => .refused) ".." "on").2.2.mp goesUp) (by decide)
  · exact (different "50%" "50%25" "on" "on" (by decide) (by decide) (by decide)).2

/-- Below two slashes the first segment, which is empty, is lost. -/
theorem lamp_is_addressed_without_empty_segment :
    let client : Client := ⟨⟨"http".toList, ⟨[], []⟩, some (.domain "hub".toList), none,
      .segments [[], []], none, none⟩, none, 1000, .json⟩
    Url.ofText "http://hub//" = .ok client.base ∧ client.base.isWeb = true ∧
    Url.FitsSegment "lamp".toList ∧ Url.withoutEnd [[], []] = [[]] ∧
    (client.commandRequest "lamp" "on").url.target =
      .segments ["api".toList, "device".toList, "lamp".toList] ∧
    ¬ NamesDevice (client.commandRequest "lamp" "on").url (Url.withoutEnd [[], []]) "lamp" := by
  intro client
  have target : (client.commandRequest "lamp" "on").url.target =
      .segments ["api".toList, "device".toList, "lamp".toList] := by decide +kernel
  refine ⟨by decide +kernel, by decide, by decide, by decide, target, ?_⟩
  rintro ⟨last, longer, -⟩
  rw [target] at longer
  have lengths := congrArg List.length (Url.Target.segments.inj longer)
  simp [Url.withoutEnd] at lengths

end Client

end DevicePanel.Hub
