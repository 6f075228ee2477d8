import DevicePanel.Proofs.Hub.Exchange
import DevicePanel.Proofs.Json.Rereading
import DevicePanel.Proofs.Url.Form

/-!
# What the body of a command says

A command is sent as an object with one field or as a form with one pair.  Whoever reads either of
them by its rules is told the same command, whatever characters it has, and no two commands are
told alike.
-/

namespace DevicePanel.Hub.Client

open DevicePanel.Json

/-- The object has one field, which is the command. -/
theorem read_commandBody_json (command : String) :
    Json.read anyValue (commandBody .json command) =
      .ok (.object [("command", .text command)]) := by
  have exact : (CommandBody.mk command).toJson.Exact := by
    refine .object ?_
    simpa using .text command
  have decodes : Decodes anyValue deepest (CommandBody.mk command).toJson
      (.object [("command", .text command)]) := by
    refine decodes_anyValue_object ?_
    simpa using decodes_anyValue_text _ command
  exact decodes.read exact

/-- The form has one pair, which is the command under its name. -/
theorem decodePairs_commandBody_form (command : String) :
    Url.Form.decodePairs (commandBody .form command).toList =
      [("command".toList, command.toList)] := by
  rw [commandBody, String.toList_ofList, Url.Form.decodePairs_encodePairs]

/-- An object begins with a brace and a form with the name of its first pair. -/
theorem commandBody_json_ne_form (command other : String) :
    commandBody .json command ≠ commandBody .form other := by
  intro same
  have brace : (commandBody .json command).toList.head? = some '\x7b' := by
    rw [commandBody, Value.compactText, String.toList_ofList]
    rfl
  have letter : (commandBody .form other).toList.head? = some 'c' := by
    rw [commandBody, String.toList_ofList]
    rfl
  rw [same, letter] at brace
  cases brace

theorem commandBody_inj {encoding otherEncoding : BodyEncoding} {command other : String} :
    commandBody encoding command = commandBody otherEncoding other ↔
      encoding = otherEncoding ∧ command = other := by
  refine ⟨fun same => ?_, fun ⟨sameEncoding, sameCommand⟩ => sameEncoding ▸ sameCommand ▸ rfl⟩
  cases encoding with
  | json =>
      cases otherEncoding with
      | json =>
          have told := read_commandBody_json command
          rw [same, read_commandBody_json] at told
          cases told
          exact ⟨rfl, rfl⟩
      | form => exact absurd same (commandBody_json_ne_form command other)
  | form =>
      cases otherEncoding with
      | json => exact absurd same.symm (commandBody_json_ne_form other command)
      | form =>
          have told := decodePairs_commandBody_form command
          rw [same, decodePairs_commandBody_form] at told
          have texts : other.toList = command.toList := by simpa using told
          exact ⟨rfl, (String.toList_inj.mp texts).symm⟩

/-- The body of the request that is sent for a command is made by the client's encoding and called
by its name.  Read by the rules of JSON or of forms, it has nothing but the command, so that two
bodies are equal only if they have the same encoding and the same command. -/
theorem either_body_tells_the_command (client : Client) (network : Network)
    (device command : String) :
    (client.command network device command).sent =
      (if client.base.isWeb then [client.commandRequest device command] else []) ∧
    (client.commandRequest device command).body = some (commandBody client.encoding command) ∧
    (client.commandRequest device command).contentType = some (contentType client.encoding) ∧
    Json.read anyValue (commandBody .json command) =
      .ok (.object [("command", .text command)]) ∧
    Url.Form.decodePairs (commandBody .form command).toList =
      [("command".toList, command.toList)] ∧
    ∀ encoding other otherEncoding,
      commandBody encoding command = commandBody otherEncoding other ↔
        encoding = otherEncoding ∧ command = other :=
  ⟨client.sent_command network device command, rfl, rfl, read_commandBody_json command,
    decodePairs_commandBody_form command, fun _ _ _ => commandBody_inj⟩

example : commandBody .form "a+b &=%\u00fc" = "command=a%2Bb+%26%3D%25%C3%BC" := by decide +kernel

end DevicePanel.Hub.Client
