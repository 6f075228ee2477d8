import DevicePanel.Json.Printer
import DevicePanel.Json.Token

/-!
# One layout for both forms

The compact and the indented form of a value have the same characters but for blanks, which stand
where a line breaks and after a colon.
-/

namespace DevicePanel.Json

/-- What stands where a line breaks below so many open brackets, and what stands after a colon. -/
structure Spacing where
  line : Nat → List Char
  gap : List Char
  blank_line : ∀ level, ∀ c ∈ line level, isBlank c = true
  blank_gap : ∀ c ∈ gap, isBlank c = true

namespace Spacing

/-- No blanks at all. -/
def none : Spacing := ⟨fun _ => [], [], by simp, by simp⟩

theorem isBlank_of_mem_lineBreak {level : Nat} {c : Char} (member : c ∈ lineBreak level) :
    isBlank c = true := by
  obtain rfl | rfl : c = '\n' ∨ c = ' ' :=
    (List.mem_cons.mp member).imp_right List.eq_of_mem_replicate
  · rfl
  · rfl

/-- Every item on a line of its own. -/
def lines : Spacing :=
  ⟨lineBreak, [' '], fun _ _ => isBlank_of_mem_lineBreak, by simp [isBlank]⟩

@[simp]
theorem line_none (level : Nat) : none.line level = [] := rfl

@[simp]
theorem gap_none : none.gap = [] := rfl

@[simp]
theorem line_lines (level : Nat) : lines.line level = lineBreak level := rfl

@[simp]
theorem gap_lines : lines.gap = [' '] := rfl

end Spacing

mutual

/-- A value with the blanks of a form, below `level` open brackets. -/
def spaced (spacing : Spacing) (level : Nat) : Value → List Char
  | .null => "null".toList
  | .bool true => "true".toList
  | .bool false => "false".toList
  | .number n => numeralText n
  | .text s => quote s.toList
  | .list [] => ['[', ']']
  | .list (item :: items) =>
      '[' :: (spacing.line (level + 1) ++ (spaced spacing (level + 1) item ++
        spacedItems spacing level items))
  | .object [] => ['\x7b', '\x7d']
  | .object ((key, value) :: members) =>
      '\x7b' :: (spacing.line (level + 1) ++ (quote key.toList ++ ':' :: (spacing.gap ++
        (spaced spacing (level + 1) value ++ spacedMembers spacing level members))))

/-- The items after the first one, and the closing bracket. -/
def spacedItems (spacing : Spacing) (level : Nat) : List Value → List Char
  | [] => spacing.line level ++ [']']
  | item :: items =>
      ',' :: (spacing.line (level + 1) ++ (spaced spacing (level + 1) item ++
        spacedItems spacing level items))

/-- The members after the first one, and the closing brace. -/
def spacedMembers (spacing : Spacing) (level : Nat) : List (String × Value) → List Char
  | [] => spacing.line level ++ ['\x7d']
  | (key, value) :: members =>
      ',' :: (spacing.line (level + 1) ++ (quote key.toList ++ ':' :: (spacing.gap ++
        (spaced spacing (level + 1) value ++ spacedMembers spacing level members))))

end

/-! ## The two forms -/

mutual

theorem spaced_none (level : Nat) (value : Value) : spaced .none level value = compact value := by
  match value with
  | .null | .bool true | .bool false | .number _ | .text _ | .list [] | .object [] =>
      simp [spaced, compact]
  | .list (item :: items) =>
      simp [spaced, compact, spaced_none (level + 1) item,
        spacedItems_none level items]
  | .object ((_, value) :: members) =>
      simp [spaced, compact, spaced_none (level + 1) value,
        spacedMembers_none level members]

theorem spacedItems_none (level : Nat) (items : List Value) :
    spacedItems .none level items = compactItems items := by
  match items with
  | [] => simp [spacedItems, compactItems]
  | item :: items =>
      simp [spacedItems, compactItems, spaced_none (level + 1) item,
        spacedItems_none level items]

theorem spacedMembers_none (level : Nat) (members : List (String × Value)) :
    spacedMembers .none level members = compactMembers members := by
  match members with
  | [] => simp [spacedMembers, compactMembers]
  | (_, value) :: members =>
      simp [spacedMembers, compactMembers, spaced_none (level + 1) value,
        spacedMembers_none level members]

end

mutual

theorem spaced_lines (level : Nat) (value : Value) :
    spaced .lines level value = indented level value := by
  match value with
  | .null | .bool true | .bool false | .number _ | .text _ | .list [] | .object [] =>
      simp [spaced, indented]
  | .list (item :: items) =>
      simp [spaced, indented, spaced_lines (level + 1) item,
        spacedItems_lines level items]
  | .object ((_, value) :: members) =>
      simp [spaced, indented, spaced_lines (level + 1) value,
        spacedMembers_lines level members]

theorem spacedItems_lines (level : Nat) (items : List Value) :
    spacedItems .lines level items = indentedItems level items := by
  match items with
  | [] => simp [spacedItems, indentedItems]
  | item :: items =>
      simp [spacedItems, indentedItems, spaced_lines (level + 1) item,
        spacedItems_lines level items]

theorem spacedMembers_lines (level : Nat) (members : List (String × Value)) :
    spacedMembers .lines level members = indentedMembers level members := by
  match members with
  | [] => simp [spacedMembers, indentedMembers]
  | (_, value) :: members =>
      simp [spacedMembers, indentedMembers, spaced_lines (level + 1) value,
        spacedMembers_lines level members]

end

end DevicePanel.Json
