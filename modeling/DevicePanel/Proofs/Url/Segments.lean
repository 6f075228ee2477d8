import DevicePanel.Proofs.Url.Percent
import DevicePanel.Url.Reader
import Mathlib.Logic.Basic

/-!
# Segments of web addresses

A web address that was read from a text has a host and a path of segments.  A segment that is
pushed behind them comes back from the last one by decoding, unless it stands for a way within
the path or has characters that are passed over.
-/

namespace DevicePanel.Url

theorem schemeKind_of_isWeb {url : Url} (web : url.isWeb = true) :
    schemeKind url.scheme = .special := by
  have schemes : url.scheme = "http".toList ∨ url.scheme = "https".toList := by
    simpa [isWeb] using web
  rcases schemes with scheme | scheme
  · rw [scheme]
    decide
  · rw [scheme]
    decide

/-! ## Reading -/

theorem exists_of_bind_pure {ε α β : Type} {first : Except ε α} {build : α → β} {last : β}
    (run : (first >>= fun value => pure (build value)) = .ok last) :
    ∃ value, build value = last := by
  cases first with
  | error fault => cases run
  | ok value => exact ⟨value, Except.ok.inj run⟩

theorem shape_of_readFile {scheme rest : List Char} {url : Url}
    (read : readFile scheme rest = .ok url) :
    ∃ parts host, url.target = .segments parts ∧ url.host = some host := by
  rcases ite_eq_iff.mp read with ⟨-, unnamed⟩ | ⟨-, named⟩
  · obtain ⟨host, rfl⟩ := exists_of_bind_pure unnamed
    exact ⟨_, _, rfl, rfl⟩
  · obtain ⟨host, rfl⟩ := exists_of_bind_pure named
    exact ⟨_, _, rfl, rfl⟩

theorem shape_of_readHierarchical {scheme rest : List Char} {kind : SchemeKind} {url : Url}
    (read : readHierarchical scheme kind rest = .ok url) :
    ∃ parts host, url.target = .segments parts ∧ url.host = some host := by
  obtain ⟨_, rfl⟩ := exists_of_bind_pure read
  exact ⟨_, _, rfl, rfl⟩

theorem shape_of_ofText {text : String} {url : Url} (read : ofText text = .ok url)
    (web : url.isWeb = true) :
    ∃ parts host, url.target = .segments parts ∧ url.host = some host := by
  rw [ofText, Url.read] at read
  split at read
  · cases read
  · rename_i scheme rest _
    split at read
    · exact shape_of_readFile read
    · exact shape_of_readHierarchical read
    · rename_i other
      split at read
      · exact shape_of_readHierarchical read
      · -- Without a host the scheme is not one of the web.
        cases read
        have special : schemeKind scheme = .special := schemeKind_of_isWeb web
        rw [other] at special
        cases special

/-! ## Points -/

theorem foldDots_eq_nil {text : List Char} (folded : foldDots text = []) : text = [] := by
  fun_cases foldDots text with
  | case1 | case2 | case3 => simp [foldDots] at folded
  | case4 => rfl

/-- A point is the same byte whether it is encoded or not. -/
theorem decodeBytes_of_foldDots {text rest : List Char} (folded : foldDots text = '.' :: rest) :
    ∃ tail, foldDots tail = rest ∧
      Percent.decodeBytes text = '.'.toNat :: Percent.decodeBytes tail := by
  fun_cases foldDots text with
  | case1 tail | case2 tail =>
      rw [foldDots] at folded
      exact ⟨tail, (List.cons.inj folded).2, rfl⟩
  | case3 c tail small capital =>
      rw [foldDots.eq_3 _ _ small capital] at folded
      obtain ⟨rfl, folds⟩ := List.cons.inj folded
      exact ⟨tail, folds, rfl⟩
  | case4 => simp [foldDots] at folded

theorem decode?_of_foldDots_one {text : List Char} (folded : foldDots text = ['.']) :
    Percent.decode? text = some ['.'] := by
  obtain ⟨tail, ends, bytes⟩ := decodeBytes_of_foldDots folded
  rw [Percent.decode?, bytes, foldDots_eq_nil ends]
  decide

theorem decode?_of_foldDots_two {text : List Char} (folded : foldDots text = ['.', '.']) :
    Percent.decode? text = some ['.', '.'] := by
  obtain ⟨tail, second, bytes⟩ := decodeBytes_of_foldDots folded
  obtain ⟨last, ends, more⟩ := decodeBytes_of_foldDots second
  rw [Percent.decode?, bytes, more, foldDots_eq_nil ends]
  decide

/-! ## Pushing -/

/-- A text as a segment of a web address. -/
def asSegment (text : List Char) : List Char := Percent.encode Percent.inSpecialSegment text

theorem decode?_asSegment (text : List Char) : Percent.decode? (asSegment text) = some text :=
  Percent.decode?_encode (by decide) text

theorem asSegment_injective : Function.Injective asSegment := by
  intro first second same
  have decoded := congrArg Percent.decode? same
  rw [decode?_asSegment, decode?_asSegment] at decoded
  exact Option.some.inj decoded

theorem foldDots_asSegment_eq_one {text : List Char} :
    foldDots (asSegment text) = ['.'] ↔ text = ['.'] := by
  constructor
  · intro folded
    exact Option.some.inj ((decode?_asSegment text).symm.trans (decode?_of_foldDots_one folded))
  · rintro rfl
    decide

theorem foldDots_asSegment_eq_two {text : List Char} :
    foldDots (asSegment text) = ['.', '.'] ↔ text = ['.', '.'] := by
  constructor
  · intro folded
    exact Option.some.inj ((decode?_asSegment text).symm.trans (decode?_of_foldDots_two folded))
  · rintro rfl
    decide

theorem addSegment_asSegment (parts : List (List Char)) (text : List Char) :
    addSegment parts (asSegment text) true =
      if text = ['.', '.'] then parts.dropLast ++ [[]]
      else if text = ['.'] then parts ++ [[]]
      else parts ++ [asSegment text] := by
  simp only [addSegment, foldDots_asSegment_eq_one, foldDots_asSegment_eq_two, if_true]

/-- The text can be a segment as it is. -/
def FitsSegment (text : List Char) : Prop :=
  '\t' ∉ text ∧ '\n' ∉ text ∧ '\r' ∉ text ∧ text ≠ ['.'] ∧ text ≠ ['.', '.']

instance (text : List Char) : Decidable (FitsSegment text) := inferInstanceAs (Decidable (_ ∧ _))

theorem filter_eq_self_iff {text : List Char} :
    (text.filter fun c => !isPassedOver c) = text ↔
      '\t' ∉ text ∧ '\n' ∉ text ∧ '\r' ∉ text := by
  rw [List.filter_eq_self]
  simp only [isPassedOver, Bool.not_eq_true', Bool.or_eq_false_iff, decide_eq_false_iff_not]
  constructor
  · intro kept
    exact ⟨fun tab => (kept _ tab).1.1 rfl, fun feed => (kept _ feed).1.2 rfl,
      fun mark => (kept _ mark).2 rfl⟩
  · rintro ⟨tab, feed, mark⟩ c member
    refine ⟨⟨?_, ?_⟩, ?_⟩ <;> rintro rfl <;> contradiction

/-- The URL with another path. -/
def withPath (url : Url) (parts : List (List Char)) : Url := { url with target := .segments parts }

variable {url : Url} {parts : List (List Char)} {segment : List Char}

theorem withPath_self (path : url.target = .segments parts) : url.withPath parts = url := by
  rw [withPath, ← path]

/-! ### What is kept

A path of segments stays one, and nothing but the path is changed. -/

theorem exists_push_eq (path : url.target = .segments parts) (segment : List Char) :
    ∃ more, url.push segment = url.withPath more := by
  simp only [push, path]
  split
  · exact ⟨parts, (withPath_self path).symm⟩
  · exact ⟨_, rfl⟩

theorem exists_popEmpty_eq (path : url.target = .segments parts) :
    ∃ more, url.popEmpty = url.withPath more := by
  simp only [popEmpty, path]
  split
  · exact ⟨_, rfl⟩
  · exact ⟨parts, (withPath_self path).symm⟩

theorem exists_pushAll_eq (path : url.target = .segments parts) (segments : List (List Char)) :
    ∃ more, segments.foldl (fun url segment => url.push segment) url = url.withPath more := by
  induction segments generalizing url parts with
  | nil => exact ⟨parts, (withPath_self path).symm⟩
  | cons segment segments ih =>
      obtain ⟨longer, pushed⟩ := exists_push_eq path segment
      rw [List.foldl_cons, pushed]
      exact ih rfl

/-! ### Web addresses -/

theorem push_of_special (special : schemeKind url.scheme = .special)
    (path : url.target = .segments parts) : url.push segment =
      if segment = ['.'] ∨ segment = ['.', '.'] then url
      else url.withPath (addSegment (if parts = [[]] then [] else parts)
        (asSegment (segment.filter fun c => !isPassedOver c)) true) := by
  simp only [push, path, special, reduceCtorEq, if_false]
  rfl

theorem push_of_fits (special : schemeKind url.scheme = .special)
    (path : url.target = .segments parts) (fits : FitsSegment segment) : url.push segment =
      url.withPath ((if parts = [[]] then [] else parts) ++ [asSegment segment]) := by
  obtain ⟨tab, feed, mark, one, two⟩ := fits
  rw [push_of_special special path, if_neg (not_or.mpr ⟨one, two⟩),
    filter_eq_self_iff.mpr ⟨tab, feed, mark⟩, addSegment_asSegment, if_neg two, if_neg one]

theorem push_withPath (special : schemeKind url.scheme = .special) (notRoot : parts ≠ [[]])
    (fits : FitsSegment segment) :
    (url.withPath parts).push segment = url.withPath (parts ++ [asSegment segment]) := by
  have pushed : (url.withPath parts).push segment =
      url.withPath ((if parts = [[]] then [] else parts) ++ [asSegment segment]) :=
    push_of_fits special rfl fits
  rw [pushed, if_neg notRoot]

theorem last_of_addSegment {text last : List Char}
    (added : addSegment parts (asSegment text) true = parts ++ [last]) :
    last = [] ∨ last = asSegment text := by
  rw [addSegment_asSegment] at added
  split at added
  · exact Or.inl (List.singleton_inj.mp (List.append_inj' added rfl).2).symm
  split at added
  · exact Or.inl (List.singleton_inj.mp (List.append_inj' added rfl).2).symm
  · exact Or.inr (List.singleton_inj.mp (List.append_inj' added rfl).2).symm

/-- A pushed segment comes back from the last one of the path exactly if it fits. -/
theorem exists_push_iff (special : schemeKind url.scheme = .special) (notRoot : parts ≠ [[]]) :
    (∃ last, ((url.withPath parts).push segment).target = .segments (parts ++ [last]) ∧
      Percent.decode? last = some segment) ↔ FitsSegment segment := by
  have scheme : schemeKind (url.withPath parts).scheme = .special := special
  constructor
  · rintro ⟨last, added, decoded⟩
    rw [push_of_special scheme rfl, if_neg notRoot] at added
    split at added
    · -- Nothing was pushed, so the path is as long as before.
      have shorter := congrArg List.length (Target.segments.inj added)
      simp at shorter
    · rename_i way
      rcases last_of_addSegment (Target.segments.inj added) with rfl | rfl
      · cases decoded
        decide
      · rw [decode?_asSegment] at decoded
        obtain ⟨tab, feed, mark⟩ := filter_eq_self_iff.mp (Option.some.inj decoded)
        exact ⟨tab, feed, mark, (not_or.mp way).1, (not_or.mp way).2⟩
  · intro fits
    exact ⟨asSegment segment, congrArg target (push_withPath special notRoot fits),
      decode?_asSegment segment⟩

/-! ## The end of a path -/

/-- The segments of a path without a slash at its end. -/
def withoutEnd (parts : List (List Char)) : List (List Char) :=
  if parts.getLast? = some [] then parts.dropLast else parts

/-- What stands before the segments that are pushed.  Of the path `//` nothing is left, because
its rest is taken for the root. -/
def kept (parts : List (List Char)) : List (List Char) :=
  if parts = [[], []] then [] else withoutEnd parts

theorem kept_append_empty (front : List (List Char)) :
    kept (front ++ [[]]) = if front = [[]] then [] else front := by
  have double : front ++ [[]] = [[], []] ↔ front = [[]] :=
    show front ++ [[]] = [[]] ++ [[]] ↔ _ from List.append_left_inj [[]]
  simp [kept, withoutEnd, double]

theorem ne_root_of_getLast? (ends : parts.getLast? ≠ some []) : parts ≠ [[]] := by
  rintro rfl
  exact ends rfl

theorem kept_of_getLast? (ends : parts.getLast? ≠ some []) : kept parts = parts := by
  have notDouble : parts ≠ [[], []] := by
    rintro rfl
    exact ends rfl
  rw [kept, if_neg notDouble, withoutEnd, if_neg ends]

theorem push_popEmpty (special : schemeKind url.scheme = .special)
    (path : url.target = .segments parts) (fits : FitsSegment segment) :
    url.popEmpty.push segment = url.withPath (kept parts ++ [asSegment segment]) := by
  by_cases ends : parts.getLast? = some []
  · obtain ⟨front, rfl⟩ := List.getLast?_eq_some_iff.mp ends
    rw [kept_append_empty]
    cases front with
    | nil =>
        have stays : url.popEmpty = url := by simp [popEmpty, path]
        rw [stays, push_of_fits special path fits]
        rfl
    | cons part front =>
        have popped : url.popEmpty = url.withPath (part :: front) := by
          simp only [popEmpty, path]
          rw [if_pos ⟨by simp, ends⟩, List.dropLast_concat]
          rfl
        rw [popped]
        exact push_of_fits special rfl fits
  · have stays : url.popEmpty = url := by simp [popEmpty, path, ends]
    rw [stays, push_of_fits special path fits, if_neg (ne_root_of_getLast? ends),
      kept_of_getLast? ends]

/-! ## Writing -/

theorem write_segments_append (parts : List (List Char)) (last : List Char) :
    (Target.segments (parts ++ [last])).write = (Target.segments parts).write ++ '/' :: last := by
  simp [Target.write]

/-- Addresses with a host that differ in their last segments are written differently. -/
theorem eq_of_write_withPath {host : Host} (hosted : url.host = some host)
    {first second : List Char} (same : (url.withPath (parts ++ [first])).write =
      (url.withPath (parts ++ [second])).write) : first = second := by
  simpa [write, writeAuthority, withPath, hosted, write_segments_append] using same

end DevicePanel.Url
