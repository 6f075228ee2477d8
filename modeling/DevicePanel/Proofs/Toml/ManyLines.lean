import DevicePanel.Proofs.Toml.OneLine

/-!
# Texts of many lines are read back

A text of many lines is read in pieces: runs of characters that stand for themselves, line ends,
escapes, and one quote or two.  Three quotes in a row end it, and one or two more of them right
before belong to the text.
-/

namespace DevicePanel.Toml

theorem lineEnd_of_head? {text : List Char} (noLine : text.head? ≠ some '\n')
    (noReturn : text.head? ≠ some '\r') : lineEnd text = none := by
  have noPair : ¬ "\r\n".toList <+: text := by
    rintro ⟨rest, rfl⟩
    exact noReturn rfl
  rw [lineEnd, Scan.orElse_of_none (Scan.mark_of_head? noLine), Scan.word_of_not_prefix noPair]

/-- What a text of many lines begins with: a line end, if it has line ends inside. -/
def opening (text : List Char) : List Char := if text.contains '\n' then ['\n'] else []

section

variable {quote : Char} {count : Nat} {rest : List Char}

theorem someRun_quotes (positive : 0 < count) (stops : rest.head? ≠ some quote) :
    Scan.someRun (· == quote) (List.replicate count quote ++ rest) =
      some (List.replicate count quote, rest) := by
  refine Scan.someRun_append (by simp; omega) (by simp) ?_
  intro c here
  simpa using fun same : c = quote => stops (same ▸ here)

theorem quotes_append_closing (quote : Char) (count : Nat) (rest : List Char) :
    List.replicate count quote ++ quote :: quote :: quote :: rest =
      List.replicate (count + 3) quote ++ rest := by
  rw [← List.replicate_append_replicate, List.append_assoc]
  rfl

/-- The quotes before the closing belong to the text. -/
theorem closing_append (few : count ≤ 2) (stops : rest.head? ≠ some quote) :
    closing quote (List.replicate count quote ++ quote :: quote :: quote :: rest) =
      some (List.replicate count quote, rest) := by
  have quotes : Scan.run (· == quote) (List.replicate (count + 3) quote ++ rest) =
      some (List.replicate (count + 3) quote, rest) := by
    refine Scan.run_append (by simp) ?_
    intro c here
    simpa using fun same : c = quote => stops (same ▸ here)
  rw [quotes_append_closing, closing, Scan.bind_of_some quotes,
    Scan.bind_of_some (Scan.require_of_true (by simp; omega) rest), Scan.pure_apply]
  simp

/-- One quote or two that are not followed by another one are inside the text. -/
theorem innerQuotes_append (positive : 0 < count) (few : count ≤ 2)
    (stops : rest.head? ≠ some quote) :
    innerQuotes quote (List.replicate count quote ++ rest) =
      some (List.replicate count quote, rest) := by
  rw [innerQuotes, Scan.bind_of_some (someRun_quotes positive stops),
    Scan.bind_of_some (Scan.require_of_true (by simp; omega) rest), Scan.pure_apply]

/-- The quotes of the closing are not inside the text. -/
theorem innerQuotes_closing (count : Nat) (stops : rest.head? ≠ some quote) :
    innerQuotes quote (List.replicate count quote ++ quote :: quote :: quote :: rest) = none := by
  rw [quotes_append_closing, innerQuotes, Scan.bind_of_some (someRun_quotes (by omega) stops),
    Scan.bind_of_none (Scan.require_of_false (by simp) rest)]

end

/-! ## Pieces between double quotes -/

/-- One piece of a text of many lines between double quotes. -/
def basicPiece : Scan (List Char) :=
  Scan.someRun isBasic <|> innerLineEnd <|> continuation <|> (do return [← escape]) <|>
    innerQuotes '"'

theorem basicLines_eq : basicLines = (do
    Scan.word "\"\"\""
    let _ ← Scan.option lineEnd
    let pieces ← Scan.many basicPiece
    let last ← closing '"'
    return pieces.flatten ++ last) := rfl

theorem basicPiece_run {run rest : List Char} (nonempty : run ≠ [])
    (basic : ∀ c ∈ run, isBasic c = true) (stops : ∀ c ∈ rest.head?, isBasic c = false) :
    basicPiece (run ++ rest) = some (run, rest) :=
  Scan.orElse_of_some (Scan.someRun_append nonempty basic stops) _

theorem basicPiece_line (rest : List Char) : basicPiece ('\n' :: rest) = some (['\n'], rest) := rfl

theorem basicPiece_escape {mark : Char} {tail : List Char} {c : Char} {rest : List Char}
    (visible : isBlank mark = false) (noLine : mark ≠ '\n') (noReturn : mark ≠ '\r')
    (read : escape ('\\' :: mark :: tail) = some (c, rest)) :
    basicPiece ('\\' :: mark :: tail) = some ([c], rest) := by
  have noEnd : lineEnd (mark :: tail) = none :=
    lineEnd_of_head? (by simpa using noLine) (by simpa using noReturn)
  have noContinuation : continuation ('\\' :: mark :: tail) = none := by
    have noBlanks : blanks (mark :: tail) = some ((), mark :: tail) := by
      rw [blanks, Scan.bind_of_some (Scan.run_of_head? (by simpa using visible))]
      rfl
    rw [continuation, Scan.bind_of_some (Scan.mark_cons _ _), Scan.bind_of_some noBlanks,
      Scan.bind_of_none noEnd]
  rw [basicPiece, Scan.orElse_of_none rfl, Scan.orElse_of_none rfl,
    Scan.orElse_of_none noContinuation, Scan.orElse_of_some]
  rw [Scan.bind_of_some read]
  rfl

theorem basicPiece_quotes (count : Nat) {rest : List Char} (positive : 0 < count) (few : count ≤ 2)
    (stops : rest.head? ≠ some '"') :
    basicPiece (List.replicate count '"' ++ rest) = some (List.replicate count '"', rest) := by
  obtain ⟨less, rfl⟩ : ∃ less, count = less + 1 := ⟨count - 1, by omega⟩
  have read := innerQuotes_append positive few stops
  rw [List.replicate_succ, List.cons_append] at read ⊢
  rw [basicPiece, Scan.orElse_of_none rfl, Scan.orElse_of_none rfl, Scan.orElse_of_none rfl,
    Scan.orElse_of_none rfl]
  exact read

theorem basicPiece_closing (count : Nat) {rest : List Char} (stops : rest.head? ≠ some '"') :
    basicPiece (List.replicate count '"' ++ '"' :: '"' :: '"' :: rest) = none := by
  have fails := innerQuotes_closing count stops
  rw [quotes_append_closing, List.replicate_succ, List.cons_append] at fails ⊢
  rw [basicPiece, Scan.orElse_of_none rfl, Scan.orElse_of_none rfl, Scan.orElse_of_none rfl,
    Scan.orElse_of_none rfl]
  exact fails

/-- The character is written as itself between double quotes. -/
def isSelf (c : Char) : Bool := isBasic c && escaped true c = [c]

theorem basicBody_append {run : List Char} (self : ∀ c ∈ run, isSelf c = true)
    (text : List Char) : basicBody true 2 (run ++ text) 0 = run ++ basicBody true 2 text 0 := by
  induction run with
  | nil => rfl
  | cons c run ih =>
      obtain ⟨first, others⟩ := List.forall_mem_cons.mp self
      simp only [isSelf, Bool.and_eq_true, decide_eq_true_eq] at first
      have noQuote : c ≠ '"' := by
        rintro rfl
        exact absurd first.1 (by decide)
      rw [List.cons_append, basicBody, if_neg noQuote, first.2, ih others]
      rfl

/-- After a character that is no quote nothing is kept of the quotes before. -/
theorem basicBody_of_ne {c : Char} (noQuote : c ≠ '"') (text : List Char) (before : Nat) :
    basicBody true 2 (c :: text) before = basicBody true 2 (c :: text) 0 := by
  rw [basicBody, basicBody, if_neg noQuote, if_neg noQuote]

/-- What is no character written as itself does not go on a run of these. -/
theorem head?_basicBody {text rest : List Char} (other : ∀ c ∈ text.head?, isSelf c = false) :
    ∀ c ∈ (basicBody true 2 text 0 ++ '"' :: rest).head?, isBasic c = false := by
  cases text with
  | nil => simp [basicBody, isBasic]
  | cons c text =>
      by_cases quote : c = '"'
      · subst quote
        simp [basicBody, isBasic]
      · have notSelf : isSelf c = false := other c rfl
        rw [basicBody, if_neg quote]
        rcases escaped_cases true quote with ⟨itself, basic⟩ | ⟨line, -, -⟩ |
          ⟨mark, tail, written, -, -, -, -⟩
        · simp [isSelf, itself, basic] at notSelf
        · simp [line, isBasic, isPlain]
        · simp [written, isBasic]

/-- A text of many lines is read piece by piece from what it is written as; one or two quotes at
its end are left to the closing. -/
def PieceByPiece (scan : Scan (List Char)) (quote : Char) (rest written text : List Char) : Prop :=
  ∃ pieces count, count ≤ 2 ∧ pieces.flatten ++ List.replicate count quote = text ∧
    Scan.Repeats scan (written ++ quote :: quote :: quote :: rest) pieces
      (List.replicate count quote ++ quote :: quote :: quote :: rest)

namespace PieceByPiece

variable {scan : Scan (List Char)} {quote : Char} {rest written text : List Char}

theorem stop {count : Nat} (few : count ≤ 2)
    (fails : scan (List.replicate count quote ++ quote :: quote :: quote :: rest) = none) :
    PieceByPiece scan quote rest (List.replicate count quote) (List.replicate count quote) :=
  ⟨[], count, few, rfl, .stop fails⟩

theorem step (front piece : List Char) (later : PieceByPiece scan quote rest written text)
    (nonempty : front ≠ [])
    (read : scan (front ++ (written ++ quote :: quote :: quote :: rest)) =
      some (piece, written ++ quote :: quote :: quote :: rest)) :
    PieceByPiece scan quote rest (front ++ written) (piece ++ text) := by
  obtain ⟨pieces, count, few, whole, repeats⟩ := later
  refine ⟨piece :: pieces, count, few, by rw [List.flatten_cons, List.append_assoc, whole], ?_⟩
  rw [List.append_assoc]
  have positive := List.length_pos_iff.mpr nonempty
  exact .step read (by simp only [List.length_append]; omega) repeats

theorem read (pieceByPiece : PieceByPiece scan quote rest written text)
    (stops : rest.head? ≠ some quote) :
    (do
      let pieces ← Scan.many scan
      let last ← closing quote
      return pieces.flatten ++ last : Scan (List Char))
      (written ++ quote :: quote :: quote :: rest) = some (text, rest) := by
  obtain ⟨pieces, count, few, rfl, repeats⟩ := pieceByPiece
  rw [Scan.bind_of_some (Scan.many_of_repeats repeats),
    Scan.bind_of_some (closing_append few stops), Scan.pure_apply]

end PieceByPiece

/-- The first characters that satisfy a test, and a rest that begins with none. -/
theorem exists_run (test : Char → Bool) (text : List Char) :
    ∃ run rest, text = run ++ rest ∧ (∀ c ∈ run, test c = true) ∧
      (∀ c ∈ rest.head?, test c = false) ∧ (∀ c ∈ text.head?, test c = true → run ≠ []) := by
  refine ⟨text.takeWhile test, text.dropWhile test, List.takeWhile_append_dropWhile.symm,
    fun c => List.mem_takeWhile_imp, ?_, ?_⟩
  · intro c here
    have stopped := List.head?_dropWhile_not test text
    rw [here] at stopped
    simpa using stopped
  · intro c here passes
    cases text with
    | nil => simp at here
    | cons d text =>
        obtain rfl : d = c := by simpa using here
        simp [passes]

theorem head?_basicBody_ne {c : Char} (noQuote : c ≠ '"') (text rest : List Char) :
    (basicBody true 2 (c :: text) 0 ++ rest).head? ≠ some '"' := by
  rw [basicBody, if_neg noQuote]
  rcases escaped_cases true noQuote with ⟨itself, -⟩ | ⟨line, -, -⟩ |
    ⟨mark, tail, written, -, -, -, -⟩
  · simpa [itself] using noQuote
  · simp [line]
  · simp [written]

section

variable {text rest : List Char}

/-- The third quote in a row is written with a backslash. -/
theorem pieceByPiece_threeQuotes
    (later : PieceByPiece basicPiece '"' rest (basicBody true 2 text 0) text) :
    PieceByPiece basicPiece '"' rest (basicBody true 2 ('"' :: '"' :: '"' :: text) 0)
      ('"' :: '"' :: '"' :: text) := by
  have third := later.step ['\\', '"'] ['"'] (by simp)
    (basicPiece_escape rfl (by decide) (by decide) (escape_quote _))
  exact third.step ['"', '"'] ['"', '"'] (by simp)
    (basicPiece_quotes 2 (by decide) (by decide) (by simp))

theorem pieceByPiece_oneQuote {c : Char} (noQuote : c ≠ '"')
    (later : PieceByPiece basicPiece '"' rest (basicBody true 2 (c :: text) 0) (c :: text)) :
    PieceByPiece basicPiece '"' rest (basicBody true 2 ('"' :: c :: text) 0)
      ('"' :: c :: text) := by
  have written : basicBody true 2 ('"' :: c :: text) 0 = '"' :: basicBody true 2 (c :: text) 0 := by
    rw [basicBody, if_pos rfl, if_pos (by decide), basicBody_of_ne noQuote]
  rw [written]
  exact later.step ['"'] ['"'] (by simp)
    (basicPiece_quotes 1 (by decide) (by decide) (head?_basicBody_ne noQuote _ _))

theorem pieceByPiece_twoQuotes {c : Char} (noQuote : c ≠ '"')
    (later : PieceByPiece basicPiece '"' rest (basicBody true 2 (c :: text) 0) (c :: text)) :
    PieceByPiece basicPiece '"' rest (basicBody true 2 ('"' :: '"' :: c :: text) 0)
      ('"' :: '"' :: c :: text) := by
  have written : basicBody true 2 ('"' :: '"' :: c :: text) 0 =
      '"' :: '"' :: basicBody true 2 (c :: text) 0 := by
    rw [basicBody, if_pos rfl, if_pos (by decide), basicBody, if_pos rfl, if_pos (by decide),
      basicBody_of_ne noQuote]
  rw [written]
  exact later.step ['"', '"'] ['"', '"'] (by simp)
    (basicPiece_quotes 2 (by decide) (by decide) (head?_basicBody_ne noQuote _ _))

/-- A text that begins with a quote, when all shorter texts are read. -/
theorem pieceByPiece_quote (stops : rest.head? ≠ some '"')
    (shorter : ∀ later : List Char, later.length ≤ text.length →
      PieceByPiece basicPiece '"' rest (basicBody true 2 later 0) later) :
    PieceByPiece basicPiece '"' rest (basicBody true 2 ('"' :: text) 0) ('"' :: text) := by
  match text with
  | [] => exact .stop (by decide : 1 ≤ 2) (basicPiece_closing 1 stops)
  | c :: text =>
      by_cases quote : c = '"'
      · subst quote
        match text with
        | [] => exact .stop (by decide : 2 ≤ 2) (basicPiece_closing 2 stops)
        | d :: text =>
            by_cases third : d = '"'
            · subst third
              exact pieceByPiece_threeQuotes (shorter text (by simp; omega))
            · exact pieceByPiece_twoQuotes third (shorter (d :: text) (by simp))
      · exact pieceByPiece_oneQuote quote (shorter (c :: text) (by simp))

/-- A text that begins with another character, when all shorter texts are read. -/
theorem pieceByPiece_other {c : Char} (noQuote : c ≠ '"')
    (shorter : ∀ later : List Char, later.length ≤ text.length →
      PieceByPiece basicPiece '"' rest (basicBody true 2 later 0) later) :
    PieceByPiece basicPiece '"' rest (basicBody true 2 (c :: text) 0) (c :: text) := by
  rcases escaped_cases true noQuote with ⟨itself, basic⟩ | ⟨written, rfl, -⟩ |
    ⟨mark, tail, written, visible, noLine, noReturn, read⟩
  · -- The scan takes the whole run of characters that stand for themselves.
    have self : isSelf c = true := by simp [isSelf, itself, basic]
    obtain ⟨run, after, split, selves, ends, nonempty⟩ := exists_run isSelf (c :: text)
    have filled : run ≠ [] := nonempty c rfl self
    have fewer : after.length ≤ text.length := by
      have lengths := congrArg List.length split
      have positive := List.length_pos_iff.mpr filled
      simp only [List.length_cons, List.length_append] at lengths
      omega
    have basics : ∀ d ∈ run, isBasic d = true := fun d member => by
      have selfD := selves d member
      simp only [isSelf, Bool.and_eq_true] at selfD
      exact selfD.1
    rw [split, basicBody_append selves]
    exact (shorter after fewer).step run run filled
      (basicPiece_run filled basics (head?_basicBody ends))
  · exact (shorter text (Nat.le_refl _)).step ['\n'] ['\n'] (by simp) (basicPiece_line _)
  · have later := shorter text (Nat.le_refl _)
    rw [basicBody, if_neg noQuote, written]
    exact later.step _ [c] (by simp) (basicPiece_escape visible noLine noReturn (read _))

end

/-- What is written between double quotes is read as the text. -/
theorem pieceByPiece_basicBody (text : List Char) {rest : List Char}
    (stops : rest.head? ≠ some '"') :
    PieceByPiece basicPiece '"' rest (basicBody true 2 text 0) text := by
  induction size : text.length using Nat.strongRecOn generalizing text with
  | ind n ih =>
      subst size
      cases text with
      | nil => exact .stop (Nat.zero_le 2) (basicPiece_closing 0 stops)
      | cons c text =>
          have shorter (later : List Char) (fewer : later.length ≤ text.length) :=
            ih later.length (Nat.lt_succ_of_le fewer) later rfl
          by_cases quote : c = '"'
          · subst quote
            exact pieceByPiece_quote stops shorter
          · exact pieceByPiece_other quote shorter

/-! ## Pieces between single quotes -/

section LongestRun

variable {c : Char} {text : List Char}

theorem le_longestRun_go (text : List Char) (current longest : Nat) :
    max current longest ≤ longestRun.go c text current longest := by
  induction text generalizing current longest with
  | nil => exact Nat.le_refl _
  | cons d text ih =>
      unfold longestRun.go
      split_ifs
      · exact Nat.le_trans (by omega) (ih (current + 1) longest)
      · exact Nat.le_trans (by omega) (ih 0 (max current longest))

theorem longestRun_go_mono (text : List Char) {current current' longest longest' : Nat}
    (run : current ≤ current') (seen : longest ≤ longest') :
    longestRun.go c text current longest ≤ longestRun.go c text current' longest' := by
  induction text generalizing current current' longest longest' with
  | nil =>
      simp only [longestRun.go]
      omega
  | cons d text ih =>
      unfold longestRun.go
      split_ifs
      · exact ih (by omega) seen
      · exact ih (Nat.le_refl 0) (by omega)

theorem longestRun_cons_le (d : Char) (text : List Char) :
    longestRun c text ≤ longestRun c (d :: text) := by
  unfold longestRun
  rw [longestRun.go.eq_2]
  split_ifs
  · exact longestRun_go_mono text (Nat.zero_le _) (Nat.le_refl _)
  · exact longestRun_go_mono text (Nat.le_refl _) (Nat.zero_le _)

theorem longestRun_append_le (front text : List Char) :
    longestRun c text ≤ longestRun c (front ++ text) := by
  induction front with
  | nil => exact Nat.le_refl _
  | cons d front ih => exact Nat.le_trans ih (longestRun_cons_le d _)

theorem longestRun_go_replicate (count : Nat) (text : List Char) (current longest : Nat) :
    longestRun.go c (List.replicate count c ++ text) current longest =
      longestRun.go c text (current + count) longest := by
  induction count generalizing current with
  | zero => rfl
  | succ count ih =>
      rw [List.replicate_succ, List.cons_append, longestRun.go, if_pos rfl, ih]
      congr 1
      omega

theorem le_longestRun_replicate (count : Nat) (text : List Char) :
    count ≤ longestRun c (List.replicate count c ++ text) := by
  rw [longestRun, longestRun_go_replicate]
  exact Nat.le_trans (by omega) (le_longestRun_go text (0 + count) 0)

theorem not_mem_of_longestRun (absent : longestRun c text = 0) : c ∉ text := by
  intro member
  obtain ⟨front, back, rfl⟩ := List.append_of_mem member
  have atLeast : 1 ≤ longestRun c (front ++ (List.replicate 1 c ++ back)) :=
    Nat.le_trans (le_longestRun_replicate 1 back) (longestRun_append_le front _)
  simp only [List.replicate_one, List.singleton_append] at atLeast
  omega

end LongestRun

/-- One piece of a text of many lines between single quotes. -/
def literalPiece : Scan (List Char) :=
  Scan.someRun isLiteral <|> innerLineEnd <|> innerQuotes '\''

theorem literalLines_eq : literalLines = (do
    Scan.word "'''"
    let _ ← Scan.option lineEnd
    let pieces ← Scan.many literalPiece
    let last ← closing '\''
    return pieces.flatten ++ last) := rfl

theorem literalPiece_run {run rest : List Char} (nonempty : run ≠ [])
    (literal : ∀ c ∈ run, isLiteral c = true) (stops : ∀ c ∈ rest.head?, isLiteral c = false) :
    literalPiece (run ++ rest) = some (run, rest) :=
  Scan.orElse_of_some (Scan.someRun_append nonempty literal stops) _

theorem literalPiece_line (rest : List Char) :
    literalPiece ('\n' :: rest) = some (['\n'], rest) := rfl

theorem literalPiece_quotes (count : Nat) {rest : List Char} (positive : 0 < count)
    (few : count ≤ 2) (stops : rest.head? ≠ some '\'') :
    literalPiece (List.replicate count '\'' ++ rest) =
      some (List.replicate count '\'', rest) := by
  obtain ⟨less, rfl⟩ : ∃ less, count = less + 1 := ⟨count - 1, by omega⟩
  have read := innerQuotes_append positive few stops
  rw [List.replicate_succ, List.cons_append] at read ⊢
  rw [literalPiece, Scan.orElse_of_none rfl, Scan.orElse_of_none rfl]
  exact read

theorem literalPiece_closing (count : Nat) {rest : List Char} (stops : rest.head? ≠ some '\'') :
    literalPiece (List.replicate count '\'' ++ '\'' :: '\'' :: '\'' :: rest) = none := by
  have fails := innerQuotes_closing count stops
  rw [quotes_append_closing, List.replicate_succ, List.cons_append] at fails ⊢
  rw [literalPiece, Scan.orElse_of_none rfl, Scan.orElse_of_none rfl]
  exact fails

theorem isLiteral_or {c : Char} (clear : needsEscape c = false) :
    c = '\n' ∨ c = '\'' ∨ isLiteral c = true := by
  by_cases line : c = '\n'
  · exact Or.inl line
  · by_cases quote : c = '\''
    · exact Or.inr (Or.inl quote)
    · exact Or.inr (Or.inr (by simp [isLiteral, isPlain_of_not_needsEscape clear line, quote]))

section

variable {text rest : List Char}

/-- A text that begins with quotes, when what is left after them is read. -/
theorem pieceByPiece_quotes (count : Nat) (positive : 0 < count) (few : count ≤ 2)
    (stops : rest.head? ≠ some '\'') (ends : text.head? ≠ some '\'')
    (later : PieceByPiece literalPiece '\'' rest text text) :
    PieceByPiece literalPiece '\'' rest (List.replicate count '\'' ++ text)
      (List.replicate count '\'' ++ text) := by
  cases text with
  | nil =>
      rw [List.append_nil]
      exact .stop few (literalPiece_closing count stops)
  | cons c text =>
      exact later.step _ _ (by simp; omega) (literalPiece_quotes count positive few ends)

/-- What is written between single quotes is read as the text. -/
theorem pieceByPiece_literal (stops : rest.head? ≠ some '\'')
    (clear : ∀ c ∈ text, needsEscape c = false) (few : longestRun '\'' text ≤ 2) :
    PieceByPiece literalPiece '\'' rest text text := by
  induction size : text.length using Nat.strongRecOn generalizing text with
  | ind n ih =>
      subst size
      have shorter (front : List Char) {later : List Char} (split : text = front ++ later)
          (nonempty : front ≠ []) : PieceByPiece literalPiece '\'' rest later later := by
        subst split
        have positive := List.length_pos_iff.mpr nonempty
        exact ih later.length (by simp only [List.length_append]; omega)
          (fun c member => clear c (List.mem_append_right front member))
          (Nat.le_trans (longestRun_append_le front later) few) rfl
      cases first : text with
      | nil => exact .stop (Nat.zero_le 2) (literalPiece_closing 0 stops)
      | cons c later =>
          rw [← first]
          have here : c ∈ text.head? := by simp [first]
          rcases isLiteral_or (clear c (by simp [first])) with rfl | rfl | literal
          · rw [first]
            exact (shorter ['\n'] first (by simp)).step ['\n'] ['\n'] (by simp)
              (literalPiece_line _)
          · obtain ⟨quotes, after, split, same, ends, nonempty⟩ := exists_run (· == '\'') text
            have filled : quotes ≠ [] := nonempty '\'' here rfl
            have others := shorter _ split filled
            have written : quotes = List.replicate quotes.length '\'' :=
              List.eq_replicate_of_mem fun d member => by simpa using same d member
            rw [written] at split
            have atMost : quotes.length ≤ 2 :=
              Nat.le_trans (split ▸ le_longestRun_replicate quotes.length after) few
            rw [split]
            exact pieceByPiece_quotes quotes.length (List.length_pos_iff.mpr filled) atMost stops
              (fun quote => by simpa using ends '\'' quote) others
          · obtain ⟨run, after, split, literals, ends, nonempty⟩ := exists_run isLiteral text
            have filled : run ≠ [] := nonempty c here literal
            have others := shorter _ split filled
            rw [split]
            exact others.step run run filled (literalPiece_run filled literals (by
              intro d first
              cases after with
              | nil =>
                  obtain rfl : '\'' = d := by simpa using first
                  rfl
              | cons e after => exact ends d first))

end

/-! ## Whole texts -/

theorem toList_threeDouble : "\"\"\"".toList = ['"', '"', '"'] := rfl

theorem toList_threeSingle : "'''".toList = ['\'', '\'', '\''] := rfl

/-- A line end at the beginning of a text of many lines is none of the text. -/
theorem option_lineEnd_opening (text : List Char) {written : List Char}
    (clear : '\n' ∉ text → written.head? ≠ some '\n' ∧ written.head? ≠ some '\r') :
    ∃ found, Scan.option lineEnd (opening text ++ written) = some (found, written) := by
  by_cases lines : '\n' ∈ text
  · refine ⟨some (), ?_⟩
    simp only [opening, List.contains_iff_mem, lines, if_true]
    exact Scan.option_of_some rfl
  · refine ⟨none, ?_⟩
    simp only [opening, List.contains_iff_mem, lines, if_false]
    exact Scan.option_of_none (lineEnd_of_head? (clear lines).1 (clear lines).2)

theorem head?_basicBody_noLine {text : List Char} (noLine : '\n' ∉ text) (rest : List Char) :
    (basicBody true 2 text 0 ++ '"' :: rest).head? ≠ some '\n' ∧
      (basicBody true 2 text 0 ++ '"' :: rest).head? ≠ some '\r' := by
  cases text with
  | nil => exact ⟨by simp [basicBody], by simp [basicBody]⟩
  | cons c text =>
      by_cases quote : c = '"'
      · subst quote
        exact ⟨by simp [basicBody], by simp [basicBody]⟩
      · have other : c ≠ '\n' := fun line => noLine (by simp [line])
        rw [basicBody, if_neg quote]
        rcases escaped_cases true quote with ⟨itself, basic⟩ | ⟨-, line, -⟩ |
          ⟨mark, tail, written, -, -, -, -⟩
        · have noReturn : c ≠ '\r' := by
            rintro rfl
            exact absurd basic (by decide)
          simp [itself, other, noReturn]
        · exact absurd line other
        · simp [written]

theorem basicLines_spell (text : List Char) {rest : List Char} (stops : rest.head? ≠ some '"') :
    basicLines (spell .basicLines text ++ rest) = some (text, rest) := by
  have written : spell .basicLines text ++ rest = "\"\"\"".toList ++
      (opening text ++ (basicBody true 2 text 0 ++ '"' :: '"' :: '"' :: rest)) := by
    simp [spell, opening, toList_threeDouble]
  obtain ⟨found, opened⟩ := option_lineEnd_opening text
    (fun noLine => head?_basicBody_noLine noLine ('"' :: '"' :: rest))
  rw [written, basicLines_eq, Scan.bind_of_some (Scan.word_append _ _), Scan.bind_of_some opened]
  exact (pieceByPiece_basicBody text stops).read stops

theorem head?_literal_noLine {text : List Char} (clear : ∀ c ∈ text, needsEscape c = false)
    (noLine : '\n' ∉ text) (rest : List Char) :
    (text ++ '\'' :: rest).head? ≠ some '\n' ∧ (text ++ '\'' :: rest).head? ≠ some '\r' := by
  cases text with
  | nil => exact ⟨by simp, by simp⟩
  | cons c text =>
      have other : c ≠ '\n' := fun line => noLine (by simp [line])
      have noReturn : c ≠ '\r' := by
        rintro rfl
        exact absurd (clear _ List.mem_cons_self) (by decide)
      simp [other, noReturn]

theorem literalLines_spell {text rest : List Char} (stops : rest.head? ≠ some '\'')
    (clear : ∀ c ∈ text, needsEscape c = false) (few : longestRun '\'' text ≤ 2) :
    literalLines (spell .literalLines text ++ rest) = some (text, rest) := by
  have written : spell .literalLines text ++ rest = "'''".toList ++
      (opening text ++ (text ++ '\'' :: '\'' :: '\'' :: rest)) := by
    simp [spell, opening, toList_threeSingle]
  obtain ⟨found, opened⟩ := option_lineEnd_opening text
    (fun noLine => head?_literal_noLine clear noLine ('\'' :: '\'' :: rest))
  rw [written, literalLines_eq, Scan.bind_of_some (Scan.word_append _ _),
    Scan.bind_of_some opened]
  exact (pieceByPiece_literal stops clear few).read stops

end DevicePanel.Toml
