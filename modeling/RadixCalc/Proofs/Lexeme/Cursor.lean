import RadixCalc.Proofs.Lexeme.Layout
import RadixCalc.Proofs.Lexeme.Trimming

/-!
Scanning by index. Here the scan is a loop over the indexes of a text, which
looks at one character at a time and keeps in mind whether a sign may come and
whether one has just been passed. A look at an index where the text has no
character ends it without a result, and so does a cut outside the text. With
one space behind the text this does not happen, and the loop finds what the scan
finds, each lexeme at its place.
-/

namespace RadixCalc

namespace Scan

/-- The index behind a run of characters. -/
def runEnd (keep : Char → Bool) (text : List Char) (index : Nat) : Option Nat :=
  if index < text.length then do
    let char ← text[index]?
    if keep char then runEnd keep text (index + 1) else some index
  else some index
termination_by text.length - index

/-- The characters from one index up to another; none if either lies outside the text. -/
def slice (text : List Char) (first last : Nat) : Option (List Char) :=
  if first ≤ last ∧ last ≤ text.length then some ((text.drop first).take (last - first))
  else none

/-- Whether a decimal digit stands at an index, which may be the end of the text. -/
def decimalAt (text : List Char) (index : Nat) : Option Bool :=
  if index < text.length then (text[index]?).map isDecimal else some false

/-- Where the loop stands: at an index, where a sign may stand or not, and behind a sign or not. -/
structure Cursor where
  index : Nat
  signAllowed : Bool
  negative : Bool

def Cursor.start : Cursor :=
  { index := 0, signAllowed := true, negative := false }

/-- What one turn of the loop comes to. -/
inductive Move where
  | passes (next : Cursor)
  | finds (place : Nat) (lexeme : Lexeme) (next : Cursor)
  | stops (fault : Fault)

def Move.next? : Move → Option Cursor
  | passes next => some next
  | finds _ _ next => some next
  | stops _ => none

def moveLiteral (text : List Char) (cursor : Cursor) : Option Move := do
  let last ← runEnd isLiteralChar text cursor.index
  let digits ← slice text cursor.index last
  pure (.finds cursor.index (.literal (String.ofList digits) cursor.negative)
    ⟨last, false, false⟩)

def moveName (text : List Char) (cursor : Cursor) : Option Move := do
  let last ← runEnd isNameChar text cursor.index
  let name ← slice text cursor.index last
  -- The only look that does not ask first whether the text goes on.
  let behind ← text[last]?
  if behind = '(' then
    match Bracket.closingIndex text last with
    | some closing => do
        let argument ← slice text (last + 1) closing
        pure (.finds cursor.index (.call (String.ofList name) argument)
          ⟨closing + 1, false, cursor.negative⟩)
    | none => pure (.stops .unmatchedBracket)
  else pure (.finds cursor.index (.name (String.ofList name)) ⟨last, false, cursor.negative⟩)

/-- One turn of the loop; none if it uses an index outside the text. -/
def move (text : List Char) (cursor : Cursor) : Option Move := do
  let char ← text[cursor.index]?
  if isSpacing char then pure (.passes { cursor with index := cursor.index + 1 })
  else do
    let signs ←
      if char = '-' && cursor.signAllowed then decimalAt text (cursor.index + 1) else pure false
    if signs then pure (.passes ⟨cursor.index + 1, false, true⟩)
    else if isDecimal char then moveLiteral text cursor
    else if char = ')' then
      pure (.finds cursor.index .close ⟨cursor.index + 1, false, cursor.negative⟩)
    else if isNameStart char then moveName text cursor
    else
      match operatorOfChar? char with
      | some operator =>
          pure (.finds cursor.index (.operator operator)
            ⟨cursor.index + 1, true, cursor.negative⟩)
      | none => pure (.stops (.unknownToken char))

variable {text rest later : List Char} {char : Char} {index : Nat} {signAllowed signNext : Bool}
  {cursor : Cursor} {lexeme : Lexeme} {fault : Fault}

section Looking

theorem run_end_eq (keep : Char → Bool) (text : List Char) (index : Nat) :
    runEnd keep text index = some (index + ((text.drop index).takeWhile keep).length) := by
  fun_induction runEnd keep text index with
  | case1 index inside induction =>
      have looked := List.getElem?_eq_getElem inside
      rw [looked, view_of_look looked]
      change (if keep text[index] then _ else _) = _
      split
      · rename_i kept
        rw [induction, List.takeWhile_cons_of_pos kept, List.length_cons]
        congr 1
        omega
      · rename_i unkept
        rw [List.takeWhile_cons_of_neg unkept]
        rfl
  | case2 index outside =>
      rw [List.drop_eq_nil_of_le (Nat.le_of_not_lt outside)]
      rfl

theorem drop_of_view {part behind : List Char} (view : text.drop index = part ++ behind) :
    text.drop (index + part.length) = behind := by
  rw [← List.drop_drop, view]
  exact List.drop_left

theorem slice_of_view {part behind : List Char} (inside : index ≤ text.length)
    (view : text.drop index = part ++ behind) :
    slice text index (index + part.length) = some part := by
  have long := congrArg List.length view
  rw [List.length_drop, List.length_append] at long
  rw [slice, if_pos (by omega), Nat.add_sub_cancel_left, view, List.take_left]

theorem decimal_at_eq (text : List Char) (index : Nat) :
    decimalAt text index = some (startsDecimal (text.drop index)) := by
  unfold decimalAt
  split
  · rename_i inside
    have looked := List.getElem?_eq_getElem inside
    rw [looked, view_of_look looked]
    rfl
  · rename_i outside
    rw [List.drop_eq_nil_of_le (Nat.le_of_not_lt outside)]
    rfl

end Looking

section Moving

/-- The looks of a turn at what stands at its index. -/
theorem move_eq (cursor : Cursor) (view : text.drop cursor.index = char :: rest) :
    move text cursor =
      if isSpacing char then some (.passes { cursor with index := cursor.index + 1 })
      else if char = '-' && cursor.signAllowed && startsDecimal rest then
        some (.passes ⟨cursor.index + 1, false, true⟩)
      else if isDecimal char then moveLiteral text cursor
      else if char = ')' then
        some (.finds cursor.index .close ⟨cursor.index + 1, false, cursor.negative⟩)
      else if isNameStart char then moveName text cursor
      else
        match operatorOfChar? char with
        | some operator =>
            some (.finds cursor.index (.operator operator)
              ⟨cursor.index + 1, true, cursor.negative⟩)
        | none => some (.stops (.unknownToken char)) := by
  obtain ⟨looked, -, behind⟩ := look_of_view view
  rw [move, looked]
  change (if isSpacing char then _ else _) = _
  split
  · rfl
  · rw [decimal_at_eq, behind]
    cases char = '-' && cursor.signAllowed <;> rfl

theorem run_of_view {keep : Char → Bool} (view : text.drop index = char :: rest)
    (kept : keep char = true) :
    let run := char :: rest.takeWhile keep
    runEnd keep text index = some (index + run.length) ∧
      slice text index (index + run.length) = some run ∧
      text.drop (index + run.length) = rest.dropWhile keep := by
  intro run
  obtain ⟨-, inside, -⟩ := look_of_view view
  have parts : text.drop index = run ++ rest.dropWhile keep := by
    rw [view, List.cons_append, List.takeWhile_append_dropWhile]
  refine ⟨?_, slice_of_view (Nat.le_of_lt inside) parts, drop_of_view parts⟩
  rw [run_end_eq, view, List.takeWhile_cons_of_pos kept]

theorem move_literal_eq (cursor : Cursor) (view : text.drop cursor.index = char :: rest)
    (decimal : isDecimal char = true) :
    moveLiteral text cursor =
      some (.finds cursor.index
        (.literal (String.ofList (char :: rest.takeWhile isLiteralChar)) cursor.negative)
        ⟨cursor.index + (char :: rest.takeWhile isLiteralChar).length, false, false⟩) := by
  obtain ⟨ends, same, -⟩ := run_of_view view (literal_char_of_decimal decimal)
  rw [moveLiteral, ends]
  change (slice _ _ _).bind _ = _
  rw [same]
  rfl

theorem closing_index_of_view (view : text.drop index = '(' :: rest) :
    Bracket.closingIndex text index =
      (Bracket.splitAtClosing rest).map fun parts => index + 1 + parts.1.length := by
  rw [Bracket.closingIndex, view, Bracket.closingOffset, if_neg (by decide)]
  change ((Bracket.closingOffset 1 rest).map (· + 1)).map (· + index) = _
  cases split : Bracket.splitAtClosing rest with
  | none =>
      rw [Option.map_eq_none_iff.mp split]
      rfl
  | some parts =>
      obtain ⟨paired, whole⟩ := Bracket.split_at_closing_paired split
      rw [whole, Bracket.closing_offset_behind paired.balanced]
      simp only [Option.map_some]
      congr 1
      omega

/-- The look behind a name: at a bracket the call is cut out, at its closing bracket. -/
theorem move_name_eq {behind : Char} (cursor : Cursor)
    (view : text.drop cursor.index = char :: rest) (start : isNameStart char = true)
    (after : rest.dropWhile isNameChar = behind :: later) :
    moveName text cursor =
      if behind = '(' then
        match Bracket.splitAtClosing later with
        | some (argument, _) =>
            some (.finds cursor.index
              (.call (String.ofList (char :: rest.takeWhile isNameChar)) argument)
              ⟨cursor.index + (char :: rest.takeWhile isNameChar).length + 1 +
                  argument.length + 1,
                false, cursor.negative⟩)
        | none => some (.stops .unmatchedBracket)
      else
        some (.finds cursor.index (.name (String.ofList (char :: rest.takeWhile isNameChar)))
          ⟨cursor.index + (char :: rest.takeWhile isNameChar).length, false,
            cursor.negative⟩) := by
  obtain ⟨ends, same, further⟩ := run_of_view view (name_char_of_start start)
  rw [after] at further
  obtain ⟨looked, inside, inner⟩ := look_of_view further
  rw [moveName, ends]
  change ((slice _ _ _).bind fun name => (text[_]?).bind _) = _
  rw [same, looked]
  change (if behind = '(' then _ else _) = _
  split
  · rename_i opens
    subst opens
    rw [closing_index_of_view further]
    cases split : Bracket.splitAtClosing later with
    | none => rfl
    | some parts =>
        rw [(Bracket.split_at_closing_paired split).2] at inner
        have argument := slice_of_view inside inner
        change (slice text _ _).bind _ = _
        rw [argument]
        rfl
  · rfl

theorem move_of_decimal (cursor : Cursor) (view : text.drop cursor.index = char :: rest)
    (decimal : isDecimal char = true) : move text cursor = moveLiteral text cursor := by
  have notSpacing := not_spacing_of_class decimal (by decide)
  have notMinus : char ≠ '-' := ne_of_class decimal (by decide)
  simp [move_eq cursor view, notSpacing, notMinus, decimal]

theorem move_of_name_start (cursor : Cursor) (view : text.drop cursor.index = char :: rest)
    (start : isNameStart char = true) : move text cursor = moveName text cursor := by
  have notSpacing := not_spacing_of_class start (by decide)
  have notMinus : char ≠ '-' := ne_of_class start (by decide)
  have notClosing : char ≠ ')' := ne_of_class start (by decide)
  simp [move_eq cursor view, notSpacing, notMinus, notClosing,
    not_decimal_of_name_start start, start]

theorem move_name_advances {moved : Move} {next : Cursor}
    (view : text.drop cursor.index = char :: rest) (start : isNameStart char = true)
    (turned : moveName text cursor = some moved) (further : moved.next? = some next) :
    cursor.index < next.index := by
  obtain ⟨ends, same, behindName⟩ := run_of_view view (name_char_of_start start)
  cases after : rest.dropWhile isNameChar with
  | nil =>
      rw [after] at behindName
      have outside := List.getElem?_eq_none (List.drop_eq_nil_iff.mp behindName)
      rw [moveName, ends] at turned
      change ((slice _ _ _).bind fun name => (text[_]?).bind _) = _ at turned
      rw [same, outside] at turned
      cases turned
  | cons behind later =>
      rw [move_name_eq cursor view start after] at turned
      split at turned
      · split at turned
        · cases turned
          cases further
          simp only [List.length_cons]
          omega
        · cases turned
          cases further
      · cases turned
        cases further
        simp

/-- Each turn gets further along the text. -/
theorem move_advances {moved : Move} {next : Cursor} (turned : move text cursor = some moved)
    (further : moved.next? = some next) : cursor.index < next.index := by
  obtain ⟨char, looked, -⟩ := Option.bind_eq_some_iff.mp turned
  have view := view_of_look looked
  rw [move_eq cursor view] at turned
  split at turned
  · cases turned
    cases further
    exact Nat.lt_succ_self _
  · split at turned
    · cases turned
      cases further
      exact Nat.lt_succ_self _
    · split at turned
      · rename_i decimal
        rw [move_literal_eq cursor view decimal] at turned
        cases turned
        cases further
        simp
      · split at turned
        · cases turned
          cases further
          exact Nat.lt_succ_self _
        · split at turned
          · rename_i start
            exact move_name_advances view start turned further
          · split at turned
            · cases turned
              cases further
              exact Nat.lt_succ_self _
            · cases turned
              cases further

end Moving

/-- What the loop has found when it ends: each lexeme with the index of its first character, of a
literal that of its first digit. -/
structure Walk where
  found : List (Nat × Lexeme)
  fault : Option Fault

namespace Walk

def cons (place : Nat) (lexeme : Lexeme) (walked : Walk) : Walk :=
  { walked with found := (place, lexeme) :: walked.found }

/-- The same without the places. -/
def scan (walked : Walk) : Scan :=
  { lexemes := walked.found.map Prod.snd, fault := walked.fault }

end Walk

/-- The loop from a cursor on; none if a turn uses an index outside the text. -/
def walk (text : List Char) (cursor : Cursor) : Option Walk :=
  if cursor.index < text.length then
    match _ : move text cursor with
    | none => none
    | some (.passes next) => walk text next
    | some (.finds place lexeme next) => (walk text next).map (Walk.cons place lexeme)
    | some (.stops fault) => some { found := [], fault := some fault }
  else some { found := [], fault := none }
termination_by text.length - cursor.index
decreasing_by
  · have further := move_advances ‹move text cursor = _› rfl
    omega
  · have further := move_advances ‹move text cursor = _› rfl
    omega

section Walking

variable {next : Cursor} {place : Nat}

theorem walk_end (outside : text.length ≤ cursor.index) :
    walk text cursor = some { found := [], fault := none } := by
  rw [walk, if_neg (Nat.not_lt.mpr outside)]

theorem walk_passes (inside : cursor.index < text.length)
    (turned : move text cursor = some (.passes next)) : walk text cursor = walk text next := by
  rw [walk, if_pos inside]
  split <;> simp_all

theorem walk_finds (inside : cursor.index < text.length)
    (turned : move text cursor = some (.finds place lexeme next)) :
    walk text cursor = (walk text next).map (Walk.cons place lexeme) := by
  rw [walk, if_pos inside]
  split <;> simp_all

theorem walk_stops (inside : cursor.index < text.length)
    (turned : move text cursor = some (.stops fault)) :
    walk text cursor = some { found := [], fault := some fault } := by
  rw [walk, if_pos inside]
  split <;> simp_all

end Walking

/-- The text with one space behind it, which ends every run. -/
def padded (text : List Char) : List Char :=
  text ++ [' ']

section Padded

theorem name_ends (view : (padded text).drop index = char :: rest)
    (start : isNameStart char = true) :
    ∃ behind later, rest.dropWhile isNameChar = behind :: later := by
  have solid : char ≠ ' ' := ne_of_class start (by decide)
  have spaced : ' ' ∈ char :: rest := by
    have inside := (look_of_view view).2.1
    rw [padded, List.length_append, List.length_singleton] at inside
    rw [← view, padded, List.drop_append_of_le_length (Nat.le_of_lt_succ inside)]
    simp
  have behind : ' ' ∈ rest := by simpa [Ne.symm solid] using spaced
  cases after : rest.dropWhile isNameChar with
  | nil => exact absurd (List.dropWhile_eq_nil_iff.mp after ' ' behind) (by decide)
  | cons first later => exact ⟨first, later, rfl⟩

theorem walk_spacing (view : (padded text).drop index = char :: rest)
    (blank : isSpacing char = true) :
    walk (padded text) ⟨index, signAllowed, false⟩ =
      walk (padded text) ⟨index + 1, signAllowed, false⟩ := by
  apply walk_passes (look_of_view view).2.1
  rw [move_eq ⟨index, signAllowed, false⟩ view, if_pos blank]

theorem walk_fault (view : (padded text).drop index = char :: rest)
    (stepped : step signAllowed char rest = .fault fault) :
    walk (padded text) ⟨index, signAllowed, false⟩ =
      some { found := [], fault := some fault } := by
  apply walk_stops (look_of_view view).2.1
  rcases step_fault stepped with ⟨unknown, rfl⟩ | ⟨start, rfl, inner, after, unmatched⟩
  · have notMinus : char ≠ '-' := by
      rintro rfl
      exact absurd unknown.unjoined (by decide)
    simp [move_eq ⟨index, signAllowed, false⟩ view, unknown.solid, unknown.undigit,
      unknown.unnamed, unknown.closes, unknown.unjoined, notMinus]
  · rw [move_of_name_start ⟨index, signAllowed, false⟩ view start,
      move_name_eq ⟨index, signAllowed, false⟩ view start after, if_pos rfl, unmatched]

/-- A lexeme is found in one turn, a literal with its sign in two. -/
theorem walk_found (view : (padded text).drop index = char :: rest)
    (finds : Finds signAllowed char rest lexeme signNext later) :
    walk (padded text) ⟨index, signAllowed, false⟩ =
      (walk (padded text) ⟨index + lexeme.spelling.length, signNext, false⟩).map
        (Walk.cons (index + lexeme.signLength) lexeme) := by
  obtain ⟨-, inside, behind⟩ := look_of_view view
  cases finds with
  | signed minus allowed starts =>
      subst minus allowed
      cases rest with
      | nil => cases starts
      | cons digit more =>
          have decimal : isDecimal digit = true := starts
          have first : move (padded text) ⟨index, true, false⟩ =
              some (.passes ⟨index + 1, false, true⟩) := by
            rw [move_eq ⟨index, true, false⟩ view, if_neg (by decide),
              if_pos (by simp [starts])]
          have second := move_literal_eq ⟨index + 1, false, true⟩ behind decimal
          rw [← move_of_decimal ⟨index + 1, false, true⟩ behind decimal] at second
          rw [walk_passes inside first, walk_finds (look_of_view behind).2.1 second,
            List.takeWhile_cons_of_pos (literal_char_of_decimal decimal)]
          simp [Lexeme.spelling, Lexeme.signLength, Nat.add_comm, Nat.add_left_comm]
  | literal decimal =>
      have turned := move_literal_eq ⟨index, signAllowed, false⟩ view decimal
      rw [← move_of_decimal ⟨index, signAllowed, false⟩ view decimal] at turned
      rw [walk_finds inside turned]
      simp [Lexeme.spelling, Lexeme.signLength]
  | name start plain =>
      -- Behind the name the padding is looked at, if nothing else.
      obtain ⟨first, behindName, after⟩ := name_ends view start
      have notOpening : first ≠ '(' := by
        rintro rfl
        rw [after] at plain
        exact plain rfl
      have turned := move_name_eq ⟨index, signAllowed, false⟩ view start after
      rw [← move_of_name_start ⟨index, signAllowed, false⟩ view start,
        if_neg notOpening] at turned
      rw [walk_finds inside turned]
      simp [Lexeme.spelling, Lexeme.signLength]
  | call start after split =>
      have turned := move_name_eq ⟨index, signAllowed, false⟩ view start after
      rw [← move_of_name_start ⟨index, signAllowed, false⟩ view start, if_pos rfl,
        split] at turned
      rw [walk_finds inside turned]
      simp [Lexeme.spelling, Lexeme.signLength, Nat.add_comm, Nat.add_left_comm]
  | @operator operator spelled notSign =>
      have turned : move (padded text) ⟨index, signAllowed, false⟩ =
          some (.finds index (.operator operator) ⟨index + 1, true, false⟩) := by
        simp [move_eq ⟨index, signAllowed, false⟩ view, plain_of_operator spelled,
          sign_refused notSign, spelled]
      rw [walk_finds inside turned, Lexeme.spelling, operator_spelled spelled]
      rfl
  | close closing =>
      subst closing
      have turned : move (padded text) ⟨index, signAllowed, false⟩ =
          some (.finds index .close ⟨index + 1, false, false⟩) := by
        rw [move_eq ⟨index, signAllowed, false⟩ view, if_neg (by decide), if_neg (by simp),
          if_neg (by decide), if_pos rfl]
      rw [walk_finds inside turned]
      rfl

theorem of_text_padded (signAllowed : Bool) (text : List Char) :
    ofText signAllowed (padded text) = ofText signAllowed text :=
  of_text_append_spacing text (List.forall_mem_singleton.mpr rfl)

/-- By induction on the scan: from any index on, the loop finds what the scan finds. -/
theorem walk_rest (signAllowed : Bool) (view : (padded text).drop index = rest) :
    ∃ walked, walk (padded text) ⟨index, signAllowed, false⟩ = some walked ∧
      walked.scan = ofText signAllowed rest ∧ Laid (padded text) index walked.found := by
  fun_induction ofText signAllowed rest generalizing index with
  | case1 signAllowed =>
      exact ⟨_, walk_end (List.drop_eq_nil_iff.mp view), rfl, Laid.done index⟩
  | case2 signAllowed char rest stepped induction =>
      have blank := step_spacing_iff.mp stepped
      obtain ⟨looked, -, behind⟩ := look_of_view view
      obtain ⟨walked, walks, same, laid⟩ := induction behind
      exact ⟨walked, (walk_spacing view blank).trans walks, same,
        Laid.spacing looked blank laid⟩
  | case3 signAllowed char rest lexeme signNext later within stepped induction =>
      have finds := step_finds stepped
      have spelled := view.trans finds.spelled.symm
      obtain ⟨walked, walks, same, laid⟩ := induction (drop_of_view spelled)
      refine ⟨walked.cons (index + lexeme.signLength) lexeme, ?_, ?_, ?_⟩
      · rw [walk_found view finds, walks]
        rfl
      · rw [← same]
        rfl
      · exact Laid.lexeme finds.is_spelled ⟨later, spelled.symm⟩ laid
  | case4 signAllowed char rest fault stepped =>
      exact ⟨_, walk_fault view stepped, rfl, Laid.done index⟩

/-- Over the padded text the loop never looks outside, and it finds the lexemes of the scan where
they stand. -/
theorem walk_padded (text : List Char) :
    ∃ walked, walk (padded text) Cursor.start = some walked ∧
      walked.scan = ofText true text ∧ Laid (padded text) 0 walked.found := by
  have whole : (padded text).drop 0 = padded text := rfl
  obtain ⟨walked, walks, same, laid⟩ := walk_rest true whole
  exact ⟨walked, walks, same.trans (of_text_padded true text), laid⟩

/-- Without the space the look behind a name at the end of the text is one outside it. -/
example : move ['a'] Cursor.start = none ∧
    move (padded ['a']) Cursor.start = some (.finds 0 (.name "a") ⟨1, false, false⟩) := by
  constructor <;> cbv

end Padded

end Scan

end RadixCalc
