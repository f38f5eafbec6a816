import Mathlib

/-!
# Arguments of chat commands

The parser goes over the bytes of a command with a position which all its
functions share.  An argument is quoted, a chat link from `|c` to `|r`, or
everything up to the next space.  What is quoted with each quote and backslash
escaped is read back.
-/

namespace RealmServer.Chat

abbrev CommandString := List UInt8

def space : UInt8 := 32
def doubleQuote : UInt8 := 34
def singleQuote : UInt8 := 39
def backslash : UInt8 := 92
/-- `|c` -/
def linkStart : CommandString := [124, 99]
/-- `|r` -/
def linkEnd : CommandString := [124, 114]

structure ArgumentParser where
  argString : CommandString
  position : Nat
deriving DecidableEq, Repr

/-- The `ASSERT`s of `ParseArgument`, and a loop without turns left. -/
inductive ParseFailure where
  | atEnd
  | atSpace
  | running
deriving DecidableEq, Repr

/-- An argument and the positions before and behind it, which are for the statement only. -/
structure ParsedArgument where
  value : CommandString
  start : Nat
  stop : Nat
deriving DecidableEq, Repr

namespace ArgumentParser

def length (parser : ArgumentParser) : Nat := parser.argString.length

/-- The bytes from the position on. -/
def rest (parser : ArgumentParser) : CommandString := parser.argString.drop parser.position

def moveTo (parser : ArgumentParser) (position : Nat) : ArgumentParser := { parser with position }

def skipSpaces (parser : ArgumentParser) : ArgumentParser :=
  parser.moveTo (parser.position + (parser.rest.takeWhile (· = space)).length)

/-- The loop over a quoted argument: the buffer, and the position behind the argument. -/
def parseQuoted (quoteChar : UInt8) :
    CommandString → Nat → Bool → CommandString → CommandString × Nat
  | [], position, _, buffer => (buffer, position)
  | currentChar :: later, position, escaped, buffer =>
      if escaped then
        parseQuoted quoteChar later (position + 1) false (buffer ++ [currentChar])
      else if currentChar = backslash then
        parseQuoted quoteChar later (position + 1) true buffer
      else if currentChar = quoteChar then (buffer, position + 1)
      else parseQuoted quoteChar later (position + 1) false (buffer ++ [currentChar])

/-- `find`: the first place of a pattern, from here on. -/
def findPattern (pattern : CommandString) : CommandString → Option Nat
  | [] => if pattern = [] then some 0 else none
  | first :: later =>
      if pattern.isPrefixOf (first :: later) then some 0
      else (findPattern pattern later).map (· + 1)

def parseArgument (parser : ArgumentParser) :
    Except ParseFailure (CommandString × ArgumentParser) :=
  match parser.rest with
  | [] => .error .atEnd
  | first :: later =>
      if first = space then .error .atSpace
      else if first = doubleQuote ∨ first = singleQuote then
        let parsed := parseQuoted first later (parser.position + 1) false []
        .ok (parsed.1, parser.moveTo parsed.2)
      else if linkStart.isPrefixOf (first :: later) then
        match findPattern linkEnd (first :: later) with
        | none => .ok (first :: later, parser.moveTo parser.length)
        | some offset =>
            .ok ((first :: later).take (offset + 2), parser.moveTo (parser.position + offset + 2))
      else
        let value := (first :: later).takeWhile (· ≠ space)
        .ok (value, parser.moveTo (parser.position + value.length))

/-- The loop of `ParseArguments`. -/
def parseArguments : Nat → ArgumentParser → Except ParseFailure (List ParsedArgument)
  | 0, _ => .error .running
  | turns + 1, parser =>
      if parser.position < parser.length then
        match parser.parseArgument with
        | .error failure => .error failure
        | .ok (value, next) =>
            match parseArguments turns next.skipSpaces with
            | .error failure => .error failure
            | .ok arguments => .ok (⟨value, parser.position, next.position⟩ :: arguments)
      else .ok []

def parse (turns : Nat) (argString : CommandString) :
    Except ParseFailure (List ParsedArgument) :=
  parseArguments turns (skipSpaces ⟨argString, 0⟩)

/-! ## Progress -/

variable {parser : ArgumentParser}

theorem length_rest : parser.rest.length = parser.length - parser.position :=
  List.length_drop

theorem parseQuoted_position (quoteChar : UInt8) (later : CommandString) (position : Nat)
    (escaped : Bool) (buffer : CommandString) :
    position ≤ (parseQuoted quoteChar later position escaped buffer).2 ∧
      (parseQuoted quoteChar later position escaped buffer).2 ≤ position + later.length := by
  induction later generalizing position escaped buffer with
  | nil => exact ⟨le_rfl, le_rfl⟩
  | cons currentChar rest induction =>
      rw [List.length_cons]
      unfold parseQuoted
      split_ifs
      · have next := induction (position + 1) false (buffer ++ [currentChar])
        omega
      · have next := induction (position + 1) true buffer
        omega
      · dsimp only
        omega
      · have next := induction (position + 1) false (buffer ++ [currentChar])
        omega

theorem findPattern_le {pattern text : CommandString} {offset : Nat}
    (found : findPattern pattern text = some offset) :
    pattern.isPrefixOf (text.drop offset) = true := by
  induction text generalizing offset with
  | nil =>
      unfold findPattern at found
      split_ifs at found with empty
      rw [empty, ← Option.some.inj found]
      rfl
  | cons first later induction =>
      unfold findPattern at found
      split_ifs at found with here
      · rw [← Option.some.inj found]
        exact here
      · obtain ⟨next, isNext, rfl⟩ := Option.map_eq_some_iff.mp found
        exact induction isNext

/-- An argument is parsed from every position which is not at the end and not at a space. -/
theorem parseArgument_progress {first : UInt8} {later : CommandString}
    (isRest : parser.rest = first :: later) (notSpace : first ≠ space) :
    ∃ value position, parser.parseArgument = .ok (value, parser.moveTo position) ∧
      parser.position < position ∧ position ≤ parser.length := by
  have length : parser.rest.length = parser.length - parser.position := length_rest
  rw [isRest, List.length_cons] at length
  unfold parseArgument
  rw [isRest]
  dsimp only
  rw [if_neg notSpace]
  split_ifs with quoted link
  · have bounds := parseQuoted_position first later (parser.position + 1) false []
    exact ⟨_, _, rfl, by omega, by omega⟩
  · cases found : findPattern linkEnd (first :: later) with
    | none => exact ⟨_, _, rfl, by omega, le_rfl⟩
    | some offset =>
        have isThere := List.isPrefixOf_iff_prefix.mp (findPattern_le found)
        have fits := isThere.length_le
        rw [List.length_drop, List.length_cons] at fits
        change 2 ≤ _ at fits
        exact ⟨_, _, rfl, by omega, by omega⟩
  · have some : 0 < ((first :: later).takeWhile (· ≠ space)).length := by
      rw [List.takeWhile_cons_of_pos (by simpa using notSpace)]
      exact Nat.succ_pos _
    have fits := (List.takeWhile_prefix (l := first :: later) (· ≠ space)).length_le
    rw [List.length_cons] at fits
    exact ⟨_, _, rfl, by omega, by omega⟩

theorem drop_takeWhile (passes : UInt8 → Bool) (text : CommandString) :
    text.drop (text.takeWhile passes).length = text.dropWhile passes := by
  calc
    _ = (text.takeWhile passes ++ text.dropWhile passes).drop (text.takeWhile passes).length := by
      rw [List.takeWhile_append_dropWhile]
    _ = text.dropWhile passes := List.drop_left

theorem rest_moveTo (parser : ArgumentParser) (count : Nat) :
    (parser.moveTo (parser.position + count)).rest = parser.rest.drop count := by
  unfold rest
  rw [List.drop_drop]
  rfl

/-- The position is in the string and not at a space. -/
structure AtArgument (parser : ArgumentParser) : Prop where
  inside : parser.position ≤ parser.length
  notSpace : ∀ first, parser.rest.head? = some first → first ≠ space

theorem atArgument_skipSpaces (inside : parser.position ≤ parser.length) :
    parser.skipSpaces.AtArgument := by
  have length : parser.rest.length = parser.length - parser.position := length_rest
  have fits := (List.takeWhile_prefix (l := parser.rest) (· = space)).length_le
  constructor
  · change parser.position + _ ≤ parser.length
    omega
  · intro first isFirst isSpace
    unfold skipSpaces at isFirst
    rw [rest_moveTo, drop_takeWhile] at isFirst
    have stops := List.head?_dropWhile_not (fun byte => decide (byte = space)) parser.rest
    rw [isFirst] at stops
    exact of_decide_eq_false stops isSpace

/-- Arguments one after the other, from a position to the end. -/
structure Orderly (first length : Nat) (arguments : List ParsedArgument) : Prop where
  inside : ∀ argument ∈ arguments,
    first ≤ argument.start ∧ argument.start < argument.stop ∧ argument.stop ≤ length
  ordered : arguments.Pairwise fun earlier later => earlier.stop ≤ later.start

theorem parseArguments_orderly (atArgument : parser.AtArgument) :
    ∃ arguments, (∀ turns, parser.length - parser.position < turns →
        parseArguments turns parser = .ok arguments) ∧
      Orderly parser.position parser.length arguments := by
  generalize left : parser.length - parser.position = count
  induction count using Nat.strong_induction_on generalizing parser with
  | _ count induction =>
      by_cases atEnd : parser.position < parser.length
      · have some : 0 < parser.rest.length := by
          rw [length_rest]
          omega
        obtain ⟨first, later, isRest⟩ := List.exists_cons_of_length_pos some
        have notSpace := atArgument.notSpace first (by rw [isRest]; rfl)
        obtain ⟨value, position, isParsed, further, inside⟩ :=
          parseArgument_progress isRest notSpace
        have further' : position ≤ (parser.moveTo position).skipSpaces.position :=
          Nat.le_add_right _ _
        have nextAt : (parser.moveTo position).skipSpaces.AtArgument :=
          atArgument_skipSpaces inside
        have nextInside := nextAt.inside
        change _ ≤ parser.length at nextInside
        obtain ⟨arguments, areParsed, orderly⟩ := induction
          (parser.length - (parser.moveTo position).skipSpaces.position) (by omega) nextAt rfl
        refine ⟨⟨value, parser.position, position⟩ :: arguments, ?_, ?_, ?_⟩
        · intro turns enough
          cases turns with
          | zero => omega
          | succ turns =>
              unfold parseArguments
              rw [if_pos atEnd, isParsed]
              dsimp only
              rw [areParsed turns (by omega)]
              rfl
        · rw [List.forall_mem_cons]
          refine ⟨⟨le_rfl, further, inside⟩, fun argument member => ?_⟩
          have bounds := orderly.inside argument member
          exact ⟨by omega, bounds.2.1, bounds.2.2⟩
        · rw [List.pairwise_cons]
          refine ⟨fun argument member => ?_, orderly.ordered⟩
          have bounds := orderly.inside argument member
          dsimp only
          omega
      · refine ⟨[], fun turns enough => ?_, fun _ member => absurd member List.not_mem_nil,
          List.Pairwise.nil⟩
        cases turns with
        | zero => omega
        | succ turns => exact if_neg atEnd

/-! ## Quoted arguments -/

def escape (text : CommandString) : CommandString :=
  text.flatMap fun byte =>
    if byte = backslash ∨ byte = doubleQuote then [backslash, byte] else [byte]

def quote (text : CommandString) : CommandString := doubleQuote :: (escape text ++ [doubleQuote])

/-- Quoted arguments, each with the number of spaces behind it. -/
def write (leading : Nat) (arguments : List (CommandString × Nat)) : CommandString :=
  List.replicate leading space ++
    arguments.flatMap fun argument => quote argument.1 ++ List.replicate argument.2 space

/-- What is escaped is read back up to the closing quote. -/
theorem parseQuoted_escape (text behind : CommandString) (position : Nat)
    (buffer : CommandString) :
    parseQuoted doubleQuote (escape text ++ doubleQuote :: behind) position false buffer =
      (buffer ++ text, position + (escape text).length + 1) := by
  induction text generalizing position buffer with
  | nil =>
      change parseQuoted doubleQuote (doubleQuote :: behind) position false buffer = _
      unfold parseQuoted
      rw [if_neg Bool.false_ne_true, if_neg (by decide), if_pos rfl, List.append_nil]
      rfl
  | cons byte text induction =>
      have unfolded : escape (byte :: text) =
          (if byte = backslash ∨ byte = doubleQuote then [backslash, byte] else [byte]) ++
            escape text := List.flatMap_cons
      rw [unfolded]
      split_ifs with escaped
      · change parseQuoted doubleQuote
          (backslash :: byte :: (escape text ++ doubleQuote :: behind)) position false buffer = _
        unfold parseQuoted
        rw [if_neg Bool.false_ne_true, if_pos rfl]
        unfold parseQuoted
        rw [if_pos rfl, induction, List.append_assoc, List.length_append]
        refine Prod.ext rfl ?_
        change position + 1 + 1 + (escape text).length + 1 =
          position + (2 + (escape text).length) + 1
        omega
      · have ⟨notBackslash, notQuote⟩ := not_or.mp escaped
        change parseQuoted doubleQuote
          (byte :: (escape text ++ doubleQuote :: behind)) position false buffer = _
        unfold parseQuoted
        rw [if_neg Bool.false_ne_true, if_neg notBackslash, if_neg notQuote, induction,
          List.append_assoc, List.length_append]
        refine Prod.ext rfl ?_
        change position + 1 + (escape text).length + 1 =
          position + (1 + (escape text).length) + 1
        omega

theorem parseArgument_quote {text behind : CommandString}
    (isRest : parser.rest = quote text ++ behind) :
    parser.parseArgument =
      .ok (text, parser.moveTo (parser.position + (quote text).length)) := by
  have opened : parser.rest = doubleQuote :: (escape text ++ doubleQuote :: behind) := by
    rw [isRest]
    unfold quote
    rw [List.cons_append, List.append_assoc]
    rfl
  have length : (quote text).length = 1 + (escape text).length + 1 := by
    unfold quote
    rw [List.length_cons, List.length_append, List.length_singleton]
    omega
  unfold parseArgument
  rw [opened]
  dsimp only
  rw [if_neg (by decide), if_pos (.inl rfl), parseQuoted_escape, length]
  have same : parser.position + 1 + (escape text).length + 1 =
      parser.position + (1 + (escape text).length + 1) := by omega
  rw [same]
  rfl

theorem rest_skipSpaces {count : Nat} {behind : CommandString}
    (isRest : parser.rest = List.replicate count space ++ behind)
    (notSpace : ∀ first, behind.head? = some first → first ≠ space) :
    parser.skipSpaces.rest = behind := by
  have spaces : ∀ byte ∈ List.replicate count space, decide (byte = space) = true := by
    intro byte member
    exact decide_eq_true (List.eq_of_mem_replicate member)
  have stops : behind.dropWhile (fun byte => decide (byte = space)) = behind := by
    cases behind with
    | nil => rfl
    | cons first later =>
        apply List.dropWhile_cons_of_neg
        simpa using notSpace first rfl
  unfold skipSpaces
  rw [rest_moveTo, drop_takeWhile, isRest,
    List.dropWhile_append_of_pos spaces, stops]

theorem head_quotes (arguments : List (CommandString × Nat)) (first : UInt8)
    (isFirst : (arguments.flatMap fun argument =>
      quote argument.1 ++ List.replicate argument.2 space).head? = some first) :
    first ≠ space := by
  cases arguments with
  | nil => cases isFirst
  | cons argument rest =>
      have isQuote : doubleQuote = first := Option.some.inj isFirst
      rw [← isQuote]
      decide

theorem parseArguments_quotes (arguments : List (CommandString × Nat))
    (inside : parser.position ≤ parser.length)
    (isRest : parser.rest = arguments.flatMap fun argument =>
      quote argument.1 ++ List.replicate argument.2 space)
    {turns : Nat} (enough : arguments.length < turns) :
    (parseArguments turns parser).map (fun parsed => parsed.map ParsedArgument.value) =
      .ok (arguments.map Prod.fst) := by
  induction arguments generalizing parser turns with
  | nil =>
      have length : parser.rest.length = parser.length - parser.position := length_rest
      rw [isRest] at length
      change 0 = _ at length
      cases turns with
      | zero => cases enough
      | succ turns =>
          unfold parseArguments
          rw [if_neg (by omega)]
          rfl
  | cons argument rest induction =>
      rw [List.flatMap_cons, List.append_assoc] at isRest
      cases turns with
      | zero => cases enough
      | succ turns =>
          have length : parser.rest.length = parser.length - parser.position := length_rest
          rw [isRest, List.length_append] at length
          have positive : 0 < (quote argument.1).length := Nat.succ_pos _
          have nextInside : (parser.moveTo
              (parser.position + (quote argument.1).length)).position ≤ parser.length := by
            change parser.position + (quote argument.1).length ≤ parser.length
            omega
          have nextRest : (parser.moveTo
              (parser.position + (quote argument.1).length)).skipSpaces.rest =
                rest.flatMap fun argument =>
                  quote argument.1 ++ List.replicate argument.2 space := by
            apply rest_skipSpaces _ (head_quotes rest)
            · exact argument.2
            · rw [rest_moveTo, isRest, List.drop_left]
          have next := induction (atArgument_skipSpaces nextInside).inside nextRest
            (Nat.lt_of_succ_lt_succ enough)
          unfold parseArguments
          rw [if_pos (by omega), parseArgument_quote isRest]
          dsimp only
          cases parsed : parseArguments turns
              (parser.moveTo (parser.position + (quote argument.1).length)).skipSpaces with
          | error failure =>
              rw [parsed] at next
              cases next
          | ok arguments =>
              rw [parsed] at next
              have values : arguments.map ParsedArgument.value = rest.map Prod.fst :=
                Except.ok.inj next
              change Except.ok (argument.1 :: arguments.map ParsedArgument.value) = _
              rw [values]
              rfl

theorem length_le_write (leading : Nat) (arguments : List (CommandString × Nat)) :
    arguments.length ≤ (write leading arguments).length := by
  unfold write
  rw [List.length_append]
  apply Nat.le_add_left_of_le
  induction arguments with
  | nil => exact Nat.zero_le _
  | cons argument rest induction =>
      have positive : 0 < (quote argument.1).length := Nat.succ_pos _
      rw [List.flatMap_cons, List.length_append, List.length_append, List.length_cons]
      omega

/--
Quoted arguments are parsed back whatever they contain, and every string is
parsed: neither `ASSERT` fires, and the position grows with every argument and
stays in the string.
-/
theorem parse_spec :
    (∀ (leading : Nat) (arguments : List (CommandString × Nat)) (turns : Nat),
      (write leading arguments).length < turns →
        (parse turns (write leading arguments)).map
            (fun parsed => parsed.map ParsedArgument.value) =
          .ok (arguments.map Prod.fst)) ∧
    ∀ argString : CommandString, ∃ parsed,
      (∀ turns, argString.length < turns → parse turns argString = .ok parsed) ∧
        Orderly 0 argString.length parsed := by
  constructor
  · intro leading arguments turns enough
    have atStart : (⟨write leading arguments, 0⟩ : ArgumentParser).rest =
        write leading arguments := rfl
    have skipped := rest_skipSpaces atStart (head_quotes arguments)
    have atArgument : (skipSpaces ⟨write leading arguments, 0⟩).AtArgument :=
      atArgument_skipSpaces (Nat.zero_le _)
    exact parseArguments_quotes arguments atArgument.inside skipped
      ((length_le_write leading arguments).trans_lt enough)
  · intro argString
    have atArgument : (skipSpaces ⟨argString, 0⟩).AtArgument :=
      atArgument_skipSpaces (Nat.zero_le _)
    obtain ⟨parsed, areParsed, orderly⟩ := parseArguments_orderly atArgument
    refine ⟨parsed, fun turns enough => areParsed turns ?_, ?_, orderly.ordered⟩
    · change argString.length - _ < turns
      omega
    · intro argument member
      have bounds := orderly.inside argument member
      exact ⟨Nat.zero_le _, bounds.2⟩

/-- An empty argument, one with spaces, quotes and backslashes, and a link without an end. -/
example :
    (parse 21 (write 1 [([], 2), ([32, 34, 92], 1)] ++ [124, 99, 32])).map
        (fun parsed => parsed.map ParsedArgument.value) =
      .ok [[], [32, 34, 92], [124, 99, 32]] := by
  decide

end ArgumentParser

end RealmServer.Chat
