import SqlMapper.Proofs.Rendering.Lexeme

/-!
# Rendered text reads back

This file shows that the text of a fragment reads back as the lexemes of its chunks. Each chunk is
read on its own as long as what follows it cannot go on the chunk's last lexeme. That is so when the
chunk ends in punctuation, or when the rest of the text is empty or starts with a blank or with
punctuation; `bounded_behind` shows that the rules of spacing leave no other case.
-/

namespace SqlMapper

/-- The token is read as a sign; every other one is read as a word. -/
def Token.isSign (token : Token) : Bool :=
  token.isOperator || token.isPunctuation || token == .star

namespace Lexeme

variable {quotes : Quotes}

/-- The character ends whatever lexeme stands before it. -/
def bounds (char : Char) : Bool :=
  char.isWhitespace || char == '(' || char == ')' || char == ',' || char == ';' || char == '.'

/-- The text cannot go on a lexeme before it. -/
def Bounded (text : List Char) : Prop :=
  ∀ char ∈ text.head?, bounds char = true

@[simp]
theorem tokenize_nil : tokenize quotes [] = some [] := by
  rw [tokenize]

theorem tokenize_blank {char : Char} {rest : List Char} (blank : char.isWhitespace = true) :
    tokenize quotes (char :: rest) = tokenize quotes rest := by
  rw [tokenize, if_pos blank]

theorem tokenize_of_scan {char : Char} {rest left : List Char} {lexeme : Lexeme}
    (visible : char.isWhitespace = false)
    (scanned : scan quotes (char :: rest) = some (lexeme, left)) :
    tokenize quotes (char :: rest) = (tokenize quotes left).map (lexeme :: ·) := by
  rw [tokenize, if_neg (by simp [visible])]
  split
  · next missing =>
      rw [scanned] at missing
      cases missing
  · next found foundLeft read =>
      rw [scanned] at read
      cases read
      rfl

theorem tokenize_append_of_blank {blanks rest : List Char}
    (blank : ∀ char ∈ blanks, char.isWhitespace = true) :
    tokenize quotes (blanks ++ rest) = tokenize quotes rest := by
  induction blanks with
  | nil => rfl
  | cons char others ih =>
      rw [List.cons_append, tokenize_blank (blank char (by simp))]
      exact ih fun char member => blank char (by simp [member])

theorem Bounded.nil : Bounded [] := by
  intro char member
  cases member

theorem Bounded.cons {char : Char} {rest : List Char} (bound : bounds char = true) :
    Bounded (char :: rest) := by
  intro first member
  cases member
  exact bound

theorem not_isWordChar_of_bounds {char : Char} (bound : bounds char = true) :
    isWordChar char = false := by
  simp only [bounds, Bool.or_eq_true, beq_iff_eq] at bound
  rcases bound with ((((blank | rfl) | rfl) | rfl) | rfl) | rfl
  · simp only [Char.isWhitespace, Bool.or_eq_true, decide_eq_true_eq] at blank
    rcases blank with ((rfl | rfl) | rfl) | rfl <;> decide
  all_goals decide

theorem takeWhile_append_of_bounded {keep : Char → Bool} {chars rest : List Char}
    (kept : ∀ char ∈ chars, keep char = true)
    (stops : ∀ char, bounds char = true → keep char = false) (bounded : Bounded rest) :
    (chars ++ rest).takeWhile keep = chars ∧ (chars ++ rest).dropWhile keep = rest := by
  rw [List.takeWhile_append_of_pos kept, List.dropWhile_append_of_pos kept]
  cases rest with
  | nil => simp
  | cons char others =>
      have stopped : keep char = false := stops char (bounded char rfl)
      simp [stopped]

theorem readName_cons_of_ne {closing char : Char} {rest : List Char} (different : char ≠ closing) :
    readName closing (char :: rest) =
      (readName closing rest).map fun (content, left) => (char :: content, left) := by
  cases rest <;> simp [readName, different]

theorem readName_append {closing : Char} {content rest : List Char}
    (ends : ∀ char ∈ rest.head?, char ≠ closing) :
    readName closing
        (content.flatMap (fun char => if char = closing then [char, char] else [char]) ++
          closing :: rest) = some (content, rest) := by
  induction content with
  | nil =>
      cases rest with
      | nil => simp [readName]
      | cons next others =>
          have different : next ≠ closing := ends next rfl
          simp [readName, different]
  | cons char others ih =>
      by_cases same : char = closing
      · subst char
        simp [readName, ih]
      · rw [List.flatMap_cons, if_neg same, List.append_assoc, List.singleton_append,
          readName_cons_of_ne same, ih]
        rfl

theorem readNumber_toDigits {number : Nat} {rest : List Char} (bounded : Bounded rest) :
    readNumber (Nat.toDigits 10 number ++ rest) = some (.placeholder (some number), rest) := by
  have digits : ∀ char ∈ Nat.toDigits 10 number, char.isDigit = true := fun char member =>
    Nat.isDigit_of_mem_toDigits (by decide) (by decide) member
  have stops : ∀ char, bounds char = true → char.isDigit = false := by
    intro char bound
    have outside := not_isWordChar_of_bounds bound
    simp only [isWordChar, Char.isAlphanum, Bool.or_eq_false_iff] at outside
    exact outside.1.1.2
  rcases takeWhile_append_of_bounded digits stops bounded with ⟨taken, dropped⟩
  rw [readNumber, taken, dropped, Nat.ofDigitChars_ten_toDigits, if_neg]
  simp

theorem readSign_append {token : Token} {rest : List Char} (sign : token.isSign = true)
    (ends : token.isPunctuation = true ∨ ∀ char ∈ rest.head?, '>' ≠ char ∧ '=' ≠ char) :
    readSign (token.text.toList ++ rest) = some (.sign token.text, rest) := by
  cases token
  all_goals try cases sign
  -- What is left are the signs; a longer sign goes on with `>` or `=`.
  all_goals cases rest
  all_goals simp_all [readSign, signs, Token.text, Token.isPunctuation, List.isPrefixOf]

variable {dialect : Dialect}

theorem isWordChar_opening : isWordChar dialect.quotes.opening = false := by
  cases dialect <;> decide

theorem visible_opening : dialect.quotes.opening.isWhitespace = false := by
  cases dialect <;> decide

theorem not_bounds_closing : bounds dialect.quotes.closing = false := by
  cases dialect <;> decide

theorem tokenize_word {chars rest : List Char} (word : isWord chars = true)
    (bounded : Bounded rest) :
    tokenize dialect.quotes (chars ++ rest) =
      (tokenize dialect.quotes rest).map (.word (String.ofList chars) :: ·) := by
  cases chars with
  | nil => cases word
  | cons char others =>
      rw [isWord, Bool.and_eq_true] at word
      rcases word with ⟨start, wordChars⟩
      have wordChar : isWordChar char = true := by
        rw [startsWord, Bool.and_eq_true] at start
        exact start.1
      have visible : char.isWhitespace = false := by
        cases blank : char.isWhitespace with
        | false => rfl
        | true =>
            have bound : bounds char = true := by simp [bounds, blank]
            rw [not_isWordChar_of_bounds bound] at wordChar
            cases wordChar
      have unquoted : char ≠ dialect.quotes.opening := by
        rintro rfl
        rw [isWordChar_opening] at wordChar
        cases wordChar
      rcases takeWhile_append_of_bounded (List.all_eq_true.1 wordChars)
        (fun _ => not_isWordChar_of_bounds) bounded with ⟨taken, dropped⟩
      rw [List.cons_append]
      apply tokenize_of_scan visible
      rw [scan, if_neg unquoted, if_pos start, taken, dropped]

theorem tokenize_quote {content : String} {rest : List Char} (bounded : Bounded rest) :
    tokenize dialect.quotes ((dialect.quote content).toList ++ rest) =
      (tokenize dialect.quotes rest).map (.name content :: ·) := by
  have text : (dialect.quote content).toList = dialect.quotes.opening ::
      (content.toList.flatMap (fun char =>
        if char = dialect.quotes.closing then [char, char] else [char]) ++
          [dialect.quotes.closing]) := by
    cases dialect <;> exact String.toList_ofList
  have ends : ∀ char ∈ rest.head?, char ≠ dialect.quotes.closing := by
    rintro char member rfl
    have bound := bounded _ member
    rw [not_bounds_closing] at bound
    cases bound
  rw [text, List.cons_append, List.append_assoc, List.singleton_append]
  apply tokenize_of_scan visible_opening
  rw [scan, if_pos rfl, readName_append ends]
  simp

theorem scan_eq_readSign {char : Char} {rest : List Char} (outside : char ≠ quotes.opening)
    (apart : startsWord char = false) (other : char ≠ '?' ∧ char ≠ '$' ∧ char ≠ '@') :
    scan quotes (char :: rest) = readSign (char :: rest) := by
  rcases other with ⟨question, dollar, parameter⟩
  rw [scan, if_neg outside, if_neg (by simp [apart]), if_neg question, if_neg dollar,
    if_neg parameter]

theorem tokenize_sign {token : Token} {rest : List Char} (sign : token.isSign = true)
    (ends : token.isPunctuation = true ∨ Bounded rest) :
    tokenize dialect.quotes (token.text.toList ++ rest) =
      (tokenize dialect.quotes rest).map (.sign token.text :: ·) := by
  have read : readSign (token.text.toList ++ rest) = some (.sign token.text, rest) := by
    apply readSign_append sign
    rcases ends with punctuation | bounded
    · exact Or.inl punctuation
    · right
      intro char member
      have bound := bounded char member
      constructor <;> rintro rfl <;> cases bound
  have scanned : scan dialect.quotes (token.text.toList ++ rest) =
      readSign (token.text.toList ++ rest) := by
    cases token
    all_goals try cases sign
    all_goals exact scan_eq_readSign (by cases dialect <;> decide) (by decide) (by decide)
  rw [read] at scanned
  cases token
  all_goals try cases sign
  all_goals exact tokenize_of_scan (by decide) scanned

theorem tokenize_placeholder {number : Nat} {rest : List Char} (bounded : Bounded rest) :
    tokenize dialect.quotes ((dialect.placeholder number).toList ++ rest) =
      (tokenize dialect.quotes rest).map
        (.placeholder (if dialect.numbersPlaceholders then some number else none) :: ·) := by
  have read : readNumber (Nat.toDigits 10 number ++ rest) =
      some (.placeholder (some number), rest) := readNumber_toDigits bounded
  have anonymous : scan dialect.quotes ('?' :: rest) = some (.placeholder none, rest) := by
    cases dialect <;> rfl
  cases dialect with
  | postgresql =>
      have text : (Dialect.postgresql.placeholder number).toList =
          '$' :: Nat.toDigits 10 number := by
        simp [Dialect.placeholder]
        rfl
      rw [text, List.cons_append]
      apply tokenize_of_scan (by decide)
      simpa [scan, Dialect.quotes, startsWord, isWordChar, Dialect.numbersPlaceholders] using read
  | sqlServer =>
      have text : (Dialect.sqlServer.placeholder number).toList =
          '@' :: 'p' :: Nat.toDigits 10 number := by
        simp [Dialect.placeholder]
        rfl
      rw [text, List.cons_append, List.cons_append]
      apply tokenize_of_scan (by decide)
      simpa [scan, Dialect.quotes, startsWord, isWordChar, readParameter,
        Dialect.numbersPlaceholders] using read
  | generic | sqlite | mysql =>
      simpa [Dialect.placeholder, Dialect.numbersPlaceholders] using
        tokenize_of_scan (by decide) anonymous

end Lexeme

namespace Chunk

open Lexeme Rendering

/-- The chunk is no raw text, and a function that it calls has a word for a name. -/
def isLexical : Chunk → Bool
  | .raw _ => false
  | .call function => Lexeme.isWord function.toList
  | _ => true

/-- The lexemes that a chunk stands for, an argument being the placeholder of the given number. -/
def lexemes (dialect : Dialect) (number : Nat) : Chunk → List Lexeme
  | .token fixed => if fixed.isSign then [.sign fixed.text] else [.word fixed.text]
  | .name content => [.name content]
  | .qualified table column => [.name table, .sign ".", .name column]
  | .raw _ => []
  | .call function => [.word function, .sign "("]
  | .argument _ => [.placeholder (if dialect.numbersPlaceholders then some number else none)]
  | .clauseBreak => []

/-- The lexemes of chunks in order; their arguments are numbered on from the given number. -/
def lexemesFrom (dialect : Dialect) (number : Nat) : List Chunk → List Lexeme
  | [] => []
  | chunk :: rest =>
      chunk.lexemes dialect number ++
        lexemesFrom dialect (number + if chunk.argument?.isSome then 1 else 0) rest

/-- Nothing can go on the last lexeme of the chunk. -/
def endsInPunctuation : Chunk → Bool
  | .token fixed => fixed.isPunctuation
  | .call _ => true
  | _ => false

theorem isWord_text {token : Token} (word : token.isSign = false) :
    Lexeme.isWord token.text.toList = true := by
  cases token <;> first | rfl | cases word

variable {dialect : Dialect} {layout : Layout} {state : State}

/-- A chunk reads back as its lexemes, whatever follows that cannot go on the last one. -/
theorem tokenize_chunkText {chunk : Chunk} {last : Bool} {rest : List Char}
    (lexical : chunk.isLexical = true) (visible : chunk ≠ .clauseBreak)
    (ends : chunk.endsInPunctuation = true ∨ Bounded rest) :
    tokenize dialect.quotes (chunkText dialect.rules.signs layout state last chunk ++ rest) =
      (tokenize dialect.quotes rest).map
        (chunk.lexemes dialect (state.arguments + 1) ++ ·) := by
  cases chunk with
  | token fixed =>
      cases read : fixed.isSign with
      | true => simpa [chunkText, lexemes, read] using tokenize_sign read ends
      | false =>
          have bounded : Bounded rest := by
            rcases ends with punctuation | bounded
            · rw [endsInPunctuation] at punctuation
              simp [Token.isSign, punctuation] at read
            · exact bounded
          simpa [chunkText, lexemes, read] using tokenize_word (isWord_text read) bounded
  | name content =>
      have bounded : Bounded rest := by simpa [endsInPunctuation] using ends
      exact tokenize_quote bounded
  | qualified table column =>
      have bounded : Bounded rest := by simpa [endsInPunctuation] using ends
      have behindTable : Bounded ('.' :: ((dialect.quote column).toList ++ rest)) :=
        Bounded.cons rfl
      have readDot : tokenize dialect.quotes ('.' :: ((dialect.quote column).toList ++ rest)) =
          (tokenize dialect.quotes ((dialect.quote column).toList ++ rest)).map
            (.sign "." :: ·) := by
        have punctuation : Token.isPunctuation .dot = true := rfl
        simpa [Token.text] using tokenize_sign (by decide) (Or.inl punctuation)
      have written :
          chunkText dialect.rules.signs layout state last (.qualified table column) ++ rest =
            (dialect.quote table).toList ++ '.' :: ((dialect.quote column).toList ++ rest) := by
        simp [chunkText, DialectRules.signs, Dialect.rules]
      rw [written, tokenize_quote behindTable, readDot, tokenize_quote bounded]
      simp [lexemes, Function.comp_def]
  | raw text => cases lexical
  | call function =>
      have readParen : tokenize dialect.quotes ('(' :: rest) =
          (tokenize dialect.quotes rest).map (.sign "(" :: ·) := by
        have punctuation : Token.isPunctuation .openParen = true := rfl
        simpa [Token.text] using tokenize_sign (by decide) (Or.inl punctuation)
      have behindName : Bounded ('(' :: rest) := Bounded.cons rfl
      have written : chunkText dialect.rules.signs layout state last (.call function) ++ rest =
          function.toList ++ '(' :: rest := by
        simp [chunkText]
      rw [written, tokenize_word lexical behindName, readParen]
      simp [lexemes, Function.comp_def]
  | argument bound =>
      have bounded : Bounded rest := by simpa [endsInPunctuation] using ends
      exact tokenize_placeholder bounded
  | clauseBreak => exact absurd rfl visible

/-- The chunk is written as punctuation. -/
def isPunctuation : Chunk → Bool
  | .token fixed => fixed.isPunctuation
  | _ => false

theorem clingsLeft_eq_false {chunk : Chunk} (plain : chunk.isPunctuation = false) :
    chunk.clingsLeft = false := by
  cases chunk with
  | token fixed => cases fixed <;> first | rfl | cases plain
  | _ => rfl

theorem clingsRight_eq_false {chunk : Chunk} (plain : chunk.endsInPunctuation = false) :
    chunk.clingsRight = false := by
  cases chunk with
  | token fixed => cases fixed <;> first | rfl | cases plain
  | call function => cases plain
  | _ => rfl

theorem endsInSpace_eq_false {chunk : Chunk} (lexical : chunk.isLexical = true) :
    chunk.endsInSpace = false := by
  cases chunk with
  | raw text => cases lexical
  | _ => rfl

theorem startsWithSpace_eq_false {chunk : Chunk} (lexical : chunk.isLexical = true) :
    chunk.startsWithSpace = false := by
  cases chunk with
  | raw text => cases lexical
  | _ => rfl

theorem isWord_of_not_isOperator {chunk : Chunk} (visible : chunk ≠ .clauseBreak)
    (plain : chunk.isPunctuation = false) (operand : chunk.isOperator = false) :
    chunk.isWord = true := by
  cases chunk with
  | token fixed =>
      rw [Chunk.isPunctuation] at plain
      rw [Chunk.isOperator] at operand
      simp [Chunk.isWord, plain, operand]
  | clauseBreak => exact absurd rfl visible
  | _ => rfl

/-- Two chunks stand apart unless the first ends in punctuation or the second is punctuation. -/
theorem spaced_of_not_punctuation {current next : Chunk}
    (currentLexical : current.isLexical = true) (nextLexical : next.isLexical = true)
    (currentVisible : current ≠ .clauseBreak) (nextVisible : next ≠ .clauseBreak)
    (currentPlain : current.endsInPunctuation = false) (nextPlain : next.isPunctuation = false) :
    current.spaced next = true := by
  have currentSign : current.isPunctuation = false := by
    cases current with
    | token fixed => exact currentPlain
    | _ => rfl
  have notComma : current ≠ .token .comma := by
    rintro rfl
    cases currentPlain
  have notClosing : current ≠ .token .closeParen := by
    rintro rfl
    cases currentPlain
  have notOpening : next ≠ .token .openParen := by
    rintro rfl
    cases nextPlain
  have currentWord := isWord_of_not_isOperator currentVisible currentSign
  have nextWord := isWord_of_not_isOperator nextVisible nextPlain
  cases currentOperator : current.isOperator <;> cases nextOperator : next.isOperator <;>
    simp [spaced, currentVisible, nextVisible, endsInSpace_eq_false currentLexical,
      startsWithSpace_eq_false nextLexical, clingsLeft_eq_false nextPlain,
      clingsRight_eq_false currentPlain, notComma, notClosing, notOpening, currentOperator,
      nextOperator]
  exact ⟨currentWord currentOperator, nextWord nextOperator⟩

theorem chunkText_ne_nil {chunk : Chunk} {last : Bool} (lexical : chunk.isLexical = true)
    (visible : chunk ≠ .clauseBreak) :
    chunkText dialect.rules.signs layout state last chunk ≠ [] := by
  cases chunk with
  | token fixed => cases fixed <;> simp [chunkText, Token.text]
  | name content =>
      cases dialect <;>
        simp [chunkText, DialectRules.signs, Dialect.rules, Dialect.quote, quoteWith]
  | qualified table column => simp [chunkText]
  | raw text => cases lexical
  | call function => simp [chunkText]
  | argument bound =>
      cases dialect <;>
        simp [chunkText, DialectRules.signs, Dialect.rules, Dialect.placeholder]
  | clauseBreak => exact absurd rfl visible

theorem blank_separator {depth : Nat} :
    ∀ char ∈ separator layout depth, char.isWhitespace = true := by
  intro char member
  unfold separator at member
  split at member
  · rcases List.mem_cons.1 member with rfl | indented
    · rfl
    · rw [List.eq_of_mem_replicate indented]
      rfl
  · rw [List.mem_singleton.1 member]
    rfl

theorem bounded_separator {depth : Nat} {rest : List Char} :
    Bounded (separator layout depth ++ rest) := by
  unfold separator
  split <;> exact Bounded.cons rfl

/-- What is written behind a chunk cannot go on its last lexeme. -/
theorem bounded_behind {chunk : Chunk} {rest : List Chunk} (lexical : chunk.isLexical = true)
    (restLexical : ∀ next ∈ rest, next.isLexical = true) (visible : chunk ≠ .clauseBreak)
    (started : state.started = true) :
    chunk.endsInPunctuation = true ∨
      Bounded (spaceBehind chunk rest ++ write dialect.rules.signs layout state rest) := by
  cases rest with
  | nil => exact Or.inr Bounded.nil
  | cons next others =>
      cases apart : chunk.spaced next with
      | true =>
          right
          rw [spaceBehind, if_pos apart]
          exact Bounded.cons rfl
      | false =>
          cases plain : chunk.endsInPunctuation with
          | true => exact Or.inl rfl
          | false =>
              right
              rw [spaceBehind, if_neg (by simp [apart]), List.nil_append]
              have nextLexical : next.isLexical = true := restLexical next (by simp)
              cases next with
              | clauseBreak =>
                  -- A boundary separates, or is the last chunk and ends the text.
                  cases others with
                  | nil => simpa [write, chunkText, spaceBehind] using Bounded.nil
                  | cons after more =>
                      rw [write, chunkText, List.isEmpty_cons, started]
                      simpa using bounded_separator
              | token fixed =>
                  cases punctuation : fixed.isPunctuation with
                  | true =>
                      rw [write, chunkText]
                      cases fixed <;> first | exact Bounded.cons rfl | cases punctuation
                  | false =>
                      rw [spaced_of_not_punctuation lexical nextLexical visible (by simp) plain
                        punctuation] at apart
                      cases apart
              | _ =>
                  rw [spaced_of_not_punctuation lexical nextLexical visible (by simp) plain
                    rfl] at apart
                  cases apart

/-- The text that chunks write from a state on reads back as their lexemes. -/
theorem tokenize_write {chunks : List Chunk} (state : State)
    (lexical : ∀ chunk ∈ chunks, chunk.isLexical = true) :
    tokenize dialect.quotes (write dialect.rules.signs layout state chunks) =
      some (lexemesFrom dialect (state.arguments + 1) chunks) := by
  induction chunks generalizing state with
  | nil => exact tokenize_nil
  | cons chunk rest ih =>
      have chunkLexical : chunk.isLexical = true := lexical chunk (by simp)
      have restLexical : ∀ next ∈ rest, next.isLexical = true := fun next member =>
        lexical next (by simp [member])
      have blankSpace : ∀ char ∈ spaceBehind chunk rest, char.isWhitespace = true := by
        intro char member
        cases rest with
        | nil => cases member
        | cons next others =>
            rw [spaceBehind] at member
            split at member
            · rw [List.mem_singleton.1 member]
              rfl
            · cases member
      rw [write, List.append_assoc]
      by_cases visible : chunk = .clauseBreak
      · subst chunk
        have blankText : ∀ char ∈ chunkText dialect.rules.signs layout state rest.isEmpty
            .clauseBreak, char.isWhitespace = true := by
          intro char member
          rw [chunkText] at member
          split at member
          · exact blank_separator char member
          · cases member
        rw [tokenize_append_of_blank blankText, tokenize_append_of_blank blankSpace,
          ih _ restLexical]
        rfl
      · have started : (state.advance chunk (chunkText dialect.rules.signs layout state
            rest.isEmpty chunk ++ spaceBehind chunk rest)).started = true := by
          simp [State.advance, chunkText_ne_nil chunkLexical visible]
        rw [tokenize_chunkText chunkLexical visible
          (bounded_behind chunkLexical restLexical visible started),
          tokenize_append_of_blank blankSpace, ih _ restLexical]
        simp [lexemesFrom, State.advance, Nat.add_right_comm]

end Chunk

/-- The text of a fragment reads back as the lexemes of its chunks: no two of them fuse, no name
leaves its quotes, and the placeholders count its arguments from one. -/
theorem Fragment.tokenize_render (dialect : Dialect) (layout : Layout) (fragment : Fragment)
    (lexical : ∀ chunk ∈ fragment.chunks, chunk.isLexical = true) :
    Lexeme.tokenize dialect.quotes (fragment.render dialect.rules.signs layout).toList =
      some (Chunk.lexemesFrom dialect 1 fragment.chunks) := by
  rw [Fragment.render, String.toList_ofList]
  exact Chunk.tokenize_write {} lexical

/-- A name that reads like the rest of a query stays one name, and boundaries at either end write
nothing that reads as a lexeme. -/
theorem Fragment.tokenize_render_quotedNames :
    Lexeme.tokenize Dialect.sqlServer.quotes
        ((Fragment.mk [.clauseBreak, .call "MAX", .qualified "a]; --" "", .token .minus,
          .token .minus, .argument ⟨.null, .integer⟩, .token .closeParen, .name "\"b\"\n]]",
          .name "[", .token .less, .token .greater, .argument ⟨.null, .integer⟩, .token .slash,
          .token .star, .clauseBreak]).render Dialect.sqlServer.rules.signs
            (.beautified 2)).toList =
      some [.word "MAX", .sign "(", .name "a]; --", .sign ".", .name "", .sign "-", .sign "-",
        .placeholder (some 1), .sign ")", .name "\"b\"\n]]", .name "[", .sign "<", .sign ">",
        .placeholder (some 2), .sign "/", .sign "*"] :=
  Fragment.tokenize_render .sqlServer (.beautified 2) _ (by decide)

end SqlMapper
