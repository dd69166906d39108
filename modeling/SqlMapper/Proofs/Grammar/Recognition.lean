import SqlMapper.Proofs.Grammar.Derivation

/-!
# The parser recognizes the grammar

Completeness goes by induction on the derivation: whatever follows that the reach allows, reading
the chunks of a derivation comes to climbing from its reading, with fuel left. Soundness goes by
induction on the fuel: what was read is derived at the level asked for, its reach being the pull of
the chunks that are left, and these bind more loosely than the level.
-/

namespace SqlMapper

namespace Grammar

/-- The chunks start with no link that binds at least as strongly as the level. -/
def Stops (level : Nat) (chunks : List Chunk) : Prop :=
  ∀ link behind, link? chunks = some (link, behind) → link.strength < level

theorem stops_of_pull_lt {level : Nat} {chunks : List Chunk} (looser : pull chunks < level) :
    Stops level chunks := by
  intro link behind found
  rw [pull, found] at looser
  exact looser

theorem Stops.pull_lt {level : Nat} {chunks : List Chunk} (stops : Stops level chunks)
    (positive : 0 < level) : pull chunks < level := by
  unfold pull
  split
  · rename_i link behind found
    exact stops link behind found
  · exact positive

theorem climb_stops {fuel level : Nat} {left : Reading} {chunks : List Chunk}
    (enough : 0 < fuel) (stops : Stops level chunks) :
    climb fuel level left chunks = some (left, chunks) := by
  cases fuel with
  | zero => exact absurd enough (Nat.lt_irrefl 0)
  | succ fuel =>
      rw [climb]
      split
      · rfl
      · rename_i link behind found
        rw [if_pos (stops link behind found)]

/-- A link at its level takes over what was read. -/
theorem climb_link {fuel level : Nat} {left whole : Reading} {link : Link}
    {tail rest : List Chunk} (binds : level ≤ link.strength)
    (completes : complete fuel left link tail = some (whole, rest)) :
    climb (fuel + 1) level left (link.chunks ++ tail) = climb fuel level whole rest := by
  rw [climb, link?_chunks]
  simp [Nat.not_lt.2 binds, completes]

/-- Reading the chunks, whatever follows that the reach allows, comes to climbing from the
reading. A chunk costs two steps at most. -/
def ReadsBack (level reach : Nat) (tree : Reading) (chunks : List Chunk) : Prop :=
  ∀ minimum rest fuel, minimum ≤ level → pull rest ≤ reach → 2 * chunks.length < fuel →
    ∃ left, fuel ≤ left + 2 * chunks.length ∧
      read fuel minimum (chunks ++ rest) = climb left minimum tree rest

/-- What reads back is read to its end when nothing that follows binds to it. -/
theorem ReadsBack.read_eq {level reach : Nat} {tree : Reading} {chunks : List Chunk}
    (readsBack : ReadsBack level reach tree chunks) {minimum : Nat} (rest : List Chunk) (fuel : Nat)
    (low : minimum ≤ level) (allowed : pull rest ≤ reach) (stops : Stops minimum rest)
    (enough : 2 * chunks.length < fuel) :
    read fuel minimum (chunks ++ rest) = some (tree, rest) := by
  rcases readsBack minimum rest fuel low allowed enough with ⟨left, bound, same⟩
  rw [same]
  exact climb_stops (by omega) stops

/-- Behind an operator an operand is read to its end when nothing that follows binds to the operator
either. -/
theorem ReadsBack.read_behind {strength reach : Nat} {tree : Reading} {chunks rest : List Chunk}
    (readsBack : ReadsBack (strength + 1) reach tree chunks) (below : reach ≤ strength) {fuel : Nat}
    (allowed : pull rest ≤ reach) (enough : 2 * chunks.length < fuel) :
    read fuel (strength + 1) (chunks ++ rest) = some (tree, rest) := by
  have stops : Stops (strength + 1) rest :=
    stops_of_pull_lt (Nat.lt_succ_of_le (Nat.le_trans allowed below))
  exact readsBack.read_eq rest fuel (Nat.le_refl _) allowed stops enough

/-- What a link completes reads back when its left operand does. -/
theorem ReadsBack.link {level reach : Nat} {left whole : Reading} (link : Link)
    {chunks tail : List Chunk} (readsBack : ReadsBack level link.strength left chunks)
    (binds : level ≤ link.strength) (visible : 0 < link.chunks.length)
    (completes : ∀ rest fuel, pull rest ≤ reach → 2 * tail.length < fuel →
      complete (fuel + 1) left link (tail ++ rest) = some (whole, rest)) :
    ReadsBack level reach whole (chunks ++ link.chunks ++ tail) := by
  intro minimum rest fuel low allowed enough
  simp only [List.length_append] at enough
  have pulled : pull (link.chunks ++ (tail ++ rest)) ≤ link.strength := Nat.le_of_eq pull_chunks
  rcases readsBack minimum (link.chunks ++ (tail ++ rest)) fuel low pulled (by omega) with
    ⟨left, bound, same⟩
  obtain ⟨left, rfl⟩ : ∃ more, left = more + 2 := ⟨left - 2, by omega⟩
  refine ⟨left + 1, ?_, ?_⟩
  · simp only [List.length_append]
    omega
  · rw [List.append_assoc, List.append_assoc, same]
    exact climb_link (Nat.le_trans low binds) (completes rest left allowed (by omega))

theorem skip_cons {token : Token} {rest : List Chunk} :
    skip token (.token token :: rest) = some rest := by
  simp [skip]

theorem eq_cons_of_skip {token : Token} {chunks rest : List Chunk}
    (found : skip token chunks = some rest) : chunks = .token token :: rest := by
  unfold skip at found
  split at found
  · split at found
    · rename_i same
      rw [same, Option.some.inj found]
    · cases found
  · cases found

/-- Elements that read back are read up to the parenthesis behind them. -/
theorem readElements_eq {elements : List (Reading × List Chunk)} (nonempty : elements ≠ [])
    (readBack : ∀ element ∈ elements, ReadsBack 0 0 element.1 element.2) (rest : List Chunk)
    (fuel : Nat) (enough : 2 * (separated (elements.map Prod.snd)).length + 1 < fuel) :
    readElements fuel (separated (elements.map Prod.snd) ++ .token .closeParen :: rest) =
      some (elements.map Prod.fst, rest) := by
  induction elements generalizing fuel with
  | nil => exact absurd rfl nonempty
  | cons element others ih =>
      have elementReads : ReadsBack 0 0 element.1 element.2 := readBack element (by simp)
      have othersRead : ∀ other ∈ others, ReadsBack 0 0 other.1 other.2 := fun other member =>
        readBack other (by simp [member])
      cases fuel with
      | zero => omega
      | succ fuel =>
          cases others with
          | nil =>
              simp only [List.map_cons, List.map_nil, separated] at enough ⊢
              have read := elementReads.read_eq (.token .closeParen :: rest) fuel (Nat.le_refl 0)
                (Nat.le_refl 0) (by rintro _ _ ⟨⟩) (by omega)
              rw [readElements, read]
              rfl
          | cons second more =>
              simp only [List.map_cons, separated, List.length_append, List.length_cons] at enough
              have read := elementReads.read_eq
                (.token .comma :: (separated (List.map Prod.snd (second :: more)) ++
                  .token .closeParen :: rest))
                fuel (Nat.le_refl 0) (Nat.le_refl 0) (by rintro _ _ ⟨⟩) (by omega)
              have readOthers := ih (List.cons_ne_nil second more) othersRead fuel
                (by simp only [List.map_cons]; omega)
              have spread : separated ((element :: second :: more).map Prod.snd) ++
                  .token .closeParen :: rest = element.2 ++ .token .comma ::
                    (separated (List.map Prod.snd (second :: more)) ++
                      .token .closeParen :: rest) := by
                simp [separated]
              rw [List.map_cons, List.map_cons] at readOthers
              rw [spread, readElements, read]
              simp [readOthers]

theorem not_select_of_isUnit {span rest : List Chunk} (unit : IsUnit span) :
    (span ++ rest).head? ≠ some (.token .select) := by
  cases unit <;> simp

/-- No derivation starts like a query. -/
theorem Derives.not_select {level reach : Nat} {tree : Reading} {chunks : List Chunk}
    (derives : Derives level reach tree chunks) (rest : List Chunk) :
    (chunks ++ rest).head? ≠ some (.token .select) := by
  induction derives generalizing rest with
  | unit unit => exact not_select_of_isUnit unit
  | group _ _ => simp
  | @unary _ _ operator _ _ _ _ _ => cases operator <;> simp [UnaryOperator.token]
  | binary _ _ _ _ ih _ =>
      rw [List.append_assoc, List.append_assoc]
      exact ih _
  | isNull _ _ ih =>
      rw [List.append_assoc]
      exact ih _
  | inList _ _ _ _ ih _ =>
      rw [List.append_assoc, List.append_assoc]
      exact ih _
  | between _ _ _ _ _ ih _ _ =>
      rw [List.append_assoc, List.append_assoc]
      exact ih _
  | like _ _ _ _ ih _ =>
      rw [List.append_assoc, List.append_assoc]
      exact ih _

theorem Derives.readsBack {level reach : Nat} {tree : Reading} {chunks : List Chunk}
    (derives : Derives level reach tree chunks) : ReadsBack level reach tree chunks := by
  induction derives with
  | @unit level reach span unit =>
      intro minimum rest fuel _ _ enough
      have visible : 0 < span.length := by cases unit <;> simp
      cases fuel with
      | zero => omega
      | succ fuel =>
          refine ⟨fuel, by omega, ?_⟩
          rw [read, start?_of_isUnit unit]
  | @group level reach tree chunks derives ih =>
      intro minimum rest fuel _ _ enough
      simp only [List.length_append, List.length_cons, List.length_nil] at enough
      cases fuel with
      | zero => omega
      | succ fuel =>
          refine ⟨fuel, by simp; omega, ?_⟩
          have inner := ih.read_eq (.token .closeParen :: rest) fuel (Nat.le_refl 0)
            (Nat.le_refl 0) (by rintro _ _ ⟨⟩) (by omega)
          have spread : .token .openParen :: chunks ++ [.token .closeParen] ++ rest =
              .token .openParen :: (chunks ++ .token .closeParen :: rest) := by simp
          rw [spread, read, start?_group (derives.not_select _)]
          simp [inner, skip_cons]
  | @unary level reach operator operand chunks below _ ih =>
      intro minimum rest fuel _ allowed enough
      simp only [List.length_cons] at enough
      cases fuel with
      | zero => omega
      | succ fuel =>
          refine ⟨fuel, by simp; omega, ?_⟩
          have inner := ih.read_eq rest fuel (Nat.le_refl _) allowed
            (stops_of_pull_lt (Nat.lt_of_le_of_lt allowed below)) (by omega)
          rw [List.cons_append, read, start?_unary]
          simp [inner]
  | @binary level reach operator left right leftChunks rightChunks binds below _ _ ihLeft
      ihRight =>
      refine ihLeft.link (.binary operator) binds (by simp [Link.chunks]) ?_
      intro rest fuel allowed enough
      have inner := ihRight.read_behind below allowed enough
      simp [complete, inner]
  | @isNull level reach operand negated chunks binds _ ih =>
      have taken : ReadsBack level reach (.isNull operand negated)
          (chunks ++ (Link.isNull negated).chunks ++ []) := by
        refine ih.link (.isNull negated) binds (by simp [Link.chunks]) ?_
        intro rest fuel _ _
        rfl
      rwa [List.append_nil] at taken
  | @inList level reach operand negated chunks elements binds _ nonempty _ ih ihElements =>
      refine ih.link (.inList negated) binds (by simp [Link.chunks]) ?_
      intro rest fuel _ enough
      simp only [List.length_append, List.length_cons, List.length_nil] at enough
      have inner := readElements_eq nonempty ihElements rest fuel (by omega)
      simp [complete, inner]
  | @between level reach operand low high negated chunks lowChunks highChunks binds below _ _ _
      ih ihLow ihHigh =>
      refine ih.link (.between negated) binds (by simp [Link.chunks]) ?_
      intro rest fuel allowed enough
      simp only [List.length_append, List.length_cons] at enough
      -- `AND` binds more weakly than the lower bound, so that one ends before it.
      have conjunction : pull (.token .and :: (highChunks ++ rest)) =
          BinaryOperator.and.strength := rfl
      have lowInner := ihLow.read_behind (by decide) (Nat.le_of_eq conjunction)
        (show 2 * lowChunks.length < fuel by omega)
      have highInner := ihHigh.read_behind below allowed
        (show 2 * highChunks.length < fuel by omega)
      simp [complete, lowInner, skip_cons, highInner]
  | @like level reach operand pattern negated chunks patternChunks binds below _ _ ih ihPattern =>
      refine ih.link (.like negated) binds (by simp [Link.chunks]) ?_
      intro rest fuel allowed enough
      have inner := ihPattern.read_behind below allowed enough
      simp [complete, inner]

mutual

/-- What is read is derived at its level from the chunks that it took. -/
theorem derives_of_read {fuel level : Nat} {chunks rest : List Chunk} {tree : Reading}
    (result : read fuel level chunks = some (tree, rest)) :
    ∃ span, chunks = span ++ rest ∧ Derives level (pull rest) tree span ∧ Stops level rest := by
  cases fuel with
  | zero => cases result
  | succ fuel =>
      rw [read] at result
      split at result
      · cases result
      · rename_i span behind found
        rcases eq_append_of_start? found with ⟨rfl, isUnit⟩
        rcases derives_of_climb (.unit (isUnit span rfl)) result with
          ⟨more, rfl, derives, stops⟩
        exact ⟨span ++ more, by simp [Start.chunks], derives, stops⟩
      · rename_i behind found
        rcases eq_append_of_start? found with ⟨rfl, _⟩
        simp only [Option.bind_eq_bind, Option.bind_eq_some_iff, Prod.exists] at result
        rcases result with ⟨inner, closing, innerRead, after, skipped, result⟩
        rcases derives_of_read innerRead with ⟨body, rfl, innerDerives, _⟩
        rw [eq_cons_of_skip skipped] at innerDerives ⊢
        rcases derives_of_climb (.group innerDerives) result with ⟨more, rfl, derives, stops⟩
        exact ⟨_, by simp [Start.chunks], derives, stops⟩
      · rename_i operator behind found
        rcases eq_append_of_start? found with ⟨rfl, _⟩
        simp only [Option.bind_eq_bind, Option.bind_eq_some_iff, Prod.exists] at result
        rcases result with ⟨operand, after, operandRead, result⟩
        rcases derives_of_read operandRead with ⟨body, rfl, operandDerives, operandStops⟩
        have below : pull after < operator.strength :=
          operandStops.pull_lt (by cases operator <;> decide)
        rcases derives_of_climb (.unary below operandDerives) result with
          ⟨more, rfl, derives, stops⟩
        exact ⟨_, by simp [Start.chunks], derives, stops⟩

theorem derives_of_climb {fuel level : Nat} {left tree : Reading} {span chunks rest : List Chunk}
    (leftDerives : Derives level (pull chunks) left span)
    (result : climb fuel level left chunks = some (tree, rest)) :
    ∃ more, chunks = more ++ rest ∧ Derives level (pull rest) tree (span ++ more) ∧
      Stops level rest := by
  cases fuel with
  | zero => cases result
  | succ fuel =>
      rw [climb] at result
      split at result
      · rename_i missing
        rw [Option.some.injEq, Prod.mk.injEq] at result
        rcases result with ⟨rfl, rfl⟩
        refine ⟨[], rfl, by simpa using leftDerives, ?_⟩
        intro link behind found
        rw [missing] at found
        cases found
      · rename_i link behind found
        split at result
        · rename_i looser
          rw [Option.some.injEq, Prod.mk.injEq] at result
          rcases result with ⟨rfl, rfl⟩
          refine ⟨[], rfl, by simpa using leftDerives, ?_⟩
          intro other after same
          rw [found, Option.some.injEq, Prod.mk.injEq] at same
          rw [← same.1]
          exact looser
        · rename_i tighter
          simp only [Option.bind_eq_bind, Option.bind_eq_some_iff, Prod.exists] at result
          rcases result with ⟨whole, after, completed, result⟩
          have written := eq_append_of_link? found
          subst written
          rw [pull_chunks] at leftDerives
          rcases derives_of_complete (Nat.le_of_not_lt tighter) leftDerives completed with
            ⟨tail, rfl, wholeDerives⟩
          rcases derives_of_climb wholeDerives result with ⟨more, rfl, derives, stops⟩
          exact ⟨link.chunks ++ tail ++ more, by simp, by simpa using derives, stops⟩

theorem derives_of_complete {fuel level : Nat} {left whole : Reading} {link : Link}
    {span chunks rest : List Chunk} (binds : level ≤ link.strength)
    (leftDerives : Derives level link.strength left span)
    (result : complete fuel left link chunks = some (whole, rest)) :
    ∃ tail, chunks = tail ++ rest ∧
      Derives level (pull rest) whole (span ++ link.chunks ++ tail) := by
  cases fuel with
  | zero => cases result
  | succ fuel =>
      cases link with
      | binary operator =>
          simp only [complete, Option.bind_eq_bind, Option.bind_eq_some_iff, Prod.exists,
            Option.pure_def, Option.some.injEq, Prod.mk.injEq] at result
          rcases result with ⟨right, after, rightRead, rfl, rfl⟩
          rcases derives_of_read rightRead with ⟨tail, rfl, rightDerives, stops⟩
          have below : pull after ≤ operator.strength :=
            Nat.le_of_lt_succ (stops.pull_lt (Nat.succ_pos _))
          exact ⟨tail, rfl, .binary binds below leftDerives rightDerives⟩
      | isNull negated =>
          simp only [complete, Option.some.injEq, Prod.mk.injEq] at result
          rcases result with ⟨rfl, rfl⟩
          exact ⟨[], rfl, by simpa using Derives.isNull binds leftDerives⟩
      | inList negated =>
          simp only [complete, Option.bind_eq_bind, Option.bind_eq_some_iff, Prod.exists,
            Option.pure_def, Option.some.injEq, Prod.mk.injEq] at result
          rcases result with ⟨readings, after, elementsRead, rfl, rfl⟩
          rcases derives_of_readElements elementsRead with
            ⟨elements, nonempty, rfl, rfl, elementsDerive⟩
          exact ⟨_, by simp, .inList binds leftDerives nonempty elementsDerive⟩
      | between negated =>
          simp only [complete, Option.bind_eq_bind, Option.bind_eq_some_iff, Prod.exists,
            Option.pure_def, Option.some.injEq, Prod.mk.injEq] at result
          rcases result with
            ⟨low, middle, lowRead, second, skipped, high, after, highRead, rfl, rfl⟩
          rcases derives_of_read lowRead with ⟨lowSpan, rfl, lowDerives, _⟩
          rcases derives_of_read highRead with ⟨highSpan, rfl, highDerives, stops⟩
          have below : pull after ≤ predicateStrength :=
            Nat.le_of_lt_succ (stops.pull_lt (Nat.succ_pos _))
          rw [eq_cons_of_skip skipped] at lowDerives ⊢
          exact ⟨_, by simp, .between binds below leftDerives lowDerives highDerives⟩
      | like negated =>
          simp only [complete, Option.bind_eq_bind, Option.bind_eq_some_iff, Prod.exists,
            Option.pure_def, Option.some.injEq, Prod.mk.injEq] at result
          rcases result with ⟨pattern, after, patternRead, rfl, rfl⟩
          rcases derives_of_read patternRead with ⟨tail, rfl, patternDerives, stops⟩
          have below : pull after ≤ predicateStrength :=
            Nat.le_of_lt_succ (stops.pull_lt (Nat.succ_pos _))
          exact ⟨tail, rfl, .like binds below leftDerives patternDerives⟩

theorem derives_of_readElements {fuel : Nat} {chunks rest : List Chunk} {readings : List Reading}
    (result : readElements fuel chunks = some (readings, rest)) :
    ∃ elements : List (Reading × List Chunk), elements ≠ [] ∧ elements.map Prod.fst = readings ∧
      chunks = separated (elements.map Prod.snd) ++ .token .closeParen :: rest ∧
        ∀ element ∈ elements, Derives 0 0 element.1 element.2 := by
  cases fuel with
  | zero => cases result
  | succ fuel =>
      simp only [readElements, Option.bind_eq_bind, Option.bind_eq_some_iff, Prod.exists] at result
      rcases result with ⟨element, behind, elementRead, result⟩
      rcases derives_of_read elementRead with ⟨span, rfl, derives, _⟩
      split at result
      · rename_i after
        simp only [Option.bind_eq_some_iff, Prod.exists, Option.pure_def, Option.some.injEq,
          Prod.mk.injEq] at result
        rcases result with ⟨others, final, othersRead, rfl, rfl⟩
        rcases derives_of_readElements othersRead with
          ⟨elements, nonempty, rfl, rfl, elementsDerive⟩
        refine ⟨(element, span) :: elements, List.cons_ne_nil _ _, rfl, ?_, ?_⟩
        · cases elements with
          | nil => exact absurd rfl nonempty
          | cons second more => simp [separated]
        · exact List.forall_mem_cons.2 ⟨derives, elementsDerive⟩
      · rename_i after
        simp only [Option.pure_def, Option.some.injEq, Prod.mk.injEq] at result
        rcases result with ⟨rfl, rfl⟩
        refine ⟨[(element, span)], List.cons_ne_nil _ _, rfl, rfl, ?_⟩
        exact List.forall_mem_cons.2 ⟨derives, List.forall_mem_nil _⟩
      · cases result

end

/-- The parser finds exactly the readings that the grammar derives. -/
theorem parse_eq_some_iff {chunks : List Chunk} {tree : Reading} :
    parse chunks = some tree ↔ Derives 0 0 tree chunks := by
  constructor
  · intro parsed
    unfold parse at parsed
    split at parsed
    · rename_i reading result
      rcases derives_of_read result with ⟨span, whole, derives, _⟩
      rw [List.append_nil] at whole
      rw [whole, ← Option.some.inj parsed]
      exact derives
    · cases parsed
  · intro derives
    have ends : Stops 0 [] := by
      intro link behind found
      cases found
    have result := derives.readsBack.read_eq [] (2 * chunks.length + 1) (Nat.le_refl 0)
      (Nat.le_refl 0) ends (Nat.lt_succ_self _)
    rw [List.append_nil] at result
    rw [parse, result]

end Grammar

end SqlMapper
