import TableFilter.Proofs.Text.Word

/-!
# Patterns with preferences

At a place of a text a pattern matches in several ways, of which the first counts: a greedy
repetition prefers to go on and a lazy one to stop. A search takes the first place at which the
pattern matches, and a capture is what the group of the pattern has taken there.
-/

namespace TableFilter.Text

/-- A place of a text: the character in front of it, what follows it, and what the group of a
pattern has taken on the way to it. -/
structure Spot where
  before : Option Char
  rest : List Char
  group : Option (List Char)

/-- What the group has taken, without the blanks around it, if anything is left. -/
def Spot.taken? (spot : Spot) : Option String :=
  (spot.group.map fun group => trim (String.ofList group)).filter (· ≠ "")

/-- What is looked for in a text. Of two alternatives the first is preferred. -/
inductive Pattern where
  | empty
  | char (test : Char → Bool)
  | boundary
  | textEnd
  | many (greedy : Bool) (test : Char → Bool)
  | seq (first second : Pattern)
  | either (first second : Pattern)
  | group (inner : Pattern)

namespace Pattern

/-- The places that are reached by characters of a kind, the farthest first. -/
def reach (test : Char → Bool) (group : Option (List Char)) : Option Char → List Char → List Spot
  | before, [] => [⟨before, [], group⟩]
  | before, c :: rest =>
    (if test c then reach test group (some c) rest else []) ++ [⟨before, c :: rest, group⟩]

/-- The place with the text between it and an earlier one, of which `rest` follows, as the group. -/
def grouped (rest : List Char) (spot : Spot) : Spot :=
  { spot with group := some (rest.take (rest.length - spot.rest.length)) }

/-- The places at which a pattern may end that starts at a place, the preferred ones first. -/
def ways : Pattern → Spot → List Spot
  | .empty, spot => [spot]
  | .char test, spot =>
    match spot.rest with
    | [] => []
    | c :: rest => if test c then [⟨some c, rest, spot.group⟩] else []
  | .boundary, spot => if isBoundary spot.before spot.rest.head? then [spot] else []
  | .textEnd, spot => if spot.rest.isEmpty then [spot] else []
  | .many greedy test, spot =>
    let spots := reach test spot.group spot.before spot.rest
    if greedy then spots else spots.reverse
  | .seq first second, spot => (first.ways spot).flatMap second.ways
  | .either first second, spot => first.ways spot ++ second.ways spot
  | .group inner, spot => (inner.ways spot).map (grouped spot.rest)

/-- Where the pattern ends that starts at a place. -/
def first? (p : Pattern) (spot : Spot) : Option Spot :=
  (p.ways spot).head?

/-- Where the pattern ends that starts at the first place at which it matches. -/
def find? (p : Pattern) (before : Option Char) : List Char → Option Spot
  | [] => p.first? ⟨before, [], none⟩
  | c :: rest => (p.first? ⟨before, c :: rest, none⟩).or (p.find? (some c) rest)

/-- What the group of a pattern takes of a text, if that is more than blanks. -/
def capture? (p : Pattern) (s : String) : Option String :=
  (p.find? none s.toList).bind Spot.taken?

/-- One character of a kind or more. -/
def repeated (greedy : Bool) (test : Char → Bool) : Pattern :=
  .seq (.char test) (.many greedy test)

/-- The letters, given in capitals, in any case. -/
def letters : List Char → Pattern
  | [] => .empty
  | k :: keyword => .seq (.char fun c => c.toUpper = k) (letters keyword)

/-- A word that starts at a boundary, given in capitals, in any case. -/
def word (s : String) : Pattern :=
  .seq .boundary (letters s.toList)

end Pattern

/-- The place behind the blanks that follow. -/
def Spot.pastBlanks (spot : Spot) : Spot where
  before := (spot.rest.takeWhile isBlank).getLast?.or spot.before
  rest := dropBlanks spot.rest
  group := spot.group

theorem Spot.pastBlanks_of_isBlank {c : Char} (hblank : isBlank c = true) (before : Option Char)
    (rest : List Char) (group : Option (List Char)) :
    pastBlanks ⟨before, c :: rest, group⟩ = pastBlanks ⟨some c, rest, group⟩ := by
  rw [pastBlanks, pastBlanks, dropBlanks, dropBlanks, List.takeWhile_cons_of_pos hblank,
    List.dropWhile_cons_of_pos hblank, List.getLast?_cons, Option.or_some]
  rfl

theorem Spot.taken?_eq_none {spot : Spot} {group : List Char} (hgroup : spot.group = some group)
    (hblank : ∀ c ∈ group, isBlank c = true) : spot.taken? = none := by
  have htrim : trim (String.ofList group) = "" := by
    rwa [trim_eq_empty_iff, String.toList_ofList]
  rw [taken?, hgroup, Option.map_some, htrim]
  rfl

/-- A group without blanks around it is taken as it is. -/
theorem Spot.taken?_eq_some {spot : Spot} {group : List Char} (hgroup : spot.group = some group)
    (hstarts : StartsVisibly group) (hends : EndsVisibly group) :
    spot.taken? = some (String.ofList group) := by
  have htrim : trim (String.ofList group) = String.ofList group := by
    have hchars : trimChars ([] ++ (group ++ [])) = group :=
      trimChars_append nofun nofun hstarts hends
    rw [List.nil_append, List.append_nil] at hchars
    rw [trim, String.toList_ofList, hchars]
  have hne : String.ofList group ≠ "" := by
    rw [Ne, String.ofList_eq_empty_iff]
    exact hends.ne_nil
  rw [taken?, hgroup, Option.map_some, htrim, Option.filter_some, if_pos (decide_eq_true hne)]

namespace Pattern

/-! ## The ways of a pattern -/

variable {spot : Spot}

@[simp]
theorem ways_char_cons (test : Char → Bool) (before : Option Char) (c : Char) (rest : List Char)
    (group : Option (List Char)) :
    (char test).ways ⟨before, c :: rest, group⟩ =
      if test c then [⟨some c, rest, group⟩] else [] :=
  rfl

theorem ways_seq (first second : Pattern) (spot : Spot) :
    (seq first second).ways spot = (first.ways spot).flatMap second.ways :=
  rfl

theorem first?_seq (first second : Pattern) (spot : Spot) :
    (seq first second).first? spot = (first.ways spot).findSome? second.first? :=
  List.head?_flatMap

theorem first?_either (first second : Pattern) (spot : Spot) :
    (either first second).first? spot = (first.first? spot).or (second.first? spot) :=
  List.head?_append

theorem grouped_append (taken rest : List Char) (before : Option Char)
    (group : Option (List Char)) :
    grouped (taken ++ rest) ⟨before, rest, group⟩ = ⟨before, rest, some taken⟩ := by
  simp [grouped]

theorem reverse_reach_cons (group : Option (List Char)) (before : Option Char) (c : Char)
    (rest : List Char) :
    (reach (fun _ => true) group before (c :: rest)).reverse =
      ⟨before, c :: rest, group⟩ :: (reach (fun _ => true) group (some c) rest).reverse := by
  simp [reach]

/-- A place that is reached is a place of the text. -/
theorem suffix_of_mem_reach {test : Char → Bool} {group : Option (List Char)}
    {before : Option Char} {cs : List Char} (hmem : spot ∈ reach test group before cs) :
    spot.rest <:+ cs := by
  induction cs generalizing before with
  | nil =>
    obtain rfl := List.mem_singleton.mp hmem
    exact List.suffix_rfl
  | cons c rest ih =>
    rw [reach] at hmem
    rcases List.mem_append.mp hmem with hmem | hmem
    · split at hmem
      · exact (ih hmem).trans (List.suffix_cons c rest)
      · cases hmem
    · obtain rfl := List.mem_singleton.mp hmem
      exact List.suffix_rfl

/-- The farthest place that is reached by blanks is the one behind all of them, and a blank follows
at each of the others. -/
theorem exists_reach_isBlank (spot : Spot) :
    ∃ others, reach isBlank spot.group spot.before spot.rest = spot.pastBlanks :: others ∧
      ∀ other ∈ others, ∃ c ∈ other.rest.head?, isBlank c = true := by
  obtain ⟨before, cs, group⟩ := spot
  induction cs generalizing before with
  | nil => exact ⟨[], rfl, by simp⟩
  | cons c rest ih =>
    by_cases hblank : isBlank c = true
    · obtain ⟨others, hreach, hothers⟩ := ih (some c)
      refine ⟨others ++ [⟨before, c :: rest, group⟩], ?_, ?_⟩
      · rw [Spot.pastBlanks_of_isBlank hblank, ← List.cons_append, ← hreach]
        exact congrArg (· ++ _) (if_pos hblank)
      · intro other hmem
        rcases List.mem_append.mp hmem with hmem | hmem
        · exact hothers other hmem
        · obtain rfl := List.mem_singleton.mp hmem
          exact ⟨c, rfl, hblank⟩
    · refine ⟨[], ?_, by simp⟩
      simp [reach, Spot.pastBlanks, dropBlanks, hblank]

/-- What starts with no blank is looked for behind all blanks alone. -/
theorem ways_blanks_seq {p : Pattern}
    (hvisible : ∀ spot : Spot, (∃ c ∈ spot.rest.head?, isBlank c = true) → p.ways spot = [])
    (spot : Spot) : (seq (many true isBlank) p).ways spot = p.ways spot.pastBlanks := by
  obtain ⟨others, hreach, hothers⟩ := exists_reach_isBlank spot
  have hnone : others.flatMap p.ways = [] :=
    List.flatMap_eq_nil_iff.mpr fun other hmem => hvisible other (hothers other hmem)
  rw [ways_seq, ways, if_pos rfl, hreach, List.flatMap_cons, hnone, List.append_nil]

theorem ways_letters_eq_nil {keyword : List Char} (hnone : afterKeyword? keyword spot.rest = none) :
    (letters keyword).ways spot = [] := by
  obtain ⟨before, cs, group⟩ := spot
  induction keyword generalizing before cs with
  | nil => cases hnone
  | cons k keyword ih =>
    rw [letters, ways_seq]
    cases cs with
    | nil => rfl
    | cons c cs =>
      by_cases hk : c.toUpper = k
      · rw [afterKeyword?, if_pos hk] at hnone
        simpa [hk] using ih (some c) cs hnone
      · simp [hk]

/-- The letters of a keyword are passed in one way only, and behind them one is inside a word. -/
theorem exists_ways_letters {keyword rest : List Char} (hupper : ∀ k ∈ keyword, k.isUpper = true)
    (hafter : afterKeyword? keyword spot.rest = some rest) :
    ∃ last, (letters keyword).ways spot = [⟨last, rest, spot.group⟩] ∧
      last.any isWordChar = (spot.before.any isWordChar || !keyword.isEmpty) := by
  obtain ⟨before, cs, group⟩ := spot
  induction keyword generalizing before cs with
  | nil =>
    cases hafter
    exact ⟨before, rfl, (Bool.or_false _).symm⟩
  | cons k keyword ih =>
    obtain ⟨hk, hupper⟩ := List.forall_mem_cons.mp hupper
    cases cs with
    | nil => cases hafter
    | cons c cs =>
      unfold afterKeyword? at hafter
      split at hafter
      next heq =>
        obtain ⟨last, hways, hlast⟩ := ih hupper (some c) cs hafter
        refine ⟨last, ?_, ?_⟩
        · rw [letters, ways_seq, ways_char_cons, if_pos (decide_eq_true heq),
            List.flatMap_singleton]
          exact hways
        · rw [hlast, Option.any_some, isWordChar_of_isAlpha (isAlpha_of_toUpper_eq hk heq)]
          simp
      next => cases hafter

end Pattern

end TableFilter.Text
