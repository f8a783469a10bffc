import TableFilter.Proofs.Sql.Part
import TableFilter.Proofs.Text.Matching

/-!
# Parts as captures

The parts of a statement are what the groups of two patterns capture of it: the scan for an opening
and for an end finds the match that is preferred. Main statements: `extractWhere?_eq_capture?`,
`extractOrderBy?_eq_capture?`.
-/

namespace TableFilter.Sql

open Text (Pattern Spells Spot dropBlanks isBlank isBoundary isKeyword isWordChar)
open TableFilter.Text.Pattern (letters reach repeated word)

/-! ## The patterns -/

def blankRun : Pattern :=
  repeated true isBlank

def orderByWords : Pattern :=
  .seq (word "ORDER") (.seq blankRun (letters "BY".toList))

/-- A part that is as short as can be in front of blanks and what ends it. -/
def groupPattern (ending : Pattern) : Pattern :=
  .seq (.group (repeated false fun _ => true)) (.seq (.many true isBlank) ending)

/-- A part behind an opening and blanks. -/
def partPattern (opening ending : Pattern) : Pattern :=
  .seq opening (.seq blankRun (groupPattern ending))

def limitEnd : Pattern :=
  .seq (word "LIMIT") .boundary

def orderEnd : Pattern :=
  .seq orderByWords .boundary

/-- The pattern `\bWHERE\s+(.+?)\s*(?:\bORDER\s+BY\b|\bLIMIT\b|$)`, in any case of its letters. -/
def wherePattern : Pattern :=
  partPattern (word "WHERE") (.either (.either orderEnd limitEnd) .textEnd)

/-- The pattern `\bORDER\s+BY\s+(.+?)\s*(?:\bLIMIT\b|$)`, in any case of its letters. -/
def orderByPattern : Pattern :=
  partPattern orderByWords (.either limitEnd .textEnd)

/-! ## Openings -/

variable {opened? : Option Char → List Char → Option (List Char)} {words : List String}
  {spot : Spot}

/-- A pattern matches where something is opened, in one way only. -/
structure Opens (p : Pattern) (opened? : Option Char → List Char → Option (List Char)) : Prop where
  ways_eq_nil : ∀ {spot : Spot}, opened? spot.before spot.rest = none → p.ways spot = []
  ways_eq_singleton : ∀ {spot : Spot} {rest : List Char},
    opened? spot.before spot.rest = some rest →
      ∃ last, isWordChar last = true ∧ p.ways spot = [⟨some last, rest, spot.group⟩]

theorem opens_word {keyword : String} (hkeyword : isKeyword keyword = true) :
    Opens (word keyword) (openedBy? keyword) where
  ways_eq_nil {spot} hnone := by
    unfold openedBy? at hnone
    rw [word, Pattern.ways_seq, Pattern.ways]
    split at hnone
    next hbefore =>
      rw [if_pos hbefore, List.flatMap_singleton]
      exact Pattern.ways_letters_eq_nil hnone
    next hbefore =>
      rw [if_neg hbefore]
      rfl
  ways_eq_singleton {spot rest} hopened := by
    unfold openedBy? at hopened
    split at hopened
    next hbefore =>
      rw [isKeyword, Bool.and_eq_true, List.all_eq_true] at hkeyword
      obtain ⟨last, hways, hlast⟩ := Pattern.exists_ways_letters hkeyword.2 hopened
      rw [hkeyword.1, Bool.or_true, Option.any_eq_true] at hlast
      obtain ⟨c, rfl, hc⟩ := hlast
      refine ⟨c, hc, ?_⟩
      rw [word, Pattern.ways_seq, Pattern.ways, if_pos hbefore, List.flatMap_singleton, hways]
    next => cases hopened

/-- Without blanks nothing behind them is matched. -/
theorem ways_blanks_seq_eq_nil (hnone : afterBlanks? spot.rest = none) (p : Pattern) :
    (Pattern.seq blankRun p).ways spot = [] := by
  obtain ⟨before, cs, group⟩ := spot
  cases cs with
  | nil => rfl
  | cons c rest =>
    simp only [afterBlanks?] at hnone
    split at hnone
    next => cases hnone
    next hvisible => simp [blankRun, repeated, Pattern.ways_seq, hvisible]

/-- Blanks are passed over, as many as there are for choice. -/
theorem exists_ways_blanks_seq (spot : Spot) {rest : List Char}
    (hafter : afterBlanks? spot.rest = some rest) (p : Pattern) :
    ∃ (past : Spot) (others : List Spot), past.rest = rest ∧ past.group = spot.group ∧
      (Pattern.seq blankRun p).ways spot = p.ways past ++ others.flatMap p.ways ∧
      ∀ other ∈ others, other.rest <:+ spot.rest ∧
        ∃ c ∈ other.rest.head?, isBlank c = true := by
  obtain ⟨before, cs, group⟩ := spot
  cases cs with
  | nil => cases hafter
  | cons c cs =>
    simp only [afterBlanks?] at hafter
    split at hafter
    next hblank =>
      cases hafter
      obtain ⟨others, hreach, hothers⟩ := Pattern.exists_reach_isBlank ⟨some c, cs, group⟩
      refine ⟨Spot.pastBlanks ⟨some c, cs, group⟩, others, rfl, rfl, ?_, fun other hmem => ?_⟩
      · simp [blankRun, repeated, Pattern.ways_seq, Pattern.ways, hblank, hreach]
      · have hreached : other ∈ reach isBlank group (some c) cs :=
          hreach ▸ List.mem_cons_of_mem _ hmem
        have hsuffix := Pattern.suffix_of_mem_reach hreached
        exact ⟨hsuffix.trans (List.suffix_cons c cs), hothers other hmem⟩
    next => cases hafter

theorem ways_letters_by_eq_nil (hblank : ∃ c ∈ spot.rest.head?, isBlank c = true) :
    (letters "BY".toList).ways spot = [] := by
  obtain ⟨c, hc, hblank⟩ := hblank
  obtain ⟨rest, hrest⟩ := List.head?_eq_some_iff.mp hc
  apply Pattern.ways_letters_eq_nil
  have hne : c.toUpper ≠ 'B' := by
    intro hupper
    have hnot := Text.toUpper_not_mem_of_isBlank (by decide : isKeyword "B" = true) hblank
    exact hnot (by simp [hupper])
  rw [hrest]
  exact if_neg hne

/-- The second word is looked for behind all blanks alone. -/
theorem exists_ways_blanks_by (spot : Spot) {rest : List Char}
    (hafter : afterBlanks? spot.rest = some rest) :
    ∃ past : Spot, past.rest = rest ∧ past.group = spot.group ∧
      (Pattern.seq blankRun (letters "BY".toList)).ways spot = (letters "BY".toList).ways past := by
  obtain ⟨past, others, hrest, hgroup, hways, hothers⟩ :=
    exists_ways_blanks_seq spot hafter (letters "BY".toList)
  have hnone : others.flatMap (letters "BY".toList).ways = [] :=
    List.flatMap_eq_nil_iff.mpr fun other hmem => ways_letters_by_eq_nil (hothers other hmem).2
  rw [hnone, List.append_nil] at hways
  exact ⟨past, hrest, hgroup, hways⟩

theorem opens_orderByWords : Opens orderByWords openedByOrder? where
  ways_eq_nil {spot} hnone := by
    have horder : Opens (word "ORDER") (openedBy? "ORDER") := opens_word (by decide)
    rw [orderByWords, Pattern.ways_seq]
    cases hopened : openedBy? "ORDER" spot.before spot.rest with
    | none => rw [horder.ways_eq_nil hopened, List.flatMap_nil]
    | some behind =>
      obtain ⟨last, -, hways⟩ := horder.ways_eq_singleton hopened
      rw [hways, List.flatMap_singleton]
      cases hafter : afterBlanks? behind with
      | none => exact ways_blanks_seq_eq_nil hafter _
      | some rest =>
        obtain ⟨past, rfl, -, hpast⟩ := exists_ways_blanks_by ⟨some last, behind, spot.group⟩ hafter
        rw [hpast]
        apply Pattern.ways_letters_eq_nil
        simpa [openedByOrder?, hopened, hafter] using hnone
  ways_eq_singleton {spot rest} hopened := by
    have horder : Opens (word "ORDER") (openedBy? "ORDER") := opens_word (by decide)
    obtain ⟨behind, horderRead, hopened⟩ := Option.bind_eq_some_iff.mp hopened
    obtain ⟨behindBlanks, hafter, hby⟩ := Option.bind_eq_some_iff.mp hopened
    obtain ⟨first, -, hways⟩ := horder.ways_eq_singleton horderRead
    obtain ⟨past, rfl, hgroup, hpast⟩ :=
      exists_ways_blanks_by ⟨some first, behind, spot.group⟩ hafter
    have hupper : ∀ k ∈ "BY".toList, k.isUpper = true := List.all_eq_true.mp rfl
    obtain ⟨last, hletters, hlast⟩ := Pattern.exists_ways_letters hupper hby
    have hword : last.any isWordChar = true := hlast.trans (Bool.or_true _)
    obtain ⟨c, rfl, hc⟩ := (Option.any_eq_true _ _).mp hword
    refine ⟨c, hc, ?_⟩
    rw [orderByWords, Pattern.ways_seq, hways, List.flatMap_singleton, hpast, hletters, hgroup]

/-! ## Ends -/

variable {atEnd : Option Char → List Char → Bool} {phrases : List (List String)} {ending : Pattern}

/-- A pattern matches exactly where something ends, and leaves the group as it is. -/
structure Stops (p : Pattern) (atEnd : Option Char → List Char → Bool) : Prop where
  ways_eq_nil : ∀ {spot : Spot}, atEnd spot.before spot.rest = false → p.ways spot = []
  exists_first? : ∀ {spot : Spot}, atEnd spot.before spot.rest = true →
    ∃ after, p.first? spot = some after ∧ after.group = spot.group

theorem Opens.stops {p : Pattern} (hopens : Opens p opened?) :
    Stops (.seq p .boundary) fun before cs => (opened? before cs).any endsWord where
  ways_eq_nil {spot} hnot := by
    rw [Pattern.ways_seq]
    cases hopened : opened? spot.before spot.rest with
    | none => rw [hopens.ways_eq_nil hopened, List.flatMap_nil]
    | some rest =>
      obtain ⟨last, hlast, hways⟩ := hopens.ways_eq_singleton hopened
      rw [hopened, Option.any_some, ← isBoundary_eq_endsWord hlast] at hnot
      rw [hways, List.flatMap_singleton, Pattern.ways, hnot]
      rfl
  exists_first? {spot} hends := by
    obtain ⟨rest, hopened, hends⟩ := (Option.any_eq_true _ _).mp hends
    obtain ⟨last, hlast, hways⟩ := hopens.ways_eq_singleton hopened
    rw [← isBoundary_eq_endsWord hlast] at hends
    refine ⟨⟨some last, rest, spot.group⟩, ?_, rfl⟩
    rw [Pattern.first?, Pattern.ways_seq, hways, List.flatMap_singleton, Pattern.ways, if_pos hends]
    rfl

theorem stops_textEnd : Stops .textEnd fun _ cs => cs.isEmpty where
  ways_eq_nil hnot := by
    rw [Pattern.ways, hnot]
    rfl
  exists_first? {spot} hend := by
    refine ⟨spot, ?_, rfl⟩
    rw [Pattern.first?, Pattern.ways, if_pos hend]
    rfl

theorem Stops.either {first second : Pattern} {atFirst atSecond : Option Char → List Char → Bool}
    (hfirst : Stops first atFirst) (hsecond : Stops second atSecond) :
    Stops (.either first second) fun before cs => atFirst before cs || atSecond before cs where
  ways_eq_nil hnot := by
    obtain ⟨hnotFirst, hnotSecond⟩ := Bool.or_eq_false_iff.mp hnot
    rw [Pattern.ways, hfirst.ways_eq_nil hnotFirst, hsecond.ways_eq_nil hnotSecond]
    rfl
  exists_first? {spot} hend := by
    rw [Pattern.first?_either]
    cases hatFirst : atFirst spot.before spot.rest with
    | true =>
      obtain ⟨after, hafter, hgroup⟩ := hfirst.exists_first? hatFirst
      exact ⟨after, by rw [hafter, Option.some_or], hgroup⟩
    | false =>
      rw [hatFirst, Bool.false_or] at hend
      obtain ⟨after, hafter, hgroup⟩ := hsecond.exists_first? hend
      refine ⟨after, ?_, hgroup⟩
      rw [Pattern.first?, hfirst.ways_eq_nil hatFirst, List.head?_nil, Option.none_or, hafter]

/-- Whether a part ends is told behind the blanks that follow. -/
theorem isEnd_eq (atEnd : Option Char → List Char → Bool) (before : Char) (cs : List Char)
    (group : Option (List Char)) :
    isEnd atEnd before cs =
      (atEnd (Spot.pastBlanks ⟨some before, cs, group⟩).before (dropBlanks cs) ||
        (dropBlanks cs).isEmpty) := by
  induction cs generalizing before with
  | nil => exact (Bool.or_true _).symm
  | cons c rest ih =>
    rw [isEnd]
    split
    next hblank =>
      rw [ih c, Spot.pastBlanks_of_isBlank hblank, dropBlanks, dropBlanks,
        List.dropWhile_cons_of_pos hblank]
    next hvisible => simp [Spot.pastBlanks, dropBlanks, hvisible]

theorem EndsAt.eq_false_of_isBlank (hatEnd : EndsAt atEnd phrases) {before : Option Char} {c : Char}
    (hblank : isBlank c = true) (rest : List Char) : atEnd before (c :: rest) = false := by
  rw [Bool.eq_false_iff, Ne, hatEnd.iff]
  rintro ⟨words, hwords, hstand⟩
  obtain ⟨_, ⟨⟩, halpha⟩ := hstand.exists_letter_head (hatEnd.keywords words hwords)
  rw [Text.isBlank_eq_false_of_isAlpha halpha] at hblank
  cases hblank

/-- Blanks and an end are matched where a part ends. -/
theorem EndsAt.stops_blanks (hatEnd : EndsAt atEnd phrases)
    (hstops : Stops ending fun before cs => atEnd before cs || cs.isEmpty) (before : Char)
    (cs : List Char) (group : Option (List Char)) :
    (isEnd atEnd before cs = false →
      (Pattern.seq (.many true isBlank) ending).first? ⟨some before, cs, group⟩ = none) ∧
    (isEnd atEnd before cs = true → ∃ after,
      (Pattern.seq (.many true isBlank) ending).first? ⟨some before, cs, group⟩ = some after ∧
        after.group = group) := by
  have hvisible (spot : Spot) (hblank : ∃ c ∈ spot.rest.head?, isBlank c = true) :
      ending.ways spot = [] := by
    obtain ⟨c, hc, hblank⟩ := hblank
    obtain ⟨rest, hrest⟩ := List.head?_eq_some_iff.mp hc
    apply hstops.ways_eq_nil
    rw [hrest, hatEnd.eq_false_of_isBlank hblank]
    rfl
  rw [isEnd_eq atEnd before cs group, Pattern.first?, Pattern.ways_blanks_seq hvisible]
  constructor
  · intro hgoes
    rw [hstops.ways_eq_nil hgoes]
    rfl
  · intro hend
    exact hstops.exists_first? hend

/-! ## The group -/

/-- The group goes on to the first place at which a part ends. -/
theorem EndsAt.exists_findSome?_reach (hatEnd : EndsAt atEnd phrases)
    (hstops : Stops ending fun before cs => atEnd before cs || cs.isEmpty)
    (group : Option (List Char)) (front : List Char) (c : Char) (rest : List Char) :
    ∃ after,
      ((reach (fun _ => true) group (some c) rest).reverse.map
        (Pattern.grouped (front ++ c :: rest))).findSome?
          (Pattern.seq (.many true isBlank) ending).first? = some after ∧
      after.group = some (front ++ partFrom atEnd (c :: rest)) := by
  induction rest generalizing front c with
  | nil =>
    obtain ⟨after, hafter, hgroup⟩ :=
      (hatEnd.stops_blanks hstops c [] (some (front ++ [c]))).2 rfl
    refine ⟨after, ?_, hgroup⟩
    rw [List.append_cons, reach, List.reverse_singleton, List.map_singleton,
      Pattern.grouped_append, List.findSome?_singleton, hafter]
  | cons d rest ih =>
    obtain ⟨hgoes, hstop⟩ := hatEnd.stops_blanks hstops c (d :: rest) (some (front ++ [c]))
    rw [Pattern.reverse_reach_cons, List.map_cons, List.append_cons, Pattern.grouped_append,
      List.findSome?_cons, partFrom]
    by_cases hend : isEnd atEnd c (d :: rest) = true
    · obtain ⟨after, hafter, hgroup⟩ := hstop hend
      rw [hafter, if_pos hend]
      exact ⟨after, rfl, hgroup⟩
    · obtain ⟨after, hafter, hgroup⟩ := ih (front ++ [c]) d
      rw [hgoes (Bool.eq_false_of_not_eq_true hend), if_neg hend]
      refine ⟨after, hafter, ?_⟩
      rw [hgroup, List.append_assoc, List.singleton_append]

/-- What is captured where the group starts is the part that starts there. -/
theorem EndsAt.exists_first?_group (hatEnd : EndsAt atEnd phrases)
    (hstops : Stops ending fun before cs => atEnd before cs || cs.isEmpty) {c : Char}
    {rest : List Char} (hrest : spot.rest = c :: rest) :
    ∃ after, (groupPattern ending).first? spot = some after ∧
      after.group = some (partFrom atEnd (c :: rest)) := by
  obtain ⟨before, _, group⟩ := spot
  cases hrest
  obtain ⟨after, hafter, hgroup⟩ := hatEnd.exists_findSome?_reach hstops group [] c rest
  refine ⟨after, ?_, hgroup⟩
  rw [groupPattern, Pattern.first?_seq, ← hafter]
  simp [Pattern.ways, repeated]

theorem first?_groupPattern_eq_none (hrest : spot.rest = []) (ending : Pattern) :
    (groupPattern ending).first? spot = none := by
  obtain ⟨before, _, group⟩ := spot
  cases hrest
  rfl

/-! ## The search -/

theorem partFrom_subset (atEnd : Option Char → List Char → Bool) (cs : List Char) :
    partFrom atEnd cs ⊆ cs := by
  induction cs with
  | nil => exact List.Subset.refl []
  | cons c rest ih =>
    rw [partFrom]
    split
    · exact List.cons_subset_cons c (List.nil_subset rest)
    · exact List.cons_subset_cons c ih

variable {opening : Pattern}

theorem Opens.first?_eq_none (hopens : Opens opening opened?)
    (hnone : (opened? spot.before spot.rest).bind afterBlanks? = none) :
    (partPattern opening ending).first? spot = none := by
  rw [partPattern, Pattern.first?_seq]
  cases hopened : opened? spot.before spot.rest with
  | none => rw [hopens.ways_eq_nil hopened, List.findSome?_nil]
  | some behind =>
    obtain ⟨last, -, hways⟩ := hopens.ways_eq_singleton hopened
    rw [hopened, Option.bind_some] at hnone
    rw [hways, List.findSome?_singleton, Pattern.first?, ways_blanks_seq_eq_nil hnone,
      List.head?_nil]

/-- The group starts behind all blanks that follow an opening, or else at one of them. -/
theorem Opens.exists_first?_eq (hopens : Opens opening opened?) {behind body : List Char}
    (hopened : opened? spot.before spot.rest = some behind)
    (hafter : afterBlanks? behind = some body) (ending : Pattern) :
    ∃ (past : Spot) (others : List Spot), past.rest = body ∧
      (partPattern opening ending).first? spot = ((groupPattern ending).first? past).or
        (others.findSome? (groupPattern ending).first?) ∧
      ∀ other ∈ others, other.rest <:+ behind ∧ ∃ c ∈ other.rest.head?, isBlank c = true := by
  obtain ⟨last, -, hways⟩ := hopens.ways_eq_singleton hopened
  obtain ⟨past, others, hrest, -, hblanks, hothers⟩ :=
    exists_ways_blanks_seq ⟨some last, behind, spot.group⟩ hafter (groupPattern ending)
  refine ⟨past, others, hrest, ?_, hothers⟩
  rw [partPattern, Pattern.first?_seq, hways, List.findSome?_singleton, Pattern.first?, hblanks,
    List.head?_append, List.head?_flatMap]
  rfl

/-- Behind an opening and blanks the part that starts there is captured. -/
theorem Opens.exists_first? (hopens : Opens opening opened?) (hatEnd : EndsAt atEnd phrases)
    (hstops : Stops ending fun before cs => atEnd before cs || cs.isEmpty) (spot : Spot) {b : Char}
    {body : List Char}
    (hbody : (opened? spot.before spot.rest).bind afterBlanks? = some (b :: body)) :
    ∃ after, (partPattern opening ending).first? spot = some after ∧
      after.group = some (partFrom atEnd (b :: body)) := by
  obtain ⟨behind, hopened, hafter⟩ := Option.bind_eq_some_iff.mp hbody
  obtain ⟨past, others, hrest, heq, -⟩ := hopens.exists_first?_eq hopened hafter ending
  obtain ⟨after, hfirst, hgroup⟩ := hatEnd.exists_first?_group hstops hrest
  refine ⟨after, ?_, hgroup⟩
  rw [heq, hfirst, Option.some_or]

/-- Behind an opening that only blanks follow, nothing else is captured. -/
theorem Opens.taken?_eq_none (hopens : Opens opening opened?) (hatEnd : EndsAt atEnd phrases)
    (hstops : Stops ending fun before cs => atEnd before cs || cs.isEmpty) (spot : Spot)
    (hbody : (opened? spot.before spot.rest).bind afterBlanks? = some []) {after : Spot}
    (hfirst : (partPattern opening ending).first? spot = some after) : after.taken? = none := by
  obtain ⟨behind, hopened, hafter⟩ := Option.bind_eq_some_iff.mp hbody
  obtain ⟨blanks, -, hblank, hbehind⟩ := afterBlanks?_eq_some hafter
  obtain ⟨past, others, hrest, heq, hothers⟩ := hopens.exists_first?_eq hopened hafter ending
  -- Nothing is left behind all blanks, so the group can only be made of some of them.
  rw [heq, first?_groupPattern_eq_none hrest, Option.none_or] at hfirst
  obtain ⟨other, hmem, hother⟩ := List.exists_of_findSome?_eq_some hfirst
  obtain ⟨hsuffix, c, hc, -⟩ := hothers other hmem
  obtain ⟨rest, hrest⟩ := List.head?_eq_some_iff.mp hc
  obtain ⟨found, hfound, hgroup⟩ := hatEnd.exists_first?_group hstops hrest
  obtain rfl : found = after := Option.some.inj (hfound.symm.trans hother)
  refine Spot.taken?_eq_none hgroup fun d hd => hblank d ?_
  have hmemBehind : d ∈ behind := hsuffix.subset (hrest ▸ partFrom_subset atEnd _ hd)
  rwa [hbehind, List.append_nil] at hmemBehind

/-- Behind an opening that only blanks follow, there is no room for the words once more. -/
theorem Finds.body?_eq_none (hfinds : Finds opened? words) {before : Option Char} {c : Char}
    {cs : List Char}
    (hbody : (opened? before (c :: cs)).bind afterBlanks? = some []) :
    body? opened? (some c) cs = none := by
  obtain ⟨behind, hopened, hafter⟩ := Option.bind_eq_some_iff.mp hbody
  obtain ⟨blanks, -, hblank, rfl⟩ := afterBlanks?_eq_some hafter
  obtain ⟨phrase, hcs, hspells, -⟩ := hfinds.eq_some_iff.mp hopened
  obtain ⟨l, hl, halpha⟩ := hspells.exists_letter_head hfinds.keywords
  have hvisible : (!isBlank c) = true := by
    have hhead := congrArg List.head? hcs
    rw [List.head?_append, hl, Option.some_or] at hhead
    cases hhead
    rw [Text.isBlank_eq_false_of_isAlpha halpha]
    rfl
  have hcount : (c :: cs).countP (!isBlank ·) = (words.flatMap String.toList).length := by
    rw [hcs, List.append_nil, List.countP_append, Text.countP_not_isBlank_eq_zero hblank,
      hspells.countP_not_isBlank hfinds.keywords, Nat.add_zero]
  rw [Option.eq_none_iff_forall_ne_some]
  intro body hagain
  -- Behind the first letter the text would have to hold all letters of the words again.
  obtain ⟨-, front, phrase', blanks', hsplit, hspells'⟩ := hfinds.exists_of_body? hagain
  rw [List.countP_cons_of_pos (p := (!isBlank ·)) hvisible, hsplit, List.countP_append,
    List.countP_append, hspells'.countP_not_isBlank hfinds.keywords] at hcount
  omega

/-- A scan finds what the pattern captures. -/
theorem Opens.bind_taken? (hopens : Opens opening opened?) (hfinds : Finds opened? words)
    (hatEnd : EndsAt atEnd phrases)
    (hstops : Stops ending fun before cs => atEnd before cs || cs.isEmpty) (before : Option Char)
    (cs : List Char) :
    ((partPattern opening ending).find? before cs).bind Spot.taken? =
      (body? opened? before cs).map fun body => String.ofList (partFrom atEnd body) := by
  induction cs generalizing before with
  | nil =>
    have hnone : opened? before [] = none := by
      rw [Option.eq_none_iff_forall_ne_some]
      intro rest hopened
      obtain ⟨phrase, hnil, hspells, -⟩ := hfinds.eq_some_iff.mp hopened
      obtain ⟨c, hc, -⟩ := hspells.exists_letter_head hfinds.keywords
      rw [(List.nil_eq_append_iff.mp hnil).1] at hc
      cases hc
    have hfirst : (partPattern opening ending).first? ⟨before, [], none⟩ = none :=
      hopens.first?_eq_none (by rw [hnone, Option.bind_none])
    rw [Pattern.find?, hfirst]
    rfl
  | cons c cs ih =>
    rw [Pattern.find?, body?]
    split
    next b body hbody =>
      obtain ⟨after, hfirst, hgroup⟩ :=
        hopens.exists_first? hatEnd hstops ⟨before, c :: cs, none⟩ hbody
      obtain ⟨behind, hopened, hafter⟩ := Option.bind_eq_some_iff.mp hbody
      have hpart := (hatEnd.isPart_partFrom
        (startsVisibly_of_afterBlanks? hafter (List.cons_ne_nil b body))).1
      rw [hfirst, Option.some_or, Option.bind_some, Option.map_some,
        Spot.taken?_eq_some hgroup hpart.starts hpart.ends]
    next hnot =>
      cases hbody : (opened? before (c :: cs)).bind afterBlanks? with
      | none =>
        have hfirst : (partPattern opening ending).first? ⟨before, c :: cs, none⟩ = none :=
          hopens.first?_eq_none hbody
        rw [hfirst, Option.none_or, ih]
      | some body =>
        cases body with
        | cons b body => exact absurd hbody (hnot b body)
        | nil =>
          have hrest := ih (some c)
          rw [hfinds.body?_eq_none hbody] at hrest ⊢
          cases hfirst : (partPattern opening ending).first? ⟨before, c :: cs, none⟩ with
          | none => rw [Option.none_or, hrest]
          | some after =>
            rw [Option.some_or, Option.bind_some,
              hopens.taken?_eq_none hatEnd hstops ⟨before, c :: cs, none⟩ hbody hfirst]
            rfl

theorem Opens.part?_eq_capture? (hopens : Opens opening opened?) (hfinds : Finds opened? words)
    (hatEnd : EndsAt atEnd phrases)
    (hstops : Stops ending fun before cs => atEnd before cs || cs.isEmpty) (sql : String) :
    part? opened? atEnd sql = (partPattern opening ending).capture? sql :=
  (hopens.bind_taken? hfinds hatEnd hstops none sql.toList).symm

/-- The condition of a text is what its first `WHERE` and blanks have behind them, up to the first
`ORDER BY`, `LIMIT` or end. -/
theorem extractWhere?_eq_capture? (sql : String) :
    extractWhere? sql = wherePattern.capture? sql := by
  have horder : Stops orderEnd atOrder := opens_orderByWords.stops
  have hlimit : Stops limitEnd atLimit := (opens_word (by decide)).stops
  exact (opens_word (by decide)).part?_eq_capture? finds_where endsAt_order_or_limit
    ((horder.either hlimit).either stops_textEnd) sql

/-- A second opening behind the first is what is captured, up to a word inside a literal. -/
example : wherePattern.capture? "where \n WHERE  a = 'limit' " = some "WHERE  a = '" := by
  decide +kernel

/-- The order of a text is what its first `ORDER BY` and blanks have behind them, up to the first
`LIMIT` or end. -/
theorem extractOrderBy?_eq_capture? (sql : String) :
    extractOrderBy? sql = orderByPattern.capture? sql := by
  have hlimit : Stops limitEnd atLimit := (opens_word (by decide)).stops
  exact opens_orderByWords.part?_eq_capture? finds_openedByOrder? endsAt_limit
    (hlimit.either stops_textEnd) sql

end TableFilter.Sql
