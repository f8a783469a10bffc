import TableFilter.Proofs.Sql.Extract

/-!
# Parts of any text

What is taken out of a text, be it a statement or not, is a part that stands alone: put behind the
keyword of its kind again, it is taken out as it is. Main statement:
`extracted_parts_stand_alone`.
-/

namespace TableFilter.Sql

open Text (EndsVisibly Spells StandAt StartsVisibly isBlank isBoundary isKeyword)

/-! ## Where a part ends -/

/-- A part ends exactly where one of the phrases stands. -/
structure EndsAt (atEnd : Option Char → List Char → Bool) (phrases : List (List String)) :
    Prop where
  keywords : ∀ words ∈ phrases, ∀ word ∈ words, isKeyword word = true
  iff : ∀ {before : Option Char} {cs : List Char},
    atEnd before cs = true ↔ ∃ words ∈ phrases, StandAt words before cs

theorem endsAt_limit : EndsAt atLimit [["LIMIT"]] where
  keywords := by decide
  iff := by
    intro before cs
    rw [atLimit, finds_limit.any_endsWord_iff]
    simp

theorem endsAt_order_or_limit :
    EndsAt (fun before cs => atOrder before cs || atLimit before cs)
      [["LIMIT"], ["ORDER", "BY"]] where
  keywords := by decide
  iff := by
    intro before cs
    rw [Bool.or_eq_true, atOrder, atLimit, finds_limit.any_endsWord_iff,
      finds_openedByOrder?.any_endsWord_iff]
    simp [or_comm]

/-- A text that neither begins nor ends with a blank, so that it is not empty, and has none of the
phrases behind its first character. -/
structure IsPart (phrases : List (List String)) (cs : List Char) : Prop where
  starts : StartsVisibly cs
  ends : EndsVisibly cs
  not_standAt : ∀ words ∈ phrases, ∀ front back, cs = front ++ back → front ≠ [] →
    ¬ StandAt words front.getLast? back

section Part

variable {atEnd : Option Char → List Char → Bool} {phrases : List (List String)}

/-- A part with nothing behind it goes on to its end. -/
theorem IsPart.partFrom_eq (hatEnd : EndsAt atEnd phrases) {cs : List Char}
    (hpart : IsPart phrases cs) : partFrom atEnd cs = cs := by
  have hgoes : partFrom atEnd (cs ++ []) = cs := by
    apply partFrom_append hpart.ends
    · intro front c back hcs hfront
      rw [List.append_nil, Bool.eq_false_iff, Ne, hatEnd.iff]
      rintro ⟨words, hwords, hstand⟩
      exact hpart.not_standAt words hwords front (c :: back) hcs hfront hstand
    · intro before
      rfl
  rwa [List.append_nil] at hgoes

theorem exists_of_append_singleton_eq {front before back : List Char} {last : Char}
    (hsplit : front ++ [last] = before ++ back) (hne : back ≠ []) :
    ∃ more, back = more ++ [last] ∧ front = before ++ more := by
  rcases List.eq_nil_or_concat back with rfl | ⟨more, l, rfl⟩
  · exact absurd rfl hne
  · rw [List.concat_eq_append, ← List.append_assoc] at hsplit
    obtain ⟨hfront, hlast⟩ := List.append_inj' hsplit rfl
    cases hlast
    exact ⟨more, List.concat_eq_append, hfront⟩

/-- A part ends with `last` in front of `rest`, and nowhere in `front`. -/
structure IsCut (atEnd : Option Char → List Char → Bool) (front : List Char) (last : Char)
    (rest : List Char) : Prop where
  ends : isEnd atEnd last rest = true
  goes : ∀ init d more, front = init ++ d :: more → isEnd atEnd d (more ++ last :: rest) = false

/-- A part goes on to the first place where it ends. -/
theorem exists_partFrom (atEnd : Option Char → List Char → Bool) (c : Char) (cs : List Char) :
    ∃ front last rest, c :: cs = front ++ last :: rest ∧
      partFrom atEnd (c :: cs) = front ++ [last] ∧ IsCut atEnd front last rest := by
  induction cs generalizing c with
  | nil => exact ⟨[], c, [], rfl, rfl, rfl, by simp⟩
  | cons b cs ih =>
    by_cases hend : isEnd atEnd c (b :: cs) = true
    · refine ⟨[], c, b :: cs, rfl, ?_, hend, by simp⟩
      rw [partFrom, if_pos hend, List.nil_append]
    · obtain ⟨front, last, rest, hcs, hfrom, hcut⟩ := ih b
      refine ⟨c :: front, last, rest, ?_, ?_, hcut.ends, ?_⟩
      · rw [hcs, List.cons_append]
      · rw [partFrom, if_neg hend, hfrom, List.cons_append]
      · intro init d more hsplit
        cases init with
        | nil =>
          cases hsplit
          rw [← hcs]
          exact Bool.eq_false_of_not_eq_true hend
        | cons a init =>
          cases hsplit
          exact hcut.goes init d more rfl

namespace EndsAt

variable {words : List String} {before : Option Char} {cs rest : List Char} {last : Char}

/-- Where a phrase stands, a part ends in front of it. -/
theorem isEnd_of_standAt (hatEnd : EndsAt atEnd phrases) (hwords : words ∈ phrases)
    (hstand : StandAt words (some last) cs) : isEnd atEnd last cs = true := by
  obtain ⟨c, hc, halpha⟩ := hstand.exists_letter_head (hatEnd.keywords words hwords)
  obtain ⟨cs, rfl⟩ := List.head?_eq_some_iff.mp hc
  rw [isEnd, Text.isBlank_eq_false_of_isAlpha halpha, if_neg Bool.false_ne_true]
  exact hatEnd.iff.mpr ⟨words, hwords, hstand⟩

/-- Where a part ends with a letter, its word ends too. -/
theorem isBoundary_of_isEnd (hatEnd : EndsAt atEnd phrases) (halpha : last.isAlpha = true)
    (hend : isEnd atEnd last rest = true) : isBoundary (some last) rest.head? = true := by
  have hword : ∀ after : Option Char, after.any Text.isWordChar = false →
      isBoundary (some last) after = true := by
    intro after hafter
    rw [isBoundary, Option.any_some, Text.isWordChar_of_isAlpha halpha, hafter]
    rfl
  cases rest with
  | nil => exact hword none rfl
  | cons b rest =>
    rw [isEnd] at hend
    split at hend
    next hblank => exact hword (some b) (Text.isWordChar_eq_false_of_isBlank hblank)
    next =>
      obtain ⟨words, hwords, phrase, back, hcs, hspells, hbefore, -⟩ := hatEnd.iff.mp hend
      obtain ⟨c, hc, -⟩ := hspells.exists_letter_head (hatEnd.keywords words hwords)
      rw [hcs, List.head?_append, hc, Option.some_or]
      rw [hc] at hbefore
      exact hbefore

/-- What stands in a part stands there in the whole text. -/
theorem standAt_append (hatEnd : EndsAt atEnd phrases) (hwords : words ∈ phrases)
    {more : List Char} (hend : isEnd atEnd last rest = true)
    (hstand : StandAt words before (more ++ [last])) :
    StandAt words before (more ++ last :: rest) := by
  obtain ⟨phrase, back, hcs, hspells, hbefore, hafter⟩ := hstand
  refine ⟨phrase, back ++ rest, ?_, hspells, hbefore, ?_⟩
  · rw [← List.append_assoc, ← hcs, List.append_assoc, List.singleton_append]
  · cases back with
    | cons c back => exact hafter
    | nil =>
      obtain ⟨c, hc, halpha⟩ := hspells.exists_letter_last (hatEnd.keywords words hwords)
      have hlast : c = last := by
        rw [List.append_nil] at hcs
        rw [← hcs, List.getLast?_concat] at hc
        exact (Option.some.inj hc).symm
      rw [hc, List.nil_append]
      exact hatEnd.isBoundary_of_isEnd halpha (hlast ▸ hend)

end EndsAt

namespace IsCut

variable {front rest : List Char} {last : Char}

/-- A part that ends behind a blank ends in front of it as well. -/
theorem endsVisibly (hcut : IsCut atEnd front last rest) {c : Char} {cs : List Char}
    (hcs : c :: cs = front ++ last :: rest) (hvisible : isBlank c = false) :
    EndsVisibly (front ++ [last]) := by
  refine ⟨last, List.getLast?_concat, ?_⟩
  rcases List.eq_nil_or_concat front with rfl | ⟨init, d, rfl⟩
  · cases hcs
    exact hvisible
  · by_contra hblank
    have hgoes := hcut.goes init d [] List.concat_eq_append
    rw [List.nil_append, isEnd, if_pos (Bool.of_not_eq_false hblank), hcut.ends] at hgoes
    cases hgoes

theorem not_standAt (hcut : IsCut atEnd front last rest) (hatEnd : EndsAt atEnd phrases)
    {words : List String} (hwords : words ∈ phrases) {before back : List Char}
    (hsplit : front ++ [last] = before ++ back) (hne : before ≠ []) :
    ¬ StandAt words before.getLast? back := by
  intro hstand
  obtain ⟨more, rfl, hfront⟩ := exists_of_append_singleton_eq hsplit
    (hstand.ne_nil (hatEnd.keywords words hwords))
  rcases List.eq_nil_or_concat before with rfl | ⟨init, d, rfl⟩
  · exact hne rfl
  · -- The words would end the part already behind `d`.
    rw [List.concat_eq_append, List.getLast?_concat] at hstand
    rw [List.concat_eq_append, List.append_assoc, List.singleton_append] at hfront
    have hgoes := hcut.goes init d more hfront
    rw [hatEnd.isEnd_of_standAt hwords (hatEnd.standAt_append hwords hcut.ends hstand)] at hgoes
    cases hgoes

end IsCut

/-- Of a text that does not begin with a blank, a part is taken from its start. -/
theorem EndsAt.isPart_partFrom (hatEnd : EndsAt atEnd phrases) {cs : List Char}
    (hstarts : StartsVisibly cs) :
    IsPart phrases (partFrom atEnd cs) ∧ partFrom atEnd cs <+: cs := by
  obtain ⟨c, hfirst, hvisible⟩ := hstarts
  obtain ⟨cs, rfl⟩ := List.head?_eq_some_iff.mp hfirst
  obtain ⟨front, last, rest, hcs, hfrom, hcut⟩ := exists_partFrom atEnd c cs
  rw [hfrom]
  refine ⟨⟨?_, hcut.endsVisibly hcs hvisible, ?_⟩, ?_⟩
  · refine ⟨c, ?_, hvisible⟩
    have hhead := congrArg List.head? hcs
    rw [List.append_cons, List.head?_append_of_ne_nil _ (List.concat_ne_nil _ _)] at hhead
    exact hhead.symm
  · intro words hwords before back hsplit hne
    exact hcut.not_standAt hatEnd hwords hsplit hne
  · rw [hcs, List.append_cons front last rest]
    exact List.prefix_append _ _

end Part

/-! ## Where a part begins -/

theorem startsVisibly_of_afterBlanks? {cs rest : List Char}
    (hafter : afterBlanks? cs = some rest) (hne : rest ≠ []) : StartsVisibly rest := by
  cases cs with
  | nil => cases hafter
  | cons c cs =>
    simp only [afterBlanks?] at hafter
    split at hafter
    next =>
      cases hafter
      exact Text.startsVisibly_dropBlanks hne
    next => cases hafter

/-- What is found begins with no blank, and stands behind the words that open it, at the end of the
text. -/
theorem Finds.exists_of_body? {opened? : Option Char → List Char → Option (List Char)}
    {words : List String} (hfinds : Finds opened? words) {before : Option Char}
    {cs body : List Char} (hbody : body? opened? before cs = some body) :
    StartsVisibly body ∧ ∃ front phrase blanks,
      cs = front ++ (phrase ++ (blanks ++ body)) ∧ Spells words phrase := by
  induction cs generalizing before with
  | nil => cases hbody
  | cons c cs ih =>
    unfold body? at hbody
    split at hbody
    next b found hfound =>
      cases hbody
      obtain ⟨behind, hopened, hafter⟩ := Option.bind_eq_some_iff.mp hfound
      obtain ⟨phrase, hcs, hspells, -⟩ := hfinds.eq_some_iff.mp hopened
      obtain ⟨blanks, -, -, rfl⟩ := afterBlanks?_eq_some hafter
      exact ⟨startsVisibly_of_afterBlanks? hafter (List.cons_ne_nil b found), [], phrase, blanks,
        hcs, hspells⟩
    next =>
      obtain ⟨hstarts, front, phrase, blanks, rfl, hspells⟩ := ih hbody
      exact ⟨hstarts, c :: front, phrase, blanks, rfl, hspells⟩

/-! ## Parts taken out again -/

section Taken

variable {opened? : Option Char → List Char → Option (List Char)}
  {atEnd : Option Char → List Char → Bool} {words : List String} {phrases : List (List String)}
  {sql part : String}

/-- What is taken out of a text is a part that stands in it. -/
theorem EndsAt.isPart_of_part? (hatEnd : EndsAt atEnd phrases) (hfinds : Finds opened? words)
    (htaken : part? opened? atEnd sql = some part) :
    part.toList <:+: sql.toList ∧ IsPart phrases part.toList := by
  obtain ⟨body, hbody, rfl⟩ := Option.map_eq_some_iff.mp htaken
  obtain ⟨hstarts, front, phrase, blanks, hsql, -⟩ := hfinds.exists_of_body? hbody
  have hback : body <:+ sql.toList := by
    rw [hsql, ← List.append_assoc, ← List.append_assoc]
    exact List.suffix_append _ _
  obtain ⟨hpart, hfront⟩ := hatEnd.isPart_partFrom hstarts
  rw [String.toList_ofList]
  exact ⟨hfront.isInfix.trans hback.isInfix, hpart⟩

/-- Behind a plain heading and the words that open it, a part is taken out as it is. -/
theorem EndsAt.part?_eq_some (hatEnd : EndsAt atEnd phrases) {letter : Char} {word : String}
    {more : List String} (hfinds : Finds opened? (word :: more))
    (hlast : word.toList.getLast? = some letter) {heading phrase : List Char}
    (hheading : IsPlain letter heading) (hbefore : isBoundary heading.getLast? phrase.head? = true)
    (hspells : Spells (word :: more) phrase) (hpart : IsPart phrases part.toList)
    (hsql : sql.toList = heading ++ (phrase ++ (' ' :: part.toList))) :
    part? opened? atEnd sql = some part := by
  have hbody : body? opened? none sql.toList = some part.toList := by
    rw [hsql, body?_append (hheading.isSilent hfinds hlast _), Option.or_none]
    exact hfinds.body?_of_spells hspells hbefore (List.cons_ne_nil ' ' [])
      Text.isBlank_of_mem_space hpart.starts
  rw [part?, hbody, Option.map_some, hpart.partFrom_eq hatEnd, String.ofList_toList]

end Taken

/-- What is taken out of any text, as its condition or as its order, stands in that text without
blanks around it and has no words behind its first character that would end it. Put behind a
heading of its kind, it is taken out as it is. -/
theorem extracted_parts_stand_alone (sql : String) :
    (∀ condition, extractWhere? sql = some condition →
      condition.toList <:+: sql.toList ∧
      IsPart [["LIMIT"], ["ORDER", "BY"]] condition.toList ∧
      extractWhere? ("SELECT * FROM \x60t\x60 WHERE " ++ condition) = some condition) ∧
    (∀ order, extractOrderBy? sql = some order →
      order.toList <:+: sql.toList ∧
      IsPart [["LIMIT"]] order.toList ∧
      extractOrderBy? ("SELECT * FROM \x60t\x60 ORDER BY " ++ order) = some order) := by
  have hplain : ∀ letter, letter = 'E' ∨ letter = 'R' →
      IsPlain letter "SELECT * FROM \x60t\x60 ".toList := by
    rintro letter (rfl | rfl)
    · exact .of_any (by decide) (by decide) (by decide)
    · exact .of_any (by decide) (by decide) (by decide)
  have hwhere : Spells ["WHERE"] "WHERE".toList := .last rfl
  constructor
  · intro condition hcondition
    obtain ⟨hwithin, hpart⟩ := endsAt_order_or_limit.isPart_of_part? finds_where hcondition
    refine ⟨hwithin, hpart, ?_⟩
    apply endsAt_order_or_limit.part?_eq_some finds_where rfl (hplain 'E' (.inl rfl)) (by decide)
      hwhere hpart
    rw [String.toList_append]
    rfl
  · intro order horder
    obtain ⟨hwithin, hpart⟩ := endsAt_limit.isPart_of_part? finds_openedByOrder? horder
    refine ⟨hwithin, hpart, ?_⟩
    apply endsAt_limit.part?_eq_some finds_openedByOrder? rfl (hplain 'R' (.inr rfl)) (by decide)
      spells_orderBy hpart
    rw [String.toList_append]
    rfl

/-- A word that ends a part is taken for the part itself where nothing stands in front of it. -/
theorem bare_keywords_stand_alone :
    extractWhere? "x where  Order\u00a0By \n LIMIT" = some "Order\u00a0By" ∧
    extractWhere? ("SELECT * FROM \x60t\x60 WHERE " ++ "Order\u00a0By") = some "Order\u00a0By" ∧
    extractOrderBy? "x where  Order\u00a0By \n LIMIT" = some "LIMIT" ∧
    extractOrderBy? ("SELECT * FROM \x60t\x60 ORDER BY " ++ "LIMIT") = some "LIMIT" := by
  have hcondition : extractWhere? "x where  Order\u00a0By \n LIMIT" = some "Order\u00a0By" := by
    decide +kernel
  have horder : extractOrderBy? "x where  Order\u00a0By \n LIMIT" = some "LIMIT" := by
    decide +kernel
  obtain ⟨hconditions, horders⟩ :=
    extracted_parts_stand_alone "x where  Order\u00a0By \n LIMIT"
  obtain ⟨-, -, hconditionAgain⟩ := hconditions _ hcondition
  obtain ⟨-, -, horderAgain⟩ := horders _ horder
  exact ⟨hcondition, hconditionAgain, horder, horderAgain⟩

end TableFilter.Sql
