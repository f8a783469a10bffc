import TableFilter.Proofs.Text.Word
import TableFilter.Sql.Extract

/-!
# Searching a statement

Where the search for the start of a part goes by, and where a part ends. Both are said of a text in
front of another one, so that a statement may be searched piece by piece.
-/

namespace TableFilter.Sql

open Text (EndsVisibly HasWords Spells StandAt StartsVisibly afterKeyword? dropBlanks isBlank
  isBoundary isKeyword)

variable {opened? : Option Char → List Char → Option (List Char)} {words : List String}

/-! ## Openings -/

/-- What is opened is opened by the words, at the start of a word. -/
structure Finds (opened? : Option Char → List Char → Option (List Char)) (words : List String) :
    Prop where
  keywords : ∀ word ∈ words, isKeyword word = true
  eq_some_iff : ∀ {before : Option Char} {cs rest : List Char}, opened? before cs = some rest ↔
    ∃ phrase, cs = phrase ++ rest ∧ Spells words phrase ∧ isBoundary before phrase.head? = true

theorem finds_openedBy? {word : String} (hkeyword : isKeyword word = true) :
    Finds (openedBy? word) [word] where
  keywords := by simpa using hkeyword
  eq_some_iff {before cs rest} := by
    constructor
    · intro hopened
      unfold openedBy? at hopened
      split at hopened
      next hbefore =>
        obtain ⟨phrase, rfl, hword⟩ := Text.afterKeyword?_eq_some_iff.mp hopened
        rw [List.head?_append_of_ne_nil _ (Text.ne_nil_of_word hkeyword hword)] at hbefore
        exact ⟨phrase, rfl, .last hword, hbefore⟩
      next => cases hopened
    · rintro ⟨phrase, rfl, hspells, hbefore⟩
      cases hspells with
      | last hword =>
        rw [openedBy?, List.head?_append_of_ne_nil _ (Text.ne_nil_of_word hkeyword hword),
          if_pos hbefore]
        exact Text.afterKeyword?_eq_some_iff.mpr ⟨phrase, rfl, hword⟩
      | next _ _ _ hrest => cases hrest

theorem afterBlanks?_eq_some {cs rest : List Char} (hafter : afterBlanks? cs = some rest) :
    ∃ blanks, blanks ≠ [] ∧ (∀ b ∈ blanks, isBlank b = true) ∧ cs = blanks ++ rest := by
  cases cs with
  | nil => cases hafter
  | cons c cs =>
    simp only [afterBlanks?] at hafter
    split at hafter
    next hblank =>
      cases hafter
      obtain ⟨blanks, hblanks, hcs⟩ := Text.exists_dropBlanks cs
      refine ⟨c :: blanks, List.cons_ne_nil _ _, List.forall_mem_cons.mpr ⟨hblank, hblanks⟩, ?_⟩
      rw [List.cons_append, ← hcs]
    next => cases hafter

theorem afterBlanks?_append {blanks rest : List Char} (hne : blanks ≠ [])
    (hblanks : ∀ b ∈ blanks, isBlank b = true) (hstarts : StartsVisibly rest) :
    afterBlanks? (blanks ++ rest) = some rest := by
  cases blanks with
  | nil => exact absurd rfl hne
  | cons b blanks =>
    obtain ⟨hblank, hblanks⟩ := List.forall_mem_cons.mp hblanks
    rw [List.cons_append, afterBlanks?, if_pos hblank, dropBlanks,
      List.dropWhile_append_of_pos hblanks, ← dropBlanks, hstarts.dropBlanks_eq]

theorem finds_openedByOrder? : Finds openedByOrder? ["ORDER", "BY"] where
  keywords := by decide
  eq_some_iff {before cs rest} := by
    have horder : Finds (openedBy? "ORDER") ["ORDER"] := finds_openedBy? (by decide)
    constructor
    · intro hopened
      obtain ⟨behindOrder, horderRead, hopened⟩ := Option.bind_eq_some_iff.mp hopened
      obtain ⟨behindBlanks, hafter, hbyRead⟩ := Option.bind_eq_some_iff.mp hopened
      obtain ⟨order, rfl, hspells, hbefore⟩ := horder.eq_some_iff.mp horderRead
      obtain ⟨blanks, hne, hblanks, rfl⟩ := afterBlanks?_eq_some hafter
      obtain ⟨by', rfl, hby⟩ := Text.afterKeyword?_eq_some_iff.mp hbyRead
      cases hspells with
      | last hword =>
        refine ⟨order ++ (blanks ++ by'), by simp, .next hword hne hblanks (.last hby), ?_⟩
        rwa [List.head?_append_of_ne_nil _ (Text.ne_nil_of_word (by decide) hword)]
      | next _ _ _ hrest => cases hrest
    · rintro ⟨phrase, rfl, hspells, hbefore⟩
      cases hspells with
      | @next _ _ order blanks by' hword hne hblanks hrest =>
        cases hrest with
        | next _ _ _ hrest => cases hrest
        | last hby =>
          rw [List.head?_append_of_ne_nil _ (Text.ne_nil_of_word (by decide) hword)] at hbefore
          have hstarts : StartsVisibly (by' ++ rest) := by
            obtain ⟨c, hc, halpha⟩ := (Spells.last hby).exists_letter_head (by decide)
            exact Text.StartsVisibly.append ⟨c, hc, Text.isBlank_eq_false_of_isAlpha halpha⟩ rest
          have horderRead : openedBy? "ORDER" before (order ++ (blanks ++ (by' ++ rest))) =
              some (blanks ++ (by' ++ rest)) :=
            horder.eq_some_iff.mpr ⟨order, rfl, .last hword, hbefore⟩
          have hbyRead : afterKeyword? "BY".toList (by' ++ rest) = some rest :=
            Text.afterKeyword?_eq_some_iff.mpr ⟨by', rfl, hby⟩
          simp only [List.append_assoc]
          simp only [openedByOrder?, horderRead, afterBlanks?_append hne hblanks hstarts, hbyRead,
            bind, Option.bind]

/-- Any character of a word will do for the letter in front. -/
theorem isBoundary_eq_endsWord {c : Char} (hword : Text.isWordChar c = true) (cs : List Char) :
    isBoundary (some c) cs.head? = endsWord cs := by
  rw [endsWord, isBoundary, isBoundary, Option.any_some, Option.any_some, hword]
  rfl

/-- A blank ends a word, and so does the end of the text. -/
theorem endsWord_of_isBlank {cs : List Char} (hblank : ∀ b ∈ cs.head?, isBlank b = true) :
    endsWord cs = true := by
  rw [endsWord, isBoundary, Text.any_isWordChar_of_isBlank hblank]
  rfl

namespace Finds

variable {before : Option Char} {front cs : List Char}

/-- Behind the words no more of a word comes where the last of them ends. -/
theorem isBoundary_getLast? (hfinds : Finds opened? words) {phrase : List Char}
    (hspells : Spells words phrase) (back : List Char) :
    isBoundary phrase.getLast? back.head? = endsWord back := by
  obtain ⟨c, hc, halpha⟩ := hspells.exists_letter_last hfinds.keywords
  rw [hc, isBoundary_eq_endsWord (Text.isWordChar_of_isAlpha halpha)]

/-- What is opened and followed by no more of a word are the words. -/
theorem any_endsWord_iff (hfinds : Finds opened? words) :
    (opened? before cs).any endsWord = true ↔ StandAt words before cs := by
  rw [Option.any_eq_true]
  constructor
  · rintro ⟨rest, hopened, hends⟩
    obtain ⟨phrase, rfl, hspells, hbefore⟩ := hfinds.eq_some_iff.mp hopened
    rw [← hfinds.isBoundary_getLast? hspells] at hends
    exact ⟨phrase, rest, rfl, hspells, hbefore, hends⟩
  · rintro ⟨phrase, back, hcs, hspells, hbefore, hafter⟩
    rw [hfinds.isBoundary_getLast? hspells] at hafter
    exact ⟨back, hfinds.eq_some_iff.mpr ⟨phrase, hcs, hspells, hbefore⟩, hafter⟩

/-- What is opened in a text, and is followed by no more of a word, are the words. -/
theorem hasWords (hfinds : Finds opened? words) (hbefore : before.any Text.isWordChar = false)
    (hopened : (opened? (front.getLast?.or before) cs).any endsWord = true) :
    HasWords words (front ++ cs) := by
  obtain ⟨phrase, back, rfl, hspells, hstarts, hends⟩ := hfinds.any_endsWord_iff.mp hopened
  refine ⟨front, phrase, back, rfl, hspells, ?_, hends⟩
  cases hlast : front.getLast? with
  | none =>
    rw [hlast, Option.none_or, isBoundary, hbefore] at hstarts
    exact hstarts
  | some c =>
    rw [hlast] at hstarts
    exact hstarts

/-- Words that stand at a place are found there. -/
theorem any_endsWord_of_spells (hfinds : Finds opened? words) {phrase rest : List Char}
    (hspells : Spells words phrase) (hbefore : isBoundary before phrase.head? = true)
    (hrest : ∀ b ∈ rest.head?, isBlank b = true) :
    (opened? before (phrase ++ rest)).any endsWord = true := by
  rw [hfinds.eq_some_iff.mpr ⟨phrase, rfl, hspells, hbefore⟩, Option.any_some]
  exact endsWord_of_isBlank hrest

/-- In front of what is opened and has something behind it, the first of the words stands before a
blank. -/
theorem exists_word_blank (hfinds : Finds opened? words) {rest body : List Char}
    (hopened : opened? before cs = some rest) (hbody : afterBlanks? rest = some body) :
    ∃ word more first b behind, words = word :: more ∧ first.map Char.toUpper = word.toList ∧
      isBlank b = true ∧ cs = first ++ b :: behind := by
  obtain ⟨phrase, rfl, hspells, -⟩ := hfinds.eq_some_iff.mp hopened
  obtain ⟨word, more, first, inner, rfl, rfl, hword, hinner⟩ := hspells.exists_first
  obtain ⟨blanks, hne, hblanks, rfl⟩ := afterBlanks?_eq_some hbody
  cases inner with
  | cons b inner =>
    refine ⟨word, more, first, b, inner ++ (blanks ++ body), rfl, hword, hinner b rfl, ?_⟩
    rw [List.append_assoc, List.cons_append]
  | nil =>
    cases blanks with
    | nil => exact absurd rfl hne
    | cons b blanks =>
      refine ⟨word, more, first, b, blanks ++ body, rfl, hword, hblanks b List.mem_cons_self, ?_⟩
      rw [List.append_nil, List.cons_append]

end Finds

/-- Whether something is opened at some place of a text and is followed by no more of a word. -/
def opensIn (opened? : Option Char → List Char → Option (List Char)) (before : Option Char) :
    List Char → Bool
  | [] => false
  | c :: rest => (opened? before (c :: rest)).any endsWord || opensIn opened? (some c) rest

theorem getLast?_cons_or (c : Char) (cs : List Char) (before : Option Char) :
    (c :: cs).getLast?.or before = cs.getLast?.or (some c) := by
  rw [List.getLast?_cons, Option.or_some]
  rfl

theorem opensIn_iff {before : Option Char} {cs : List Char} :
    opensIn opened? before cs = true ↔ ∃ front c back, cs = front ++ c :: back ∧
      (opened? (front.getLast?.or before) (c :: back)).any endsWord = true := by
  induction cs generalizing before with
  | nil => simp [opensIn]
  | cons c rest ih =>
    rw [opensIn, Bool.or_eq_true, ih]
    constructor
    · rintro (hhere | ⟨front, d, back, rfl, hlater⟩)
      · exact ⟨[], c, rest, rfl, hhere⟩
      · rw [← getLast?_cons_or c front before] at hlater
        exact ⟨c :: front, d, back, rfl, hlater⟩
    · rintro ⟨front, d, back, hsplit, hopened⟩
      cases front with
      | nil =>
        cases hsplit
        exact .inl hopened
      | cons c front =>
        cases hsplit
        rw [getLast?_cons_or] at hopened
        exact .inr ⟨front, d, back, rfl, hopened⟩

/-- Whether words stand in a text is found by looking for them at every place. -/
theorem Finds.opensIn_iff_hasWords (hfinds : Finds opened? words) {cs : List Char} :
    opensIn opened? none cs = true ↔ HasWords words cs := by
  rw [opensIn_iff]
  constructor
  · rintro ⟨front, c, back, rfl, hopened⟩
    exact hfinds.hasWords rfl hopened
  · rw [Text.hasWords_iff]
    rintro ⟨front, back, rfl, hstand⟩
    cases back with
    | nil => exact absurd rfl (hstand.ne_nil hfinds.keywords)
    | cons c back =>
      refine ⟨front, c, back, rfl, ?_⟩
      rw [Option.or_none]
      exact hfinds.any_endsWord_iff.mpr hstand

/-! ## Pieces in which nothing is opened -/

/-- The search stops at the words, where something stands behind them. -/
theorem Finds.body?_of_spells (hfinds : Finds opened? words) {before : Option Char}
    {phrase blanks body : List Char} (hspells : Spells words phrase)
    (hbefore : isBoundary before phrase.head? = true) (hne : blanks ≠ [])
    (hblanks : ∀ b ∈ blanks, isBlank b = true) (hstarts : StartsVisibly body) :
    body? opened? before (phrase ++ (blanks ++ body)) = some body := by
  have hopened : opened? before (phrase ++ (blanks ++ body)) = some (blanks ++ body) :=
    hfinds.eq_some_iff.mpr ⟨phrase, rfl, hspells, hbefore⟩
  have hafter := afterBlanks?_append hne hblanks hstarts
  cases phrase with
  | nil =>
    obtain ⟨c, hc, -⟩ := hspells.exists_letter_head hfinds.keywords
    cases hc
  | cons c phrase =>
    cases body with
    | nil =>
      obtain ⟨b, hb, -⟩ := hstarts
      cases hb
    | cons b body =>
      rw [List.cons_append] at hopened ⊢
      rw [body?, hopened, Option.bind_some, hafter]

/-- Nothing that has something behind it is opened in `cs`, where `before` is in front of it and
`rest` follows. -/
def IsSilent (opened? : Option Char → List Char → Option (List Char)) (before : Option Char)
    (cs rest : List Char) : Prop :=
  ∀ front c back, cs = front ++ c :: back →
    ∀ body, (opened? (front.getLast?.or before) (c :: (back ++ rest))).bind afterBlanks? =
      some body → body = []

/-- The search goes by a piece in which nothing is opened. -/
theorem body?_append {before : Option Char} {cs rest : List Char}
    (hsilent : IsSilent opened? before cs rest) :
    body? opened? before (cs ++ rest) = body? opened? (cs.getLast?.or before) rest := by
  induction cs generalizing before with
  | nil => rfl
  | cons c cs ih =>
    have hrest : IsSilent opened? (some c) cs rest := by
      intro front d back hcs
      rw [← getLast?_cons_or c front before]
      exact hsilent (c :: front) d back (by rw [hcs, List.cons_append])
    rw [List.cons_append, body?, getLast?_cons_or]
    split
    next b body hbody => cases hsilent [] c cs rfl _ hbody
    next => exact ih hrest

/-- Pieces without a word before a blank that ends with a given letter, and without an open word at
their end. -/
structure IsPlain (letter : Char) (cs : List Char) : Prop where
  capital : letter.isUpper = true
  chain : cs.IsChain fun c b => isBlank b = true → c.toUpper ≠ letter
  ends : ∀ c ∈ cs.getLast?, c.isAlpha = false

namespace IsPlain

variable {letter : Char} {cs : List Char}

theorem append {others : List Char} (hcs : IsPlain letter cs) (hothers : IsPlain letter others) :
    IsPlain letter (cs ++ others) where
  capital := hcs.capital
  chain := by
    refine hcs.chain.append hothers.chain ?_
    intro c hc b _ _ hupper
    have halpha := Text.isAlpha_of_toUpper_eq hcs.capital hupper
    rw [hcs.ends c hc] at halpha
    cases halpha
  ends c hc := by
    rw [List.getLast?_append] at hc
    rcases Option.or_eq_some_iff.mp hc with hc | ⟨-, hc⟩
    · exact hothers.ends c hc
    · exact hcs.ends c hc

theorem of_visible (hletter : letter.isUpper = true) (hvisible : ∀ c ∈ cs, isBlank c = false)
    (hends : ∀ c ∈ cs.getLast?, c.isAlpha = false) : IsPlain letter cs where
  capital := hletter
  chain := by
    rw [List.isChain_iff_forall_rel_of_append_cons_cons]
    intro c b front back hcs hblank
    have hb := hvisible b (by simp [hcs])
    rw [hblank] at hb
    cases hb
  ends := hends

/-- Whether a given piece is plain can be computed. -/
theorem of_any (hletter : letter.isUpper = true)
    (hchain : cs.IsChain fun c b => isBlank b = true → c.toUpper ≠ letter)
    (hends : cs.getLast?.any Char.isAlpha = false) : IsPlain letter cs :=
  ⟨hletter, hchain, (Option.any_eq_false _ _).mp hends⟩

/-- The end of a plain piece is in no word. -/
theorem not_forall_isAlpha {front back : List Char} (hplain : IsPlain letter (front ++ back))
    (hne : back ≠ []) : ¬ ∀ c ∈ back, c.isAlpha = true := by
  intro halpha
  have hends := hplain.ends (back.getLast hne) (by
    rw [List.getLast?_append_of_ne_nil _ hne]
    exact List.getLast?_eq_some_getLast hne)
  rw [halpha _ (List.getLast_mem hne)] at hends
  cases hends

/-- Nothing is opened in a plain piece by words of which the first ends with the letter. -/
theorem isSilent {before : Option Char} {word : String} {more : List String}
    (hplain : IsPlain letter cs) (hfinds : Finds opened? (word :: more))
    (hlast : word.toList.getLast? = some letter) (rest : List Char) :
    IsSilent opened? before cs rest := by
  intro front c back hcs body hbody
  exfalso
  subst hcs
  obtain ⟨init, hlast⟩ := List.getLast?_eq_some_iff.mp hlast
  obtain ⟨behind, hopened, hbody⟩ := Option.bind_eq_some_iff.mp hbody
  obtain ⟨_, _, first, b, following, heq, hword, hblank, hsplit⟩ :=
    hfinds.exists_word_blank hopened hbody
  cases heq
  have halpha := Text.isAlpha_of_mem_word (hfinds.keywords word List.mem_cons_self) hword
  rw [← List.cons_append] at hsplit
  rcases List.append_eq_append_iff.mp hsplit with ⟨_, rfl, -⟩ | ⟨inner, hinner, hfollowing⟩
  · -- The word goes on behind the piece.
    exact hplain.not_forall_isAlpha (List.cons_ne_nil c back) fun d hd =>
      halpha d (List.mem_append_left _ hd)
  · rw [hinner] at hplain
    cases inner with
    | nil =>
      rw [List.append_nil] at hplain hinner
      exact hplain.not_forall_isAlpha (hinner ▸ List.cons_ne_nil c back) halpha
    | cons d inner =>
      -- The word and the blank behind it are both in the piece.
      cases hfollowing
      rw [hlast] at hword
      obtain ⟨start, _, rfl, -, hsingle⟩ := List.map_eq_append_iff.mp hword
      obtain ⟨l, rfl, hletter⟩ := List.map_eq_singleton_iff.mp hsingle
      have hsplit : front ++ (start ++ [l] ++ b :: inner) = (front ++ start) ++ l :: b :: inner := by
        simp
      exact List.isChain_iff_forall_rel_of_append_cons_cons.mp hplain.chain hsplit hblank hletter

theorem body?_eq_none {before : Option Char} {word : String} {more : List String}
    (hplain : IsPlain letter cs) (hfinds : Finds opened? (word :: more))
    (hlast : word.toList.getLast? = some letter) : body? opened? before cs = none := by
  have hsilent : IsSilent opened? before cs [] := hplain.isSilent hfinds hlast []
  have hskip := body?_append hsilent
  rw [List.append_nil] at hskip
  exact hskip

end IsPlain

/-- What follows a text that ends visibly has no part in what is opened in the text. -/
structure IsApart (opened? : Option Char → List Char → Option (List Char)) (rest : List Char) :
    Prop where
  blank : ∀ b ∈ rest.head?, isBlank b = true
  eq_map : ∀ {before : Option Char} {cs : List Char}, EndsVisibly cs →
    opened? before (cs ++ rest) = (opened? before cs).map (· ++ rest)

namespace IsApart

variable {before : Option Char} {cs rest : List Char}

theorem endsWord_append (hapart : IsApart opened? rest) (behind : List Char) :
    endsWord (behind ++ rest) = endsWord behind := by
  cases behind with
  | cons c behind => rfl
  | nil => exact endsWord_of_isBlank hapart.blank

/-- Words end in a text as they do where the rest follows it. -/
theorem any_endsWord (hapart : IsApart opened? rest) (hends : EndsVisibly cs) :
    (opened? before (cs ++ rest)).any endsWord = (opened? before cs).any endsWord := by
  rw [hapart.eq_map hends, Option.any_map]
  congr
  funext behind
  exact hapart.endsWord_append behind

/-- The words do not stand in a text that does not have them. -/
theorem any_endsWord_eq_false (hapart : IsApart opened? rest) (hfinds : Finds opened? words)
    (before : Option Char) (hbefore : before.any Text.isWordChar = false) {front back : List Char}
    {c : Char} (hends : EndsVisibly (front ++ c :: back))
    (hnone : ¬ HasWords words (front ++ c :: back)) :
    (opened? (front.getLast?.or before) (c :: (back ++ rest))).any endsWord = false := by
  rw [← List.cons_append, hapart.any_endsWord (hends.of_append _ (List.cons_ne_nil c back))]
  by_contra hopened
  exact hnone (hfinds.hasWords hbefore (Bool.of_not_eq_false hopened))

theorem any_endsWord_getLast? (hapart : IsApart opened? rest) (hfinds : Finds opened? words)
    (hends : EndsVisibly cs) (hnone : ¬ HasWords words cs) {front back : List Char} {c : Char}
    (hcs : cs = front ++ c :: back) :
    (opened? front.getLast? (c :: (back ++ rest))).any endsWord = false := by
  subst hcs
  have hnot := hapart.any_endsWord_eq_false hfinds none rfl hends hnone
  rw [Option.or_none] at hnot
  exact hnot

/-- Nothing is opened in a text that does not have the words. -/
theorem isSilent (hapart : IsApart opened? rest) (hfinds : Finds opened? words)
    (hbefore : before.any Text.isWordChar = false) (hends : EndsVisibly cs)
    (hnone : ¬ HasWords words cs) : IsSilent opened? before cs rest := by
  intro front c back hcs body hbody
  exfalso
  subst hcs
  have hnot := hapart.any_endsWord_eq_false hfinds before hbefore hends hnone
  obtain ⟨behind, hopened, hafter⟩ := Option.bind_eq_some_iff.mp hbody
  obtain ⟨blanks, hne, hblanks, rfl⟩ := afterBlanks?_eq_some hafter
  have hword : endsWord (blanks ++ body) = true := by
    apply endsWord_of_isBlank
    intro b hb
    rw [List.head?_append_of_ne_nil _ hne] at hb
    exact hblanks b (List.mem_of_head? hb)
  rw [hopened, Option.any_some, hword] at hnot
  cases hnot

end IsApart

theorem isApart_openedBy? {word : String} (hkeyword : isKeyword word = true) {rest : List Char}
    (hblank : ∀ b ∈ rest.head?, isBlank b = true) : IsApart (openedBy? word) rest where
  blank := hblank
  eq_map {before cs} hends := by
    rw [openedBy?, openedBy?, List.head?_append_of_ne_nil _ hends.ne_nil]
    split
    · apply Text.afterKeyword?_append
      intro c hc
      exact Text.toUpper_not_mem_of_isBlank hkeyword (hblank c hc)
    · rfl

theorem afterBlanks?_append_of_endsVisibly {cs : List Char} (hends : EndsVisibly cs)
    (rest : List Char) : afterBlanks? (cs ++ rest) = (afterBlanks? cs).map (· ++ rest) := by
  cases cs with
  | nil => exact absurd rfl hends.ne_nil
  | cons c cs =>
    simp only [List.cons_append, afterBlanks?]
    split
    next hblank =>
      rw [(hends.of_cons hblank).dropBlanks_append]
      rfl
    next => rfl

/-- Where blanks are followed by anything but the second word, they end what stands in front. -/
theorem isApart_openedByOrder? {rest : List Char} (hblank : ∀ b ∈ rest.head?, isBlank b = true)
    (hby : ∀ behind, afterBlanks? rest = some behind → afterKeyword? "BY".toList behind = none) :
    IsApart openedByOrder? rest where
  blank := hblank
  eq_map {before cs} hends := by
    have horder : openedBy? "ORDER" before (cs ++ rest) =
        (openedBy? "ORDER" before cs).map (· ++ rest) :=
      (isApart_openedBy? (by decide) hblank).eq_map hends
    cases hopened : openedBy? "ORDER" before cs with
    | none => simp [openedByOrder?, horder, hopened]
    | some behind =>
      rw [hopened] at horder
      cases behind with
      | nil =>
        -- The text ends with the first word, so the second would have to come from the rest.
        have hnone : (afterBlanks? rest).bind (afterKeyword? "BY".toList) = none :=
          Option.bind_eq_none_iff.mpr hby
        simpa [openedByOrder?, horder, hopened, afterBlanks?] using hnone
      | cons c behind =>
        -- What is left of the text ends visibly too, so the blanks end inside it.
        have hends : EndsVisibly (c :: behind) := by
          obtain ⟨phrase, rfl, -, -⟩ := (finds_openedBy? (by decide)).eq_some_iff.mp hopened
          exact hends.of_append _ (List.cons_ne_nil c behind)
        have hby : ∀ cs, afterKeyword? "BY".toList (cs ++ rest) =
            (afterKeyword? "BY".toList cs).map (· ++ rest) := by
          intro cs
          apply Text.afterKeyword?_append
          intro c hc
          exact Text.toUpper_not_mem_of_isBlank (by decide) (hblank c hc)
        simp only [openedByOrder?, horder, hopened, Option.map_some, bind, Option.bind_some,
          afterBlanks?_append_of_endsVisibly hends]
        cases afterBlanks? (c :: behind) with
        | none => rfl
        | some behind => exact hby behind

/-! ## Ends of a part -/

variable {atEnd : Option Char → List Char → Bool} {cs rest : List Char}

/-- A part does not end in front of a text in which nothing ends it. -/
theorem isEnd_append (hends : EndsVisibly cs) (before : Char)
    (hnone : ∀ front c back, cs = front ++ c :: back →
      atEnd (front.getLast?.or (some before)) (c :: (back ++ rest)) = false) :
    isEnd atEnd before (cs ++ rest) = false := by
  induction cs generalizing before with
  | nil => exact absurd rfl hends.ne_nil
  | cons c cs ih =>
    rw [List.cons_append, isEnd]
    split
    next hblank =>
      apply ih (hends.of_cons hblank)
      intro front d back hcs
      rw [← getLast?_cons_or c front (some before)]
      exact hnone (c :: front) d back (by rw [hcs, List.cons_append])
    next => exact hnone [] c cs rfl

/-- A part is a text in which nothing ends it behind the first character, in front of its end. -/
theorem partFrom_append (hends : EndsVisibly cs)
    (hnone : ∀ front c back, cs = front ++ c :: back → front ≠ [] →
      atEnd front.getLast? (c :: (back ++ rest)) = false)
    (hend : ∀ before, isEnd atEnd before rest = true) : partFrom atEnd (cs ++ rest) = cs := by
  induction cs with
  | nil => exact absurd rfl hends.ne_nil
  | cons c cs ih =>
    rw [List.cons_append, partFrom]
    by_cases hne : cs = []
    · rw [hne, List.nil_append, if_pos (hend c)]
    · have hends := hends.of_append [c] hne
      have hgoes : isEnd atEnd c (cs ++ rest) = false := by
        apply isEnd_append hends
        intro front d back hcs
        rw [← getLast?_cons_or c front none, Option.or_none]
        exact hnone (c :: front) d back (by rw [hcs, List.cons_append]) (List.cons_ne_nil c front)
      rw [hgoes, if_neg Bool.false_ne_true, ih hends]
      intro front d back hcs hfront
      have hlast := hnone (c :: front) d back (by rw [hcs, List.cons_append])
        (List.cons_ne_nil c front)
      rwa [← List.singleton_append, List.getLast?_append_of_ne_nil _ hfront] at hlast

/-- A part goes no further than to where one ends. -/
theorem length_partFrom_le {c : Char} (hend : isEnd atEnd c rest = true) (front : List Char) :
    (partFrom atEnd (front ++ c :: rest)).length ≤ front.length + 1 := by
  induction front with
  | nil =>
    rw [List.nil_append, partFrom, if_pos hend]
    exact Nat.le_refl 1
  | cons d front ih =>
    rw [List.cons_append, partFrom]
    split
    · exact Nat.le_add_left 1 _
    · exact Nat.succ_le_succ ih

end TableFilter.Sql
