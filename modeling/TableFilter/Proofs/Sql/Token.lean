import TableFilter.Proofs.Identifier
import TableFilter.Proofs.Json.NumberText
import TableFilter.Proofs.Sql.Literal
import TableFilter.Sql.Condition
import TableFilter.Text.Blank

/-!
# Tokens of a condition

A server cuts a condition into names between backticks, texts between single quotes, numbers,
words and punctuation. What is said here of printed texts is that they are cut where they were put
together, whatever their names and literals hold.
-/

namespace TableFilter.Sql

/-- A word with a meaning of its own, in any case of its letters. -/
inductive Keyword where
  | and
  | or
  | not
  | is
  | null
  | yes
  | no
  | among
  | like
  | regexp
  | between
  deriving DecidableEq, Repr

namespace Keyword

def all : List Keyword :=
  [.and, .or, .not, .is, .null, .yes, .no, .among, .like, .regexp, .between]

def chars : Keyword → List Char
  | .and => ['A', 'N', 'D']
  | .or => ['O', 'R']
  | .not => ['N', 'O', 'T']
  | .is => ['I', 'S']
  | .null => ['N', 'U', 'L', 'L']
  | .yes => ['T', 'R', 'U', 'E']
  | .no => ['F', 'A', 'L', 'S', 'E']
  | .among => ['I', 'N']
  | .like => ['L', 'I', 'K', 'E']
  | .regexp => ['R', 'E', 'G', 'E', 'X', 'P']
  | .between => ['B', 'E', 'T', 'W', 'E', 'E', 'N']

end Keyword

/-- How two values are compared. -/
inductive Comparison where
  | equal
  | notEqual
  | less
  | lessOrEqual
  | greater
  | greaterOrEqual
  deriving DecidableEq, Repr

def Comparison.chars : Comparison → List Char
  | .equal => ['=']
  | .notEqual => ['!', '=']
  | .less => ['<']
  | .lessOrEqual => ['<', '=']
  | .greater => ['>']
  | .greaterOrEqual => ['>', '=']

/-- A token of a condition. Where none starts, a stray token ends the list. -/
inductive Token where
  | name (s : String)
  | text (s : String)
  | number (n : Json.Number)
  | keyword (k : Keyword)
  | comparison (c : Comparison)
  | opening
  | closing
  | comma
  | stray
  deriving DecidableEq, Repr

/-- A word: a keyword, or a name without backticks. -/
def wordToken (cs : List Char) : Token × List Char :=
  let word := cs.takeWhile isIdentifierPart
  let token := match Keyword.all.find? (·.chars == word.map Char.toUpper) with
    | some k => .keyword k
    | none => .name (String.ofList word)
  (token, cs.dropWhile isIdentifierPart)

def numberToken (cs : List Char) : Token × List Char :=
  match Json.nextToken cs with
  | (.number (some n), rest) => (.number n, rest)
  | _ => (.stray, [])

/-- A name or a text, its opening quote passed. -/
def quotedToken (quote : Char) (escapes : Bool) (make : String → Token) (cs : List Char) :
    Token × List Char :=
  match quotedBody? quote escapes cs with
  | some (cs, rest) => (make (String.ofList cs), rest)
  | none => (.stray, [])

/-- The token at the start of a condition, and what follows it. No backslash escapes inside a
name. -/
def nextToken (escapes : Bool) : List Char → Token × List Char
  | '\x60' :: rest => quotedToken '\x60' false .name rest
  | '\'' :: rest => quotedToken '\'' escapes .text rest
  | '(' :: rest => (.opening, rest)
  | ')' :: rest => (.closing, rest)
  | ',' :: rest => (.comma, rest)
  | '=' :: rest => (.comparison .equal, rest)
  | '!' :: '=' :: rest => (.comparison .notEqual, rest)
  | '<' :: '>' :: rest => (.comparison .notEqual, rest)
  | '<' :: '=' :: rest => (.comparison .lessOrEqual, rest)
  | '<' :: rest => (.comparison .less, rest)
  | '>' :: '=' :: rest => (.comparison .greaterOrEqual, rest)
  | '>' :: rest => (.comparison .greater, rest)
  | c :: rest =>
    if c = '-' || c.isDigit then numberToken (c :: rest)
    else if isIdentifierStart c then wordToken (c :: rest)
    else (.stray, [])
  | [] => (.stray, [])

/-- The tokens of a condition, as many as `limit` allows. -/
def tokensWithin (escapes : Bool) : Nat → List Char → List Token
  | 0, _ => []
  | limit + 1, cs =>
    match Text.dropBlanks cs with
    | [] => []
    | c :: rest =>
      match nextToken escapes (c :: rest) with
      | (.stray, _) => [.stray]
      | (t, rest) => t :: tokensWithin escapes limit rest

def tokens (escapes : Bool) (condition : String) : List Token :=
  tokensWithin escapes condition.toList.length condition.toList

/-- A number starts with its sign or a digit. -/
theorem starts_number {c : Char} {cs rest : List Char} {value : Option Json.Number}
    (hread : Json.nextToken (c :: cs) = (.number value, rest)) :
    (decide (c = '-') || c.isDigit) = true := by
  unfold Json.nextToken at hread
  split at hread
  case h_7 =>
    unfold Json.stringToken at hread
    split at hread <;> cases hread
  case h_8 heq =>
    cases heq
    rfl
  case h_9 heq =>
    cases heq
    split at hread
    case isTrue hdigit => rw [hdigit, Bool.or_true]
    case isFalse =>
      unfold Json.wordToken at hread
      split at hread <;> cases hread
  all_goals cases hread

theorem nextToken_of_starts_number {c : Char} (hstart : (decide (c = '-') || c.isDigit) = true)
    (escapes : Bool) (cs : List Char) :
    nextToken escapes (c :: cs) = numberToken (c :: cs) := by
  unfold nextToken
  split
  case h_13 heq =>
    cases heq
    rw [if_pos hstart]
  case h_14 heq => cases heq
  all_goals
    next heq =>
      cases heq
      exact absurd hstart (by decide)

/-! ## Texts that are cut where they were put together -/

/-- What ends any token: the end of the text, a blank, a bracket or a comma. -/
def EndsToken (rest : List Char) : Prop :=
  ∀ c ∈ rest.head?, c = ' ' ∨ c = ')' ∨ c = ','

/-- A text that is cut into given tokens, as long as what follows ends the last of them. -/
structure LexesTo (escapes : Bool) (cs : List Char) (ts : List Token) : Prop where
  length_le : ts.length ≤ cs.length
  tokensWithin_append (limit : Nat) {rest : List Char} : EndsToken rest →
    tokensWithin escapes (ts.length + limit) (cs ++ rest) = ts ++ tokensWithin escapes limit rest

theorem endsToken_nil : EndsToken [] := by
  rintro _ ⟨⟩

theorem endsToken_blank (rest : List Char) : EndsToken (' ' :: rest) := by
  rintro _ ⟨⟩
  exact .inl rfl

theorem endsToken_closing (rest : List Char) : EndsToken (')' :: rest) := by
  rintro _ ⟨⟩
  exact .inr (.inl rfl)

theorem endsToken_comma (rest : List Char) : EndsToken (',' :: rest) := by
  rintro _ ⟨⟩
  exact .inr (.inr rfl)

theorem EndsToken.endsNumber {rest : List Char} (hrest : EndsToken rest) :
    Json.EndsNumber rest := by
  intro c hc
  rcases hrest c hc with rfl | rfl | rfl <;> decide

theorem EndsToken.isIdentifierPart_head {rest : List Char} (hrest : EndsToken rest) :
    ∀ c ∈ rest.head?, isIdentifierPart c = false := by
  intro c hc
  rcases hrest c hc with rfl | rfl | rfl <;> decide

theorem EndsToken.takeWhile_part {rest : List Char} (hrest : EndsToken rest) :
    rest.takeWhile isIdentifierPart = [] := by
  have hhead := hrest.isIdentifierPart_head
  cases rest with
  | nil => rfl
  | cons c rest => exact List.takeWhile_cons_of_neg (by simp [hhead c rfl])

theorem EndsToken.dropWhile_part {rest : List Char} (hrest : EndsToken rest) :
    rest.dropWhile isIdentifierPart = rest := by
  have hhead := hrest.isIdentifierPart_head
  cases rest with
  | nil => rfl
  | cons c rest => exact List.dropWhile_cons_of_neg (by simp [hhead c rfl])

theorem tokensWithin_blank (escapes : Bool) (limit : Nat) (rest : List Char) :
    tokensWithin escapes limit (' ' :: rest) = tokensWithin escapes limit rest := by
  cases limit with
  | zero => rfl
  | succ limit =>
    have hdrop : Text.dropBlanks (' ' :: rest) = Text.dropBlanks rest :=
      List.dropWhile_cons_of_pos (by decide)
    rw [tokensWithin, tokensWithin, hdrop]

theorem isBlank_of_visible {c : Char} (hlow : 33 ≤ c.toNat) (hhigh : c.toNat < 128) :
    Text.isBlank c = false := by
  simp [Text.isBlank]
  omega

theorem isBlank_of_isDigit {c : Char} (hdigit : c.isDigit = true) : Text.isBlank c = false := by
  have hrange : 48 ≤ c.toNat ∧ c.toNat ≤ 57 := by
    simpa [Char.isDigit, UInt32.le_iff_toNat_le] using hdigit
  exact isBlank_of_visible (by omega) (by omega)

theorem isBlank_of_isIdentifierStart {c : Char} (hstart : isIdentifierStart c = true) :
    Text.isBlank c = false := by
  have hrange : 65 ≤ c.toNat ∧ c.toNat ≤ 122 := by
    delta isIdentifierStart Char.isAlpha Char.isUpper Char.isLower at hstart
    simp [UInt32.le_iff_toNat_le] at hstart
    rcases hstart with (hupper | hlower) | rfl
    · exact ⟨by omega, by omega⟩
    · exact ⟨by omega, by omega⟩
    · decide
  exact isBlank_of_visible (by omega) (by omega)

/-- No token starts with a blank. -/
theorem isBlank_of_nextToken {escapes : Bool} {c : Char} {cs rest : List Char} {t : Token}
    (hnext : nextToken escapes (c :: cs) = (t, rest)) (hstray : t ≠ .stray) :
    Text.isBlank c = false := by
  unfold nextToken at hnext
  split at hnext
  case h_13 heq =>
    cases heq
    split at hnext
    case isTrue hnumber =>
      rcases Bool.or_eq_true_iff.mp hnumber with hminus | hdigit
      · cases of_decide_eq_true hminus
        decide
      · exact isBlank_of_isDigit hdigit
    case isFalse =>
      split at hnext
      case isTrue hstart => exact isBlank_of_isIdentifierStart hstart
      case isFalse =>
        cases hnext
        exact absurd rfl hstray
  case h_14 heq => cases heq
  all_goals
    next heq =>
      cases heq
      decide

theorem tokensWithin_of_nextToken {escapes : Bool} {cs rest : List Char} {t : Token} (limit : Nat)
    (hnext : nextToken escapes cs = (t, rest)) (hstray : t ≠ .stray) :
    tokensWithin escapes (limit + 1) cs = t :: tokensWithin escapes limit rest := by
  cases cs with
  | nil =>
    cases hnext
    exact absurd rfl hstray
  | cons c cs =>
    have hdrop : Text.dropBlanks (c :: cs) = c :: cs := by
      simp [Text.dropBlanks, isBlank_of_nextToken hnext hstray]
    rw [tokensWithin, hdrop]
    simp only [hnext]

namespace LexesTo

variable {escapes : Bool} {cs cs' : List Char} {ts ts' : List Token}

theorem single {t : Token} (hstray : t ≠ .stray)
    (hnext : ∀ rest, EndsToken rest → nextToken escapes (cs ++ rest) = (t, rest)) :
    LexesTo escapes cs [t] where
  length_le := by
    cases cs with
    | nil =>
      cases hnext [] endsToken_nil
      exact absurd rfl hstray
    | cons c cs => simp
  tokensWithin_append limit rest hrest := by
    rw [List.length_singleton, Nat.add_comm]
    exact tokensWithin_of_nextToken limit (hnext rest hrest) hstray

theorem append (hfirst : LexesTo escapes cs ts) (hsecond : LexesTo escapes cs' ts')
    (hends : ∀ rest, EndsToken rest → EndsToken (cs' ++ rest)) :
    LexesTo escapes (cs ++ cs') (ts ++ ts') where
  length_le := by
    have := hfirst.length_le
    have := hsecond.length_le
    simp
    omega
  tokensWithin_append limit rest hrest := by
    rw [List.length_append, Nat.add_assoc, List.append_assoc,
      hfirst.tokensWithin_append _ (hends rest hrest), hsecond.tokensWithin_append limit hrest,
      List.append_assoc]

theorem cons {c : Char} {t : Token} (hstray : t ≠ .stray)
    (hnext : ∀ rest, nextToken escapes (c :: (cs ++ rest)) = (t, cs ++ rest))
    (hlexes : LexesTo escapes cs ts) :
    LexesTo escapes (c :: cs) (t :: ts) where
  length_le := Nat.succ_le_succ hlexes.length_le
  tokensWithin_append limit rest hrest := by
    have hlimit : (t :: ts).length + limit = ts.length + limit + 1 := by
      simp
      omega
    rw [hlimit, List.cons_append, tokensWithin_of_nextToken _ (hnext _) hstray,
      hlexes.tokensWithin_append limit hrest, List.cons_append]

theorem blank (hlexes : LexesTo escapes cs ts) : LexesTo escapes (' ' :: cs) ts where
  length_le := Nat.le_succ_of_le hlexes.length_le
  tokensWithin_append limit rest hrest := by
    rw [List.cons_append, tokensWithin_blank]
    exact hlexes.tokensWithin_append limit hrest

theorem spaced (hfirst : LexesTo escapes cs ts) (hsecond : LexesTo escapes cs' ts') :
    LexesTo escapes (cs ++ ' ' :: cs') (ts ++ ts') :=
  hfirst.append hsecond.blank fun _ _ => endsToken_blank _

theorem listed (hfirst : LexesTo escapes cs ts) (hsecond : LexesTo escapes cs' ts') :
    LexesTo escapes (cs ++ ',' :: ' ' :: cs') (ts ++ .comma :: ts') :=
  hfirst.append (cons nofun (fun _ => rfl) hsecond.blank) fun _ _ => endsToken_comma _

theorem closing : LexesTo escapes [')'] [.closing] :=
  single nofun fun _ _ => rfl

theorem parenthesised (hlexes : LexesTo escapes cs ts) :
    LexesTo escapes ('(' :: cs ++ [')']) (.opening :: ts ++ [.closing]) := by
  have hopened : LexesTo escapes ('(' :: cs) (.opening :: ts) :=
    cons nofun (fun _ => rfl) hlexes
  exact hopened.append closing fun _ _ => endsToken_closing _

theorem keyword (k : Keyword) : LexesTo escapes k.chars [.keyword k] := by
  refine single nofun fun rest hrest => ?_
  have hword : nextToken escapes (k.chars ++ rest) = wordToken (k.chars ++ rest) := by
    cases k <;> rfl
  have hpart : ∀ c ∈ k.chars, isIdentifierPart c = true := by
    rw [← List.all_eq_true]
    cases k <;> rfl
  have hfind : Keyword.all.find? (·.chars == k.chars.map Char.toUpper) = some k := by
    cases k <;> decide
  rw [hword, wordToken, List.takeWhile_append_of_pos hpart, List.dropWhile_append_of_pos hpart,
    hrest.takeWhile_part, hrest.dropWhile_part, List.append_nil, hfind]

theorem comparison (c : Comparison) : LexesTo escapes c.chars [.comparison c] := by
  refine single nofun fun rest hrest => ?_
  cases rest with
  | nil => cases c <;> rfl
  | cons d rest =>
    rcases hrest d rfl with rfl | rfl | rfl <;> cases c <;> rfl

theorem name (column : Identifier) :
    LexesTo escapes (quoteName column.name).toList [.name column.name] := by
  refine single nofun fun rest hrest => ?_
  have hquote : rest.head? ≠ some '\x60' := by
    intro hhead
    rcases hrest _ hhead with h | h | h <;> cases h
  have hself : ReadsAs '\x60' false column.name.toList column.name.toList := by
    refine .self (fun hmem => ?_) nofun
    exact absurd (column.isIdentifierPart_of_mem _ hmem) (by decide)
  have happend : (quoteName column.name).toList ++ rest =
      '\x60' :: (column.name.toList ++ '\x60' :: rest) := by
    simp [quoteName]
  rw [happend, nextToken, quotedToken, hself.closed hquote]
  simp only [String.ofList_toList]

/-- A literal, whatever is written between its quotes. -/
theorem text {written : List Char} {s : String}
    (hreads : ReadsAs '\'' escapes written s.toList) :
    LexesTo escapes ('\'' :: written ++ ['\'']) [.text s] := by
  refine single nofun fun rest hrest => ?_
  have hquote : rest.head? ≠ some '\'' := by
    intro hhead
    rcases hrest _ hhead with h | h | h <;> cases h
  have happend : '\'' :: written ++ ['\''] ++ rest = '\'' :: (written ++ '\'' :: rest) := by
    simp
  rw [happend, nextToken, quotedToken, hreads.closed hquote]
  simp only [String.ofList_toList]

theorem number (n : Json.Number) : LexesTo escapes n.chars [.number n] := by
  refine single nofun fun rest hrest => ?_
  have hread := Json.nextToken_chars n hrest.endsNumber
  cases hchars : n.chars ++ rest with
  | nil =>
    rw [hchars] at hread
    cases hread
  | cons c cs =>
    rw [hchars] at hread
    rw [nextToken_of_starts_number (starts_number hread), numberToken, hread]

/-- The tokens of a whole text. -/
theorem tokens_eq {text : String} (hlexes : LexesTo escapes text.toList ts) :
    tokens escapes text = ts := by
  have hsplit :=
    hlexes.tokensWithin_append (text.toList.length - ts.length) endsToken_nil
  have hend (limit : Nat) : tokensWithin escapes limit [] = [] := by
    cases limit <;> rfl
  rw [Nat.add_sub_of_le hlexes.length_le, hend, List.append_nil, List.append_nil] at hsplit
  exact hsplit

end LexesTo

end TableFilter.Sql
