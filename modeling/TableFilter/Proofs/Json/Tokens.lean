import TableFilter.Proofs.Json.NumberText
import TableFilter.Proofs.Json.StringText

/-!
# Values cut into tokens

The text of a value is cut into the tokens of the value, whatever comes behind it. Main statement:
`tokens_chars`.
-/

namespace TableFilter.Json

/-- A text that is cut into given tokens, as long as what follows does not go on with a number. -/
structure CutsInto (cs : List Char) (ts : List Token) : Prop where
  length_le : ts.length ≤ cs.length
  tokensWithin_append (limit : Nat) {rest : List Char} :
    EndsNumber rest → tokensWithin (ts.length + limit) (cs ++ rest) = ts ++ tokensWithin limit rest

theorem tokensWithin_nil (limit : Nat) : tokensWithin limit [] = [] := by
  cases limit <;> rfl

theorem nextToken_of_isSpace {c : Char} (hspace : isSpace c = true) (cs : List Char) :
    nextToken (c :: cs) = (.stray, []) := by
  simp only [isSpace, Bool.or_eq_true, decide_eq_true_eq] at hspace
  rcases hspace with ((rfl | rfl) | rfl) | rfl <;> rfl

theorem tokensWithin_of_nextToken {cs rest : List Char} {t : Token} (limit : Nat)
    (hnext : nextToken cs = (t, rest)) (hstray : t ≠ .stray) :
    tokensWithin (limit + 1) cs = t :: tokensWithin limit rest := by
  cases cs with
  | nil =>
    cases hnext
    exact absurd rfl hstray
  | cons c cs =>
    have hspace : isSpace c = false := by
      rw [← Bool.not_eq_true]
      intro hspace
      rw [nextToken_of_isSpace hspace] at hnext
      cases hnext
      exact hstray rfl
    have hdrop : (c :: cs).dropWhile isSpace = c :: cs := by
      simp [hspace]
    rw [tokensWithin, hdrop]
    simp only [hnext]

namespace CutsInto

theorem nil : CutsInto [] [] where
  length_le := Nat.le_refl 0
  tokensWithin_append limit rest _ := by rw [List.length_nil, Nat.zero_add]; rfl

theorem single {cs : List Char} {t : Token} (hstray : t ≠ .stray)
    (hnext : ∀ rest, EndsNumber rest → nextToken (cs ++ rest) = (t, rest)) :
    CutsInto cs [t] where
  length_le := by
    cases cs with
    | nil =>
      cases hnext [] endsNumber_nil
      exact absurd rfl hstray
    | cons c cs => simp
  tokensWithin_append limit rest hrest := by
    rw [List.length_singleton, Nat.add_comm]
    exact tokensWithin_of_nextToken limit (hnext rest hrest) hstray

theorem append {cs cs' : List Char} {ts ts' : List Token} (hfirst : CutsInto cs ts)
    (hsecond : CutsInto cs' ts') (hends : ∀ rest, EndsNumber rest → EndsNumber (cs' ++ rest)) :
    CutsInto (cs ++ cs') (ts ++ ts') where
  length_le := by
    have := hfirst.length_le
    have := hsecond.length_le
    simp
    omega
  tokensWithin_append limit rest hrest := by
    rw [List.length_append, Nat.add_assoc, List.append_assoc,
      hfirst.tokensWithin_append _ (hends rest hrest), hsecond.tokensWithin_append limit hrest,
      List.append_assoc]

/-- A bracket, comma or colon in front. -/
theorem cons {c : Char} {t : Token} {cs : List Char} {ts : List Token}
    (hstray : t ≠ .stray) (hnext : ∀ rest, nextToken (c :: rest) = (t, rest))
    (hcuts : CutsInto cs ts) :
    CutsInto (c :: cs) (t :: ts) where
  length_le := Nat.succ_le_succ hcuts.length_le
  tokensWithin_append limit rest hrest := by
    have hlimit : (t :: ts).length + limit = ts.length + limit + 1 := by
      simp
      omega
    rw [hlimit, List.cons_append, tokensWithin_of_nextToken _ (hnext _) hstray,
      hcuts.tokensWithin_append limit hrest, List.cons_append]

theorem openArray {cs : List Char} {ts : List Token} (hcuts : CutsInto cs ts) :
    CutsInto ('[' :: cs) (.openArray :: ts) :=
  cons nofun (fun _ => rfl) hcuts

theorem openObject {cs : List Char} {ts : List Token} (hcuts : CutsInto cs ts) :
    CutsInto ('\x7b' :: cs) (.openObject :: ts) :=
  cons nofun (fun _ => rfl) hcuts

theorem comma {cs : List Char} {ts : List Token} (hcuts : CutsInto cs ts) :
    CutsInto (',' :: cs) (.comma :: ts) :=
  cons nofun (fun _ => rfl) hcuts

theorem colon {cs : List Char} {ts : List Token} (hcuts : CutsInto cs ts) :
    CutsInto (':' :: cs) (.colon :: ts) :=
  cons nofun (fun _ => rfl) hcuts

theorem closeArray : CutsInto [']'] [.closeArray] :=
  cons nofun (fun _ => rfl) nil

theorem closeObject : CutsInto ['\x7d'] [.closeObject] :=
  cons nofun (fun _ => rfl) nil

theorem string (s : String) : CutsInto (stringChars s) [.string (some s)] :=
  single nofun fun rest _ => nextToken_stringChars s rest

theorem null : CutsInto nullChars [.null] :=
  single nofun fun _ _ => rfl

theorem bool (b : Bool) : CutsInto (boolChars b) [.bool b] := by
  cases b with
  | true => exact single nofun fun _ _ => rfl
  | false => exact single nofun fun _ _ => rfl

theorem number (n : Number) : CutsInto n.chars [.number (some n)] :=
  single nofun fun _ hrest => nextToken_chars n hrest

/-- The tokens of a whole text. -/
theorem tokens_eq {cs : List Char} {ts : List Token} (hcuts : CutsInto cs ts) :
    Json.tokens cs = ts := by
  have hsplit := hcuts.tokensWithin_append (cs.length - ts.length) endsNumber_nil
  rw [Nat.add_sub_of_le hcuts.length_le, tokensWithin_nil, List.append_nil,
    List.append_nil] at hsplit
  exact hsplit

end CutsInto

namespace Value

mutual

def tokens : Value → List Token
  | .null => [.null]
  | .bool b => [.bool b]
  | .number n => [.number (some n)]
  | .string s => [.string (some s)]
  | .array items => .openArray :: itemsTokens items ++ [.closeArray]
  | .object members => .openObject :: membersTokens members ++ [.closeObject]

def itemsTokens : List Value → List Token
  | [] => []
  | [v] => v.tokens
  | v :: w :: rest => v.tokens ++ .comma :: itemsTokens (w :: rest)

def membersTokens : List (String × Value) → List Token
  | [] => []
  | [(name, v)] => .string (some name) :: .colon :: v.tokens
  | (name, v) :: m :: rest =>
    .string (some name) :: .colon :: v.tokens ++ .comma :: membersTokens (m :: rest)

end

theorem ends_comma (cs rest : List Char) (_ : EndsNumber rest) : EndsNumber (',' :: cs ++ rest) :=
  endsNumber_cons (by decide) _

theorem ends_colon (cs rest : List Char) (_ : EndsNumber rest) : EndsNumber (':' :: cs ++ rest) :=
  endsNumber_cons (by decide) _

mutual

theorem cutsInto_chars : ∀ v : Value, CutsInto v.chars v.tokens
  | .null => .null
  | .bool b => .bool b
  | .number n => .number n
  | .string s => .string s
  | .array items =>
    (CutsInto.append (cutsInto_itemsChars items).openArray .closeArray fun _ _ =>
      endsNumber_cons (by decide) _)
  | .object members =>
    (CutsInto.append (cutsInto_membersChars members).openObject .closeObject fun _ _ =>
      endsNumber_cons (by decide) _)

theorem cutsInto_itemsChars : ∀ items : List Value, CutsInto (itemsChars items) (itemsTokens items)
  | [] => .nil
  | [v] => cutsInto_chars v
  | v :: w :: rest =>
    (cutsInto_chars v).append (cutsInto_itemsChars (w :: rest)).comma (ends_comma _)

theorem cutsInto_membersChars :
    ∀ members : List (String × Value), CutsInto (membersChars members) (membersTokens members)
  | [] => .nil
  | [(name, v)] => (CutsInto.string name).append (cutsInto_chars v).colon (ends_colon _)
  | (name, v) :: m :: rest =>
    ((CutsInto.string name).append (cutsInto_chars v).colon (ends_colon _)).append
      (cutsInto_membersChars (m :: rest)).comma (ends_comma _)

end

/-- The tokens of a value's text are those of the value. -/
theorem tokens_chars (v : Value) : Json.tokens v.chars = v.tokens :=
  (cutsInto_chars v).tokens_eq

end Value

end TableFilter.Json
