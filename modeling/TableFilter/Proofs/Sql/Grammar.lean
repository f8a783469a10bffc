import TableFilter.Proofs.Sql.Token

/-!
# The grammar of conditions

Conditions as a server reads them: tests of columns and values, joined by `AND` and `OR`, the former
binding tighter, and grouped by brackets. The `AND` of a range belongs to the range. What the
reader makes of the tokens of a condition is that condition.
-/

namespace TableFilter.Sql

/-- What is tested: a column or a value. -/
inductive Term where
  | column (name : String)
  | value (v : Scalar)
  deriving DecidableEq, Repr

/-- A single test. A list has at least one item. -/
inductive Test where
  | compare (left : Term) (c : Comparison) (right : Term)
  | isNull (negated : Bool) (a : Term)
  | among (negated : Bool) (a first : Term) (others : List Term)
  | like (negated : Bool) (a : Term) (pattern : String)
  | regexp (negated : Bool) (a : Term) (pattern : String)
  | between (negated : Bool) (a low high : Term)
  deriving DecidableEq, Repr

/-- A condition: a test, or alternatives in brackets, each of which is a conjunction. -/
inductive Condition where
  | test (t : Test)
  | group (alternatives : List (List Condition))
  deriving Repr

/-! ## Reading -/

def term? : Token → Option Term
  | .name s => some (.column s)
  | .text s => some (.value (.string s))
  | .number n => some (.value (.number n))
  | .keyword .null => some (.value .null)
  | .keyword .yes => some (.value (.bool true))
  | .keyword .no => some (.value (.bool false))
  | _ => none

/-- The terms of a list whose bracket has been passed, and what follows its closing bracket. -/
def terms? : List Token → Option (Term × List Term × List Token)
  | t :: .closing :: rest => do
    let a ← term? t
    return (a, [], rest)
  | t :: .comma :: rest => do
    let a ← term? t
    let (b, others, rest) ← terms? rest
    return (a, b :: others, rest)
  | _ => none

/-- Passes over `NOT`, if it comes next. -/
def negation : List Token → Bool × List Token
  | .keyword .not :: rest => (true, rest)
  | rest => (false, rest)

/-- What is tested of a term by what follows it. -/
def testOf? (a : Term) (ts : List Token) : Option (Test × List Token) :=
  match ts with
  | .comparison c :: t :: rest => do
    let b ← term? t
    return (.compare a c b, rest)
  | .keyword .is :: rest =>
    match negation rest with
    | (negated, .keyword .null :: rest) => some (.isNull negated a, rest)
    | _ => none
  | ts =>
    match negation ts with
    | (negated, .keyword .among :: .opening :: rest) => do
      let (first, others, rest) ← terms? rest
      return (.among negated a first others, rest)
    | (negated, .keyword .like :: .text pattern :: rest) => some (.like negated a pattern, rest)
    | (negated, .keyword .regexp :: .text pattern :: rest) => some (.regexp negated a pattern, rest)
    | (negated, .keyword .between :: t :: .keyword .and :: u :: rest) => do
      let low ← term? t
      let high ← term? u
      return (.between negated a low high, rest)
    | _ => none

def test? : List Token → Option (Test × List Token)
  | [] => none
  | t :: rest => do
    let a ← term? t
    testOf? a rest

mutual

/-- The alternatives at the start of tokens, and what follows them. -/
def alternatives? : Nat → List Token → Option (List (List Condition) × List Token)
  | 0, _ => none
  | fuel + 1, ts => do
    let (first, ts) ← conjunction? fuel ts
    match ts with
    | .keyword .or :: ts => do
      let (others, ts) ← alternatives? fuel ts
      return (first :: others, ts)
    | ts => return ([first], ts)

def conjunction? : Nat → List Token → Option (List Condition × List Token)
  | 0, _ => none
  | fuel + 1, ts => do
    let (first, ts) ← conjunct? fuel ts
    match ts with
    | .keyword .and :: ts => do
      let (others, ts) ← conjunction? fuel ts
      return (first :: others, ts)
    | ts => return ([first], ts)

/-- The test or group at the start of tokens, and what follows it. -/
def conjunct? : Nat → List Token → Option (Condition × List Token)
  | 0, _ => none
  | fuel + 1, .opening :: ts => do
    let (alternatives, ts) ← alternatives? fuel ts
    match ts with
    | .closing :: ts => return (.group alternatives, ts)
    | _ => none
  | _ + 1, ts => do
    let (t, ts) ← test? ts
    return (.test t, ts)

end

/-- The alternatives that tokens make. No more than three rules come before each token. -/
def ofTokens? (ts : List Token) : Option (List (List Condition)) :=
  match alternatives? (3 * ts.length + 2) ts with
  | some (alternatives, []) => some alternatives
  | _ => none

/-- What a server reads where a condition may stand: the alternatives of the condition, and a single
one that demands nothing if there is no condition. -/
def read? (options : Options) : Option String → Option (List (List Condition))
  | none => some [[]]
  | some condition => ofTokens? (tokens options.escapeBackslashes condition)

/-! ## The tokens of a condition -/

def Term.token : Term → Token
  | .column name => .name name
  | .value .null => .keyword .null
  | .value (.bool true) => .keyword .yes
  | .value (.bool false) => .keyword .no
  | .value (.number n) => .number n
  | .value (.string s) => .text s

/-- The tokens of a list, commas between its items. -/
def termTokens (first : Term) : List Term → List Token
  | [] => [first.token]
  | a :: rest => first.token :: .comma :: termTokens a rest

def negationTokens (negated : Bool) : List Token :=
  if negated then [.keyword .not] else []

/-- The tokens of a test behind the term it starts with. -/
def Test.laterTokens : Test → List Token
  | .compare _ c b => [.comparison c, b.token]
  | .isNull negated _ => .keyword .is :: negationTokens negated ++ [.keyword .null]
  | .among negated _ first others =>
    negationTokens negated ++
      .keyword .among :: .opening :: termTokens first others ++ [.closing]
  | .like negated _ pattern => negationTokens negated ++ [.keyword .like, .text pattern]
  | .regexp negated _ pattern => negationTokens negated ++ [.keyword .regexp, .text pattern]
  | .between negated _ low high =>
    negationTokens negated ++ [.keyword .between, low.token, .keyword .and, high.token]

def Test.subject : Test → Term
  | .compare a _ _ | .isNull _ a | .among _ a _ _ | .like _ a _ | .regexp _ a _
  | .between _ a _ _ => a

def Test.tokens (t : Test) : List Token :=
  t.subject.token :: t.laterTokens

mutual

def Condition.tokens : Condition → List Token
  | .test t => t.tokens
  | .group alternatives => .opening :: alternativeTokens alternatives ++ [.closing]

def conjunctTokens : List Condition → List Token
  | [] => []
  | [c] => c.tokens
  | c :: d :: rest => c.tokens ++ .keyword .and :: conjunctTokens (d :: rest)

def alternativeTokens : List (List Condition) → List Token
  | [] => []
  | [cs] => conjunctTokens cs
  | cs :: ds :: rest => conjunctTokens cs ++ .keyword .or :: alternativeTokens (ds :: rest)

end

mutual

/-- Whether no group in a condition lacks alternatives, and no alternative lacks conjuncts. -/
def Condition.isProper : Condition → Bool
  | .test _ => true
  | .group alternatives => !alternatives.isEmpty && areProperAlternatives alternatives

def areProper : List Condition → Bool
  | [] => true
  | c :: rest => c.isProper && areProper rest

def areProperAlternatives : List (List Condition) → Bool
  | [] => true
  | cs :: rest => !cs.isEmpty && areProper cs && areProperAlternatives rest

end

/-! ## Reading inverts writing -/

@[simp]
theorem term?_token (a : Term) : term? a.token = some a := by
  cases a with
  | column name => rfl
  | value v =>
    cases v with
    | bool b => cases b <;> rfl
    | _ => rfl

theorem terms?_termTokens (first : Term) (others : List Term) (rest : List Token) :
    terms? (termTokens first others ++ .closing :: rest) = some (first, others, rest) := by
  induction others generalizing first with
  | nil => simp [termTokens, terms?]
  | cons a others ih => simp [termTokens, terms?, ih]

theorem testOf?_compare (a b : Term) (c : Comparison) (rest : List Token) :
    testOf? a (.comparison c :: b.token :: rest) = some (.compare a c b, rest) := by
  simp [testOf?]

theorem testOf?_isNull (negated : Bool) (a : Term) (rest : List Token) :
    testOf? a (.keyword .is :: (negationTokens negated ++ .keyword .null :: rest)) =
      some (.isNull negated a, rest) := by
  cases negated <;> rfl

theorem testOf?_among (negated : Bool) (a first : Term) (others : List Term)
    (rest : List Token) :
    testOf? a (negationTokens negated ++
        .keyword .among :: .opening :: (termTokens first others ++ .closing :: rest)) =
      some (.among negated a first others, rest) := by
  have hitems := terms?_termTokens first others rest
  cases negated <;> simp [testOf?, negationTokens, negation, hitems]

theorem testOf?_between (negated : Bool) (a low high : Term) (rest : List Token) :
    testOf? a (negationTokens negated ++
        .keyword .between :: low.token :: .keyword .and :: high.token :: rest) =
      some (.between negated a low high, rest) := by
  cases negated <;> simp [testOf?, negationTokens, negation]

/-- What is read of the tokens of a test is the test. -/
theorem test?_tokens (t : Test) (rest : List Token) :
    test? (t.tokens ++ rest) = some (t, rest) := by
  have htest : testOf? t.subject (t.laterTokens ++ rest) = some (t, rest) := by
    cases t with
    | compare a c b => exact testOf?_compare a b c rest
    | isNull negated a => simpa [Test.laterTokens, Test.subject] using testOf?_isNull negated a rest
    | among negated a first others =>
      simpa [Test.laterTokens, Test.subject] using testOf?_among negated a first others rest
    | like negated a pattern => cases negated <;> rfl
    | regexp negated a pattern => cases negated <;> rfl
    | between negated a low high =>
      simpa [Test.laterTokens, Test.subject] using testOf?_between negated a low high rest
  simp [Test.tokens, test?, htest]

theorem conjunct?_test (t : Test) (fuel : Nat) (rest : List Token) :
    conjunct? (fuel + 1) (t.tokens ++ rest) = some (.test t, rest) := by
  have hread := test?_tokens t rest
  rw [Test.tokens, List.cons_append] at hread ⊢
  rw [conjunct?, hread]
  · rfl
  · intro ts heq
    cases hsubject : t.subject with
    | column name => simp [hsubject, Term.token] at heq
    | value v =>
      rcases v with _ | b | n | s
      · simp [hsubject, Term.token] at heq
      · cases b <;> simp [hsubject, Term.token] at heq
      · simp [hsubject, Term.token] at heq
      · simp [hsubject, Term.token] at heq

theorem conjunction?_last {fuel : Nat} {ts rest : List Token} {c : Condition}
    (hread : conjunct? fuel ts = some (c, rest)) (hrest : rest.head? ≠ some (.keyword .and)) :
    conjunction? (fuel + 1) ts = some ([c], rest) := by
  simp only [conjunction?, hread, Option.bind_eq_bind, Option.bind_some]
  split
  next => exact absurd rfl hrest
  next => rfl

theorem conjunction?_and {fuel : Nat} {ts rest rest' : List Token} {c : Condition}
    {cs : List Condition} (hread : conjunct? fuel ts = some (c, .keyword .and :: rest))
    (hothers : conjunction? fuel rest = some (cs, rest')) :
    conjunction? (fuel + 1) ts = some (c :: cs, rest') := by
  simp [conjunction?, hread, hothers]

theorem alternatives?_last {fuel : Nat} {ts rest : List Token} {cs : List Condition}
    (hread : conjunction? fuel ts = some (cs, rest)) (hrest : rest.head? ≠ some (.keyword .or)) :
    alternatives? (fuel + 1) ts = some ([cs], rest) := by
  simp only [alternatives?, hread, Option.bind_eq_bind, Option.bind_some]
  split
  next => exact absurd rfl hrest
  next => rfl

theorem alternatives?_or {fuel : Nat} {ts rest rest' : List Token} {cs : List Condition}
    {alternatives : List (List Condition)}
    (hread : conjunction? fuel ts = some (cs, .keyword .or :: rest))
    (hothers : alternatives? fuel rest = some (alternatives, rest')) :
    alternatives? (fuel + 1) ts = some (cs :: alternatives, rest') := by
  simp [alternatives?, hread, hothers]

theorem conjunct?_group {fuel : Nat} {ts rest : List Token} {alternatives : List (List Condition)}
    (hread : alternatives? fuel ts = some (alternatives, .closing :: rest)) :
    conjunct? (fuel + 1) (.opening :: ts) = some (.group alternatives, rest) := by
  simp [conjunct?, hread]

-- The bounds on the fuel are those that the three rules need which come before a token at most:
-- alternatives, conjunction, conjunct.
mutual

theorem conjunct?_tokens : ∀ (c : Condition) (fuel : Nat) (rest : List Token),
    c.isProper = true → 3 * c.tokens.length ≤ fuel →
    conjunct? fuel (c.tokens ++ rest) = some (c, rest)
  | .test t, 0, _, _, hfuel => by
    simp [Condition.tokens, Test.tokens] at hfuel
  | .group alternatives, 0, _, _, hfuel => by
    simp [Condition.tokens] at hfuel
  | .test t, fuel + 1, rest, _, _ => conjunct?_test t fuel rest
  | .group alternatives, fuel + 1, rest, hproper, hfuel => by
    rw [Condition.isProper, Bool.and_eq_true, Bool.not_eq_true', List.isEmpty_eq_false_iff]
      at hproper
    rw [Condition.tokens, List.length_append, List.length_cons, List.length_singleton] at hfuel
    rw [Condition.tokens, List.append_assoc, List.cons_append]
    exact conjunct?_group
      (alternatives?_tokens alternatives fuel _ hproper.1 hproper.2 (by omega) nofun nofun)

theorem conjunction?_tokens : ∀ (cs : List Condition) (fuel : Nat) (rest : List Token),
    cs ≠ [] → areProper cs = true → 3 * (conjunctTokens cs).length + 1 ≤ fuel →
    rest.head? ≠ some (.keyword .and) →
    conjunction? fuel (conjunctTokens cs ++ rest) = some (cs, rest)
  | [], _, _, hne, _, _, _ => absurd rfl hne
  | _ :: _, 0, _, _, _, hfuel, _ => nomatch hfuel
  | [c], fuel + 1, rest, _, hproper, hfuel, hrest => by
    rw [areProper, Bool.and_eq_true] at hproper
    rw [conjunctTokens] at hfuel ⊢
    exact conjunction?_last (conjunct?_tokens c fuel rest hproper.1 (by omega)) hrest
  | c :: d :: cs, fuel + 1, rest, _, hproper, hfuel, hrest => by
    rw [areProper, Bool.and_eq_true] at hproper
    rw [conjunctTokens, List.length_append, List.length_cons] at hfuel
    rw [conjunctTokens, List.append_assoc]
    exact conjunction?_and (conjunct?_tokens c fuel _ hproper.1 (by omega))
      (conjunction?_tokens (d :: cs) fuel rest nofun hproper.2 (by omega) hrest)

theorem alternatives?_tokens : ∀ (alternatives : List (List Condition)) (fuel : Nat)
    (rest : List Token), alternatives ≠ [] → areProperAlternatives alternatives = true →
    3 * (alternativeTokens alternatives).length + 2 ≤ fuel →
    rest.head? ≠ some (.keyword .and) → rest.head? ≠ some (.keyword .or) →
    alternatives? fuel (alternativeTokens alternatives ++ rest) = some (alternatives, rest)
  | [], _, _, hne, _, _, _, _ => absurd rfl hne
  | _ :: _, 0, _, _, _, hfuel, _, _ => nomatch hfuel
  | [cs], fuel + 1, rest, _, hproper, hfuel, hand, hor => by
    simp only [areProperAlternatives, Bool.and_eq_true, Bool.not_eq_true',
      List.isEmpty_eq_false_iff] at hproper
    rw [alternativeTokens] at hfuel ⊢
    exact alternatives?_last
      (conjunction?_tokens cs fuel rest hproper.1.1 hproper.1.2 (by omega) hand) hor
  | cs :: ds :: alternatives, fuel + 1, rest, _, hproper, hfuel, hand, hor => by
    simp only [areProperAlternatives, Bool.and_eq_true, Bool.not_eq_true',
      List.isEmpty_eq_false_iff] at hproper
    rw [alternativeTokens, List.length_append, List.length_cons] at hfuel
    rw [alternativeTokens, List.append_assoc]
    exact alternatives?_or
      (conjunction?_tokens cs fuel _ hproper.1.1 hproper.1.2 (by omega) nofun)
      (alternatives?_tokens (ds :: alternatives) fuel rest nofun
        (by simpa [areProperAlternatives] using hproper.2) (by omega) hand hor)

end

/-- What is read of the tokens of alternatives is the alternatives. -/
theorem ofTokens?_alternativeTokens {alternatives : List (List Condition)}
    (hne : alternatives ≠ []) (hproper : areProperAlternatives alternatives = true) :
    ofTokens? (alternativeTokens alternatives) = some alternatives := by
  have hread := alternatives?_tokens alternatives _ [] hne hproper (Nat.le_refl _) nofun nofun
  rw [List.append_nil] at hread
  rw [ofTokens?, hread]

/-- A range keeps its `AND`, and `OR` comes last. -/
example : read? ⟨true⟩ (some "\x60a\x60 between b and 'it\\'s' and c >= '' or (NULL is not null)") =
    some [[.test (.between false (.column "a") (.column "b") (.value (.string "it's"))),
        .test (.compare (.column "c") .greaterOrEqual (.value (.string "")))],
      [.group [[.test (.isNull true (.value .null))]]]] := by
  cbv

end TableFilter.Sql
