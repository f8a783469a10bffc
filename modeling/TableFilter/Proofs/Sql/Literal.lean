import TableFilter.Sql.Escape

/-!
# Quoted texts read back

A server reads a quoted text up to the first quote that is not doubled; where a backslash escapes,
the character behind it stands for itself. What is escaped for a literal is read as it was, and
ends where it should.
-/

namespace TableFilter.Sql

/-- What a text stands for whose opening quote has been passed, and what follows its closing
quote. -/
def quotedBody? (quote : Char) (escapes : Bool) : List Char → Option (List Char × List Char)
  | [] => none
  | c :: rest =>
    if c = quote then
      match rest with
      | [] => some ([], [])
      | d :: rest =>
        if d = quote then
          (quotedBody? quote escapes rest).map fun (cs, rest) => (quote :: cs, rest)
        else some ([], d :: rest)
    else if c = '\\' && escapes then
      match rest with
      | [] => none
      | d :: rest => (quotedBody? quote escapes rest).map fun (cs, rest) => (d :: cs, rest)
    else (quotedBody? quote escapes rest).map fun (cs, rest) => (c :: cs, rest)

variable {quote : Char} {escapes : Bool}

/-- Characters that a server reads as given ones between the quotes of a literal. -/
def ReadsAs (quote : Char) (escapes : Bool) (written cs : List Char) : Prop :=
  ∀ rest, quotedBody? quote escapes (written ++ rest) =
    (quotedBody? quote escapes rest).map fun (cs', rest) => (cs ++ cs', rest)

theorem ReadsAs.nil : ReadsAs quote escapes [] [] := by
  intro rest
  simp

theorem ReadsAs.append {written written' cs cs' : List Char}
    (hfirst : ReadsAs quote escapes written cs) (hsecond : ReadsAs quote escapes written' cs') :
    ReadsAs quote escapes (written ++ written') (cs ++ cs') := by
  intro rest
  rw [List.append_assoc, hfirst, hsecond, Option.map_map]
  simp [Function.comp_def]

theorem ReadsAs.flatMap {f : Char → List Char} {cs : List Char}
    (hchar : ∀ c ∈ cs, ReadsAs quote escapes (f c) [c]) :
    ReadsAs quote escapes (cs.flatMap f) cs := by
  induction cs with
  | nil => exact .nil
  | cons c cs ih =>
    rw [List.forall_mem_cons] at hchar
    exact hchar.1.append (ih hchar.2)

/-- A character that neither is the quote nor escapes is read as itself. -/
theorem ReadsAs.plain {c : Char} (hquote : c ≠ quote) (hescape : (c = '\\' && escapes) = false) :
    ReadsAs quote escapes [c] [c] := by
  intro rest
  rw [List.singleton_append, quotedBody?.eq_def]
  simp only [if_neg hquote, hescape]
  rfl

theorem ReadsAs.literalChar (c : Char) : ReadsAs '\'' escapes (literalChar escapes c) [c] := by
  unfold Sql.literalChar
  split
  case isTrue hquote =>
    subst hquote
    intro rest
    rfl
  case isFalse hquote =>
    split
    case isTrue hescape =>
      obtain ⟨hc, hescapes⟩ := Bool.and_eq_true_iff.mp hescape
      subst hescapes
      cases of_decide_eq_true hc
      intro rest
      rfl
    case isFalse hescape => exact .plain hquote (Bool.not_eq_true _ ▸ hescape)

/-- A text that needs no escaping is read as it is. -/
theorem ReadsAs.self {cs : List Char} (hquote : quote ∉ cs) (hescape : escapes = true → '\\' ∉ cs) :
    ReadsAs quote escapes cs cs := by
  have hplain : ∀ c ∈ cs, ReadsAs quote escapes [c] [c] := by
    intro c hc
    apply ReadsAs.plain
    · rintro rfl
      exact hquote hc
    · cases escapes with
      | false => rw [Bool.and_false]
      | true =>
        have hne : c ≠ '\\' := by
          rintro rfl
          exact hescape rfl hc
        rw [decide_eq_false hne, Bool.false_and]
  have hflat := ReadsAs.flatMap hplain
  rwa [List.flatMap_singleton'] at hflat

/-- What is read ends at the closing quote, unless another quote follows. -/
theorem ReadsAs.closed {written cs rest : List Char} (hreads : ReadsAs quote escapes written cs)
    (hrest : rest.head? ≠ some quote) :
    quotedBody? quote escapes (written ++ quote :: rest) = some (cs, rest) := by
  have hclose : quotedBody? quote escapes (quote :: rest) = some ([], rest) := by
    cases rest with
    | nil => simp [quotedBody?]
    | cons d rest =>
      have hne : d ≠ quote := fun heq => hrest (congrArg some heq)
      simp [quotedBody?, hne]
  rw [hreads, hclose, Option.map_some]
  simp only [List.append_nil]

theorem ReadsAs.escapeLiteral (escapes : Bool) (s : String) :
    ReadsAs '\'' escapes (escapeLiteral escapes s).toList s.toList := by
  rw [Sql.escapeLiteral, String.toList_ofList]
  exact .flatMap fun c _ => .literalChar c

end TableFilter.Sql
