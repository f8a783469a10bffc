import TableFilter.Proofs.Json.Tokens

/-!
# Text over lines

Blanks between tokens do not count, so the text of a value that is spread over lines is cut into
the tokens of the value as well. Main statement: `tokens_pretty`.
-/

namespace TableFilter.Json

theorem tokensWithin_space {c : Char} (hspace : isSpace c = true) (limit : Nat) (cs : List Char) :
    tokensWithin limit (c :: cs) = tokensWithin limit cs := by
  cases limit with
  | zero => rfl
  | succ limit =>
    have hdrop : (c :: cs).dropWhile isSpace = cs.dropWhile isSpace :=
      List.dropWhile_cons_of_pos hspace
    rw [tokensWithin, tokensWithin, hdrop]

namespace CutsInto

theorem spaces {before cs : List Char} {ts : List Token}
    (hspaces : ∀ c ∈ before, isSpace c = true) (hcuts : CutsInto cs ts) :
    CutsInto (before ++ cs) ts := by
  induction before with
  | nil => exact hcuts
  | cons c before ih =>
    rw [List.forall_mem_cons] at hspaces
    have hrest := ih hspaces.2
    refine ⟨Nat.le_succ_of_le hrest.length_le, ?_⟩
    intro limit rest hends
    rw [List.cons_append, List.cons_append, tokensWithin_space hspaces.1]
    exact hrest.tokensWithin_append limit hends

theorem isSpace_of_mem_lineStart {c : Char} {depth : Nat} (hmem : c ∈ Value.lineStart depth) :
    isSpace c = true := by
  rcases List.mem_cons.mp hmem with rfl | hblank
  · rfl
  · rw [List.eq_of_mem_replicate hblank]
    rfl

theorem onLine (depth : Nat) {cs : List Char} {ts : List Token} (hcuts : CutsInto cs ts) :
    CutsInto (Value.lineStart depth ++ cs) ts :=
  hcuts.spaces fun _ => isSpace_of_mem_lineStart

/-- The end of a line behind a text. -/
theorem line {cs : List Char} {ts : List Token} (hcuts : CutsInto cs ts) :
    CutsInto (cs ++ ['\n']) ts := by
  have hspace : ∀ c ∈ ['\n'], isSpace c = true := List.forall_mem_singleton.mpr rfl
  have happend := hcuts.append (CutsInto.nil.spaces hspace) fun _ _ =>
    endsNumber_cons (by decide) _
  simpa only [List.append_nil] using happend

end CutsInto

namespace Value

theorem ends_lineStart (depth : Nat) (cs rest : List Char) (_ : EndsNumber rest) :
    EndsNumber (lineStart depth ++ cs ++ rest) :=
  endsNumber_cons (by decide) _

/-- A member on a line of its own. -/
theorem cutsInto_member (depth : Nat) (name : String) {cs : List Char} {ts : List Token}
    (hcuts : CutsInto cs ts) :
    CutsInto (lineStart depth ++ stringChars name ++ ':' :: ' ' :: cs)
      (.string (some name) :: .colon :: ts) := by
  have hspace : ∀ c ∈ [' '], isSpace c = true := List.forall_mem_singleton.mpr rfl
  exact ((CutsInto.string name).onLine depth).append (hcuts.spaces hspace).colon (ends_colon _)

mutual

theorem cutsInto_prettyChars (depth : Nat) : ∀ v : Value, CutsInto (v.prettyChars depth) v.tokens
  | .null => .null
  | .bool b => .bool b
  | .number n => .number n
  | .string s => .string s
  | .array [] => .openArray .closeArray
  | .object [] => .openObject .closeObject
  | .array (v :: vs) => by
    rw [prettyChars, List.append_assoc]
    exact (CutsInto.append (cutsInto_prettyItems (depth + 1) (v :: vs)).openArray
      (CutsInto.closeArray.onLine depth) (ends_lineStart depth _))
  | .object (m :: ms) => by
    rw [prettyChars, List.append_assoc]
    exact (CutsInto.append (cutsInto_prettyMembers (depth + 1) (m :: ms)).openObject
      (CutsInto.closeObject.onLine depth) (ends_lineStart depth _))

theorem cutsInto_prettyItems (depth : Nat) :
    ∀ items : List Value, CutsInto (prettyItems depth items) (itemsTokens items)
  | [] => .nil
  | [v] => (cutsInto_prettyChars depth v).onLine depth
  | v :: w :: rest =>
    ((cutsInto_prettyChars depth v).onLine depth).append
      (cutsInto_prettyItems depth (w :: rest)).comma (ends_comma _)

theorem cutsInto_prettyMembers (depth : Nat) :
    ∀ members : List (String × Value),
      CutsInto (prettyMembers depth members) (membersTokens members)
  | [] => .nil
  | [(name, v)] => cutsInto_member depth name (cutsInto_prettyChars depth v)
  | (name, v) :: m :: rest =>
    (cutsInto_member depth name (cutsInto_prettyChars depth v)).append
      (cutsInto_prettyMembers depth (m :: rest)).comma (ends_comma _)

end

/-- The tokens of a value's text over lines are those of the value, also with the end of the last
line. -/
theorem tokens_pretty (v : Value) :
    Json.tokens v.pretty.toList = v.tokens ∧ Json.tokens (v.pretty ++ "\n").toList = v.tokens := by
  have hcuts := cutsInto_prettyChars 0 v
  have hchars : v.pretty.toList = v.prettyChars 0 := by
    rw [pretty, String.toList_ofList]
  have hline : (v.pretty ++ "\n").toList = v.prettyChars 0 ++ ['\n'] := by
    rw [String.toList_append, hchars]
    rfl
  rw [hchars, hline]
  exact ⟨hcuts.tokens_eq, hcuts.line.tokens_eq⟩

end Value

end TableFilter.Json
