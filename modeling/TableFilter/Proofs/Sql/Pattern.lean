import TableFilter.Filter.Compile
import TableFilter.Proofs.Sql.Meaning
import TableFilter.Proofs.Sql.Regex

/-!
# Patterns in literals

Two layers of escapes meet in the literal of a pattern. The pattern of a `LIKE` is escaped again for
its literal, so a server reads it as it was. The pattern of a regular expression is put between its
quotes as it is, so where a backslash escapes, a server takes the escapes of the pattern for escapes
of the literal and is left with the bare text. Main statement:
`literals_of_patterns_where_backslash_escapes`.
-/

namespace TableFilter.Sql

/-! ## Escapes of a pattern -/

theorem length_le_length_flatMap_regexChar (cs : List Char) :
    cs.length ≤ (cs.flatMap regexChar).length := by
  induction cs with
  | nil => exact Nat.le_refl 0
  | cons c cs ih =>
    have hone : 1 ≤ (regexChar c).length := by
      unfold regexChar
      split <;> simp
    rw [List.flatMap_cons, List.length_append, List.length_cons]
    omega

/-- Escaping changes a text unless there is nothing in it to escape. -/
theorem flatMap_regexChar_eq_self_iff (cs : List Char) :
    cs.flatMap regexChar = cs ↔ ∀ c ∈ cs, c ∉ metacharacters := by
  induction cs with
  | nil => simp
  | cons c cs ih =>
    rw [List.forall_mem_cons, ← ih, List.flatMap_cons]
    by_cases hmeta : c ∈ metacharacters
    · rw [regexChar_of_metacharacter hmeta]
      -- the escaped text is longer by the backslash at least
      have hlength := length_le_length_flatMap_regexChar cs
      refine iff_of_false (fun heq => ?_) (fun h => h.1 hmeta)
      have heqLength := congrArg List.length heq
      simp only [List.length_append, List.length_cons] at heqLength
      omega
    · rw [regexChar_of_not_metacharacter hmeta, List.singleton_append, List.cons.injEq]
      exact ⟨fun h => ⟨hmeta, h.2⟩, fun h => ⟨rfl, h.2⟩⟩

theorem escapeRegex_eq_self_iff (s : String) :
    escapeRegex s = s ↔ ∀ c ∈ s.toList, c ∉ metacharacters := by
  rw [← flatMap_regexChar_eq_self_iff, ← String.toList_inj, escapeRegex, String.toList_ofList]

/-- Where a backslash escapes, what is read of an escaped text is the text without its escapes. -/
theorem ReadsAs.escapeRegex {s : String} (hquote : '\'' ∉ s.toList) :
    ReadsAs '\'' true (escapeRegex s).toList s.toList := by
  rw [Sql.escapeRegex, String.toList_ofList]
  refine .flatMap fun c hc => ?_
  by_cases hmeta : c ∈ metacharacters
  · rw [regexChar_of_metacharacter hmeta]
    intro rest
    rfl
  · rw [regexChar_of_not_metacharacter hmeta]
    refine .plain ?_ (by simp [ne_backslash_of_not_metacharacter hmeta])
    rintro rfl
    exact hquote hc

theorem ReadsAs.anchoredStart {s : String} (hquote : '\'' ∉ s.toList) :
    ReadsAs '\'' true ("^" ++ Sql.escapeRegex s).toList ("^" ++ s).toList := by
  have hcaret : ReadsAs '\'' true ['^'] ['^'] := .plain (by decide) rfl
  simpa using hcaret.append (.escapeRegex hquote)

theorem ReadsAs.anchoredEnd {s : String} (hquote : '\'' ∉ s.toList) :
    ReadsAs '\'' true (Sql.escapeRegex s ++ "$").toList (s ++ "$").toList := by
  have hdollar : ReadsAs '\'' true ['$'] ['$'] := .plain (by decide) rfl
  simpa using (ReadsAs.escapeRegex hquote).append hdollar

/-! ## Literals of patterns -/

section Clause

variable (options : Options) (column : Identifier)

/-- The tokens of a clause with a `LIKE`. -/
theorem tokens_clause?_contains (v : Scalar) :
    (clause? options column (.contains v)).map (tokens options.escapeBackslashes) =
      some [.name column.name, .keyword .like, .text v.likePattern] := by
  obtain ⟨-, hlexes⟩ := says_clause? options column (.contains v) nofun
  exact congrArg some hlexes.tokens_eq

/-- The tokens of a clause with a regular expression, whatever its pattern is read as. -/
theorem tokens_clause?_regex {pattern read : String}
    (hreads : ReadsAs '\'' options.escapeBackslashes pattern.toList read.toList) :
    (clause? options column (.regex pattern)).map (tokens options.escapeBackslashes) =
      some [.name column.name, .keyword .regexp, .text read] :=
  congrArg some (LexesTo.regexp column hreads).tokens_eq

end Clause

/-- Where a backslash escapes, the literal of a text anywhere in a cell is read as the pattern that
is meant. The literal of a text at the start or the end of a cell is read as the text itself and the
anchor, which is the pattern that is meant only if no character of the text has a meaning of its
own there. -/
theorem literals_of_patterns_where_backslash_escapes (column : Identifier) (v : Scalar)
    (hquote : '\'' ∉ v.text.toList) :
    (clause? ⟨true⟩ column (Operator.contains v).toSpec).map (tokens true) =
        some [.name column.name, .keyword .like, .text ("%" ++ escapeLike v.text ++ "%")] ∧
      (∃ pattern, (Operator.startsWith v).toSpec = .regex pattern ∧
        (clause? ⟨true⟩ column (.regex pattern)).map (tokens true) =
          some [.name column.name, .keyword .regexp, .text ("^" ++ v.text)] ∧
        ("^" ++ v.text = pattern ↔ ∀ c ∈ v.text.toList, c ∉ metacharacters)) ∧
      ∃ pattern, (Operator.endsWith v).toSpec = .regex pattern ∧
        (clause? ⟨true⟩ column (.regex pattern)).map (tokens true) =
          some [.name column.name, .keyword .regexp, .text (v.text ++ "$")] ∧
        (v.text ++ "$" = pattern ↔ ∀ c ∈ v.text.toList, c ∉ metacharacters) := by
  refine ⟨tokens_clause?_contains ⟨true⟩ column v, ⟨_, rfl, ?_, ?_⟩, _, rfl, ?_, ?_⟩
  · exact tokens_clause?_regex ⟨true⟩ column (.anchoredStart hquote)
  · rw [← escapeRegex_eq_self_iff, eq_comm, String.append_right_inj]
  · exact tokens_clause?_regex ⟨true⟩ column (.anchoredEnd hquote)
  · rw [← escapeRegex_eq_self_iff, eq_comm, String.append_left_inj]

/-- A backslash in a text anywhere in a cell is kept; those of the escapes at its start or its end
are not. -/
theorem share_path_literals_are_read :
    (clause? ⟨true⟩ ⟨"path", by decide⟩ (Operator.contains (.string "\\srv")).toSpec).map
        (tokens true) = some [.name "path", .keyword .like, .text "%\\\\srv%"] ∧
      (clause? ⟨true⟩ ⟨"path", by decide⟩ (Operator.startsWith (.string "\\srv")).toSpec).map
        (tokens true) = some [.name "path", .keyword .regexp, .text "^\\srv"] ∧
      (clause? ⟨true⟩ ⟨"path", by decide⟩ (Operator.endsWith (.string "\\srv")).toSpec).map
        (tokens true) = some [.name "path", .keyword .regexp, .text "\\srv$"] := by
  obtain ⟨hlike, ⟨prefixed, hprefixed, hstart, -⟩, suffixed, hsuffixed, hend, -⟩ :=
    literals_of_patterns_where_backslash_escapes ⟨"path", by decide⟩ (.string "\\srv") (by decide)
  rw [hprefixed, hsuffixed]
  exact ⟨hlike, hstart, hend⟩

/-- The dot of a version comes without its backslash, so it stands for any character. -/
theorem escape_of_version_is_lost :
    '\'' ∉ (Scalar.string "1.2").text.toList ∧
      (Operator.startsWith (.string "1.2")).toSpec = .regex "^1\\.2" ∧
      (clause? ⟨true⟩ ⟨"version", by decide⟩ (.regex "^1\\.2")).map (tokens true) ≠
        some [.name "version", .keyword .regexp, .text "^1\\.2"] := by
  have hpattern : "^" ++ escapeRegex "1.2" = "^1\\.2" := by decide
  refine ⟨by decide, congrArg Filter.Spec.regex hpattern, ?_⟩
  rw [← hpattern, tokens_clause?_regex ⟨true⟩ _ (.anchoredStart (by decide))]
  decide

end TableFilter.Sql
