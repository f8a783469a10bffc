import TableFilter.Json.Reader
import TableFilter.Proofs.Entries
import TableFilter.Proofs.Json.Tokens
import TableFilter.Proofs.Outcome

/-!
# Values read back

The text of a value is read as that value if containers do not nest too deep and no object has a
name twice. Main statement: `read_value_text`.
-/

namespace TableFilter.Json

namespace Draft

/-- What becomes of a whole value: it is put into the container around it, or ends the text. -/
def settle (d : Draft) (frames : List Frame) (rest : List Token) : Document :=
  match place? d frames with
  | some frames => ofTokens rest .separator frames
  | none => ⟨d, !rest.isEmpty⟩

theorem ofTokens_of_finish {t : Token} {awaiting : Awaiting} {frames frames' : List Frame}
    {d : Draft} (rest : List Token) (hstep : step t awaiting frames = .finish d frames') :
    ofTokens (t :: rest) awaiting frames = settle d frames' rest := by
  rw [ofTokens, hstep]
  rfl

theorem ofTokens_of_goOn {t : Token} {awaiting next : Awaiting} {frames frames' : List Frame}
    (rest : List Token) (hstep : step t awaiting frames = .goOn next frames') :
    ofTokens (t :: rest) awaiting frames = ofTokens rest next frames' := by
  rw [ofTokens, hstep]

/-- A first item is a value like any other, for no value starts with a closing bracket. -/
theorem ofTokens_firstItem (v : Value) (vs : List Value) (rest : List Token)
    (frames : List Frame) :
    ofTokens (Value.itemsTokens (v :: vs) ++ rest) .firstItem frames =
      ofTokens (Value.itemsTokens (v :: vs) ++ rest) .value frames := by
  cases vs <;> cases v <;> simp [Value.itemsTokens, Value.tokens, ofTokens, step]

/-- A first name is a name like any other. -/
theorem ofTokens_firstName (m : String × Value) (ms : List (String × Value)) (rest : List Token)
    (frames : List Frame) :
    ofTokens (Value.membersTokens (m :: ms) ++ rest) .firstName frames =
      ofTokens (Value.membersTokens (m :: ms) ++ rest) .name frames := by
  cases ms <;> simp [Value.membersTokens, ofTokens, step]

mutual

/-- The tokens of a value make the draft of the value. -/
theorem ofTokens_value : ∀ (v : Value) (rest : List Token) (frames : List Frame),
    ofTokens (v.tokens ++ rest) .value frames = settle (ofValue v) frames rest
  | .null, rest, frames => ofTokens_of_finish rest rfl
  | .bool _, rest, frames => ofTokens_of_finish rest rfl
  | .number _, rest, frames => ofTokens_of_finish rest rfl
  | .string _, rest, frames => ofTokens_of_finish rest rfl
  | .array [], rest, frames => by rfl
  | .object [], rest, frames => by rfl
  | .array (v :: vs), rest, frames => by
    have hopen : (Value.array (v :: vs)).tokens ++ rest =
        .openArray :: (Value.itemsTokens (v :: vs) ++ .closeArray :: rest) := by
      simp [Value.tokens]
    rw [hopen, ofTokens_of_goOn _ rfl, ofTokens_firstItem]
    exact ofTokens_items (v :: vs) nofun rest [] frames
  | .object (m :: ms), rest, frames => by
    have hopen : (Value.object (m :: ms)).tokens ++ rest =
        .openObject :: (Value.membersTokens (m :: ms) ++ .closeObject :: rest) := by
      simp [Value.tokens]
    rw [hopen, ofTokens_of_goOn _ rfl, ofTokens_firstName]
    exact ofTokens_members (m :: ms) nofun rest [] frames

theorem ofTokens_items : ∀ (items : List Value) (_ : items ≠ []) (rest : List Token)
    (done : List Draft) (frames : List Frame),
    ofTokens (Value.itemsTokens items ++ .closeArray :: rest) .value (.array done :: frames) =
      settle (.array (done.reverse ++ ofItems items)) frames rest
  | [], hne, _, _, _ => absurd rfl hne
  | [v], _, rest, done, frames => by
    rw [Value.itemsTokens, ofTokens_value v]
    change settle (.array (ofValue v :: done).reverse) frames rest = _
    simp [ofItems]
  | v :: w :: vs, _, rest, done, frames => by
    rw [Value.itemsTokens, List.append_assoc, ofTokens_value v]
    change ofTokens (Value.itemsTokens (w :: vs) ++ .closeArray :: rest) .value
      (.array (ofValue v :: done) :: frames) = _
    rw [ofTokens_items (w :: vs) nofun]
    simp [ofItems]

theorem ofTokens_members : ∀ (members : List (String × Value)) (_ : members ≠ [])
    (rest : List Token) (done : List (Option String × Draft)) (frames : List Frame),
    ofTokens (Value.membersTokens members ++ .closeObject :: rest) .name (.object done :: frames) =
      settle (.object (done.reverse ++ ofMembers members)) frames rest
  | [], hne, _, _, _ => absurd rfl hne
  | [(name, v)], _, rest, done, frames => by
    rw [Value.membersTokens]
    change ofTokens (v.tokens ++ .closeObject :: rest) .value
      (.member done (some name) :: frames) = _
    rw [ofTokens_value v]
    change settle (.object ((some name, ofValue v) :: done).reverse) frames rest = _
    simp [ofMembers]
  | (name, v) :: m :: ms, _, rest, done, frames => by
    rw [Value.membersTokens, List.append_assoc]
    change ofTokens (v.tokens ++ (.comma :: Value.membersTokens (m :: ms) ++ .closeObject :: rest))
      .value (.member done (some name) :: frames) = _
    rw [ofTokens_value v]
    change ofTokens (Value.membersTokens (m :: ms) ++ .closeObject :: rest) .name
      (.object ((some name, ofValue v) :: done) :: frames) = _
    rw [ofTokens_members (m :: ms) nofun]
    simp [ofMembers]

end

/-- A text with the tokens of a value makes the draft of the value, and nothing is left of it. -/
theorem ofText_of_tokens {text : String} {v : Value} (htokens : tokens text.toList = v.tokens) :
    Document.ofText text = ⟨ofValue v, false⟩ := by
  have hmade := ofTokens_value v [] []
  rw [List.append_nil] at hmade
  rw [Document.ofText, htokens, hmade]
  cases v <;> rfl

end Draft

/-- Reading a text with the tokens of a value is decoding the value, whatever is read; only that
too many items are a fault of the text then. -/
theorem read_of_tokens {α : Type} (r : Reader α) {text : String} {v : Value}
    (htokens : tokens text.toList = v.tokens) :
    read r text = match decode r v with
      | .error (.tooLong _) => .error .malformed
      | result => result := by
  rw [read, decode, Draft.ofText_of_tokens htokens]
  cases r nestingLimit (Draft.ofValue v) with
  | ok a => rfl
  | error e => cases e <;> rfl

theorem read_text {α : Type} (r : Reader α) (v : Value) :
    read r v.text = match decode r v with
      | .error (.tooLong _) => .error .malformed
      | result => result := by
  apply read_of_tokens
  rw [Value.text, String.toList_ofList, Value.tokens_chars]

mutual

/-- Whether a value has different names in each object, and containers that nest at most `depth`
deep. -/
def Value.isReadable (depth : Nat) : Value → Bool
  | .null | .bool _ | .number _ | .string _ => true
  | .array items =>
    match depth with
    | 0 => false
    | depth + 1 => Value.areReadable depth items
  | .object members =>
    match depth with
    | 0 => false
    | depth + 1 => decide (Entries.keys members).Nodup && Value.areReadableMembers depth members

def Value.areReadable (depth : Nat) : List Value → Bool
  | [] => true
  | v :: rest => v.isReadable depth && Value.areReadable depth rest

def Value.areReadableMembers (depth : Nat) : List (String × Value) → Bool
  | [] => true
  | (_, v) :: rest => v.isReadable depth && Value.areReadableMembers depth rest

end

namespace Draft

mutual

/-- A readable value is decoded as itself. -/
theorem toValue_ofValue : ∀ (v : Value) (depth : Nat), v.isReadable depth = true →
    (ofValue v).toValue depth = .ok v
  | .null, depth, _ => by cases depth <;> rfl
  | .bool _, depth, _ => by cases depth <;> rfl
  | .number _, depth, _ => by cases depth <;> rfl
  | .string _, depth, _ => by cases depth <;> rfl
  | .array items, 0, hreadable => nomatch hreadable
  | .object members, 0, hreadable => nomatch hreadable
  | .array items, depth + 1, hreadable => by
    rw [ofValue, toValue, itemValues_ofItems items depth hreadable]
    rfl
  | .object members, depth + 1, hreadable => by
    rw [Value.isReadable, Bool.and_eq_true, decide_eq_true_eq] at hreadable
    have hput : Entries.putAll [] members = [] ++ members :=
      Entries.putAll_of_nodup hreadable.1
    rw [ofValue, toValue, memberValues_ofMembers members depth [] hreadable.2, hput]
    rfl

theorem itemValues_ofItems : ∀ (items : List Value) (depth : Nat),
    Value.areReadable depth items = true → itemValues depth (ofItems items) = .ok items
  | [], depth, _ => rfl
  | v :: rest, depth, hreadable => by
    rw [Value.areReadable, Bool.and_eq_true] at hreadable
    rw [ofItems, itemValues, toValue_ofValue v depth hreadable.1,
      itemValues_ofItems rest depth hreadable.2]
    rfl

theorem memberValues_ofMembers : ∀ (members : List (String × Value)) (depth : Nat)
    (before : List (String × Value)), Value.areReadableMembers depth members = true →
    memberValues depth before (ofMembers members) = .ok (Entries.putAll before members)
  | [], depth, before, _ => rfl
  | (name, v) :: rest, depth, before, hreadable => by
    rw [Value.areReadableMembers, Bool.and_eq_true] at hreadable
    rw [ofMembers, memberValues, toValue_ofValue v depth hreadable.1]
    exact memberValues_ofMembers rest depth (Entries.put name v before) hreadable.2

end

end Draft

/-- Printing a readable value and reading the text gives the value. -/
theorem read_value_text {v : Value} (hreadable : v.isReadable nestingLimit = true) :
    read Reader.value v.text = .ok v := by
  rw [read_text, decode, Reader.value, Draft.toValue_ofValue v nestingLimit hreadable]

/-- Printing a readable object and reading the members of the text gives its members. -/
theorem read_members_text {members : List (String × Value)}
    (hreadable : (Value.object members).isReadable nestingLimit = true) :
    read Reader.members (Value.object members).text = .ok members := by
  have hvalue := Draft.toValue_ofValue (.object members) nestingLimit hreadable
  have hmembers : decode Reader.members (.object members) = .ok members := by
    change Draft.memberValues 126 [] (Draft.ofMembers members) = .ok members
    change (Draft.memberValues 126 [] (Draft.ofMembers members)).map Value.object = _ at hvalue
    obtain ⟨_, hread, heq⟩ := exists_of_map_eq_ok hvalue
    cases heq
    exact hread
  rw [read_text, hmembers]

end TableFilter.Json
