import TableFilter.Json.Token
import TableFilter.Json.Value

/-!
# Strings read back

The token of a printed string is that string, however many of its characters are escaped.
-/

namespace TableFilter.Json

/-- The piece as which a printed character is read: control characters without a letter of their
own are printed by their number. -/
def pieceOf (c : Char) : Piece :=
  if c = '\x08' || c = '\x0c' || c = '\n' || c = '\r' || c = '\t' then .char c
  else if c.toNat < 32 then .unit c.toNat
  else .char c

theorem hexUnit?_low (n : Nat) (hn : n < 16) :
    hexUnit? '0' '0' '0' (Nat.digitChar n) = some n := by
  revert n
  decide

theorem hexUnit?_high (n : Nat) (hn : n < 16) :
    hexUnit? '0' '0' '1' (Nat.digitChar n) = some (n + 16) := by
  revert n
  decide

theorem pieces?_plain {c : Char} (hquote : c ≠ '"') (hbackslash : c ≠ '\\') (hspace : 32 ≤ c.toNat)
    (before : List Piece) (rest : List Char) :
    pieces? before (c :: rest) = pieces? (.char c :: before) rest := by
  have hplain : (decide (c.toNat < 32) || decide (c = '\\')) = false := by
    simp [hbackslash, hspace]
  rw [pieces?.eq_def]
  split
  case h_1 heq => cases heq
  case h_2 heq => cases heq; exact absurd rfl hquote
  case h_3 heq => cases heq; exact absurd rfl hbackslash
  case h_4 heq => cases heq; exact absurd rfl hbackslash
  case h_5 heq =>
    cases heq
    rw [hplain]
    rfl

theorem pieces?_unit {a b c d : Char} {n : Nat} (hunit : hexUnit? a b c d = some n)
    (before : List Piece) (rest : List Char) :
    pieces? before ('\\' :: 'u' :: a :: b :: c :: d :: rest) =
      pieces? (.unit n :: before) rest := by
  rw [pieces?, hunit]

/-- One printed character is read as one piece. -/
theorem pieces?_escapedChar (c : Char) (before : List Piece) (rest : List Char) :
    pieces? before (escapedChar c ++ rest) = pieces? (pieceOf c :: before) rest := by
  by_cases hletter : c ∈ ['"', '\\', '\x08', '\x0c', '\n', '\r', '\t']
  · simp only [List.mem_cons, List.not_mem_nil, or_false] at hletter
    rcases hletter with rfl | rfl | rfl | rfl | rfl | rfl | rfl <;> rfl
  · simp only [List.mem_cons, List.not_mem_nil, or_false, not_or] at hletter
    obtain ⟨hquote, hbackslash, hb, hf, hn, hr, ht⟩ := hletter
    have hpiece : pieceOf c = if c.toNat < 32 then .unit c.toNat else .char c := by
      simp [pieceOf, hb, hf, hn, hr, ht]
    rw [hpiece, escapedChar, if_neg hquote, if_neg hbackslash, if_neg hb, if_neg hf, if_neg hn,
      if_neg hr, if_neg ht]
    split
    case isTrue hlow =>
      rw [if_pos (by omega)]
      exact pieces?_unit (hexUnit?_low c.toNat hlow) before rest
    case isFalse hlow =>
      split
      case isTrue hhigh =>
        have hunit := hexUnit?_high (c.toNat - 16) (by omega)
        rw [Nat.sub_add_cancel (by omega)] at hunit
        exact pieces?_unit hunit before rest
      case isFalse hhigh =>
        exact pieces?_plain hquote hbackslash (by omega) before rest

theorem pieces?_escaped (cs : List Char) (before : List Piece) (rest : List Char) :
    pieces? before (cs.flatMap escapedChar ++ '"' :: rest) =
      some (before.reverse ++ cs.map pieceOf, rest) := by
  induction cs generalizing before with
  | nil => simp [pieces?]
  | cons c cs ih =>
    rw [List.flatMap_cons, List.append_assoc, pieces?_escapedChar, ih]
    simp

theorem paired?_unit {n : Nat} (hhigh : isHighHalf n = false) (hlow : isLowHalf n = false)
    (pieces : List Piece) :
    paired? (.unit n :: pieces) = (paired? pieces).map (Char.ofNat n :: ·) := by
  rcases pieces with _ | ⟨piece, pieces⟩
  · simp [paired?, hhigh, hlow]
  · cases piece <;> simp [paired?, hhigh, hlow]

theorem paired?_pieceOf (c : Char) (pieces : List Piece) :
    paired? (pieceOf c :: pieces) = (paired? pieces).map (c :: ·) := by
  unfold pieceOf
  split
  case isTrue => rfl
  case isFalse =>
    split
    case isTrue hcontrol =>
      have hhigh : isHighHalf c.toNat = false := by
        simp [isHighHalf]
        omega
      have hlow : isLowHalf c.toNat = false := by
        simp [isLowHalf]
        omega
      rw [paired?_unit hhigh hlow, Char.ofNat_toNat]
    case isFalse => rfl

theorem paired?_map_pieceOf (cs : List Char) : paired? (cs.map pieceOf) = some cs := by
  induction cs with
  | nil => rfl
  | cons c cs ih => rw [List.map_cons, paired?_pieceOf, ih, Option.map_some]

/-- A printed string is read as itself. -/
theorem nextToken_stringChars (s : String) (rest : List Char) :
    nextToken (stringChars s ++ rest) = (.string (some s), rest) := by
  have hpieces : pieces? [] (s.toList.flatMap escapedChar ++ '"' :: rest) =
      some (s.toList.map pieceOf, rest) := by
    rw [pieces?_escaped, List.reverse_nil, List.nil_append]
  have happend : stringChars s ++ rest = '"' :: (s.toList.flatMap escapedChar ++ '"' :: rest) := by
    simp [stringChars]
  rw [happend, nextToken, stringToken, hpieces]
  simp only [paired?_map_pieceOf, Option.map_some, String.ofList_toList]

end TableFilter.Json
