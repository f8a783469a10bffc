import TableFilter.Preview
import TableFilter.Proofs.Sql.Grammar
import TableFilter.Proofs.Sql.Like
import TableFilter.Proofs.Sql.Truth

/-!
# What a server makes of a condition

A server reads a condition and looks at each row: texts are compared in any case, and nothing is
known of a comparison with null. Comparisons of other values, order and regular expressions differ
from server to server and are left open.
-/

namespace TableFilter.Sql

/-- What one server may do otherwise than another. -/
structure Server where
  equates : Scalar → Scalar → Bool
  precedes : Scalar → Scalar → Bool
  matchesRegex : String → String → Bool

/-- The value of a cell in a condition. A cell that is missing is null, and one that is an array or
object counts as its text. -/
def cellScalar (row : Row) (column : String) : Scalar :=
  match Entries.get? column row with
  | none => .null
  | some cell => (Scalar.ofValue? cell).getD (.string cell.text)

def Term.scalar (row : Row) : Term → Scalar
  | .column name => cellScalar row name
  | .value v => v

namespace Server

variable (server : Server) (row : Row)

/-- Whether two values other than null are equal: texts in any case, integers as such. -/
def areEqual : Scalar → Scalar → Bool
  | .string s, .string t => Text.lowerChars s.toList == Text.lowerChars t.toList
  | .number (.integer m _), .number (.integer n _) => m == n
  | a, b => server.equates a b

def comparesAs (c : Comparison) (a b : Scalar) : Bool :=
  match c with
  | .equal => server.areEqual a b
  | .notEqual => !server.areEqual a b
  | .less => server.precedes a b
  | .lessOrEqual => !server.precedes b a
  | .greater => server.precedes b a
  | .greaterOrEqual => !server.precedes a b

def compare (c : Comparison) (a b : Scalar) : Truth :=
  if a.isNull || b.isNull then .unknown else .ofBool (server.comparesAs c a b)

/-- What is known of a value being equal to one of several. -/
def amongTruth (a : Scalar) : List Scalar → Truth
  | [] => .no
  | b :: rest => (server.compare .equal a b).or (amongTruth a rest)

theorem amongTruth_eq_anyOf (a : Scalar) (items : List Scalar) :
    server.amongTruth a items = Truth.anyOf (server.compare .equal a) items := by
  induction items with
  | nil => rfl
  | cons b rest ih => rw [amongTruth, Truth.anyOf, ih]

/-- What is known of a test of the text of a value. -/
def textTruth (test : String → Bool) (a : Scalar) : Truth :=
  if a.isNull then .unknown else .ofBool (test a.text)

def testTruth : Test → Truth
  | .compare a c b => server.compare c (a.scalar row) (b.scalar row)
  | .isNull negated a => (Truth.ofBool (a.scalar row).isNull).negatedIf negated
  | .among negated a first others =>
    (server.amongTruth (a.scalar row) ((first :: others).map (·.scalar row))).negatedIf negated
  | .like negated a pattern => (textTruth (Like.holds pattern) (a.scalar row)).negatedIf negated
  | .regexp negated a pattern =>
    (textTruth (server.matchesRegex pattern) (a.scalar row)).negatedIf negated
  | .between negated a low high =>
    ((server.compare .lessOrEqual (low.scalar row) (a.scalar row)).and
      (server.compare .lessOrEqual (a.scalar row) (high.scalar row))).negatedIf negated

mutual

def truth : Condition → Truth
  | .test t => server.testTruth row t
  | .group alternatives => alternativesTruth alternatives

def conjunctionTruth : List Condition → Truth
  | [] => .yes
  | c :: rest => (truth c).and (conjunctionTruth rest)

def alternativesTruth : List (List Condition) → Truth
  | [] => .no
  | cs :: rest => (conjunctionTruth cs).or (alternativesTruth rest)

end

/-- Whether a server takes a row that a condition, or none, is put to. -/
def accepts (options : Options) (condition : Option String) : Bool :=
  match read? options condition with
  | some alternatives => server.alternativesTruth row alternatives == .yes
  | none => false

theorem conjunctionTruth_append (cs ds : List Condition) :
    server.conjunctionTruth row (cs ++ ds) =
      (server.conjunctionTruth row cs).and (server.conjunctionTruth row ds) := by
  induction cs with
  | nil => rw [List.nil_append, conjunctionTruth, Truth.yes_and]
  | cons c cs ih =>
    rw [List.cons_append, conjunctionTruth, conjunctionTruth, ih, Truth.and_assoc]

/-- A conjunction of conjunctions holds if each of them does. -/
theorem conjunctionTruth_flatMap_eq_yes_iff {α : Type} (f : α → List Condition) (as : List α) :
    server.conjunctionTruth row (as.flatMap f) = .yes ↔
      ∀ a ∈ as, server.conjunctionTruth row (f a) = .yes := by
  induction as with
  | nil => simp [conjunctionTruth]
  | cons a as ih => simp [conjunctionTruth_append, ih]

theorem conjunctionTruth_test (t : Test) :
    server.conjunctionTruth row [.test t] = server.testTruth row t := by
  rw [conjunctionTruth, conjunctionTruth, Truth.and_yes, truth]

/-- Where one conjunction is read, a server takes the rows for which it holds. -/
theorem accepts_iff_of_read? {options : Options} {condition : Option String} {cs : List Condition}
    (hread : read? options condition = some [cs]) :
    server.accepts row options condition = true ↔ server.conjunctionTruth row cs = .yes := by
  simp [accepts, hread, alternativesTruth]

end Server

end TableFilter.Sql
